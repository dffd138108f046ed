import SurveilOne.App.Run

/-!
# Login pages and sessions on one stack

A successful sign-in replaces the topmost route, whichever it is.  While nobody
is signed in the login page may lie below it, and then both end up on the stack.
As long as that does not happen a stack is in one of two modes: nothing on it
leads to a session, or it holds no login page.
-/

namespace SurveilOne

open Dart Flutter

/-- No session page, and nothing that leads to one without an answer. -/
structure Page.SignedOut (p : Page) : Prop where
  session : p.session? = none
  footer : ∀ account, p.footer? = some account → account.partyId ≤ 0
  login : ∀ f, p.login? = some f → f.latestPartyId ≤ 0

def Page.SignedIn (p : Page) : Prop := p.login? = none

theorem Page.signedOut_loginPage {f : LoginFields} (h : f.latestPartyId ≤ 0) :
    (Page.loginPage f).SignedOut where
  session := rfl
  footer _ ha := nomatch ha
  login _ hf := Option.some.inj hf ▸ h

theorem Page.signedOut_signUpPage (f : SignUpFields) : (Page.signUpPage f).SignedOut where
  session := rfl
  footer _ ha := nomatch ha
  login _ hf := nomatch hf

theorem Page.Opens.signedOut {K : Casing} {p q : Page} {t : Tap} {c : NavCall}
    (h : p.Opens K t c q) (hp : p.SignedOut) : q.SignedOut := by
  refine ⟨?_, fun account ha => ?_, fun f hf => absurd hp.session (h.login f hf).1⟩
  · by_contra hne
    obtain ⟨account, ha⟩ := Option.ne_none_iff_exists'.mp hne
    rcases h.session account ha with hsession | ⟨hfooter, hparty, -⟩
    · rw [hp.session] at hsession
      cases hsession
    · have hle := hp.footer account hfooter
      omega
  · rcases h.footer account ha with hsession | ⟨f, link, hf, -, rfl⟩
    · rw [hp.session] at hsession
      cases hsession
    · exact hp.login f hf

namespace App

/-- No login page and session page are both on the stack. -/
def Separated (s : App) : Prop :=
  ¬ ((∃ r ∈ s.nav.routes, r.page.login? ≠ none) ∧ ∃ r ∈ s.nav.routes, r.page.session? ≠ none)

/-- When the answer to a sign-in grants an account while its login page is still
mounted, no login page lies below the topmost route. -/
def GrantedOnTop (s : App) (a : Action) (_ : App) : Prop :=
  ∀ i o flight, a = .signInAnswer i o → s.signIns[i]? = some flight →
    s.loginAt flight.page ≠ none → flight.req.grant (.ok (GraphQLService.signin o)) ≠ none →
    ∀ r ∈ s.nav.routes.tail, r.page.login? = none

structure SeparatedInv (s : App) : Prop where
  keyed : s.nav.WellKeyed
  mode : s.nav.All Page.SignedOut ∨ s.nav.All Page.SignedIn

theorem SeparatedInv.separated {s : App} (h : s.SeparatedInv) : s.Separated := by
  rintro ⟨⟨r, hr, hlogin⟩, r', hr', hsession⟩
  rcases h.mode with hout | hin
  · exact hsession (hout r' hr').session
  · exact hlogin (hin r hr)

theorem initial_separatedInv : initial.SeparatedInv where
  keyed := Navigator.home_wellKeyed _
  mode := Or.inl (.home (Page.signedOut_loginPage (Int.le_refl 0)))

section Steps

variable {K : Casing} {s t : App}

theorem SeparatedInv.tap (hs : s.SeparatedInv) {r : Route Page} {tap : Tap} {c : NavCall}
    (hr : r ∈ s.nav.routes) (hc : r.page.onTap K tap = some c) :
    (c.run s.nav).All Page.SignedOut ∨ (c.run s.nav).All Page.SignedIn := by
  rcases hs.mode with hout | hin
  · exact Or.inl (NavCall.run_all hout fun q hq => (Page.onTap_opens hc hq).signedOut (hout r hr))
  · by_cases hlogin : ∃ q f, c.opened = some q ∧ q.login? = some f
    · -- Signing out is the only way to a login page, and it leaves nothing else.
      obtain ⟨q, f, hq, hf⟩ := hlogin
      obtain ⟨-, rfl⟩ := (Page.onTap_opens hc hq).login f hf
      exact Or.inl (.pushAndRemoveUntil (Page.signedOut_loginPage (Int.le_refl 0)))
    · refine Or.inr (NavCall.run_all hin fun q hq => ?_)
      by_contra hne
      obtain ⟨f, hf⟩ := Option.ne_none_iff_exists'.mp hne
      exact hlogin ⟨q, f, hq, hf⟩

/-- The fields of a login page may change as long as the party id does not. -/
theorem SeparatedInv.login (hs : s.SeparatedInv) {r : Route Page} {f f' : LoginFields}
    (hr : r ∈ s.nav.mountedRoutes) (hf : r.page.login? = some f)
    (hparty : f'.latestPartyId = f.latestPartyId) :
    (s.nav.update r.key fun _ => .loginPage f').All Page.SignedOut ∨
      (s.nav.update r.key fun _ => .loginPage f').All Page.SignedIn := by
  have hfound : ∀ r' ∈ s.nav.routes, r'.key = r.key → r'.page.login? = some f := fun r' hr' hk => by
    rw [← loginAt_eq hs.keyed (List.mem_append_left _ hr'), hk, loginAt_eq hs.keyed hr, hf]
  rcases hs.mode with hout | hin
  · refine Or.inl (hout.update fun r' hr' hk hp => Page.signedOut_loginPage ?_)
    rw [hparty]
    exact hp.login f (hfound r' hr' hk)
  · refine Or.inr (hin.update fun r' hr' hk hp => absurd hp ?_)
    rw [Page.SignedIn, hfound r' hr' hk]
    exact Option.some_ne_none f

theorem SeparatedInv.signUp (hs : s.SeparatedInv) (k : Nat) (f : SignUpFields) :
    (s.nav.update k fun _ => .signUpPage f).All Page.SignedOut ∨
      (s.nav.update k fun _ => .signUpPage f).All Page.SignedIn :=
  hs.mode.imp (fun h => h.update fun _ _ _ _ => Page.signedOut_signUpPage f)
    fun h => h.update fun _ _ _ _ => rfl

/-- The alerts page of a granted sign-in stands over a stack without login
pages. -/
theorem granted_signedIn (hkeyed : s.nav.WellKeyed) {r : Route Page} {f f' : LoginFields}
    {account : Account} (hr : r ∈ s.nav.mountedRoutes) (hf : r.page.login? = some f)
    (htail : ∀ r' ∈ s.nav.routes.tail, r'.page.login? = none) :
    ((s.nav.update r.key fun _ => .loginPage f').pushReplacement (.alertsPage account)).All
      Page.SignedIn := by
  by_cases hroutes : (s.nav.update r.key fun _ => .loginPage f').routes = []
  · rw [Navigator.pushReplacement_nil _ hroutes]
    intro q hq
    rw [hroutes] at hq
    cases hq
  · refine (Navigator.pushReplacement_all_iff hroutes).mpr ⟨rfl, fun q hq => ?_⟩
    rw [Navigator.update_routes, ← List.map_tail] at hq
    obtain ⟨r', hr', rfl⟩ := List.mem_map.mp hq
    have hmem : r' ∈ s.nav.mountedRoutes := List.mem_append_left _ (List.mem_of_mem_tail hr')
    have hne : r'.key ≠ r.key := fun hk => by
      have hlogin := htail r' hr'
      rw [← loginAt_eq hkeyed hmem, hk, loginAt_eq hkeyed hr, hf] at hlogin
      cases hlogin
    rw [Route.update, if_neg hne]
    exact htail r' hr'

theorem SeparatedInv.step {a : Action} (hs : s.SeparatedInv) (hc : GrantedOnTop s a t)
    (h : step K s a = some t) : t.SeparatedInv := by
  refine ⟨step_wellKeyed hs.keyed h, ?_⟩
  have hnav := step_navStep h
  generalize t.nav = n at hnav ⊢
  cases hnav with
  | same => exact hs.mode
  | tapped ha hr htap => exact hs.tap (top?_mem hr) htap
  | loginForm hr hf hsame => exact hs.login hr hf hsame.partyId
  | @granted i o flight r f f' account ha hflight hr hkey hf hgrant =>
    have hmounted : s.loginAt flight.page ≠ none := by
      rw [hkey, loginAt_eq hs.keyed hr, hf]
      exact Option.some_ne_none f
    have htail := hc i o flight ha hflight hmounted (hgrant ▸ Option.some_ne_none account)
    exact Or.inr (granted_signedIn hs.keyed hr hf htail)
  | signUpForm k f => exact hs.signUp k f
  | signedUp k f => exact (hs.signUp k f).imp .pop .pop
  | back => exact hs.mode.imp .pop .pop
  | transitionEnd k => exact hs.mode

/-- A login page below the topmost route is still there, under the alerts page. -/
theorem Separated.grantedOnTop {a : Action} (h : step K s a = some t) (ht : t.Separated) :
    GrantedOnTop s a t := by
  rintro i o flight rfl hflight hmounted hgrant r hr
  obtain ⟨flight', hflight', rfl⟩ := step_signInAnswer h
  obtain rfl := Option.some.inj (hflight'.symm.trans hflight)
  obtain ⟨f, hf⟩ := Option.ne_none_iff_exists'.mp hmounted
  obtain ⟨account, haccount⟩ := Option.ne_none_iff_exists'.mp hgrant
  have hnav := signInDone_granted hf haccount
  generalize s.signedInFields f account = f' at hnav
  by_contra hlogin
  have hroutes : (s.nav.update flight'.page fun _ => .loginPage f').routes ≠ [] := fun hnil => by
    rw [List.map_eq_nil_iff.mp hnil] at hr
    cases hr
  have hstack : (s.signInDone flight'.page flight'.req (GraphQLService.signin o)).routes = _ :=
    (congrArg Navigator.routes hnav).trans (Navigator.pushReplacement_routes _ hroutes)
  have halerts : ∃ r' ∈ (s.signInDone flight'.page flight'.req (GraphQLService.signin o)).routes,
      r'.page.session? ≠ none := by
    rw [hstack]
    exact ⟨_, List.mem_cons_self, Option.some_ne_none account⟩
  refine ht ⟨⟨r.update flight'.page fun _ => .loginPage f', ?_, ?_⟩, halerts⟩
  · show _ ∈ (s.signInDone _ _ _).routes
    rw [hstack, Navigator.update_routes, ← List.map_tail]
    exact List.mem_cons_of_mem _ (List.mem_map_of_mem hr)
  · rw [Route.update]
    split
    · exact Option.some_ne_none f'
    · exact hlogin

end Steps

/-- In a run login pages and session pages are never on the stack together
exactly when no granted sign-in is handled over a login page. -/
theorem separated_throughout (K : Casing) (as : List Action) :
    Runs.Throughout (step K) Separated initial as ↔
      Runs.AtEachStep (step K) GrantedOnTop initial as :=
  Runs.throughout_iff (fun _ _ _ hs hc h => hs.step hc h) (fun _ hs => hs.separated)
    (fun _ _ _ _ h ht => ht.grantedOnTop h) initial_separatedInv as

/-- The privacy link is tapped while the sign-in is under way: the alerts page
takes the place of the privacy screen and the login page stays below it. -/
theorem signIn_under_privacy :
    ¬ ∀ (K : Casing) (as : List Action), Runs.Throughout (step K) Separated initial as := by
  intro h
  have hsep := Runs.throughout_iff_exec.mp (h .ascii
    [.login .signIn, .tap (.footer .privacy),
      .signInAnswer 0 (.response 200 [] (some (.map [("data".toList,
        .map [("signin".toList, .map [("party_id".toList, .int 7)])])])))])
    _ [] _ (List.append_nil _).symm rfl
  refine hsep ⟨⟨_, List.mem_cons_of_mem _ List.mem_cons_self, ?_⟩, _, List.mem_cons_self, ?_⟩
  · exact fun hnone => nomatch hnone
  · exact fun hnone => nomatch hnone

end App

end SurveilOne
