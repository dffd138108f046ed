import SurveilOne.App.Loading
import SurveilOne.App.Separated

/-!
# One session at a time

As long as no granted sign-in is handled over a login page, the pages on the stack
belong to one account at a time, and an answered sign-in granted it.  Either nobody is
signed in, or every page that carries an account carries that one.

The login page is at the bottom, and no login page with a request out is among the
removed ones unless the stack is empty.  So a sign-in is granted on a stack that holds
its login page alone.
-/

namespace SurveilOne

open Dart Flutter

/-- A page that a session with the account may show. -/
structure Page.Of (account : Account) (p : Page) : Prop where
  login : p.login? = none
  session : ∀ a, p.session? = some a → a = account
  footer : ∀ a, p.footer? = some a → a = account

theorem Page.of_signUpPage (account : Account) (f : SignUpFields) :
    (Page.signUpPage f).Of account where
  login := rfl
  session _ ha := nomatch ha
  footer _ ha := nomatch ha

theorem Page.of_alertsPage (account : Account) : (Page.alertsPage account).Of account where
  login := rfl
  session _ ha := (Option.some.inj ha).symm
  footer _ ha := nomatch ha

theorem Page.Opens.of {K : Casing} {p q : Page} {t : Tap} {c : NavCall} {account : Account}
    (h : p.Opens K t c q) (hp : p.Of account) (hq : q.login? = none) : q.Of account := by
  refine ⟨hq, fun a ha => ?_, fun a ha => ?_⟩
  · rcases h.session a ha with hsession | ⟨hfooter, -⟩
    · exact hp.session a hsession
    · exact hp.footer a hfooter
  · rcases h.footer a ha with hsession | ⟨f, link, hf, -⟩
    · exact hp.session a hsession
    · rw [hp.login] at hf
      cases hf

theorem Page.onTap_login {K : Casing} {p : Page} {f : LoginFields} {t : Tap} {c : NavCall}
    (hf : p.login? = some f) (h : p.onTap K t = some c) : ∃ q, c = .push q := by
  cases p <;> cases hf
  cases t with
  | signUpLink => cases h; exact ⟨_, rfl⟩
  | footer link => cases h; exact ⟨_, rfl⟩
  | _ => cases h

theorem footerNavBar_ne {account : Account} {showNavBar : Bool} {icon : NavIcon} {q : Page} :
    footerNavBar account showNavBar icon ≠ some (.pushAndRemoveUntil q) := by
  unfold footerNavBar
  split
  · cases icon <;> exact nofun
  · exact nofun

/-- Only signing out clears the stack. -/
theorem Page.onTap_pushAndRemoveUntil {K : Casing} {p q : Page} {t : Tap}
    (h : p.onTap K t = some (.pushAndRemoveUntil q)) :
    t = .signOut ∧ p.session? ≠ none ∧ q = .loginPage LoginPage.initial := by
  cases t with
  | nav icon =>
    cases p with
    | privacyScreen account showNavBar => exact absurd h footerNavBar_ne
    | legalScreen account showNavBar => exact absurd h footerNavBar_ne
    | acknowledgementsScreen account showNavBar => exact absurd h footerNavBar_ne
    | _ => cases icon <;> cases h
  | signOut =>
    cases p with
    | accountPage account =>
      cases h
      exact ⟨rfl, Option.some_ne_none account, rfl⟩
    | _ => cases h
  | productTile code =>
    cases p with
    | menuPage account =>
      obtain ⟨entry, -, hcall⟩ := Option.map_eq_some_iff.mp h
      cases hcall
    | _ => cases h
  | footer link => cases p <;> cases link <;> cases h
  | _ => cases p <;> cases h

namespace App

/-- Nobody is signed in, or every page on the stack is of one account, which was
granted. -/
def OneSessionOn (answers : List (SignInRequest × Fields)) (n : Navigator Page) : Prop :=
  n.All Page.SignedOut ∨ ∃ account, Granted answers account ∧ n.All (Page.Of account)

def OneSession (s : App) : Prop := OneSessionOn s.answers s.nav

structure SessionInv (s : App) : Prop where
  loading : s.LoadingInv
  session : s.OneSession
  above : s.nav.AboveBottom (·.login? = none)
  left : s.nav.routes ≠ [] → ∀ r ∈ s.nav.leaving, r.page.login? ≠ none → s.waiting r.key = 0

theorem OneSessionOn.pop {answers : List (SignInRequest × Fields)} {n : Navigator Page}
    (h : OneSessionOn answers n) : OneSessionOn answers n.pop :=
  h.imp .pop fun ⟨account, hg, hof⟩ => ⟨account, hg, hof.pop⟩

theorem OneSession.separated {s : App} (h : s.OneSession) : s.Separated := by
  rintro ⟨⟨r, hr, hlogin⟩, r', hr', hsession⟩
  rcases h with hout | ⟨account, -, hof⟩
  · exact hsession (hout r' hr').session
  · exact hlogin (hof r hr).login

section Steps

variable {K : Casing} {s t : App}

/-! ## Where an account is granted -/

/-- The stack under the page of a granted sign-in holds that page alone. -/
theorem SessionInv.granted_routes (hs : s.SessionInv) {i : Nat} {o : HttpOutcome}
    (hc : GrantedOnTop s (.signInAnswer i o) t) {flight : Flight SignInRequest}
    (hflight : s.signIns[i]? = some flight) {r : Route Page} {f : LoginFields}
    {account : Account} (hr : r ∈ s.nav.mountedRoutes) (hkey : flight.page = r.key)
    (hf : r.page.login? = some f)
    (hgrant : flight.req.grant (.ok (GraphQLService.signin o)) = some account)
    (hroutes : s.nav.routes ≠ []) : s.nav.routes = [r] := by
  have hat : s.loginAt flight.page ≠ none := by
    rw [hkey, loginAt_eq hs.loading.keyed hr, hf]
    exact Option.some_ne_none f
  have htail := hc i o flight rfl hflight hat (hgrant ▸ Option.some_ne_none account)
  have hwaiting : 0 < s.waiting r.key :=
    List.countP_pos_iff.mpr ⟨flight, List.mem_of_getElem? hflight, by simpa using hkey⟩
  have hon : r ∈ s.nav.routes := by
    rcases List.mem_append.mp hr with hon | hleft
    · exact hon
    · have hzero := hs.left hroutes r hleft (hf ▸ Option.some_ne_none f)
      omega
  obtain ⟨top, rest, hstack⟩ := List.exists_cons_of_ne_nil hroutes
  have htop : top = r := by
    rw [hstack] at hon htail
    rcases List.mem_cons.mp hon with rfl | hbelow
    · rfl
    · have hnone := htail r hbelow
      rw [hf] at hnone
      cases hnone
  subst htop
  rcases hs.above.head? (congrArg List.head? hstack) with hnone | hone
  · rw [hf] at hnone
    cases hnone
  · exact hone

/-! ## What each step keeps -/

theorem SessionInv.tapped (hs : s.SessionInv) {r : Route Page} {tap : Tap} {c : NavCall}
    (hr : s.top? = some r) (hc : r.page.onTap K tap = some c) :
    OneSessionOn s.answers (c.run s.nav) := by
  rcases hs.session with hout | ⟨account, hgranted, hof⟩
  · exact Or.inl (NavCall.run_all hout fun q hq =>
      (Page.onTap_opens hc hq).signedOut (hout r (top?_mem hr)))
  · by_cases hlogin : ∃ q f, c.opened = some q ∧ q.login? = some f
    · -- Signing out leaves the login page alone.
      obtain ⟨q, f, hq, hf⟩ := hlogin
      obtain ⟨-, rfl⟩ := (Page.onTap_opens hc hq).login f hf
      exact Or.inl (.pushAndRemoveUntil (Page.signedOut_loginPage (Int.le_refl 0)))
    · refine Or.inr ⟨account, hgranted, NavCall.run_all hof fun q hq => ?_⟩
      refine (Page.onTap_opens hc hq).of (hof r (top?_mem hr)) ?_
      by_contra hne
      obtain ⟨f, hf⟩ := Option.ne_none_iff_exists'.mp hne
      exact hlogin ⟨q, f, hq, hf⟩

/-- A login page is rewritten and remembers the party id it remembered. -/
theorem SessionInv.rewritten (hs : s.SessionInv) {r : Route Page} {f f' : LoginFields}
    (hr : r ∈ s.nav.mountedRoutes) (hf : r.page.login? = some f)
    (hparty : f'.latestPartyId = f.latestPartyId) :
    OneSessionOn s.answers (s.nav.update r.key fun _ => .loginPage f') := by
  have hfound : ∀ r' ∈ s.nav.routes, r'.key = r.key → r'.page.login? = some f := fun r' hr' hk => by
    rw [← loginAt_eq hs.loading.keyed (List.mem_append_left _ hr'), hk,
      loginAt_eq hs.loading.keyed hr, hf]
  rcases hs.session with hout | ⟨account, hgranted, hof⟩
  · refine Or.inl (hout.update fun r' hr' hk hp => Page.signedOut_loginPage ?_)
    rw [hparty]
    exact hp.login f (hfound r' hr' hk)
  · refine Or.inr ⟨account, hgranted, hof.update fun r' hr' hk hp => ?_⟩
    have hnone := hp.login
    rw [hfound r' hr' hk] at hnone
    cases hnone

theorem SessionInv.signUp (hs : s.SessionInv) (k : Nat) (f : SignUpFields) :
    OneSessionOn s.answers (s.nav.update k fun _ => .signUpPage f) :=
  hs.session.imp (fun h => h.update fun _ _ _ _ => Page.signedOut_signUpPage f)
    fun ⟨account, hgranted, h⟩ => ⟨account, hgranted,
      h.update fun _ _ _ _ => Page.of_signUpPage account f⟩

theorem SessionInv.oneSession_step {a : Action} (hs : s.SessionInv) (hc : GrantedOnTop s a t)
    (h : step K s a = some t) : t.OneSession := by
  have hmono : ∀ n, OneSessionOn s.answers n → OneSessionOn t.answers n :=
    fun n hn => hn.imp_right fun ⟨account, hg, hof⟩ => ⟨account, step_granted h hg, hof⟩
  have hnav := step_navStep h
  rw [OneSession]
  generalize t.nav = n at hnav ⊢
  cases hnav with
  | same => exact hmono _ hs.session
  | tapped ha hr htap => exact hmono _ (hs.tapped hr htap)
  | loginForm hr hf hsame => exact hmono _ (hs.rewritten hr hf hsame.partyId)
  | @granted i o flight r f f' account ha hflight hr hkey hf hgrant =>
    subst ha
    by_cases hroutes : s.nav.routes = []
    · left
      rw [Navigator.pushReplacement_nil _ (by rw [Navigator.update_routes, hroutes]; rfl)]
      intro q hq
      rw [Navigator.update_routes, hroutes] at hq
      cases hq
    · have hone := hs.granted_routes hc hflight hr hkey hf hgrant hroutes
      refine Or.inr ⟨account, step_grants h hflight hgrant, ?_⟩
      have hne : (s.nav.update r.key fun _ => .loginPage f').routes ≠ [] := by
        rw [Navigator.update_routes, hone]
        exact List.cons_ne_nil _ _
      refine (Navigator.pushReplacement_all_iff hne).mpr ⟨Page.of_alertsPage account, ?_⟩
      rw [Navigator.update_routes, hone]
      exact fun _ hq => nomatch hq
  | signUpForm k f => exact hmono _ (hs.signUp k f)
  | signedUp k f => exact hmono _ (hs.signUp k f).pop
  | back => exact hmono _ hs.session.pop
  | transitionEnd k => exact hmono _ hs.session

theorem aboveBottom_run {n : Navigator Page} (hn : n.AboveBottom (·.login? = none)) {r : Route Page}
    {tap : Tap} {c : NavCall} (hc : r.page.onTap K tap = some c) :
    (c.run n).AboveBottom (·.login? = none) := by
  have hnew : ∀ q, c.opened = some q → (∀ q', c ≠ .pushAndRemoveUntil q') → q.login? = none := by
    intro q hq hne
    by_contra hlogin
    obtain ⟨f, hf⟩ := Option.ne_none_iff_exists'.mp hlogin
    exact hne _ ((Page.onTap_opens hc hq).login f hf).2
  cases c with
  | push q => exact hn.push (hnew q rfl nofun)
  | pushReplacement q => exact hn.pushReplacement (hnew q rfl nofun)
  | pushAndRemoveUntil q => exact .pushAndRemoveUntil n q
  | pop => exact hn.pop

theorem SessionInv.above_update (hs : s.SessionInv) {r : Route Page} {f : LoginFields}
    (hr : r ∈ s.nav.mountedRoutes) (hf : r.page.login? = some f) (f' : LoginFields) :
    (s.nav.update r.key fun _ => .loginPage f').AboveBottom (·.login? = none) := by
  refine hs.above.update fun r' hr' hk => ?_
  have hnone : r'.page.login? = none := hs.above r' hr'
  rw [← loginAt_eq hs.loading.keyed (List.mem_append_left _ (List.mem_of_mem_dropLast hr')), hk,
    loginAt_eq hs.loading.keyed hr, hf] at hnone
  cases hnone

theorem SessionInv.above_step {a : Action} (hs : s.SessionInv) (h : step K s a = some t) :
    t.nav.AboveBottom (·.login? = none) := by
  have hsignUp : ∀ k f, (s.nav.update k fun _ => .signUpPage f).AboveBottom (·.login? = none) :=
    fun k f => hs.above.update fun _ _ _ => rfl
  have hnav := step_navStep h
  generalize t.nav = n at hnav ⊢
  cases hnav with
  | same => exact hs.above
  | tapped ha hr htap => exact aboveBottom_run hs.above htap
  | loginForm hr hf hsame => exact hs.above_update hr hf _
  | granted ha hflight hr hkey hf hgrant =>
    exact (hs.above_update hr hf _).pushReplacement rfl
  | signUpForm k f => exact hsignUp k f
  | signedUp k f => exact (hsignUp k f).pop
  | back => exact hs.above.pop
  | transitionEnd k => exact hs.above

/-! ## Removed login pages -/

/-- A login page that was removed before the step has no request out after it. -/
theorem SessionInv.waiting_left {a : Action} (hs : s.SessionInv) (h : step K s a = some t)
    (hroutes : s.nav.routes ≠ []) {r : Route Page} (hr : r ∈ s.nav.leaving)
    (hf : r.page.login? ≠ none) : t.waiting r.key = 0 := by
  have hzero := hs.left hroutes r hr hf
  have hle := waiting_step hs.loading.keyed h (k := r.key) fun r' hr' =>
    hs.loading.keyed.ne_of_leaving (top?_mem hr') hr
  omega

theorem SessionInv.left_tapped (hs : s.SessionInv) {r r' : Route Page} {tap : Tap} {c : NavCall}
    (hr : s.top? = some r) (hc : r.page.onTap K tap = some c)
    (hr' : r' ∈ (c.run s.nav).leaving) (hlogin : r'.page.login? ≠ none) : r' ∈ s.nav.leaving := by
  have hpop : (∀ q, c ≠ .push q) → r' ∈ s.nav.pop.leaving → r' ∈ s.nav.leaving := by
    intro hne hmem
    rcases Navigator.mem_pop_leaving hmem with hleft | htop
    · exact hleft
    · obtain rfl := Option.some.inj (hr.symm.trans htop)
      obtain ⟨f, hf⟩ := Option.ne_none_iff_exists'.mp hlogin
      obtain ⟨q, rfl⟩ := Page.onTap_login hf hc
      exact absurd rfl (hne q)
  cases c with
  | push q => exact hr'
  | pushReplacement q =>
    rw [NavCall.run, Navigator.pushReplacement] at hr'
    split at hr'
    · exact hr'
    · exact hpop (fun _ hc => by cases hc) hr'
  | pushAndRemoveUntil q =>
    rcases List.mem_append.mp hr' with hon | hleft
    · rcases hs.session with hout | ⟨account, -, hof⟩
      · exact absurd (hout r (top?_mem hr)).session (Page.onTap_pushAndRemoveUntil hc).2.1
      · exact absurd (hof r' hon).login hlogin
    · exact hleft
  | pop => exact hpop (fun _ hc => by cases hc) hr'

/-- A removed login page was one before a form was rewritten. -/
theorem left_update {k : Nat} {p : Page}
    (hp : p.login? ≠ none → ∀ r ∈ s.nav.leaving, r.key = k → r.page.login? ≠ none) {r : Route Page}
    (hr : r ∈ (s.nav.update k fun _ => p).leaving) (hlogin : r.page.login? ≠ none) :
    ∃ r₀ ∈ s.nav.leaving, r₀.key = r.key ∧ r₀.page.login? ≠ none := by
  obtain ⟨r₀, hr₀, rfl⟩ := List.mem_map.mp hr
  refine ⟨r₀, hr₀, (Route.update_key k _ r₀).symm, ?_⟩
  rw [Route.update] at hlogin
  split at hlogin
  · exact hp hlogin r₀ hr₀ ‹_›
  · exact hlogin

theorem SessionInv.left_rewritten (hs : s.SessionInv) {r r' : Route Page} {f f' : LoginFields}
    (hr : r ∈ s.nav.mountedRoutes) (hf : r.page.login? = some f)
    (hr' : r' ∈ (s.nav.update r.key fun _ => .loginPage f').leaving)
    (hlogin : r'.page.login? ≠ none) :
    ∃ r₀ ∈ s.nav.leaving, r₀.key = r'.key ∧ r₀.page.login? ≠ none := by
  refine left_update (fun _ r₀ hr₀ hk => ?_) hr' hlogin
  rw [← loginAt_eq hs.loading.keyed (List.mem_append_right _ hr₀), hk,
    loginAt_eq hs.loading.keyed hr, hf]
  exact Option.some_ne_none f

/-- An empty stack stays empty. -/
theorem NavStep.routes_ne_nil {a : Action} {n : Navigator Page} (h : NavStep K s a n)
    (hn : n.routes ≠ []) : s.nav.routes ≠ [] := by
  intro hnil
  have hupdate : ∀ k p, (s.nav.update k fun _ => p).routes = [] := fun k p => by
    rw [Navigator.update_routes, hnil]
    rfl
  cases h with
  | same => exact hn hnil
  | tapped ha hr hc => exact App.routes_ne_nil hr hnil
  | loginForm hr hf hsame => exact hn (hupdate _ _)
  | granted ha hflight hr hkey hf hgrant =>
    rw [Navigator.pushReplacement_nil _ (hupdate _ _)] at hn
    exact hn (hupdate _ _)
  | signUpForm k f => exact hn (hupdate _ _)
  | signedUp k f =>
    rw [Navigator.pop_routes, hupdate] at hn
    exact hn rfl
  | back =>
    rw [Navigator.pop_routes, hnil] at hn
    exact hn rfl
  | transitionEnd k => exact hn hnil

/-- The one request of the page is answered. -/
theorem SessionInv.waiting_answered (hs : s.SessionInv) {i : Nat} {o : HttpOutcome}
    (h : step K s (.signInAnswer i o) = some t) {flight : Flight SignInRequest}
    (hflight : s.signIns[i]? = some flight) {r : Route Page} {f : LoginFields}
    (hr : r ∈ s.nav.mountedRoutes) (hkey : flight.page = r.key) (hf : r.page.login? = some f) :
    t.waiting r.key = 0 := by
  obtain ⟨flight', -, ht⟩ := step_signInAnswer h
  have hsent : t.signIns = s.signIns.eraseIdx i := by rw [ht]
  have hwait := waiting_eraseIdx hflight hsent r.key
  have htold := hs.loading.told r hr f hf
  rw [if_pos hkey] at hwait
  split at htold <;> omega

theorem SessionInv.left_step {a : Action} (hs : s.SessionInv) (hc : GrantedOnTop s a t)
    (h : step K s a = some t) (ht : t.nav.routes ≠ []) :
    ∀ r ∈ t.nav.leaving, r.page.login? ≠ none → t.waiting r.key = 0 := by
  intro r' hr' hlogin
  have hnav := step_navStep h
  have hroutes := hnav.routes_ne_nil ht
  have hkept : (∃ r₀ ∈ s.nav.leaving, r₀.key = r'.key ∧ r₀.page.login? ≠ none) →
      t.waiting r'.key = 0 := fun ⟨r₀, hr₀, hkey, hlogin₀⟩ =>
    hkey ▸ hs.waiting_left h hroutes hr₀ hlogin₀
  have hsignUp : ∀ k f, r' ∈ (s.nav.update k fun _ => .signUpPage f).leaving →
      t.waiting r'.key = 0 := fun k f hmem =>
    hkept (left_update (fun hne _ _ _ => absurd rfl hne) hmem hlogin)
  generalize t.nav = n at hnav hr' ht
  cases hnav with
  | same => exact hkept ⟨r', hr', rfl, hlogin⟩
  | tapped ha hr htap => exact hkept ⟨r', hs.left_tapped hr htap hr' hlogin, rfl, hlogin⟩
  | loginForm hr hf hsame => exact hkept (hs.left_rewritten hr hf hr' hlogin)
  | @granted i o flight r f f' account ha hflight hr hkey hf hgrant =>
    subst ha
    have hone := hs.granted_routes hc hflight hr hkey hf hgrant hroutes
    have hupdate : (s.nav.update r.key fun _ => .loginPage f').routes.isEmpty = false := by
      rw [Navigator.update_routes, hone]
      rfl
    rw [Navigator.pushReplacement, if_neg (by rw [hupdate]; exact Bool.false_ne_true)] at hr'
    rcases Navigator.mem_pop_leaving hr' with hleft | htop
    · exact hkept (hs.left_rewritten hr hf hleft hlogin)
    · rw [Navigator.update_routes, hone] at htop
      obtain rfl := Option.some.inj htop
      rw [Route.update_key]
      exact hs.waiting_answered h hflight hr hkey hf
  | signUpForm k f => exact hsignUp k f hr'
  | signedUp k f =>
    have habove : (s.nav.update k fun _ => .signUpPage f).AboveBottom (·.login? = none) :=
      hs.above.update fun _ _ _ => rfl
    rcases habove.mem_pop_leaving hr' hlogin with hleft | hnil
    · exact hsignUp k f hleft
    · exact absurd hnil ht
  | back =>
    rcases hs.above.mem_pop_leaving hr' hlogin with hleft | hnil
    · exact hkept ⟨r', hleft, rfl, hlogin⟩
    · exact absurd hnil ht
  | transitionEnd k => exact hkept ⟨r', List.mem_of_mem_filter hr', rfl, hlogin⟩

theorem sessionInv_step {a : Action} (hs : s.SessionInv) (hc : GrantedOnTop s a t)
    (h : step K s a = some t) : t.SessionInv where
  loading := loadingInv_step hs.loading h
  session := hs.oneSession_step hc h
  above := hs.above_step h
  left := hs.left_step hc h

end Steps

theorem initial_sessionInv : initial.SessionInv where
  loading := initial_loadingInv
  session := Or.inl (.home (Page.signedOut_loginPage (Int.le_refl 0)))
  above _ hr := nomatch hr
  left _ _ hr := nomatch hr

/-- In a run the stack holds one session at a time, of an account that an answered
sign-in granted, exactly when no granted sign-in is handled over a login page. -/
theorem oneSession_throughout (K : Casing) (as : List Action) :
    Runs.Throughout (step K) OneSession initial as ↔
      Runs.AtEachStep (step K) GrantedOnTop initial as :=
  Runs.throughout_iff (I := SessionInv) (P := OneSession) (C := GrantedOnTop)
    (fun _ a _ => sessionInv_step (K := K) (a := a)) (fun _ hs => hs.session)
    (fun _ a _ _ h ht => ht.separated.grantedOnTop (K := K) (a := a) h) initial_sessionInv as

end App

end SurveilOne
