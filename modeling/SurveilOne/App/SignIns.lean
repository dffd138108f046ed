import SurveilOne.App.Run
import SurveilOne.SignInResponse

/-!
# How a sign-in ends

Once the answer to a sign-in has reached the mounted login page, the page should
be idle again and have done one of two things: it has navigated to the alerts
page, or it shows an error and remembers what it remembered before.

What is remembered is written before the call to the navigator.  With no route
left on the stack this call throws, and the page shows an error then although it
remembers the new account.
-/

namespace SurveilOne

open Dart Flutter LoginPage

namespace App

/-! ## An attempt -/

/-- Sign In was tapped on the login page under `k`, which had the fields `f`, and
no answer has come for this page since. -/
inductive Attempt (K : Casing) (k : Nat) (f : LoginFields) : App → Prop where
  | tapped {as : List Action} {s t : App} {r : Route Page}
      (hrun : Runs.exec (step K) initial as = some s) (htop : s.top? = some r) (hkey : r.key = k)
      (hf : r.page.login? = some f) (htap : step K s (.login .signIn) = some t) : Attempt K k f t
  | during {s t : App} {a : Action} (hs : Attempt K k f s) (ha : ¬ s.Answers a k)
      (hstep : step K s a = some t) : Attempt K k f t

theorem wellKeyed_of_exec {K : Casing} {as : List Action} {s : App}
    (h : Runs.exec (step K) initial as = some s) : s.nav.WellKeyed :=
  Runs.Reachable.of_throughout (P := fun s : App => s.nav.WellKeyed)
    (Runs.throughout_of_step (fun _ _ _ => step_wellKeyed) (fun _ h => h)
      (Navigator.home_wellKeyed _)) ⟨as, h⟩

/-- The page remembers what `f` says if it is a login page. -/
def Remembers (f : LoginFields) (p : Page) : Prop := ∀ g, p.login? = some g → f.SameLatest g

section Steps

variable {K : Casing} {k : Nat} {f : LoginFields} {s t : App}

theorem remembers_update (hs : s.nav.Owns (Remembers f) k) {j : Nat} {g : LoginFields}
    (hg : j = k → f.SameLatest g) :
    (s.nav.update j fun _ => .loginPage g).Owns (Remembers f) k :=
  hs.update fun hj _ _ _ hg' => Option.some.inj hg' ▸ hg hj

/-- No step but an answer for the page under `k` changes what it remembers. -/
theorem remembers_step {a : Action} (hs : s.nav.Owns (Remembers f) k) (ha : ¬ s.Answers a k)
    (h : step K s a = some t) : t.nav.Owns (Remembers f) k := by
  refine (step_navStep h).stable Navigator.owns_stable hs (fun r hr g _ hg hwrite => ?_) fun j g => ?_
  · refine remembers_update hs fun hk => ?_
    rcases hwrite with hsame | hanswer
    · exact (hs.2 r hr hk g hg).trans hsame
    · exact absurd (hk ▸ hanswer) ha
  · exact hs.update fun _ _ _ g' hg' => nomatch hg'

theorem Attempt.remembers (h : Attempt K k f s) : s.nav.Owns (Remembers f) k := by
  induction h with
  | @tapped as s t r hrun htop hkey hf htap =>
    have hkeyed := wellKeyed_of_exec hrun
    have hmem : r ∈ s.nav.mountedRoutes := List.mem_append_left _ (top?_mem htop)
    have hbefore : s.nav.Owns (Remembers f) k := by
      refine ⟨hkey ▸ hkeyed.fresh r hmem, fun r' hr' hk g hg => ?_⟩
      rw [← loginAt_eq hkeyed hr', hk, ← hkey, loginAt_eq hkeyed hmem, hf] at hg
      exact Option.some.inj hg ▸ .refl f
    refine remembers_step hbefore ?_ htap
    rintro ⟨i, o, flight, ha, -, -⟩
    cases ha
  | during hs ha hstep ih => exact remembers_step ih ha hstep

theorem Attempt.wellKeyed (h : Attempt K k f s) : s.nav.WellKeyed := by
  induction h with
  | tapped hrun htop hkey hf htap => exact step_wellKeyed (wellKeyed_of_exec hrun) htap
  | during hs ha hstep ih => exact step_wellKeyed ih hstep

theorem Attempt.sameLatest (h : Attempt K k f s) {g : LoginFields} (hg : s.loginAt k = some g) :
    f.SameLatest g := by
  obtain ⟨r, hr, hkey, hlogin⟩ := loginAt_mem hg
  exact h.remembers.2 r hr hkey g hlogin

/-- An attempt lasts as long as no sign-in is answered. -/
theorem Attempt.exec (h : Attempt K k f s) {as : List Action}
    (hquiet : ∀ a ∈ as, ∀ i o, a ≠ .signInAnswer i o)
    (hrun : Runs.exec (step K) s as = some t) : Attempt K k f t := by
  induction as generalizing s with
  | nil =>
    cases hrun
    exact h
  | cons a rest ih =>
    obtain ⟨u, hu, hrest⟩ := Option.bind_eq_some_iff.mp hrun
    obtain ⟨hhead, htail⟩ := List.forall_mem_cons.mp hquiet
    exact ih (h.during (fun ⟨i, o, _, ha, _⟩ => hhead i o ha) hu) htail hrest

end Steps

/-! ## The two ends -/

/-- One page was opened in the place of the topmost route. -/
def NavigatedTo (s t : App) (p : Page) : Prop :=
  s.nav.routes ≠ [] ∧ t.nav.routes.head? = some ⟨s.nav.nextKey, p⟩ ∧
    t.nav.routes.tail.map (·.key) = s.nav.routes.tail.map (·.key) ∧
    t.nav.nextKey = s.nav.nextKey + 1

/-- The same routes, and none was opened. -/
def Unnavigated (s t : App) : Prop :=
  t.nav.routes.map (·.key) = s.nav.routes.map (·.key) ∧ t.nav.nextKey = s.nav.nextKey

/-- The response has no error code, and the app went to the alerts page with the
first of the candidates for the party id and with texts that are not empty. -/
def EndsSignedIn (s t : App) (data : Option Fields) : Prop :=
  ∃ response account, data = some response ∧ Fields.get response "error_code" = .null ∧
    NavigatedTo s t (.alertsPage account) ∧
    (candidateValues response).findSome? partyIdIn = some account.partyId ∧
    account.fullName ≠ [] ∧ account.email ≠ []

/-- The page shows an error and remembers what it did before the attempt. -/
def EndsRefused (f g : LoginFields) (s t : App) : Prop :=
  g.errorMessage ≠ none ∧ Unnavigated s t ∧ f.SameLatest g

/-- The login page is idle, and the attempt that began with the fields `f` has
ended in exactly one of the two ways. -/
def Ended (k : Nat) (f : LoginFields) (s t : App) (data : Option Fields) : Prop :=
  ∃ g, t.loginAt k = some g ∧ g.isLoading = false ∧
    Xor (EndsSignedIn s t data) (EndsRefused f g s t)

/-- A response that grants an account comes while a route is left, or it tells
what the page remembers already. -/
def GrantedInTime (f : LoginFields) (s : App) (data : Option Fields) : Prop :=
  ∀ response, data = some response → GrantsAccount response →
    s.nav.routes ≠ [] ∨ Tells response f.latestPartyId f.latestFullName f.latestEmail

theorem NavigatedTo.not_unnavigated {s t : App} {p : Page} (h : NavigatedTo s t p) :
    ¬ Unnavigated s t := by
  intro hsame
  have hnext := h.2.2.2
  rw [hsame.2] at hnext
  omega

theorem EndsSignedIn.not_refused {s t : App} {data : Option Fields} {f g : LoginFields}
    (h : EndsSignedIn s t data) : ¬ EndsRefused f g s t := by
  obtain ⟨response, account, -, -, hnav, -⟩ := h
  exact fun hrefused => hnav.not_unnavigated hrefused.2.1

section Ends

variable {s t : App} {k : Nat} {g g' : LoginFields}

theorem updated_mem (hg : s.loginAt k = some g) (written : LoginFields) :
    (⟨k, .loginPage written⟩ : Route Page) ∈
      (s.nav.update k fun _ => .loginPage written).mountedRoutes := by
  obtain ⟨r, hr, hkey, -⟩ := loginAt_mem hg
  rw [Navigator.update_mountedRoutes]
  exact List.mem_map.mpr ⟨r, hr, by rw [Route.update, if_pos hkey, hkey]⟩

theorem loginAt_updated (hkeyed : t.nav.WellKeyed)
    (hmem : (⟨k, .loginPage g'⟩ : Route Page) ∈ t.nav.mountedRoutes) : t.loginAt k = some g' :=
  loginAt_eq hkeyed hmem

theorem unnavigated_of_update (hnav : t.nav = s.nav.update k fun _ => .loginPage g') :
    Unnavigated s t := by
  rw [Unnavigated, hnav]
  exact ⟨Navigator.update_routes_keys .., rfl⟩

theorem navigatedTo_of_pushReplacement {p : Page} (hroutes : s.nav.routes ≠ [])
    (hnav : t.nav = (s.nav.update k fun _ => .loginPage g').pushReplacement p) :
    NavigatedTo s t p := by
  have hne : (s.nav.update k fun _ => .loginPage g').routes ≠ [] := fun hnil =>
    hroutes (List.map_eq_nil_iff.mp hnil)
  have htail := congrArg List.tail (Navigator.update_routes_keys s.nav k fun _ => .loginPage g')
  rw [← List.map_tail, ← List.map_tail] at htail
  rw [NavigatedTo, hnav, Navigator.pushReplacement_routes p hne,
    Navigator.pushReplacement_nextKey p hne]
  exact ⟨hroutes, rfl, htail, rfl⟩

end Ends

section Answer

variable {K : Casing} {k : Nat} {f : LoginFields} {s t : App}

theorem ended_of_refused (h : Attempt K k f s) (hkeyed : t.nav.WellKeyed) {g : LoginFields}
    (hg : s.loginAt k = some g) {message : Text}
    (hnav : t.nav = s.nav.update k fun _ => .loginPage (g.refused message))
    (data : Option Fields) : Ended k f s t data := by
  have hrefused : EndsRefused f (g.refused message) s t :=
    ⟨Option.some_ne_none message, unnavigated_of_update hnav, (h.sameLatest hg).refused message⟩
  refine ⟨g.refused message, loginAt_updated hkeyed (hnav ▸ updated_mem hg _), rfl,
    Or.inr ⟨hrefused, fun hsigned => hsigned.not_refused hrefused⟩⟩

theorem ended_of_granted (hkeyed : t.nav.WellKeyed) {g g' : LoginFields} (hg : s.loginAt k = some g)
    (hidle : g'.isLoading = false) (hroutes : s.nav.routes ≠ []) {response : Fields}
    {account : Account} (hnull : Fields.get response "error_code" = .null)
    (htells : Tells response account.partyId account.fullName account.email)
    (hnav : t.nav = (s.nav.update k fun _ => .loginPage g').pushReplacement (.alertsPage account)) :
    Ended k f s t (some response) := by
  have hsigned : EndsSignedIn s t (some response) :=
    ⟨response, account, rfl, hnull, navigatedTo_of_pushReplacement hroutes hnav, htells.partyId,
      htells.ne_nil⟩
  have hmem := Navigator.mem_pushReplacement (.alertsPage account) (updated_mem hg g')
  exact ⟨g', loginAt_updated hkeyed (hnav ▸ hmem), hidle, Or.inl ⟨hsigned, hsigned.not_refused⟩⟩

/-- With no route left the page shows an error, and what it remembers is the
account. -/
theorem ended_iff_of_no_route (hkeyed : t.nav.WellKeyed) {g : LoginFields}
    (hg : s.loginAt k = some g) (hroutes : s.nav.routes = []) {response : Fields}
    {account : Account} (htells : Tells response account.partyId account.fullName account.email)
    {message : Text}
    (hnav : t.nav = s.nav.update k fun _ => .loginPage ((g.signedIn account).refused message)) :
    Ended k f s t (some response) ↔
      Tells response f.latestPartyId f.latestFullName f.latestEmail := by
  have hat : t.loginAt k = some ((g.signedIn account).refused message) :=
    loginAt_updated hkeyed (hnav ▸ updated_mem hg _)
  have hnot : ¬ EndsSignedIn s t (some response) := fun ⟨_, _, _, _, hnavigated, _⟩ =>
    hnavigated.1 hroutes
  constructor
  · rintro ⟨g', hat', -, hend⟩
    obtain rfl := Option.some.inj (hat.symm.trans hat')
    rcases hend with ⟨hsigned, -⟩ | ⟨⟨-, -, hsame⟩, -⟩
    · exact absurd hsigned hnot
    · have hparty : account.partyId = f.latestPartyId := hsame.partyId
      have hname : account.fullName = f.latestFullName := hsame.fullName
      have hemail : account.email = f.latestEmail := hsame.email
      rwa [hparty, hname, hemail] at htells
  · intro hknown
    obtain ⟨hparty, hname, hemail⟩ := htells.unique hknown
    refine ⟨_, hat, rfl, Or.inr ⟨⟨Option.some_ne_none message, unnavigated_of_update hnav, ?_⟩, hnot⟩⟩
    exact ⟨hparty, hname, hemail⟩

/-- The answer to an attempt on a mounted page ends it as it should exactly when
an account is granted in time. -/
theorem ended_iff (h : Attempt K k f s) {i : Nat} {o : HttpOutcome} {flight : Flight SignInRequest}
    (hflight : s.signIns[i]? = some flight) (hpage : flight.page = k)
    (hmounted : s.loginAt k ≠ none) (hstep : step K s (.signInAnswer i o) = some t) :
    Ended k f s t (GraphQLService.signin o) ↔ GrantedInTime f s (GraphQLService.signin o) := by
  have hkeyed := step_wellKeyed h.wellKeyed hstep
  obtain ⟨g, hg⟩ := Option.ne_none_iff_exists'.mp hmounted
  obtain ⟨flight', hflight', rfl⟩ := step_signInAnswer hstep
  obtain rfl := Option.some.inj (hflight'.symm.trans hflight)
  obtain rfl := hpage
  generalize GraphQLService.signin o = data at hkeyed ⊢
  cases hgrant : flight'.req.grant (.ok data) with
  | none =>
    obtain ⟨message, hnav⟩ := signInDone_refused hg hgrant
    refine iff_of_true (ended_of_refused h hkeyed hg hnav data) fun response hdata hgrants => ?_
    exact absurd (hdata ▸ hgrant) (hgrants.grant_ne_none _)
  | some account =>
    obtain ⟨response, rfl, hgrants, htells⟩ := SignInRequest.grant_tells hgrant
    have hcond : GrantedInTime f s (some response) ↔
        s.nav.routes ≠ [] ∨ Tells response f.latestPartyId f.latestFullName f.latestEmail := by
      simp only [GrantedInTime, Option.some.injEq, forall_eq', forall_prop_of_true hgrants]
    have hnav := signInDone_granted hg hgrant
    rw [hcond]
    by_cases hroutes : s.nav.routes = []
    · have hfields : s.signedInFields g account =
          (g.signedIn account).refused "Sign-in failed: $e".toList := if_pos (by simp [hroutes])
      have hnil : (s.nav.update flight'.page fun _ =>
          .loginPage (s.signedInFields g account)).routes = [] := by
        rw [Navigator.update_routes, hroutes]
        rfl
      rw [Navigator.pushReplacement_nil _ hnil, hfields] at hnav
      rw [ended_iff_of_no_route hkeyed hg hroutes htells hnav]
      exact ⟨Or.inr, fun hc => hc.resolve_left fun hne => hne hroutes⟩
    · have hfields : s.signedInFields g account = g.signedIn account := if_neg (by simpa using hroutes)
      rw [hfields] at hnav
      exact iff_of_true (ended_of_granted hkeyed hg rfl hroutes hgrants.error_code htells hnav)
        (Or.inl hroutes)

end Answer

/-- The answer of a sign-in with a party id. -/
def signInSucceeded : HttpOutcome :=
  .response 200 [] (some (.map [("data".toList,
    .map [("signin".toList, .map [("party_id".toList, .int 7)])])]))

theorem attempt_of_tap {s : App} (h : step .ascii initial (.login .signIn) = some s) :
    Attempt .ascii 0 LoginPage.initial s :=
  .tapped (show Runs.exec _ _ [] = some initial from rfl) rfl rfl rfl h

theorem signedIn_ended :
    ∃ s t, Attempt .ascii 0 LoginPage.initial s ∧
      step .ascii s (.signInAnswer 0 signInSucceeded) = some t ∧
      Ended 0 LoginPage.initial s t (GraphQLService.signin signInSucceeded) := by
  refine ⟨_, _, attempt_of_tap rfl, rfl,
    (ended_iff (i := 0) (o := signInSucceeded) (attempt_of_tap rfl) rfl rfl ?_ rfl).mpr ?_⟩
  · exact fun hnone => nomatch hnone
  · exact fun _ _ _ => Or.inl (List.cons_ne_nil _ _)

/-- While the sign-in is under way two sign-ups succeed, and the second one pops
the login page. -/
def poppedDuringSignIn : List Action :=
  [.tap .signUpLink, .signUp (.editMobile "1".toList), .signUp .signUp, .signUp .signUp,
    .signUpAnswer 0 (.response 200 [] (some (.map [("data".toList,
      .map [("signup".toList, .map [])])]))),
    .signUpAnswer 0 (.response 200 [] (some (.map [("data".toList,
      .map [("signup".toList, .map [])])])))]

/-- The sign-in is answered during the exit transition of the login page: the page
shows an error, and remembers the party id of the answer. -/
theorem poppedDuringSignIn_not_ended :
    ¬ ∀ (K : Casing) (k : Nat) (f : LoginFields) (s t : App) (i : Nat) (o : HttpOutcome)
      (flight : Flight SignInRequest), Attempt K k f s → s.signIns[i]? = some flight →
      flight.page = k → s.loginAt k ≠ none → step K s (.signInAnswer i o) = some t →
      Ended k f s t (GraphQLService.signin o) := by
  intro hall
  have hattempt := (attempt_of_tap rfl).exec (by simp [poppedDuringSignIn])
    (show Runs.exec _ _ poppedDuringSignIn = some _ from rfl)
  obtain ⟨g, hat, -, hend⟩ := hall .ascii 0 LoginPage.initial _ _ 0 signInSucceeded _ hattempt rfl rfl
    (fun hnone => nomatch hnone) rfl
  obtain rfl := Option.some.inj hat
  rcases hend with ⟨⟨_, _, _, _, hnav, _⟩, -⟩ | ⟨⟨-, -, hsame⟩, -⟩
  · exact hnav.1 rfl
  · have hparty := hsame.partyId
    exact absurd hparty (by decide)

end App

end SurveilOne
