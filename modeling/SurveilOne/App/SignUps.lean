import SurveilOne.App.Run

/-!
# Requests of the sign-up page

The sign-up button stays enabled while a request is out, and the answer pops
whatever is on top.  A page has one unanswered request at a time exactly when the
button is not tapped again before the answer, and a successful answer removes its
own page and no other exactly when it comes while that page is on top or after it
was disposed.
-/

namespace SurveilOne

open Dart Flutter

def Page.IsSignUp (p : Page) : Prop := p.signUp? ≠ none

theorem Page.not_isSignUp {p : Page} {f : LoginFields} (h : p.login? = some f) : ¬ p.IsSignUp := by
  intro hsignUp
  cases p with
  | signUpPage => cases h
  | _ => exact hsignUp rfl

namespace App

/-- The unanswered requests of the sign-up page under a key. -/
def unanswered (s : App) (k : Nat) : List (Flight SignUpRequest) :=
  s.signUps.filter (·.page = k)

/-- No sign-up page has two unanswered requests. -/
def OneSignUp (s : App) : Prop := ∀ k, (s.unanswered k).length ≤ 1

/-- A successful answer removes its own page, if it is there, and no other. -/
def RemovesOwn (s : App) (a : Action) (t : App) : Prop :=
  ∀ i o flight, a = .signUpAnswer i o → s.signUps[i]? = some flight →
    SignUpPage.succeeded (GraphQLService.signup o) = true →
    t.nav.routes = s.nav.routes.filter (·.key ≠ flight.page)

/-- The button is tapped with a mobile number only when no request of its page is
unanswered. -/
def TappedOnce (s : App) (a : Action) (_ : App) : Prop :=
  ∀ r f, a = .signUp .signUp → s.top? = some r → r.page.signUp? = some f →
    f.mobile.trim ≠ [] → s.unanswered r.key = []

/-- A successful answer comes after its page was disposed, or no other page is on
top. -/
def AnsweredOnTop (s : App) (a : Action) (_ : App) : Prop :=
  ∀ i o flight, a = .signUpAnswer i o → s.signUps[i]? = some flight →
    SignUpPage.succeeded (GraphQLService.signup o) = true → s.signUpAt flight.page ≠ none →
    ∀ r, s.top? = some r → r.key = flight.page

section Steps

variable {K : Casing} {s t : App}

/-! ## What is sent -/

/-- A step sends a request of the topmost page, or answers one, or neither. -/
theorem step_signUps {a : Action} (h : step K s a = some t) :
    (∃ r f, a = .signUp .signUp ∧ s.top? = some r ∧ r.page.signUp? = some f ∧ f.mobile.trim ≠ [] ∧
      t.signUps = s.signUps ++ [⟨r.key, SignUpPage.requestOf f⟩]) ∨
    (∃ i, t.signUps = s.signUps.eraseIdx i) ∨ t.signUps = s.signUps := by
  cases a with
  | tap tap => obtain ⟨r, c, -, -, rfl⟩ := step_tap h; exact Or.inr (Or.inr rfl)
  | login tap => obtain ⟨r, f, f', -, -, -, rfl⟩ := step_login h; exact Or.inr (Or.inr rfl)
  | signUp tap =>
    obtain ⟨r, f, f', hr, hf, rfl⟩ := step_signUp h
    by_cases hsent : tap = .signUp ∧ f.mobile.trim ≠ []
    · exact Or.inl ⟨r, f, congrArg Action.signUp hsent.1, hr, hf, hsent.2,
        congrArg (s.signUps ++ ·) (if_pos hsent)⟩
    · refine Or.inr (Or.inr ?_)
      show s.signUps ++ _ = _
      rw [if_neg hsent, List.append_nil]
  | back => obtain ⟨-, rfl⟩ := step_back h; exact Or.inr (Or.inr rfl)
  | signInAnswer i o => obtain ⟨flight, -, rfl⟩ := step_signInAnswer h; exact Or.inr (Or.inr rfl)
  | signUpAnswer i o => obtain ⟨flight, -, rfl⟩ := step_signUpAnswer h; exact Or.inr (Or.inl ⟨i, rfl⟩)
  | transitionEnd k => rw [step_transitionEnd h]; exact Or.inr (Or.inr rfl)

theorem unanswered_append (s : App) (flight : Flight SignUpRequest) (k : Nat) :
    (s.signUps ++ [flight]).filter (·.page = k) =
      s.unanswered k ++ if flight.page = k then [flight] else [] := by
  rw [List.filter_append, unanswered]
  by_cases hk : flight.page = k
  · rw [if_pos hk, List.filter_cons_of_pos (by simpa using hk), List.filter_nil]
  · rw [if_neg hk, List.filter_cons_of_neg (by simpa using hk), List.filter_nil]

/-! ## One request at a time -/

theorem oneSignUp_step {a : Action} (hs : s.OneSignUp) (hc : TappedOnce s a t)
    (h : step K s a = some t) : t.OneSignUp := by
  intro k
  rw [unanswered]
  rcases step_signUps h with ⟨r, f, ha, hr, hf, hmobile, hsent⟩ | ⟨i, hanswered⟩ | hsame
  · rw [hsent, unanswered_append]
    by_cases hk : r.key = k
    · rw [← hk, hc r f ha hr hf hmobile, if_pos rfl]
      exact Nat.le_refl 1
    · rw [if_neg hk, List.append_nil]
      exact hs k
  · rw [hanswered]
    have hsub := (List.eraseIdx_sublist s.signUps i).filter fun flight => decide (flight.page = k)
    exact Nat.le_trans hsub.length_le (hs k)
  · rw [hsame]
    exact hs k

/-- A second tap is a second request. -/
theorem OneSignUp.tappedOnce {a : Action} (h : App.step K s a = some t) (ht : t.OneSignUp) :
    TappedOnce s a t := by
  rintro r f rfl hr hf hmobile
  obtain ⟨r', f₁, f', hr', hf', rfl⟩ := step_signUp h
  obtain rfl := Option.some.inj (hr'.symm.trans hr)
  obtain rfl := Option.some.inj (hf'.symm.trans hf)
  have hone : (List.filter (·.page = r'.key) (s.signUps ++ _)).length ≤ 1 := ht r'.key
  rw [if_pos ⟨rfl, hmobile⟩, unanswered_append, if_pos rfl, List.length_append,
    List.length_singleton] at hone
  exact List.eq_nil_of_length_eq_zero (by omega)

/-! ## Whose page is removed -/

/-- Every request is of a key that was given to a sign-up page. -/
structure SignUpInv (s : App) : Prop where
  keyed : s.nav.WellKeyed
  own : ∀ flight ∈ s.signUps, s.nav.Owns Page.IsSignUp flight.page

theorem signUpAt_eq (hs : s.nav.WellKeyed) {r : Route Page} (hr : r ∈ s.nav.mountedRoutes) :
    s.signUpAt r.key = r.page.signUp? := by
  rw [signUpAt, hs.find?_eq hr]
  rfl

theorem owns_login {k : Nat} (hk : s.nav.Owns Page.IsSignUp k) {r : Route Page} {f f' : LoginFields}
    (hr : r ∈ s.nav.mountedRoutes) (hf : r.page.login? = some f) :
    (s.nav.update r.key fun _ => .loginPage f').Owns Page.IsSignUp k :=
  hk.update fun hrk _ _ => absurd (hk.2 r hr hrk) (Page.not_isSignUp hf)

theorem owns_signUp {k : Nat} (hk : s.nav.Owns Page.IsSignUp k) (j : Nat) (f : SignUpFields) :
    (s.nav.update j fun _ => .signUpPage f).Owns Page.IsSignUp k :=
  hk.update fun _ _ _ => Option.some_ne_none f

/-- A request that is out after a step is of a key that was given to a sign-up
page before it. -/
theorem SignUpInv.owned (hs : s.SignUpInv) {a : Action} (h : step K s a = some t)
    {flight : Flight SignUpRequest} (hmem : flight ∈ t.signUps) :
    s.nav.Owns Page.IsSignUp flight.page := by
  rcases step_signUps h with ⟨r, f, -, hr, hf, -, hsent⟩ | ⟨i, hanswered⟩ | hsame
  · rw [hsent] at hmem
    rcases List.mem_append.mp hmem with hold | hnew
    · exact hs.own flight hold
    · -- The new request is of the topmost page, which is a sign-up page.
      have hr' : r ∈ s.nav.mountedRoutes := List.mem_append_left _ (top?_mem hr)
      rw [List.mem_singleton.mp hnew]
      refine ⟨hs.keyed.fresh r hr', fun r' hmounted hk => ?_⟩
      rw [Page.IsSignUp, ← signUpAt_eq hs.keyed hmounted, hk, signUpAt_eq hs.keyed hr', hf]
      exact Option.some_ne_none f
  · rw [hanswered] at hmem
    exact hs.own flight (List.mem_of_mem_eraseIdx hmem)
  · rw [hsame] at hmem
    exact hs.own flight hmem

theorem signUpInv_step {a : Action} (hs : s.SignUpInv) (h : step K s a = some t) :
    t.SignUpInv where
  keyed := step_wellKeyed hs.keyed h
  own flight hmem := by
    have hown := hs.owned h hmem
    exact (step_navStep h).stable Navigator.owns_stable hown
      (fun r hr f f' hf _ => owns_login hown hr hf) fun k f => owns_signUp hown k f

theorem SignUpInv.filter_disposed (hs : s.SignUpInv) {flight : Flight SignUpRequest}
    (hmem : flight ∈ s.signUps) (hnone : s.signUpAt flight.page = none) :
    s.nav.routes.filter (·.key ≠ flight.page) = s.nav.routes := by
  refine List.filter_eq_self.mpr fun r hr => ?_
  have hr' : r ∈ s.nav.mountedRoutes := List.mem_append_left _ hr
  have hne : r.key ≠ flight.page := fun hk => by
    have hsignUp : r.page.IsSignUp := (hs.own flight hmem).2 r hr' hk
    rw [Page.IsSignUp, ← signUpAt_eq hs.keyed hr', hk, hnone] at hsignUp
    exact hsignUp rfl
  simpa using hne

/-- A successful answer pops the topmost route of a stack whose own page has got
a snack bar. -/
theorem SignUpInv.signUpDone_removes_iff (hs : s.SignUpInv) {flight : Flight SignUpRequest}
    (hmem : flight ∈ s.signUps) {result : Option Fields}
    (hok : SignUpPage.succeeded result = true) :
    (s.signUpDone flight.page result).routes = s.nav.routes.filter (·.key ≠ flight.page) ↔
      (s.signUpAt flight.page ≠ none → ∀ r, s.top? = some r → r.key = flight.page) := by
  cases hsignUp : s.signUpAt flight.page with
  | none =>
    rw [signUpDone_disposed hsignUp, hs.filter_disposed hmem hsignUp]
    exact iff_of_true rfl fun hne => absurd rfl hne
  | some f =>
    obtain ⟨f', hnav⟩ := signUpDone_mounted hsignUp result
    rw [hnav, if_pos hok, ← Navigator.update_routes_filter,
      (hs.keyed.update flight.page fun _ => .signUpPage f').pop_removes_iff, Navigator.update_routes,
      List.head?_map]
    constructor
    · intro htop _ r hr
      have hkey := htop _ (congrArg (Option.map _) hr)
      rwa [Route.update_key] at hkey
    · intro htop r' hr'
      obtain ⟨r, hr, rfl⟩ := Option.map_eq_some_iff.mp hr'
      rw [Route.update_key]
      exact htop (Option.some_ne_none f) r hr

theorem removesOwn_iff {a : Action} (hs : s.SignUpInv) (h : step K s a = some t) :
    RemovesOwn s a t ↔ AnsweredOnTop s a t := by
  refine forall₅_congr fun i o flight ha hflight => forall_congr' fun hok => ?_
  subst ha
  obtain ⟨flight', hflight', rfl⟩ := step_signUpAnswer h
  obtain rfl := Option.some.inj (hflight'.symm.trans hflight)
  exact hs.signUpDone_removes_iff (List.mem_of_getElem? hflight) hok

end Steps

theorem initial_signUpInv : initial.SignUpInv where
  keyed := Navigator.home_wellKeyed _
  own _ hmem := nomatch hmem

theorem initial_oneSignUp : initial.OneSignUp := fun _ => Nat.zero_le 1

theorem oneSignUp_throughout (K : Casing) (as : List Action) :
    Runs.Throughout (step K) OneSignUp initial as ↔
      Runs.AtEachStep (step K) TappedOnce initial as :=
  Runs.throughout_iff (I := OneSignUp) (fun _ a _ => oneSignUp_step (K := K) (a := a))
    (fun _ hs => hs) (fun _ a _ _ h ht => ht.tappedOnce (K := K) (a := a) h)
    initial_oneSignUp as

theorem removesOwn_atEachStep (K : Casing) (as : List Action) :
    Runs.AtEachStep (step K) RemovesOwn initial as ↔
      Runs.AtEachStep (step K) AnsweredOnTop initial as :=
  Runs.atEachStep_iff (I := SignUpInv) (fun _ a _ => signUpInv_step (K := K) (a := a))
    (fun _ a _ => removesOwn_iff (K := K) (a := a)) initial_signUpInv as

/-- In a run every sign-up page has one unanswered request at a time and every
success removes its own page only, exactly when each tap on the button and each
success come as they should. -/
theorem signUps_iff (K : Casing) (as : List Action) :
    (Runs.Throughout (step K) OneSignUp initial as ∧
        Runs.AtEachStep (step K) RemovesOwn initial as) ↔
      Runs.AtEachStep (step K) (fun s a t => TappedOnce s a t ∧ AnsweredOnTop s a t) initial as := by
  rw [Runs.atEachStep_and, oneSignUp_throughout, removesOwn_atEachStep]

/-- The answer of a successful sign-up. -/
def signUpSucceeded : HttpOutcome :=
  .response 200 [] (some (.map [("data".toList, .map [("signup".toList, .map [])])]))

/-- The button is tapped twice, and both requests succeed. -/
def signUpTwice : List Action :=
  [.tap .signUpLink, .signUp (.editMobile "1".toList), .signUp .signUp, .signUp .signUp,
    .signUpAnswer 0 signUpSucceeded, .signUpAnswer 0 signUpSucceeded]

/-- Two requests are out at once, and the second success pops the login page. -/
theorem signUpTwice_fails :
    ¬ Runs.Throughout (step .ascii) OneSignUp initial signUpTwice ∧
      ¬ Runs.AtEachStep (step .ascii) RemovesOwn initial signUpTwice := by
  constructor
  · intro h
    have hone := Runs.throughout_iff_exec.mp h [.tap .signUpLink, .signUp (.editMobile "1".toList),
      .signUp .signUp, .signUp .signUp] _ _ rfl rfl 1
    exact absurd hone (by decide)
  · intro h
    have hlast := ((((((h _ rfl).2 _ rfl).2 _ rfl).2 _ rfl).2 _ rfl).2 _ rfl).1
    have hroutes := hlast 0 signUpSucceeded _ rfl rfl rfl
    cases hroutes

end App

end SurveilOne
