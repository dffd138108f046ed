import SurveilOne.App.Pages

/-!
# Runs of the app

An `App` is the stack of routes with the requests that are still unanswered, each
under the key of its page, and the sign-ins answered so far.  Taps and edits go
to the topmost page.  Answers come in any order and whether or not the page that
waits for them is still mounted.

Each action has one lemma that says all it can do to the app.
-/

namespace SurveilOne

open Dart Flutter

/-- An unanswered request of the page under a key. -/
structure Flight (Req : Type) where
  page : Nat
  req : Req

structure App where
  nav : Navigator Page
  signIns : List (Flight SignInRequest)
  signUps : List (Flight SignUpRequest)
  /-- Each answered sign-in with the object that came. -/
  answers : List (SignInRequest × Fields)

inductive Action where
  | tap (t : Tap)
  /-- The form and the button of the login page. -/
  | login (t : LoginTap)
  /-- The form and the button of the sign-up page. -/
  | signUp (t : SignUpTap)
  /-- The system's back button and the arrow of a default app bar. -/
  | back
  | signInAnswer (i : Nat) (o : HttpOutcome)
  | signUpAnswer (i : Nat) (o : HttpOutcome)
  | transitionEnd (k : Nat)

namespace App

def initial : App :=
  { nav := .home (.loginPage LoginPage.initial), signIns := [], signUps := [], answers := [] }

def top? (s : App) : Option (Route Page) := s.nav.routes.head?

/-- The fields of the login page under a key, as long as it is mounted. -/
def loginAt (s : App) (k : Nat) : Option LoginFields := (s.nav.find? k).bind (·.page.login?)

def signUpAt (s : App) (k : Nat) : Option SignUpFields := (s.nav.find? k).bind (·.page.signUp?)

/-- The operations a handler leaves outstanding. -/
def started {σ Op : Type} (r : Except Thrown (List Op) × Frame σ) : List Op :=
  match r.1 with
  | .ok ops => ops
  | .error _ => []

def loginTapped (s : App) (k : Nat) (r : Except Thrown (List LoginOp) × Frame LoginFields) : App :=
  { s with
    nav := s.nav.update k fun _ => .loginPage r.2.fields
    signIns := s.signIns ++ (started r).map fun | .signin req => ⟨k, req⟩ }

def signUpTapped (s : App) (k : Nat) (r : Except Thrown (List SignUpOp) × Frame SignUpFields) :
    App :=
  { s with
    nav := s.nav.update k fun _ => .signUpPage r.2.fields
    signUps := s.signUps ++ (started r).map fun | .signup req => ⟨k, req⟩ }

/-- How a `pushReplacement` ends.  It looks for the last route on the stack and throws
where there is none. -/
def navigation (s : App) : Except Thrown Unit :=
  if s.nav.routes.isEmpty then .error (.stateError "No element".toList) else .ok ()

/-- The rest of `_signIn` on the page under `k`, with the `pushReplacement` of
the account it ends in.  A disposed page navigates nowhere
(`LoginPage.signInDone_disposed`). -/
def signInDone (s : App) (k : Nat) (req : SignInRequest) (data : Option Fields) : Navigator Page :=
  match s.loginAt k with
  | none => s.nav
  | some f =>
    match (LoginPage.signInDone s.navigation req (.ok data)).run { fields := f } with
    | (.ok (some account), fr) =>
      (s.nav.update k fun _ => .loginPage fr.fields).pushReplacement (.alertsPage account)
    | (_, fr) => s.nav.update k fun _ => .loginPage fr.fields

/-- The rest of the sign-up button's `onPressed` on the page under `k`.  On a
disposed page it throws first (`SignUpPage.run_signUpDone_disposed`). -/
def signUpDone (s : App) (k : Nat) (result : Option Fields) : Navigator Page :=
  match s.signUpAt k with
  | none => s.nav
  | some f =>
    match (SignUpPage.signUpDone result).run { fields := f } with
    | (.ok true, fr) => (s.nav.update k fun _ => .signUpPage fr.fields).pop
    | (_, fr) => s.nav.update k fun _ => .signUpPage fr.fields

section Step

variable (K : Casing)

def step (s : App) : Action → Option App
  | .tap t =>
    s.top?.bind fun r => (r.page.onTap K t).map fun c => { s with nav := c.run s.nav }
  | .login t =>
    s.top?.bind fun r => r.page.login?.bind fun f =>
      ((loginPage K).onTap t f).map fun h => s.loginTapped r.key (h.run { fields := f })
  | .signUp t =>
    s.top?.bind fun r => r.page.signUp?.bind fun f =>
      (signUpPage.onTap t f).map fun h => s.signUpTapped r.key (h.run { fields := f })
  | .back => if 1 < s.nav.routes.length then some { s with nav := s.nav.pop } else none
  | .signInAnswer i o =>
    s.signIns[i]?.map fun flight => { s with
      nav := s.signInDone flight.page flight.req (GraphQLService.signin o)
      signIns := s.signIns.eraseIdx i
      answers := s.answers ++ (GraphQLService.signin o).toList.map (flight.req, ·) }
  | .signUpAnswer i o =>
    s.signUps[i]?.map fun flight => { s with
      nav := s.signUpDone flight.page (GraphQLService.signup o)
      signUps := s.signUps.eraseIdx i }
  | .transitionEnd k => some { s with nav := s.nav.endTransition k }

end Step

/-! ## What an answer does -/

theorem signInDone_disposed {s : App} {k : Nat} (h : s.loginAt k = none) (req : SignInRequest)
    (data : Option Fields) : s.signInDone k req data = s.nav := by
  rw [signInDone, h]

/-- The fields of the login page once the account has been granted. -/
def signedInFields (s : App) (f : LoginFields) (account : Account) : LoginFields :=
  if s.nav.routes.isEmpty then (f.signedIn account).refused "Sign-in failed: $e".toList
  else f.signedIn account

theorem signInDone_granted {s : App} {k : Nat} {f : LoginFields} {req : SignInRequest}
    {data : Option Fields} {account : Account} (h : s.loginAt k = some f)
    (hgrant : req.grant (.ok data) = some account) :
    s.signInDone k req data =
      (s.nav.update k fun _ => .loginPage (s.signedInFields f account)).pushReplacement
        (.alertsPage account) := by
  have hmounted : ({ fields := f } : Frame LoginFields).mounted = true := rfl
  by_cases hroutes : s.nav.routes = []
  · have hempty : s.nav.routes.isEmpty = true := by simpa using hroutes
    rw [signInDone, h, navigation, if_pos hempty, signedInFields, if_pos hempty,
      Navigator.pushReplacement_nil]
    · simp only [LoginPage.run_signInDone_stranded hmounted hgrant]
    · rw [Navigator.update_routes, hroutes]
      rfl
  · have hempty : ¬ s.nav.routes.isEmpty = true := by simpa using hroutes
    rw [signInDone, h, navigation, if_neg hempty, signedInFields, if_neg hempty]
    simp only [LoginPage.run_signInDone_granted hmounted hgrant]

theorem signInDone_refused {s : App} {k : Nat} {f : LoginFields} {req : SignInRequest}
    {data : Option Fields} (h : s.loginAt k = some f) (hgrant : req.grant (.ok data) = none) :
    ∃ message, s.signInDone k req data = s.nav.update k fun _ => .loginPage (f.refused message) := by
  have hmounted : ({ fields := f } : Frame LoginFields).mounted = true := rfl
  obtain ⟨message, hmessage⟩ := SignInRequest.exists_refusal hgrant s.navigation
  refine ⟨message, ?_⟩
  rw [signInDone, h]
  simp only [LoginPage.run_signInDone_refused hmounted hgrant hmessage]

theorem signUpDone_disposed {s : App} {k : Nat} (h : s.signUpAt k = none) (result : Option Fields) :
    s.signUpDone k result = s.nav := by
  rw [signUpDone, h]

theorem signUpDone_mounted {s : App} {k : Nat} {f : SignUpFields} (h : s.signUpAt k = some f)
    (result : Option Fields) :
    ∃ f', s.signUpDone k result =
      if SignUpPage.succeeded result then (s.nav.update k fun _ => .signUpPage f').pop
      else s.nav.update k fun _ => .signUpPage f' := by
  refine ⟨{ f with snackBars := f.snackBars ++ [SignUpPage.snackBarOf result] }, ?_⟩
  have hmounted : ({ fields := f } : Frame SignUpFields).mounted = true := rfl
  rw [signUpDone, h]
  simp only [SignUpPage.run_signUpDone hmounted]
  cases SignUpPage.succeeded result <;> rfl

theorem signInDone_cases (s : App) (k : Nat) (req : SignInRequest) (data : Option Fields) :
    (s.loginAt k = none ∧ s.signInDone k req data = s.nav) ∨
    (∃ f f', s.loginAt k = some f ∧ req.grant (.ok data) = none ∧ f.SameLatest f' ∧
      s.signInDone k req data = s.nav.update k fun _ => .loginPage f') ∨
    ∃ f f' account, s.loginAt k = some f ∧ req.grant (.ok data) = some account ∧
      s.signInDone k req data =
        (s.nav.update k fun _ => .loginPage f').pushReplacement (.alertsPage account) := by
  cases hat : s.loginAt k with
  | none => exact Or.inl ⟨rfl, signInDone_disposed hat req data⟩
  | some f =>
    cases hgrant : req.grant (.ok data) with
    | none =>
      obtain ⟨message, hnav⟩ := signInDone_refused hat hgrant
      exact Or.inr (Or.inl ⟨f, _, rfl, rfl, .refused (.refl f) message, hnav⟩)
    | some account => exact Or.inr (Or.inr ⟨f, _, account, rfl, rfl, signInDone_granted hat hgrant⟩)

theorem signUpDone_cases (s : App) (k : Nat) (result : Option Fields) :
    (s.signUpAt k = none ∧ s.signUpDone k result = s.nav) ∨
    (∃ f f', s.signUpAt k = some f ∧ SignUpPage.succeeded result = true ∧
      s.signUpDone k result = (s.nav.update k fun _ => .signUpPage f').pop) ∨
    ∃ f f', s.signUpAt k = some f ∧ SignUpPage.succeeded result = false ∧
      s.signUpDone k result = s.nav.update k fun _ => .signUpPage f' := by
  cases hat : s.signUpAt k with
  | none => exact Or.inl ⟨rfl, signUpDone_disposed hat result⟩
  | some f =>
    obtain ⟨f', hnav⟩ := signUpDone_mounted hat result
    cases hok : SignUpPage.succeeded result with
    | true => exact Or.inr (Or.inl ⟨f, f', rfl, rfl, hnav.trans (if_pos hok)⟩)
    | false => exact Or.inr (Or.inr ⟨f, f', rfl, rfl, hnav.trans (if_neg (by simp [hok]))⟩)

/-! ## What a step does -/

section Inversion

variable {K : Casing} {s t : App}

theorem step_tap {tap : Tap} (h : step K s (.tap tap) = some t) :
    ∃ r c, s.top? = some r ∧ r.page.onTap K tap = some c ∧ t = { s with nav := c.run s.nav } := by
  obtain ⟨r, hr, h⟩ := Option.bind_eq_some_iff.mp h
  obtain ⟨c, hc, rfl⟩ := Option.map_eq_some_iff.mp h
  exact ⟨r, c, hr, hc, rfl⟩

theorem step_login {tap : LoginTap} (h : step K s (.login tap) = some t) :
    ∃ r f f', s.top? = some r ∧ r.page.login? = some f ∧ f.SameLatest f' ∧
      t = { s with
        nav := s.nav.update r.key fun _ => .loginPage f'
        signIns := s.signIns ++
          if tap = .signIn then [⟨r.key, LoginPage.requestOf K f⟩] else [] } := by
  obtain ⟨r, hr, h⟩ := Option.bind_eq_some_iff.mp h
  obtain ⟨f, hf, h⟩ := Option.bind_eq_some_iff.mp h
  obtain ⟨hdl, hhdl, rfl⟩ := Option.map_eq_some_iff.mp h
  obtain ⟨f', hrun, hsame⟩ := loginPage_tap hhdl
  refine ⟨r, f, f', hr, hf, hsame, ?_⟩
  rw [loginTapped, hrun]
  by_cases hsign : tap = .signIn
  · simp only [started, if_pos hsign]
    rfl
  · simp only [started, if_neg hsign]
    rfl

theorem step_signUp {tap : SignUpTap} (h : step K s (.signUp tap) = some t) :
    ∃ r f f', s.top? = some r ∧ r.page.signUp? = some f ∧
      t = { s with
        nav := s.nav.update r.key fun _ => .signUpPage f'
        signUps := s.signUps ++
          if tap = .signUp ∧ f.mobile.trim ≠ [] then [⟨r.key, SignUpPage.requestOf f⟩]
          else [] } := by
  obtain ⟨r, hr, h⟩ := Option.bind_eq_some_iff.mp h
  obtain ⟨f, hf, h⟩ := Option.bind_eq_some_iff.mp h
  obtain ⟨hdl, hhdl, rfl⟩ := Option.map_eq_some_iff.mp h
  obtain ⟨f', hrun⟩ := signUpPage_tap hhdl
  refine ⟨r, f, f', hr, hf, ?_⟩
  rw [signUpTapped, hrun]
  by_cases hsign : tap = .signUp ∧ f.mobile.trim ≠ []
  · simp only [started, if_pos hsign]
    rfl
  · simp only [started, if_neg hsign]
    rfl

theorem step_back (h : step K s .back = some t) :
    1 < s.nav.routes.length ∧ t = { s with nav := s.nav.pop } := by
  rw [step] at h
  split at h
  · exact ⟨‹_›, (Option.some.inj h).symm⟩
  · cases h

theorem step_signInAnswer {i : Nat} {o : HttpOutcome} (h : step K s (.signInAnswer i o) = some t) :
    ∃ flight, s.signIns[i]? = some flight ∧ t = { s with
      nav := s.signInDone flight.page flight.req (GraphQLService.signin o)
      signIns := s.signIns.eraseIdx i
      answers := s.answers ++ (GraphQLService.signin o).toList.map (flight.req, ·) } := by
  obtain ⟨flight, hflight, rfl⟩ := Option.map_eq_some_iff.mp h
  exact ⟨flight, hflight, rfl⟩

theorem step_signUpAnswer {i : Nat} {o : HttpOutcome} (h : step K s (.signUpAnswer i o) = some t) :
    ∃ flight, s.signUps[i]? = some flight ∧ t = { s with
      nav := s.signUpDone flight.page (GraphQLService.signup o)
      signUps := s.signUps.eraseIdx i } := by
  obtain ⟨flight, hflight, rfl⟩ := Option.map_eq_some_iff.mp h
  exact ⟨flight, hflight, rfl⟩

theorem step_transitionEnd {k : Nat} (h : step K s (.transitionEnd k) = some t) :
    t = { s with nav := s.nav.endTransition k } :=
  (Option.some.inj h).symm

theorem top?_mem {r : Route Page} (h : s.top? = some r) : r ∈ s.nav.routes :=
  List.mem_of_head? h

theorem routes_ne_nil {r : Route Page} (h : s.top? = some r) : s.nav.routes ≠ [] :=
  List.ne_nil_of_mem (top?_mem h)

/-! ## Keys -/

theorem loginAt_mem {k : Nat} {f : LoginFields} (h : s.loginAt k = some f) :
    ∃ r ∈ s.nav.mountedRoutes, r.key = k ∧ r.page.login? = some f := by
  obtain ⟨r, hr, hf⟩ := Option.bind_eq_some_iff.mp h
  exact ⟨r, List.mem_of_find?_eq_some hr, by simpa using List.find?_some hr, hf⟩

/-- The action answers a sign-in of the page under a key. -/
def Answers (s : App) (a : Action) (k : Nat) : Prop :=
  ∃ i o flight, a = .signInAnswer i o ∧ s.signIns[i]? = some flight ∧ flight.page = k

/-- All that one action can do to the stack.  The answers to a sign-in and to a
sign-up that end in a snack bar or an error only rebuild a form. -/
inductive NavStep (K : Casing) (s : App) (a : Action) : Navigator Page → Prop where
  | same : NavStep K s a s.nav
  | tapped {tap : Tap} {r : Route Page} {c : NavCall} (ha : a = .tap tap)
      (hr : s.top? = some r) (hc : r.page.onTap K tap = some c) : NavStep K s a (c.run s.nav)
  | loginForm {r : Route Page} {f f' : LoginFields} (hr : r ∈ s.nav.mountedRoutes)
      (hf : r.page.login? = some f) (hsame : f.SameLatest f') :
      NavStep K s a (s.nav.update r.key fun _ => .loginPage f')
  | granted {i : Nat} {o : HttpOutcome} {flight : Flight SignInRequest} {r : Route Page}
      {f f' : LoginFields} {account : Account} (ha : a = .signInAnswer i o)
      (hflight : s.signIns[i]? = some flight) (hr : r ∈ s.nav.mountedRoutes)
      (hkey : flight.page = r.key) (hf : r.page.login? = some f)
      (hgrant : flight.req.grant (.ok (GraphQLService.signin o)) = some account) :
      NavStep K s a
        ((s.nav.update r.key fun _ => .loginPage f').pushReplacement (.alertsPage account))
  | signUpForm (k : Nat) (f : SignUpFields) : NavStep K s a (s.nav.update k fun _ => .signUpPage f)
  | signedUp (k : Nat) (f : SignUpFields) :
      NavStep K s a (s.nav.update k fun _ => .signUpPage f).pop
  | back : NavStep K s a s.nav.pop
  | transitionEnd (k : Nat) : NavStep K s a (s.nav.endTransition k)

theorem step_navStep {a : Action} (h : step K s a = some t) : NavStep K s a t.nav := by
  cases a with
  | tap tap =>
    obtain ⟨r, c, hr, hc, rfl⟩ := step_tap h
    exact .tapped rfl hr hc
  | login tap =>
    obtain ⟨r, f, f', hr, hf, hsame, rfl⟩ := step_login h
    exact .loginForm (List.mem_append_left _ (top?_mem hr)) hf hsame
  | signUp tap =>
    obtain ⟨r, f, f', -, -, rfl⟩ := step_signUp h
    exact .signUpForm r.key f'
  | back =>
    obtain ⟨-, rfl⟩ := step_back h
    exact .back
  | signInAnswer i o =>
    obtain ⟨flight, hflight, rfl⟩ := step_signInAnswer h
    show NavStep K s _ (s.signInDone flight.page flight.req (GraphQLService.signin o))
    rcases s.signInDone_cases flight.page flight.req (GraphQLService.signin o) with
      ⟨-, hnav⟩ | ⟨f, f', hat, -, hsame, hnav⟩ | ⟨f, f', account, hat, hgrant, hnav⟩
    · rw [hnav]
      exact .same
    · obtain ⟨r, hr, hkey, hf⟩ := loginAt_mem hat
      rw [hnav, ← hkey]
      exact .loginForm hr hf hsame
    · obtain ⟨r, hr, hkey, hf⟩ := loginAt_mem hat
      rw [hnav, ← hkey]
      exact .granted rfl hflight hr hkey.symm hf hgrant
  | signUpAnswer i o =>
    obtain ⟨flight, -, rfl⟩ := step_signUpAnswer h
    show NavStep K s _ (s.signUpDone flight.page (GraphQLService.signup o))
    rcases s.signUpDone_cases flight.page (GraphQLService.signup o) with
      ⟨-, hnav⟩ | ⟨f, f', -, -, hnav⟩ | ⟨f, f', -, -, hnav⟩
    · rw [hnav]
      exact .same
    · rw [hnav]
      exact .signedUp flight.page f'
    · rw [hnav]
      exact .signUpForm flight.page f'
  | transitionEnd k =>
    rw [step_transitionEnd h]
    exact .transitionEnd k

/-- A property that no change of pages touches but those of the two forms is kept
by a step when these keep it.  Only an answer changes what a login page
remembers. -/
theorem NavStep.stable {I : Navigator Page → Prop} (hI : Navigator.Stable I) {a : Action}
    {n : Navigator Page} (h : NavStep K s a n) (hs : I s.nav)
    (hlogin : ∀ r ∈ s.nav.mountedRoutes, ∀ f f', r.page.login? = some f →
      f.SameLatest f' ∨ s.Answers a r.key → I (s.nav.update r.key fun _ => .loginPage f'))
    (hsignUp : ∀ k f, I (s.nav.update k fun _ => .signUpPage f)) : I n := by
  cases h with
  | same => exact hs
  | tapped ha hr hc => exact NavCall.run_stable hI hs _
  | loginForm hr hf hsame => exact hlogin _ hr _ _ hf (Or.inl hsame)
  | granted ha hflight hr hkey hf hgrant =>
    exact hI.pushReplacement _ _ (hlogin _ hr _ _ hf (Or.inr ⟨_, _, _, ha, hflight, hkey⟩))
  | signUpForm k f => exact hsignUp k f
  | signedUp k f => exact hI.pop _ (hsignUp k f)
  | back => exact hI.pop _ hs
  | transitionEnd k => exact hI.endTransition _ k hs

theorem step_wellKeyed {a : Action} (hs : s.nav.WellKeyed) (h : step K s a = some t) :
    t.nav.WellKeyed :=
  (step_navStep h).stable Navigator.wellKeyed_stable hs (fun _ _ _ _ _ _ => hs.update _ _)
    fun _ _ => hs.update _ _

theorem loginAt_eq (hs : s.nav.WellKeyed) {r : Route Page} (hr : r ∈ s.nav.mountedRoutes) :
    s.loginAt r.key = r.page.login? := by
  rw [loginAt, hs.find?_eq hr]
  rfl

end Inversion

end App

end SurveilOne
