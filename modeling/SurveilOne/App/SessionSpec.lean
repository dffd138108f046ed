import SurveilOne.App.Rooted
import SurveilOne.Refinement

/-!
# What the app is for

Seen from afar the app is signed out or in the session of one account.  An answered
sign-in opens the session, the Sign Out button ends it, and no session follows another
without a sign-out in between.  This is `Session.step`.

`follows_session` says which runs of the app are runs of this machine: those without the
two slips of `GrantedOnTop` and `SucceedsAbove`.  While a run follows the machine, every
page on the stack belongs to the session that the machine is in.
-/

namespace SurveilOne

open Dart Flutter

inductive Session where
  | signedOut
  | signedIn (account : Account)

inductive SessionAction where
  | signIn (account : Account)
  | signOut

namespace Session

def step : Session → SessionAction → Option Session
  | signedOut, .signIn account => some (signedIn account)
  | signedIn _, .signOut => some signedOut
  | _, _ => none

def account? : Session → Option Account
  | signedOut => none
  | signedIn account => some account

/-- The stack shows the session: its first page is at the bottom, and every page
belongs to it. -/
def Shown (s : App) : Session → Prop
  | signedOut => s.nav.Bottom (·.login? ≠ none) ∧ s.nav.All Page.SignedOut
  | signedIn account => s.nav.Bottom (· = .alertsPage account) ∧ s.nav.All (Page.Of account)

theorem Shown.rooted {s : App} {v : Session} (h : Shown s v) : s.Rooted := by
  cases v with
  | signedOut =>
    obtain ⟨⟨r, hr, hlogin⟩, -⟩ := h
    exact ⟨r, hr, Or.inl hlogin⟩
  | signedIn account =>
    obtain ⟨⟨r, hr, hpage⟩, -⟩ := h
    exact ⟨r, hr, Or.inr ⟨account, hpage⟩⟩

theorem account?_inj {v v' : Session} (h : v.account? = v'.account?) : v = v' := by
  cases v <;> cases v' <;> cases h <;> rfl

/-- The session is that of the page at the bottom. -/
theorem Shown.bottom {s : App} {v : Session} (h : Shown s v) :
    s.nav.bottom? Page.session? = some v.account? := by
  cases v with
  | signedOut =>
    obtain ⟨⟨r, hr, -⟩, hout⟩ := h
    rw [Navigator.bottom?, hr, Option.map_some, (hout r (List.mem_of_getLast? hr)).session]
    rfl
  | signedIn account =>
    obtain ⟨⟨r, hr, hpage⟩, -⟩ := h
    rw [Navigator.bottom?, hr, Option.map_some, hpage]
    rfl

end Session

namespace App

/-- The actions that are to open or to end a session. -/
def sees (s : App) : Action → Option SessionAction
  | .tap .signOut => some .signOut
  | .signInAnswer i o =>
    s.signIns[i]?.bind fun flight => (s.loginAt flight.page).bind fun _ =>
      (flight.req.grant (.ok (GraphQLService.signin o))).map .signIn
  | _ => none

/-- A step without the two slips. -/
def KeepsSession (s : App) (a : Action) (t : App) : Prop :=
  GrantedOnTop s a t ∧ SucceedsAbove s a t

structure SpecInv (s : App) : Prop where
  session : s.SessionInv
  rooted : s.Rooted

section Steps

variable {K : Casing} {s t : App}

theorem SpecInv.rootedInv (hs : s.SpecInv) : s.RootedInv := ⟨hs.session.loading.keyed, hs.rooted⟩

theorem specInv_step {a : Action} (hs : s.SpecInv) (hc : KeepsSession s a t)
    (h : step K s a = some t) : t.SpecInv :=
  ⟨sessionInv_step hs.session hc.1 h, hs.rootedInv.rooted_step hc.2 h⟩

/-- Under the invariants the stack shows a session. -/
theorem SpecInv.shown (hs : s.SpecInv) : ∃ v, Session.Shown s v := by
  obtain ⟨r, hr, hroot⟩ := hs.rooted
  have hmem := List.mem_of_getLast? hr
  rcases hs.session.session with hout | ⟨account, -, hof⟩
  · refine ⟨.signedOut, ⟨r, hr, ?_⟩, hout⟩
    rcases hroot with hlogin | ⟨account, hpage⟩
    · exact hlogin
    · have hsession := (hout r hmem).session
      rw [hpage] at hsession
      cases hsession
  · refine ⟨.signedIn account, ⟨r, hr, ?_⟩, hof⟩
    rcases hroot with hlogin | ⟨account', hpage⟩
    · exact absurd (hof r hmem).login hlogin
    · have hsame := (hof r hmem).session account' (by rw [hpage]; rfl)
      rw [hpage, hsame]

/-! ## Steps that are not seen -/

/-- A login page that is rewritten stays one. -/
theorem bottom_loginForm (hs : s.nav.WellKeyed) {r : Route Page} {f : LoginFields}
    (hr : r ∈ s.nav.mountedRoutes) (hf : r.page.login? = some f) (f' : LoginFields) :
    (s.nav.update r.key fun _ => .loginPage f').bottom? Page.session? =
      s.nav.bottom? Page.session? := by
  refine Navigator.bottom?_update fun r' hr' hk => ?_
  have hlogin : r'.page.login? = some f := by
    rw [← loginAt_eq hs (List.mem_append_left _ hr'), hk, loginAt_eq hs hr, hf]
  revert hlogin
  cases r'.page <;> intro hlogin <;> cases hlogin
  rfl

theorem bottom_signUpForm (hs : s.nav.WellKeyed) {r : Route Page} {f : SignUpFields}
    (hr : r ∈ s.nav.mountedRoutes) (hf : r.page.signUp? = some f) (f' : SignUpFields) :
    (s.nav.update r.key fun _ => .signUpPage f').bottom? Page.session? =
      s.nav.bottom? Page.session? := by
  refine Navigator.bottom?_update fun r' hr' hk => ?_
  have hsignUp : r'.page.signUp? = some f := by
    rw [← signUpAt_eq hs (List.mem_append_left _ hr'), hk, signUpAt_eq hs hr, hf]
  revert hsignUp
  cases r'.page <;> intro hsignUp <;> cases hsignUp
  rfl

theorem SpecInv.bottom_tapped (hs : s.SpecInv) {r : Route Page} {tap : Tap} {c : NavCall}
    (hr : s.top? = some r) (hc : r.page.onTap K tap = some c) (htap : tap ≠ .signOut) :
    (c.run s.nav).bottom? Page.session? = s.nav.bottom? Page.session? := by
  have hne := routes_ne_nil hr
  have hmore := hs.rooted.length_ne_one hr hc
  cases c with
  | push q => exact Navigator.bottom?_push hne q
  | pushReplacement q =>
    have hlong := hmore fun _ hq => by cases hq
    have hpos := List.length_pos_iff.mpr hne
    exact Navigator.bottom?_pushReplacement (by omega) q
  | pushAndRemoveUntil q => exact absurd (Page.onTap_pushAndRemoveUntil hc).1 htap
  | pop => exact Navigator.bottom?_pop (hmore fun _ hq => by cases hq)

theorem sees_tap {tap : Tap} (h : tap ≠ .signOut) : s.sees (.tap tap) = none := by
  cases tap <;> first | rfl | exact absurd rfl h

theorem sees_signInAnswer {i : Nat} {o : HttpOutcome} {flight : Flight SignInRequest}
    (hflight : s.signIns[i]? = some flight) :
    s.sees (.signInAnswer i o) = (s.loginAt flight.page).bind fun _ =>
      (flight.req.grant (.ok (GraphQLService.signin o))).map .signIn := by
  rw [sees, hflight, Option.bind_some]

/-! ## The machine takes every step -/

/-- The session stays when nothing is seen and the bottom stays. -/
theorem exec_sees_none {a : Action} {v v' : Session} (hv : Session.Shown s v)
    (hv' : Session.Shown t v') (hsees : s.sees a = none)
    (hbottom : t.nav.bottom? Page.session? = s.nav.bottom? Page.session?) :
    Runs.exec Session.step v (s.sees a).toList = some v' := by
  have hsame : v = v' :=
    Session.account?_inj (Option.some.inj (hv.bottom.symm.trans (hbottom.symm.trans hv'.bottom)))
  rw [hsees, hsame]
  rfl

/-- Sign Out is on a page of the session that it ends. -/
theorem exec_sees_signOut {r : Route Page} {c : NavCall} {v v' : Session}
    (hv : Session.Shown s v) (hr : s.top? = some r) (hc : r.page.onTap K .signOut = some c)
    (hv' : Session.Shown { s with nav := c.run s.nav } v') :
    Runs.exec Session.step v (s.sees (.tap .signOut)).toList = some v' := by
  cases hpage : r.page with
  | accountPage account =>
    rw [hpage] at hc
    cases hc
    cases v with
    | signedOut =>
      have hnone := (hv.2 r (top?_mem hr)).session
      rw [hpage] at hnone
      cases hnone
    | signedIn account' =>
      have hout : v' = .signedOut := Session.account?_inj (Option.some.inj hv'.bottom.symm)
      rw [hout]
      rfl
  | _ =>
    rw [hpage] at hc
    cases hc

/-- A sign-in is granted where nobody is signed in. -/
theorem SpecInv.exec_sees_granted (hs : s.SpecInv) {i : Nat} {o : HttpOutcome}
    {flight : Flight SignInRequest} {f f' : LoginFields} {account : Account} {v v' : Session}
    (hv : Session.Shown s v) (hc : GrantedOnTop s (.signInAnswer i o) t)
    (hflight : s.signIns[i]? = some flight) (hat : s.loginAt flight.page = some f)
    (hgrant : flight.req.grant (.ok (GraphQLService.signin o)) = some account)
    (hnav : t.nav =
      (s.nav.update flight.page fun _ => .loginPage f').pushReplacement (.alertsPage account))
    (hv' : Session.Shown t v') :
    Runs.exec Session.step v (s.sees (.signInAnswer i o)).toList = some v' := by
  obtain ⟨r, hr, hkey, hf⟩ := loginAt_mem hat
  have hone : s.nav.routes = [r] :=
    hs.session.granted_routes hc hflight hr hkey.symm hf hgrant hs.rooted.ne_nil
  have hmem : r ∈ s.nav.routes := by
    rw [hone]
    exact List.mem_cons_self
  have hlength : (s.nav.update flight.page fun _ => .loginPage f').routes.length = 1 := by
    rw [Navigator.update_routes, List.length_map, hone]
    rfl
  have hin : v' = .signedIn account := by
    refine Session.account?_inj (Option.some.inj ?_)
    rw [← hv'.bottom, hnav, Navigator.bottom?_pushReplacement_one hlength]
    rfl
  cases v with
  | signedOut =>
    rw [sees_signInAnswer hflight, hat, Option.bind_some, hgrant, hin]
    rfl
  | signedIn account' =>
    have hnone := (hv.2 r hmem).login
    rw [hf] at hnone
    cases hnone

/-- Every step is matched by what is seen of it. -/
theorem SpecInv.sync (hs : s.SpecInv) {a : Action} {v : Session} (hv : Session.Shown s v)
    (hc : KeepsSession s a t) (h : step K s a = some t) :
    ∃ v', Runs.exec Session.step v (s.sees a).toList = some v' ∧ Session.Shown t v' := by
  obtain ⟨v', hv'⟩ := (specInv_step hs hc h).shown
  have hkeyed := hs.session.loading.keyed
  refine ⟨v', ?_, hv'⟩
  cases a with
  | tap tap =>
    obtain ⟨r, c, hr, htap, rfl⟩ := step_tap h
    by_cases hout : tap = .signOut
    · subst hout
      exact exec_sees_signOut hv hr htap hv'
    · exact exec_sees_none hv hv' (sees_tap hout) (hs.bottom_tapped hr htap hout)
  | login tap =>
    obtain ⟨r, f, f', hr, hf, -, rfl⟩ := step_login h
    exact exec_sees_none hv hv' rfl (bottom_loginForm hkeyed (top?_mounted hr) hf f')
  | signUp tap =>
    obtain ⟨r, f, f', hr, hf, rfl⟩ := step_signUp h
    exact exec_sees_none hv hv' rfl (bottom_signUpForm hkeyed (top?_mounted hr) hf f')
  | back =>
    obtain ⟨hlong, rfl⟩ := step_back h
    exact exec_sees_none hv hv' rfl (Navigator.bottom?_pop (by omega))
  | signInAnswer i o =>
    obtain ⟨flight, hflight, rfl⟩ := step_signInAnswer h
    rcases s.signInDone_cases flight.page flight.req (GraphQLService.signin o) with
      ⟨hat, hnav⟩ | ⟨f, f', hat, hnone, -, hnav⟩ | ⟨f, f', account, hat, hgrant, hnav⟩
    · refine exec_sees_none hv hv' ?_ (congrArg _ hnav)
      rw [sees_signInAnswer hflight, hat]
      rfl
    · obtain ⟨r, hr, hkey, hf⟩ := loginAt_mem hat
      refine exec_sees_none hv hv' ?_ ?_
      · rw [sees_signInAnswer hflight, hat, Option.bind_some, hnone]
        rfl
      · show (s.signInDone flight.page flight.req (GraphQLService.signin o)).bottom? _ = _
        rw [hnav, ← hkey]
        exact bottom_loginForm hkeyed hr hf f'
    · exact hs.exec_sees_granted hv hc.1 hflight hat hgrant hnav hv'
  | signUpAnswer i o =>
    obtain ⟨flight, hflight, rfl⟩ := step_signUpAnswer h
    refine exec_sees_none hv hv' rfl ?_
    show (s.signUpDone flight.page (GraphQLService.signup o)).bottom? _ = _
    rcases s.signUpDone_cases flight.page (GraphQLService.signup o) with
      ⟨-, hnav⟩ | ⟨f, f', hat, hok, hnav⟩ | ⟨f, f', hat, -, hnav⟩
    · rw [hnav]
    · obtain ⟨r, hr, hkey, hf⟩ := signUpAt_mem hat
      have hlong := hc.2 i o flight rfl hflight hok (hat ▸ Option.some_ne_none f)
      rw [hnav, Navigator.bottom?_pop, ← hkey]
      · exact bottom_signUpForm hkeyed hr hf f'
      · rw [Navigator.update_routes, List.length_map]
        omega
    · obtain ⟨r, hr, hkey, hf⟩ := signUpAt_mem hat
      rw [hnav, ← hkey]
      exact bottom_signUpForm hkeyed hr hf f'
  | transitionEnd k =>
    obtain rfl := step_transitionEnd h
    exact exec_sees_none hv hv' rfl rfl

/-! ## No other step is matched -/

/-- An account that is granted over a login page does not get to the bottom. -/
theorem grantedOnTop_of_exec {a : Action} {v v' : Session} (hs : s.nav.WellKeyed)
    (hv : Session.Shown s v) (h : step K s a = some t)
    (hexec : Runs.exec Session.step v (s.sees a).toList = some v') (hv' : Session.Shown t v') :
    GrantedOnTop s a t := by
  rintro i o flight rfl hflight hat hgrant below hbelow
  exfalso
  obtain ⟨f, hf⟩ := Option.ne_none_iff_exists'.mp hat
  obtain ⟨account, haccount⟩ := Option.ne_none_iff_exists'.mp hgrant
  rw [sees_signInAnswer hflight, hf, Option.bind_some, haccount] at hexec
  cases v with
  | signedIn account' => cases hexec
  | signedOut =>
    cases hexec
    obtain ⟨flight', hflight', rfl⟩ := step_signInAnswer h
    obtain rfl := Option.some.inj (hflight'.symm.trans hflight)
    have hlong : 1 < s.nav.routes.length := by
      have hpos := List.length_pos_of_mem hbelow
      rw [List.length_tail] at hpos
      omega
    rcases s.signInDone_cases flight'.page flight'.req (GraphQLService.signin o) with
      ⟨hnone, -⟩ | ⟨-, -, -, hnone, -⟩ | ⟨f₀, f', account', hat', -, hnav⟩
    · exact hat hnone
    · exact hgrant hnone
    · obtain ⟨r, hr, hkey, hlogin⟩ := loginAt_mem hat'
      have hbottom : (s.signInDone flight'.page flight'.req (GraphQLService.signin o)).bottom?
          Page.session? = some (some account) := hv'.bottom
      rw [hnav, Navigator.bottom?_pushReplacement, ← hkey, bottom_loginForm hs hr hlogin f',
        hv.bottom] at hbottom
      · cases hbottom
      · rwa [Navigator.update_routes, List.length_map]

end Steps

theorem initial_specInv : initial.SpecInv := ⟨initial_sessionInv, initial_rootedInv.rooted⟩

theorem initial_shown : Session.Shown initial .signedOut :=
  ⟨.home (Option.some_ne_none _), .home (Page.signedOut_loginPage (Int.le_refl 0))⟩

/-- A run of the app follows the machine, with every page on the stack in the session the
machine is in, exactly when no granted sign-in is handled over a login page and no
success of a sign-up pops the last page. -/
theorem follows_session (K : Casing) (as : List Action) :
    Runs.Follows (step K) Session.step sees Session.Shown initial .signedOut as ↔
      Runs.AtEachStep (step K) KeepsSession initial as :=
  Runs.follows_iff (I := SpecInv) (C := KeepsSession)
    (fun _ _ _ hs hc h => specInv_step (K := K) hs hc h)
    (fun _ _ _ _ hs hv hc h => hs.sync (K := K) hv hc h)
    (fun _ _ _ _ _ hs hv h hexec hv' =>
      ⟨grantedOnTop_of_exec (K := K) hs.session.loading.keyed hv h hexec hv',
        hv'.rooted.succeedsAbove h⟩)
    initial_specInv initial_shown as

end App

end SurveilOne
