import SurveilOne.App.Session
import SurveilOne.App.SignUps

/-!
# The bottom of the stack

The stack should never be empty, and at its bottom should lie the login page or the
alerts page that a sign-in has opened.  Only the answer to a sign-up can break that:
it pops without looking.
-/

namespace SurveilOne

open Dart Flutter

/-- A page for the bottom of the stack. -/
def Page.IsRoot (p : Page) : Prop := p.login? ≠ none ∨ ∃ account, p = .alertsPage account

/-- Neither of the two pages leaves the stack by a tap. -/
theorem Page.IsRoot.onTap {K : Casing} {p : Page} {t : Tap} {c : NavCall} (hp : p.IsRoot)
    (h : p.onTap K t = some c) : ∃ q, c = .push q := by
  rcases hp with hlogin | ⟨account, rfl⟩
  · obtain ⟨f, hf⟩ := Option.ne_none_iff_exists'.mp hlogin
    exact onTap_login hf h
  · cases t with
    | nav icon => cases icon <;> cases h <;> exact ⟨_, rfl⟩
    | filter => cases h; exact ⟨_, rfl⟩
    | alert => cases h; exact ⟨_, rfl⟩
    | _ => cases h

theorem Page.not_isRoot {p : Page} {f : SignUpFields} (h : p.signUp? = some f) : ¬ p.IsRoot := by
  cases p <;> cases h
  rintro (hlogin | ⟨account, hp⟩)
  · exact hlogin rfl
  · cases hp

namespace App

/-- The stack is not empty, and its bottom is a login or an alerts page. -/
def Rooted (s : App) : Prop := s.nav.Bottom Page.IsRoot

/-- A success that comes while its sign-up page is mounted finds two routes on the
stack. -/
def SucceedsAbove (s : App) (a : Action) (_ : App) : Prop :=
  ∀ i o flight, a = .signUpAnswer i o → s.signUps[i]? = some flight →
    SignUpPage.succeeded (GraphQLService.signup o) = true → s.signUpAt flight.page ≠ none →
    1 < s.nav.routes.length

structure RootedInv (s : App) : Prop where
  keyed : s.nav.WellKeyed
  rooted : s.Rooted

section Steps

variable {K : Casing} {s t : App}

/-- Whatever is not pushed is called from above the bottom. -/
theorem Rooted.length_ne_one (hs : s.Rooted) {r : Route Page} {tap : Tap} {c : NavCall}
    (hr : s.top? = some r) (hc : r.page.onTap K tap = some c) (hne : ∀ q, c ≠ .push q) :
    s.nav.routes.length ≠ 1 := by
  intro hone
  obtain ⟨q, rfl⟩ := (hs.head? hone hr).onTap hc
  exact hne q rfl

theorem Rooted.tapped (hs : s.Rooted) {r : Route Page} {tap : Tap} {c : NavCall}
    (hr : s.top? = some r) (hc : r.page.onTap K tap = some c) : (c.run s.nav).Bottom Page.IsRoot := by
  have hmore := hs.length_ne_one hr hc
  cases c with
  | push q => exact hs.push q
  | pushReplacement q =>
    exact hs.pushReplacement fun hone => absurd hone (hmore fun _ hq => by cases hq)
  | pushAndRemoveUntil q =>
    obtain ⟨-, -, rfl⟩ := Page.onTap_pushAndRemoveUntil hc
    exact .pushAndRemoveUntil (Or.inl (Option.some_ne_none _))
  | pop => exact (Navigator.bottom_pop_iff (hmore fun _ hq => by cases hq)).mpr hs

/-- The bottom stays a login page when its form is rewritten. -/
theorem Rooted.rewritten (hs : s.Rooted) (k : Nat) (f : LoginFields) :
    (s.nav.update k fun _ => .loginPage f).Bottom Page.IsRoot :=
  hs.update fun _ _ _ _ => Or.inl (Option.some_ne_none f)

theorem RootedInv.signUp (hs : s.RootedInv) {r : Route Page} {f f' : SignUpFields}
    (hr : r ∈ s.nav.mountedRoutes) (hf : r.page.signUp? = some f) :
    (s.nav.update r.key fun _ => .signUpPage f').Bottom Page.IsRoot := by
  refine hs.rooted.update fun r' hr' hk hroot => absurd hroot (Page.not_isRoot (f := f) ?_)
  rw [← signUpAt_eq hs.keyed (List.mem_append_left _ hr'), hk, signUpAt_eq hs.keyed hr, hf]

theorem RootedInv.signUpAnswer (hs : s.RootedInv) {k : Nat} {result : Option Fields}
    (hc : SignUpPage.succeeded result = true → s.signUpAt k ≠ none → 1 < s.nav.routes.length) :
    (s.signUpDone k result).Bottom Page.IsRoot := by
  rcases s.signUpDone_cases k result with
    ⟨-, hnav⟩ | ⟨f, f', hat, hok, hnav⟩ | ⟨f, f', hat, -, hnav⟩
  · rw [hnav]
    exact hs.rooted
  · obtain ⟨r, hr, rfl, hf⟩ := signUpAt_mem hat
    have hlong := hc hok (hat ▸ Option.some_ne_none f)
    rw [hnav, Navigator.bottom_pop_iff]
    · exact hs.signUp hr hf
    · rw [Navigator.update_routes, List.length_map]
      omega
  · obtain ⟨r, hr, rfl, hf⟩ := signUpAt_mem hat
    rw [hnav]
    exact hs.signUp hr hf

theorem RootedInv.rooted_step {a : Action} (hs : s.RootedInv) (hc : SucceedsAbove s a t)
    (h : step K s a = some t) : t.Rooted := by
  cases a with
  | tap tap =>
    obtain ⟨r, c, hr, htap, rfl⟩ := step_tap h
    exact hs.rooted.tapped hr htap
  | login tap =>
    obtain ⟨r, f, f', -, -, -, rfl⟩ := step_login h
    exact hs.rooted.rewritten r.key f'
  | signUp tap =>
    obtain ⟨r, f, f', hr, hf, rfl⟩ := step_signUp h
    exact hs.signUp (top?_mounted hr) hf
  | back =>
    obtain ⟨hlong, rfl⟩ := step_back h
    exact (Navigator.bottom_pop_iff (by omega)).mpr hs.rooted
  | signInAnswer i o =>
    obtain ⟨flight, -, rfl⟩ := step_signInAnswer h
    rcases s.signInDone_cases flight.page flight.req (GraphQLService.signin o) with
      ⟨-, hnav⟩ | ⟨f, f', -, -, -, hnav⟩ | ⟨f, f', account, -, -, hnav⟩
    · rw [Rooted, hnav]
      exact hs.rooted
    · rw [Rooted, hnav]
      exact hs.rooted.rewritten _ f'
    · rw [Rooted, hnav]
      exact (hs.rooted.rewritten _ f').pushReplacement fun _ => Or.inr ⟨account, rfl⟩
  | signUpAnswer i o =>
    obtain ⟨flight, hflight, rfl⟩ := step_signUpAnswer h
    exact hs.signUpAnswer (hc i o flight rfl hflight)
  | transitionEnd k =>
    rw [step_transitionEnd h]
    exact hs.rooted

/-- A success with one route on the stack leaves none. -/
theorem Rooted.succeedsAbove {a : Action} (h : step K s a = some t) (ht : t.Rooted) :
    SucceedsAbove s a t := by
  rintro i o flight rfl hflight hok hat
  obtain ⟨flight', hflight', rfl⟩ := step_signUpAnswer h
  obtain rfl := Option.some.inj (hflight'.symm.trans hflight)
  obtain ⟨f, hf⟩ := Option.ne_none_iff_exists'.mp hat
  obtain ⟨f', hnav⟩ := signUpDone_mounted hf (GraphQLService.signup o)
  have hne : (s.signUpDone flight'.page (GraphQLService.signup o)).routes ≠ [] := ht.ne_nil
  rw [hnav, if_pos hok, Navigator.pop_routes, Navigator.update_routes, ← List.map_tail] at hne
  by_contra hshort
  refine hne (List.map_eq_nil_iff.mpr (List.eq_nil_of_length_eq_zero ?_))
  rw [List.length_tail]
  omega

theorem rootedInv_step {a : Action} (hs : s.RootedInv) (hc : SucceedsAbove s a t)
    (h : step K s a = some t) : t.RootedInv :=
  ⟨step_wellKeyed hs.keyed h, hs.rooted_step hc h⟩

end Steps

theorem initial_rootedInv : initial.RootedInv where
  keyed := Navigator.home_wellKeyed _
  rooted := .home (Or.inl (Option.some_ne_none _))

/-- In a run there is always a page on the stack, and a login or an alerts page at its
bottom, exactly when no success of a sign-up meets its mounted page with one route on
the stack. -/
theorem rooted_throughout (K : Casing) (as : List Action) :
    Runs.Throughout (step K) Rooted initial as ↔
      Runs.AtEachStep (step K) SucceedsAbove initial as :=
  Runs.throughout_iff (I := RootedInv) (P := Rooted) (C := SucceedsAbove)
    (fun _ a _ => rootedInv_step (K := K) (a := a)) (fun _ hs => hs.rooted)
    (fun _ a _ _ h ht => ht.succeedsAbove (K := K) (a := a) h) initial_rootedInv as

end App

end SurveilOne
