import SurveilOne.App.Run
import SurveilOne.App.Screens
import SurveilOne.Flutter.Mount

/-!
# The app with its running pages

A `Host` is an `App` together with the screens of its routes.  A step is an action
of the app on what the topmost screen shows, a tap that the topmost screen answers
itself, or an answer to an operation of any screen, mounted or not.  Each step
happens at an instant, at which the clock is read.

`Moves` says what a step is made of: the app moves on and the framework creates and
disposes screens, or one screen takes a step of its own.
-/

namespace SurveilOne

open Dart Flutter

structure Host where
  app : App
  /-- By the keys of the routes.  Disposed screens stay. -/
  screens : Nat → Option Screen

inductive HostAction where
  | app (a : Action)
  /-- A tap on the tile of an alert. -/
  | alertTile (i : Nat)
  | screen (t : ScreenTap)
  | answer (k : Nat) (a : ScreenAnswer)

namespace Host

def initial : Host := { app := .initial, screens := fun _ => none }

/-- The list a detail page looks at, as it is now. -/
def rows (s : Host) : AlertSource → List AlertRow
  | .page k =>
    match s.screens k with
    | some (.alerts _ _ live) => live.frame.fields.alerts
    | _ => []
  | .copy rows => rows

def topScreen? (s : Host) : Option (Nat × Screen) :=
  s.app.top?.bind fun r => (s.screens r.key).map fun c => (r.key, c)

def setScreen (s : Host) (k : Nat) (c : Screen) : Host :=
  { s with screens := Function.update s.screens k (some c) }

/-- The app has moved on to `app`. -/
def moved (s : Host) (clock : Clock) (detail : Option (AlertSource × Nat)) (app : App) : Host :=
  { app := app
    screens := s.app.nav.mount (Screen.opened clock detail) Screen.disposed app.nav s.screens }

/-- The control of an action is on the topmost screen. -/
def offers (P : Platform) (s : Host) : Action → Bool
  | .tap t => Screen.offers P s.rows (s.topScreen?.map (·.2)) t
  | _ => true

def step (P : Platform) (s : Host) (a : DateTime × HostAction) : Option Host :=
  let clock := P.clock a.1
  match a.2 with
  | .app b =>
    if s.offers P b then (App.step P.casing s.app b).map (s.moved clock none) else none
  | .alertTile i =>
    s.topScreen?.bind fun top => (top.2.tile top.1 i).bind fun detail =>
      (App.step P.casing s.app (.tap .alert)).map (s.moved clock (some detail))
  | .screen t =>
    s.topScreen?.bind fun top => (top.2.onTap clock s.rows t).bind fun c =>
      match t.opens with
      | none => some (s.setScreen top.1 c)
      | some tap =>
        (App.step P.casing s.app (.tap tap)).map ((s.setScreen top.1 c).moved clock none)
  | .answer k answer =>
    (s.screens k).bind fun c => (c.onAnswer clock answer).map (s.setScreen k)

/-! ## What a step is made of -/

inductive Moves (P : Platform) (s : Host) : Host → Prop where
  | app {b : Action} {app : App} {now : DateTime} (h : App.step P.casing s.app b = some app)
      (hb : b ≠ .tap .alert) : Moves P s (s.moved (P.clock now) none app)
  /-- The `i`-th alert of the topmost page is opened. -/
  | detail {r : Route Page} {c : Screen} {i : Nat} {detail : AlertSource × Nat} {app : App}
      {now : DateTime} (hr : s.app.top? = some r) (hc : s.screens r.key = some c)
      (htile : c.tile r.key i = some detail)
      (h : App.step P.casing s.app (.tap .alert) = some app) :
      Moves P s (s.moved (P.clock now) (some detail) app)
  | screen {k : Nat} {c c' : Screen} (hc : s.screens k = some c) (h : c.Becomes P s.rows c') :
      Moves P s (s.setScreen k c')

theorem offers_tap_alert (P : Platform) (s : Host) : s.offers P (.tap .alert) = false := rfl

theorem topScreen?_eq_some {s : Host} {k : Nat} {c : Screen} (h : s.topScreen? = some (k, c)) :
    ∃ r, s.app.top? = some r ∧ r.key = k ∧ s.screens k = some c := by
  obtain ⟨r, hr, h⟩ := Option.bind_eq_some_iff.mp h
  obtain ⟨c', hc', h⟩ := Option.map_eq_some_iff.mp h
  obtain ⟨rfl, rfl⟩ := Prod.mk.inj h
  exact ⟨r, hr, rfl, hc'⟩

section Step

variable {P : Platform} {s t : Host} {now : DateTime}

theorem step_app {b : Action} (h : step P s (now, .app b) = some t) :
    ∃ app, App.step P.casing s.app b = some app ∧ b ≠ .tap .alert ∧
      t = s.moved (P.clock now) none app := by
  rw [step] at h
  simp only at h
  split at h
  · rename_i hoffers
    obtain ⟨app, happ, rfl⟩ := Option.map_eq_some_iff.mp h
    refine ⟨app, happ, ?_, rfl⟩
    rintro rfl
    rw [offers_tap_alert] at hoffers
    cases hoffers
  · cases h

theorem step_app_offers {b : Action} (h : step P s (now, .app b) = some t) :
    s.offers P b = true := by
  by_contra hoffers
  have hnone : step P s (now, .app b) = none := if_neg hoffers
  rw [hnone] at h
  cases h

theorem step_alertTile {i : Nat} (h : step P s (now, .alertTile i) = some t) :
    ∃ r c detail app, s.app.top? = some r ∧ s.screens r.key = some c ∧
      c.tile r.key i = some detail ∧ App.step P.casing s.app (.tap .alert) = some app ∧
      t = s.moved (P.clock now) (some detail) app := by
  obtain ⟨⟨k, c⟩, htop, h⟩ := Option.bind_eq_some_iff.mp h
  obtain ⟨detail, htile, h⟩ := Option.bind_eq_some_iff.mp h
  obtain ⟨app, happ, rfl⟩ := Option.map_eq_some_iff.mp h
  obtain ⟨r, hr, rfl, hc⟩ := topScreen?_eq_some htop
  exact ⟨r, c, detail, app, hr, hc, htile, happ, rfl⟩

/-- Only the filter icon does more than change the screen. -/
theorem step_screen {tap : ScreenTap} (h : step P s (now, .screen tap) = some t) :
    ∃ r c c', s.app.top? = some r ∧ s.screens r.key = some c ∧
      c.onTap (P.clock now) s.rows tap = some c' ∧
      (t = s.setScreen r.key c' ∨ ∃ app, App.step P.casing s.app (.tap .filter) = some app ∧
        t = (s.setScreen r.key c').moved (P.clock now) none app) := by
  obtain ⟨⟨k, c⟩, htop, h⟩ := Option.bind_eq_some_iff.mp h
  obtain ⟨c', hc', h⟩ := Option.bind_eq_some_iff.mp h
  obtain ⟨r, hr, rfl, hc⟩ := topScreen?_eq_some htop
  refine ⟨r, c, c', hr, hc, hc', ?_⟩
  cases hopens : tap.opens with
  | none =>
    simp only [hopens] at h
    exact Or.inl (Option.some.inj h).symm
  | some opens =>
    simp only [hopens] at h
    obtain ⟨app, happ, rfl⟩ := Option.map_eq_some_iff.mp h
    obtain rfl : opens = .filter := by
      cases tap with
      | alerts tap => cases tap <;> cases hopens; rfl
      | _ => cases hopens
    exact Or.inr ⟨app, happ, rfl⟩

theorem step_answer {k : Nat} {answer : ScreenAnswer} (h : step P s (now, .answer k answer) = some t) :
    ∃ c c', s.screens k = some c ∧ c.onAnswer (P.clock now) answer = some c' ∧
      t = s.setScreen k c' := by
  obtain ⟨c, hc, h⟩ := Option.bind_eq_some_iff.mp h
  obtain ⟨c', hc', rfl⟩ := Option.map_eq_some_iff.mp h
  exact ⟨c, c', hc, hc', rfl⟩

/-- A step is one move or, for a tap on the filter icon, two. -/
theorem step_moves {a : DateTime × HostAction} (h : step P s a = some t) :
    Moves P s t ∨ ∃ u, Moves P s u ∧ Moves P u t := by
  obtain ⟨now, a⟩ := a
  cases a with
  | app b =>
    obtain ⟨app, happ, hb, rfl⟩ := step_app h
    exact Or.inl (.app happ hb)
  | alertTile i =>
    obtain ⟨r, c, detail, app, hr, hc, htile, happ, rfl⟩ := step_alertTile h
    exact Or.inl (.detail hr hc htile happ)
  | screen tap =>
    obtain ⟨r, c, c', -, hc, hc', rfl | ⟨app, happ, rfl⟩⟩ := step_screen h
    · exact Or.inl (.screen hc (Screen.becomes_of_onTap hc'))
    · exact Or.inr ⟨_, .screen hc (Screen.becomes_of_onTap hc'), .app happ fun hb => nomatch hb⟩
  | answer k answer =>
    obtain ⟨c, c', hc, hc', rfl⟩ := step_answer h
    exact Or.inl (.screen hc (Screen.becomes_of_onAnswer hc'))

/-- What every move keeps, every step keeps. -/
theorem step_of_moves {I : Host → Prop} (hI : ∀ s t, I s → Moves P s t → I t)
    {a : DateTime × HostAction} (hs : I s) (h : step P s a = some t) : I t := by
  rcases step_moves h with h | ⟨u, hu, ht⟩
  · exact hI s t hs h
  · exact hI u t (hI s u hs hu) ht

end Step

/-- A property of every screen after one of them was replaced. -/
theorem forall_setScreen {s : Host} {Q : Nat → Screen → Prop} {k : Nat} {c : Screen}
    (h : ∀ j d, s.screens j = some d → Q j d) (hc : Q k c) :
    ∀ j d, (s.setScreen k c).screens j = some d → Q j d := by
  intro j d hd
  have hd' : Function.update s.screens k (some c) j = some d := hd
  by_cases hj : j = k
  · subst hj
    rw [Function.update_self] at hd'
    exact Option.some.inj hd' ▸ hc
  · rw [Function.update_of_ne hj] at hd'
    exact h j d hd'

end Host

end SurveilOne
