import SurveilOne.App.Mounted
import SurveilOne.App.Rooted

/-!
# The way out

Whoever is signed in should be able to sign out, wherever the app has got to.  From any
page the back button leads to the bottom of the stack, and from an alerts page at the
bottom the menu leads to the account page and its button, once the menu has loaded.

So the empty stack, which `SucceedsAbove` is about, is the only dead end:
`wayOut_throughout`.
-/

namespace SurveilOne

open Dart Flutter

namespace App

/-- Nobody is signed in, and the login page is alone. -/
def AtLogin (s : App) : Prop := ∃ r, s.nav.routes = [r] ∧ r.page.login? ≠ none

section Steps

variable {K : Casing} {s t : App}

/-- Only a late success of a sign-up takes the bottom away, and it leaves nothing. -/
theorem RootedInv.rooted_or_nil {a : Action} (hs : s.RootedInv) (h : step K s a = some t) :
    t.Rooted ∨ t.nav.routes = [] := by
  by_cases hc : SucceedsAbove s a t
  · exact Or.inl (hs.rooted_step hc h)
  · right
    simp only [SucceedsAbove, not_forall] at hc
    obtain ⟨i, o, flight, rfl, hflight, hok, hat, hshort⟩ := hc
    obtain ⟨flight', hflight', rfl⟩ := step_signUpAnswer h
    obtain rfl := Option.some.inj (hflight'.symm.trans hflight)
    obtain ⟨f, hf⟩ := Option.ne_none_iff_exists'.mp hat
    obtain ⟨f', hnav⟩ := signUpDone_mounted hf (GraphQLService.signup o)
    show (s.signUpDone flight'.page (GraphQLService.signup o)).routes = []
    rw [hnav, if_pos hok, Navigator.pop_routes, Navigator.update_routes, ← List.map_tail]
    refine List.map_eq_nil_iff.mpr (List.eq_nil_of_length_eq_zero ?_)
    rw [List.length_tail]
    omega

theorem rooted_or_nil_of_reachable (h : Runs.Reachable (step K) initial s) :
    s.Rooted ∨ s.nav.routes = [] := by
  have hinv : s.RootedInv ∨ s.nav.routes = [] := by
    refine h.keeps (I := fun s : App => s.RootedInv ∨ s.nav.routes = []) (fun s a t hs ht => ?_)
      (Or.inl initial_rootedInv)
    rcases hs with hs | hnil
    · exact (hs.rooted_or_nil ht).imp_left fun hr => ⟨step_wellKeyed hs.keyed ht, hr⟩
    · right
      by_contra hne
      exact (step_navStep ht).routes_ne_nil hne hnil
  exact hinv.imp_left (·.rooted)

end Steps

end App

namespace Host

variable {P : Platform} {s t : Host}

/-! ## The empty stack -/

theorem Moves.routes_nil (h : Moves P s t) (hnil : s.app.nav.routes = []) :
    t.app.nav.routes = [] := by
  have hstep : ∀ {b app}, App.step P.casing s.app b = some app → app.nav.routes = [] :=
    fun happ => by
      by_contra hne
      exact (App.step_navStep happ).routes_ne_nil hne hnil
  cases h with
  | app h hb => exact hstep h
  | detail hr hc htile h => exact hstep h
  | screen hc h => exact hnil

/-- Nothing brings a page back. -/
theorem routes_nil_of_reachable (h : Runs.Reachable (step P) s t) (hnil : s.app.nav.routes = []) :
    t.app.nav.routes = [] :=
  h.keeps (I := fun s : Host => s.app.nav.routes = [])
    (fun _ _ _ hs ht => step_of_moves (fun _ _ hs ht => Moves.routes_nil ht hs) hs ht) hnil

/-! ## Back to the bottom -/

theorem step_back_of (now : DateTime) (h : 1 < s.app.nav.routes.length) :
    step P s (now, .app .back) =
      some (s.moved (P.clock now) none { s.app with nav := s.app.nav.pop }) := by
  have happ : App.step P.casing s.app .back = some { s.app with nav := s.app.nav.pop } := if_pos h
  simp only [step, offers, happ]
  rfl

theorem reaches_bottom (now : DateTime) (hs : s.Synced P) {r : Route Page}
    (hr : s.app.nav.routes.getLast? = some r) :
    ∃ t, Runs.Reachable (step P) s t ∧ t.Synced P ∧ t.app.nav.routes = [r] := by
  induction hlen : s.app.nav.routes.length generalizing s with
  | zero =>
    rw [List.eq_nil_of_length_eq_zero hlen] at hr
    cases hr
  | succ n ih =>
    by_cases hone : s.app.nav.routes.length = 1
    · obtain ⟨only, honly⟩ := List.length_eq_one_iff.mp hone
      rw [honly] at hr
      obtain rfl := Option.some.inj hr
      exact ⟨s, .refl s, hs, honly⟩
    · have hstep := step_back_of (P := P) now (s := s) (by omega)
      obtain ⟨t, hreach, ht, hroutes⟩ := ih (step_of_moves (fun _ _ hs ht => Moves.synced hs ht)
          hs hstep)
        (by
          show s.app.nav.pop.routes.getLast? = some r
          rw [Navigator.pop_routes, List.getLast?_tail, if_neg hone, hr])
        (by
          show s.app.nav.pop.routes.length = n
          rw [Navigator.pop_routes, List.length_tail, hlen]
          rfl)
      exact ⟨t, hreach.cons hstep, ht, hroutes⟩

/-! ## Out of a session -/

theorem step_tap_of (now : DateTime) {r : Route Page} {tap : Tap} {c : NavCall}
    (hr : s.app.top? = some r) (hoffers : s.offers P (.tap tap) = true)
    (hc : r.page.onTap P.casing tap = some c) :
    step P s (now, .app (.tap tap)) =
      some (s.moved (P.clock now) none { s.app with nav := c.run s.app.nav }) := by
  have happ : App.step P.casing s.app (.tap tap) =
      some { s.app with nav := c.run s.app.nav } := by
    rw [App.step, hr, Option.bind_some, hc]
    rfl
  simp only [step, hoffers, happ]
  rfl

/-- The bar and the button that signs out are there as long as their page is. -/
theorem offers_always (P : Platform) (s : Host) {tap : Tap}
    (htap : (∃ icon, tap = .nav icon) ∨ tap = .signOut) : s.offers P (.tap tap) = true := by
  show Screen.offers P s.rows (s.topScreen?.map (·.2)) tap = true
  generalize s.topScreen?.map (·.2) = screen
  rcases htap with ⟨icon, rfl⟩ | rfl
  · cases screen with
    | none => rfl
    | some c => cases c <;> rfl
  · cases screen with
    | none => rfl
    | some c => cases c <;> rfl

/-- A tap that pushes a page leaves it on top, with the screen it is opened with. -/
theorem pushes (now : DateTime) (hs : s.Synced P) {r : Route Page} {tap : Tap} {p : Page}
    (hr : s.app.top? = some r) (hoffers : s.offers P (.tap tap) = true)
    (hc : r.page.onTap P.casing tap = some (.push p)) :
    ∃ t k, step P s (now, .app (.tap tap)) = some t ∧ t.Synced P ∧ t.app.top? = some ⟨k, p⟩ ∧
      t.topScreen? = (Screen.opened (P.clock now) none p).map fun c => (k, c) := by
  have hstep := step_tap_of now hr hoffers hc
  refine ⟨_, s.app.nav.nextKey, hstep, step_of_moves (fun _ _ hs h => Moves.synced hs h) hs hstep,
    rfl, ?_⟩
  have hold := hs.wellKeyed.find?_eq_none (Nat.le_refl _)
  have hnew := (hs.wellKeyed.push p).find?_eq (r := ⟨s.app.nav.nextKey, p⟩) List.mem_cons_self
  have hscreen : s.app.nav.mount (Screen.opened (P.clock now) none) Screen.disposed
      (s.app.nav.push p) s.screens s.app.nav.nextKey = Screen.opened (P.clock now) none p :=
    Navigator.mount_new hold hnew
  rw [← hscreen]
  rfl

/-- A request that ran into its timeout ends the loading of the menu. -/
theorem menu_loads (now : DateTime) (hs : s.Synced P) {k : Nat} {account : Account}
    (htop : s.topScreen? = some (k, .menu account menuPage.opened)) :
    ∃ t live, step P s (now, .answer k (.menu 0 (.ok (.threw .timeoutException)))) = some t ∧
      t.Synced P ∧ t.app = s.app ∧ t.topScreen? = some (k, .menu account live) ∧
      live.frame.fields.isLoading = false := by
  obtain ⟨live, hanswer, hloaded⟩ : ∃ live, menuPage.step menuPage.opened
      (.answer 0 (.ok (.threw .timeoutException))) = some live ∧ live.frame.fields.isLoading = false :=
    ⟨_, rfl, rfl⟩
  obtain ⟨r, hr, rfl, hscreen⟩ := topScreen?_eq_some htop
  have hstep : step P s (now, .answer r.key (.menu 0 (.ok (.threw .timeoutException)))) =
      some (s.setScreen r.key (.menu account live)) := by
    simp only [step, hscreen, Option.bind_some, Screen.onAnswer, hanswer, Option.map_some]
  refine ⟨_, live, hstep, step_of_moves (fun _ _ hs h => Moves.synced hs h) hs hstep, rfl, ?_,
    hloaded⟩
  have hself : (s.setScreen r.key (.menu account live)).screens r.key = some (.menu account live) :=
    Function.update_self ..
  have htop' : (s.setScreen r.key (.menu account live)).app.top? = some r := hr
  rw [topScreen?, htop', Option.bind_some, hself]
  rfl

/-- From the alerts page: the menu icon, the answer the menu waits for, the account tile
and the button that signs out. -/
theorem reaches_login (now : DateTime) (hs : s.Synced P) {r : Route Page} {account : Account}
    (hr : s.app.top? = some r) (hpage : r.page = .alertsPage account) :
    ∃ t, Runs.Reachable (step P) s t ∧ t.app.AtLogin := by
  obtain ⟨s₁, k, hstep₁, hs₁, htop₁, hscreen₁⟩ :=
    pushes now hs hr (offers_always P s (Or.inl ⟨.menu, rfl⟩)) (p := .menuPage account)
      (by rw [hpage]; rfl)
  obtain ⟨s₂, live, hstep₂, hs₂, happ₂, hscreen₂, hloaded⟩ := menu_loads now hs₁ hscreen₁
  have htop₂ : s₂.app.top? = some ⟨k, .menuPage account⟩ := happ₂ ▸ htop₁
  have hoffers : s₂.offers P (.tap .accountTile) = true := by
    show Screen.offers P s₂.rows (s₂.topScreen?.map (·.2)) .accountTile = true
    rw [hscreen₂]
    show (!live.frame.fields.isLoading) = true
    rw [hloaded]
    rfl
  obtain ⟨s₃, k', hstep₃, hs₃, htop₃, -⟩ :=
    pushes now hs₂ htop₂ hoffers (p := .accountPage account) rfl
  have hstep₄ := step_tap_of now htop₃ (offers_always P s₃ (Or.inr rfl)) rfl
  exact ⟨_, (((Runs.Reachable.refl _).cons hstep₄).cons hstep₃ |>.cons hstep₂).cons hstep₁, _, rfl,
    Option.some_ne_none _⟩

/-- From every state that the whole app can get to, a run leads to the login page alone
on the stack, unless the stack is empty. -/
theorem wayOut_throughout (P : Platform) (as : List (DateTime × HostAction)) :
    Runs.Throughout (step P) (fun s =>
      (∃ t, Runs.Reachable (step P) s t ∧ t.app.AtLogin) ↔ s.app.nav.routes ≠ []) initial as := by
  refine (synced_throughout P as).mono fun s hs => ⟨?_, fun hne => ?_⟩
  · rintro ⟨t, hreach, r, hroutes, -⟩ hnil
    rw [routes_nil_of_reachable hreach hnil] at hroutes
    cases hroutes
  · obtain ⟨r, hr, hroot⟩ := (App.rooted_or_nil_of_reachable hs.app).resolve_right hne
    obtain ⟨t, hreach, ht, hroutes⟩ := reaches_bottom ⟨0⟩ hs hr
    rcases hroot with hlogin | ⟨account, hpage⟩
    · exact ⟨t, hreach, r, hroutes, hlogin⟩
    · have htop : t.app.top? = some r := by
        rw [App.top?, hroutes]
        rfl
      obtain ⟨u, hu, hlogin⟩ := reaches_login ⟨0⟩ ht htop hpage
      exact ⟨u, hreach.trans hu, hlogin⟩

end Host

end SurveilOne
