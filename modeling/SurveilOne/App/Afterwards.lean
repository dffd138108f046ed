import SurveilOne.App.Details
import SurveilOne.Status.Disposed

/-!
# Pages after their routes are gone

A page that was left may have requests out, and their answers still come.  None of them
makes it ask for more: the alerts and the menu ask on a tap and when they open only, and
the status page, whose list of products is followed by a fetch of the status, throws at
the `setState` before it.

So what a page whose route is gone has asked for is settled for ever.
-/

namespace SurveilOne

open Dart Flutter Flutter.Handler

theorem MenuPage.loadDone_ops {r : Except Thrown (List Text)} {fr : Frame MenuFields}
    {ops : List MenuOp} (h : ((loadDone r).run fr).1 = .ok ops) : ops = [] := by
  obtain ⟨-, fr', -, hops⟩ := result_bind_ok h
  exact (Except.ok.inj hops).symm

theorem assetDone_calls (loaded : Bool) (color : StatusColor) (account : Account) (s : StatusLive) :
    (s.settle ((assetDone loaded color).run s.frame)).started.filterMap (·.call? account) =
      s.started.filterMap (·.call? account) := by
  cases loaded with
  | true => exact congrArg (List.filterMap _) (List.append_nil _)
  | false =>
    -- The amber picture is loaded from the bundle.
    show (s.started ++ [StatusOp.amberAsset _ color]).filterMap (·.call? account) = _
    rw [List.filterMap_append]
    exact List.append_nil _

section Unmounted

variable {clock : Clock} {siteName : Text} {account : Account}

/-- An answer to an unmounted page of alerts, or of the menu, starts nothing. -/
theorem AlertsFile.step_started {f : AlertsFile} {s t : AlertsLive} {e : AlertsEvent}
    (hm : s.frame.mounted = false) (h : (f.page clock siteName).step s e = some t) :
    t.started = s.started := by
  obtain ⟨i, a, op, hdl, hhdl, rfl⟩ := PageCode.step_unmounted hm h
  exact Live.settle_started (s := s.close i a) (ops_resume hhdl s.frame).1

theorem MenuPage.step_started {s t : MenuLive} {e : MenuEvent} (hm : s.frame.mounted = false)
    (h : menuPage.step s e = some t) : t.started = s.started := by
  obtain ⟨i, r, op, hdl, hhdl, rfl⟩ := PageCode.step_unmounted hm h
  cases op
  cases hhdl
  exact Live.settle_started (s := s.close i r) fun _ => loadDone_ops

/-- An answer to an unmounted status page may start the loading of a picture and no
request. -/
theorem StatusFile.step_calls {f : StatusFile} {productCode : Text} {s t : StatusLive}
    {e : StatusEvent} (hm : s.frame.mounted = false)
    (h : (f.page productCode).step s e = some t) :
    t.started.filterMap (·.call? account) = s.started.filterMap (·.call? account) := by
  obtain ⟨i, a, op, hdl, hhdl, rfl⟩ := PageCode.step_unmounted hm h
  have hlate (hl : LateThrows hdl) :
      ((s.close i a).settle (hdl.run s.frame)).started.filterMap (·.call? account) =
        s.started.filterMap (·.call? account) :=
    congrArg (List.filterMap _) (hl.started (s := s.close i a) hm)
  cases f <;> cases op <;> cases a <;> cases hhdl
  · exact hlate (LateThrows.productStatus_productsDone productCode _)
  · exact hlate (LateThrows.productStatus_statusDone _ _)
  · exact assetDone_calls _ _ account _
  · exact congrArg (List.filterMap _) (List.append_nil _)
  · exact hlate (LateThrows.myProducts_productsDone productCode _)
  · exact hlate (LateThrows.myProducts_statusDone productCode _ _)
  · exact assetDone_calls _ _ account _
  · exact congrArg (List.filterMap _) (List.append_nil _)

end Unmounted

theorem Screen.Becomes.calls_eq {P : Platform} {rows : AlertSource → List AlertRow} {c c' : Screen}
    (h : c.Becomes P rows c') (hm : c.mounted = false) : c'.calls = c.calls := by
  cases h with
  | alerts he h => exact congrArg (List.filterMap _) (AlertsFile.step_started hm h)
  | menu he h => exact congrArg (List.map _) (MenuPage.step_started hm h)
  | productStatus he h => exact StatusFile.step_calls (f := .productStatus) hm h
  | messageDetail he h => rfl

namespace Host

variable {P : Platform} {s t : Host}

/-- The page under a key is no longer mounted, and these are its requests. -/
def Asked (s : Host) (k : Nat) (calls : List ServiceCall) : Prop :=
  ∃ c, s.screens k = some c ∧ c.mounted = false ∧ c.calls = calls

/-- A key is given to one route only. -/
theorem Paged.screens_moved (hs : s.Paged P) {k : Nat} {c : Screen} (hc : s.screens k = some c)
    (hm : c.mounted = false) {b : Action} {app : App} (h : App.step P.casing s.app b = some app)
    (clock : Clock) (detail : Option (AlertSource × Nat)) :
    (s.moved clock detail app).screens k = some c := by
  have hnone : s.app.nav.find? k = none := by
    cases hr : s.app.nav.find? k with
    | none => rfl
    | some r =>
      obtain ⟨hmem, rfl⟩ := Navigator.mem_of_find? hr
      have hfits : Screen.Fits r.page (some c) := hc ▸ hs.tracks.mounted r hmem
      rw [hfits.2] at hm
      cases hm
  have hevolves := App.step_evolves_detail hs.wellKeyed h
  exact (Navigator.mount_absent hnone (hevolves.find?_eq_none (hs.given k c hc) hnone)).trans hc

theorem Moves.asked (hs : s.Paged P) {k : Nat} {calls : List ServiceCall} (h : Moves P s t)
    (hk : s.Asked k calls) : t.Asked k calls := by
  obtain ⟨c, hc, hm, hcalls⟩ := hk
  cases h with
  | app h hb => exact ⟨c, hs.screens_moved hc hm h _ _, hm, hcalls⟩
  | detail hr hd htile h => exact ⟨c, hs.screens_moved hc hm h _ _, hm, hcalls⟩
  | @screen j d d' hd h =>
    by_cases hj : k = j
    · subst hj
      obtain rfl := Option.some.inj (hc.symm.trans hd)
      exact ⟨d', Function.update_self .., h.mounted_eq.trans hm, (h.calls_eq hm).trans hcalls⟩
    · exact ⟨c, (Function.update_of_ne hj _ _).trans hc, hm, hcalls⟩

theorem Paged.asked (hs : s.Paged P) {k : Nat} {calls : List ServiceCall} (hk : s.Asked k calls)
    (h : Runs.Reachable (step P) s t) : t.Asked k calls := by
  have hinv : t.Paged P ∧ t.Asked k calls := by
    refine h.keeps (I := fun s => s.Paged P ∧ s.Asked k calls) (fun s a t hs hstep => ?_) ⟨hs, hk⟩
    exact step_of_moves (I := fun s => s.Paged P ∧ s.Asked k calls)
      (fun _ _ hs h => ⟨Moves.paged hs.1 h, Moves.asked hs.1 h hs.2⟩) hs hstep
  exact hinv.2

/-- In every run of the whole app, once the route of an alerts, push notifications, menu,
status or detail page is gone, whatever happens from then on and whichever answers still
come, the page asks the service for nothing more. -/
theorem gone_asks_nothing (P : Platform) (as : List (DateTime × HostAction)) :
    Runs.Throughout (step P) (fun s => ∀ k c, s.screens k = some c →
      (∀ r ∈ s.app.nav.mountedRoutes, r.key ≠ k) → ∀ t, Runs.Reachable (step P) s t →
        ∃ c', t.screens k = some c' ∧ c'.mounted = false ∧ c'.calls = c.calls) initial as := by
  refine Runs.throughout_of_step (I := Paged P)
    (fun _ _ _ hs h => step_of_moves (fun _ _ hs h => Moves.paged hs h) hs h) ?_
    (initial_paged P) as
  intro s hs k c hc hgone t ht
  have hnone : s.app.nav.find? k = none :=
    List.find?_eq_none.mpr fun r hr => by simpa using hgone r hr
  have hm : c.mounted = false := by simpa using hs.tracks.gone k c hnone hc
  exact hs.asked ⟨c, hc, hm, rfl⟩ ht

end Host

end SurveilOne
