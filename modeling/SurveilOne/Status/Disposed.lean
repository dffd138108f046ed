import SurveilOne.Status.Effects

/-!
# Status pages after they were disposed

The continuations of the requests throw at their first `setState`, and the `catch`
that is meant for it throws again.  So once a page has been disposed no fetch starts
any more, and its fields stay but for the list of products and the error, which
`product_status_page.dart` assigns outside `setState`.
-/

namespace SurveilOne

open Dart Flutter Flutter.Handler

/-- The same fields, perhaps with another list of products and another error. -/
def StatusFields.Kept (s s' : StatusFields) : Prop :=
  ∃ codes error, s' = { s with availableCodes := codes, error := error }

theorem StatusFields.Kept.refl (s : StatusFields) : s.Kept s := ⟨s.availableCodes, s.error, rfl⟩

theorem StatusFields.Kept.trans {s s' s'' : StatusFields} (h : s.Kept s') (h' : s'.Kept s'') :
    s.Kept s'' := by
  obtain ⟨codes, error, rfl⟩ := h
  obtain ⟨codes', error', rfl⟩ := h'
  exact ⟨codes', error', rfl⟩

theorem StatusFields.Kept.selected {s s' : StatusFields} (h : s.Kept s') :
    s.selectedCode = s'.selectedCode := by
  obtain ⟨codes, error, rfl⟩ := h
  rfl

/-- On a disposed page the handler throws. -/
def LateThrows (h : StatusHandler) : Prop :=
  ∀ fr : Frame StatusFields, fr.mounted = false → ∃ e fr', h.run fr = (.error e, fr') ∧
    fr'.mounted = false ∧ fr.fields.Kept fr'.fields

namespace LateThrows

theorem setState (f : StatusFields → StatusFields) (k : Unit → StatusHandler) :
    LateThrows (Handler.setState f >>= k) :=
  fun _ hm => ⟨_, _, run_bind_error (run_setState_late hm f), hm, .refl _⟩

theorem tryCatch {body : StatusHandler} {onError : Thrown → StatusHandler} (hb : LateThrows body)
    (hc : ∀ e, LateThrows (onError e)) : LateThrows (Handler.tryCatch body onError) := by
  intro fr hm
  obtain ⟨e, fr', hbody, hm', hkept⟩ := hb fr hm
  obtain ⟨e', fr'', hcaught, hm'', hkept'⟩ := hc e fr' hm'
  exact ⟨e', fr'', (run_tryCatch_error hbody).trans hcaught, hm'', hkept.trans hkept'⟩

theorem lift {α : Type} {r : Except Thrown α} {k : α → StatusHandler}
    (hk : ∀ a, LateThrows (k a)) : LateThrows (Handler.lift r >>= k) := by
  intro fr hm
  cases r with
  | error e => exact ⟨e, fr, run_bind_error (run_lift _ fr), hm, .refl _⟩
  | ok a =>
    rw [run_bind_ok (run_lift _ fr)]
    exact hk a fr hm

theorem assign {f : StatusFields → StatusFields} {k : Unit → StatusHandler}
    (hf : ∀ s, StatusFields.Kept s (f s)) (hk : LateThrows (k ())) :
    LateThrows (Handler.assign f >>= k) := by
  intro fr hm
  obtain ⟨e, fr', hrun, hm', hkept⟩ := hk { fr with fields := f fr.fields } hm
  exact ⟨e, fr', (run_bind_ok (run_assign f fr)).trans hrun, hm', (hf fr.fields).trans hkept⟩

theorem productStatus_productsDone (productCode : Text) (r : Except Thrown (List Text)) :
    LateThrows (ProductStatusPage.productsDone productCode r) := by
  cases r with
  | ok codes => exact .assign (fun s => ⟨codes, s.error, rfl⟩) (.setState _ _)
  | error e => exact .assign (fun s => ⟨_, _, rfl⟩) (.setState _ _)

theorem productStatus_statusDone (chained : Bool) (r : Except Thrown (Option Fields)) :
    LateThrows (ProductStatusPage.statusDone chained r) :=
  .tryCatch (.lift fun _ => .setState _ _) fun _ => .setState _ _

theorem myProducts_productsDone (productCode : Text) (r : Except Thrown (List Text)) :
    LateThrows (MyProductsPage.productsDone productCode r) :=
  .tryCatch (.lift fun _ => .setState _ _) fun _ => .setState _ _

theorem myProducts_receive (resp : Option Fields) : LateThrows (MyProductsPage.receive resp) := by
  cases resp with
  | none => exact .setState _ _
  | some resp => exact .lift fun _ => .setState _ _

theorem myProducts_statusDone (productCode : Text) (chained : Bool)
    (r : Except Thrown (Option Fields)) :
    LateThrows (MyProductsPage.statusDone productCode chained r) := by
  have hfetch : LateThrows (MyProductsPage.fetchStatusDone r) :=
    .tryCatch (.lift fun resp => myProducts_receive resp) fun _ => .setState _ _
  cases chained with
  | true => exact .tryCatch hfetch fun _ => .setState _ _
  | false => exact hfetch

end LateThrows

theorem LateThrows.kept {h : StatusHandler} (hl : LateThrows h) {fr : Frame StatusFields}
    (hm : fr.mounted = false) : fr.fields.Kept (h.run fr).2.fields := by
  obtain ⟨e, fr', hrun, -, hkept⟩ := hl fr hm
  rw [hrun]
  exact hkept

theorem LateThrows.started {h : StatusHandler} (hl : LateThrows h) {s : StatusLive}
    (hm : s.frame.mounted = false) : (s.settle (h.run s.frame)).started = s.started := by
  obtain ⟨e, fr', hrun, -, -⟩ := hl s.frame hm
  rw [hrun]
  rfl

theorem assetDone_fields (loaded : Bool) (color : StatusColor) (fr : Frame StatusFields) :
    ((assetDone loaded color).run fr).2.fields = fr.fields := by
  cases loaded <;> rfl

/-- An answer that comes late leaves the fields as they are. -/
theorem StatusFile.step_late {f : StatusFile} {productCode : Text} {s t : StatusLive}
    {e : StatusEvent} (hm : s.frame.mounted = false)
    (h : (f.page productCode).step s e = some t) : s.frame.fields.Kept t.frame.fields := by
  obtain ⟨i, a, op, hdl, hhdl, rfl⟩ := PageCode.step_unmounted hm h
  rw [Live.settle_frame]
  cases f <;> cases op <;> cases a <;> cases hhdl
  · exact (LateThrows.productStatus_productsDone productCode _).kept hm
  · exact (LateThrows.productStatus_statusDone _ _).kept hm
  · rw [assetDone_fields]
    exact .refl _
  · exact .refl _
  · exact (LateThrows.myProducts_productsDone productCode _).kept hm
  · exact (LateThrows.myProducts_statusDone productCode _ _).kept hm
  · rw [assetDone_fields]
    exact .refl _
  · exact .refl _

end SurveilOne
