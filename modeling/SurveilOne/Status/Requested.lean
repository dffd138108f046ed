import SurveilOne.Status.Effects

/-!
# Which products the status page asks for

The page the menu opens asks for the status of the product it was opened with, and of
those its own request for products listed.  A request that is answered after the page
was disposed still changes the list, and starts nothing.
-/

namespace SurveilOne

open Dart Flutter Flutter.Handler

/-- The selection and the list keep to the products of `Q`. -/
structure StatusFields.Within (Q : Text → Prop) (s : StatusFields) : Prop where
  selected : Q s.selectedCode
  available : ∀ code ∈ s.availableCodes, Q code

/-- So does what a handler leaves behind, and so do the requests it starts. -/
structure KeepsTo (Q : Text → Prop) (r : Except Thrown (List StatusOp) × Frame StatusFields) :
    Prop where
  fields : r.2.fields.Within Q
  asked : ∀ ops, r.1 = .ok ops → ∀ code chained, StatusOp.status code chained ∈ ops → Q code

section Handlers

variable {Q : Text → Prop}

theorem keepsTo_nil {fr : Frame StatusFields} (h : fr.fields.Within Q) : KeepsTo Q (.ok [], fr) := by
  refine ⟨h, fun ops hops code chained hmem => ?_⟩
  cases hops
  cases hmem

theorem fetchStatus_keepsTo (fr : Frame StatusFields) (h : fr.fields.Within Q) (chained : Bool) :
    KeepsTo Q ((fetchStatus chained).run fr) := by
  cases hm : fr.mounted with
  | true =>
    have hrun := run_fetchStatus hm fr.fields chained
    rw [hrun]
    refine ⟨⟨h.selected, h.available⟩, fun ops hops code chained hmem => ?_⟩
    cases hops
    cases List.mem_singleton.mp hmem
    exact h.selected
  | false =>
    rw [fetchStatus, run_bind_error (run_setState_late hm _)]
    exact ⟨h, fun _ hops => by cases hops⟩

theorem statusTap_keepsTo {fr : Frame StatusFields} (hm : fr.mounted = true)
    (h : fr.fields.Within Q) {t : StatusTap} {hdl : StatusHandler}
    (ht : statusTap t fr.fields = some hdl) : KeepsTo Q (hdl.run fr) := by
  cases t with
  | select code =>
    rw [statusTap] at ht
    split at ht
    · rename_i hcode
      cases ht
      rw [run_bind_ok (run_setState hm _)]
      exact fetchStatus_keepsTo
        { fr with fields := { fr.fields with selectedCode := code, showProductList := false } }
        ⟨h.available code hcode.1, h.available⟩ false
    · cases ht
  | toggle =>
    cases ht
    rw [run_bind_ok (run_setState hm _)]
    exact keepsTo_nil ⟨h.selected, h.available⟩
  | refresh =>
    cases ht
    exact fetchStatus_keepsTo fr h false
  | retry =>
    rw [statusTap] at ht
    split at ht
    · cases ht
      exact fetchStatus_keepsTo fr h false
    · cases ht

theorem assetDone_keepsTo {fr : Frame StatusFields} (h : fr.fields.Within Q) (loaded : Bool)
    (color : StatusColor) : KeepsTo Q ((assetDone loaded color).run fr) := by
  cases loaded with
  | true => exact keepsTo_nil h
  | false =>
    refine ⟨h, fun ops hops code chained hmem => ?_⟩
    cases hops
    cases List.mem_singleton.mp hmem

end Handlers

namespace ProductStatusPage

section Handlers

variable {Q : Text → Prop} {fr : Frame StatusFields}

theorem productsDone_keepsTo {productCode : Text} {r : Except Thrown (List Text)}
    (h : fr.fields.Within Q) (hown : Q productCode)
    (hr : ∀ codes, r = .ok codes → ∀ code ∈ codes, Q code) :
    KeepsTo Q ((productsDone productCode r).run fr) := by
  cases r with
  | ok codes =>
    rw [productsDone, run_bind_ok (run_assign _ fr)]
    exact fetchStatus_keepsTo { fr with fields := { fr.fields with availableCodes := codes } }
      ⟨h.selected, hr codes rfl⟩ false
  | error e =>
    rw [productsDone, run_bind_ok (run_assign _ fr)]
    refine fetchStatus_keepsTo { fr with fields := { fr.fields with
      availableCodes := [productCode], error := some "Failed to load product list.".toList } }
      ⟨h.selected, fun code hcode => ?_⟩ false
    exact List.mem_singleton.mp hcode ▸ hown

/-- On a disposed page both calls of `setState` throw, the one in the `catch` included. -/
theorem run_statusDone_late (hm : fr.mounted = false) (chained : Bool)
    (r : Except Thrown (Option Fields)) : ∃ e fr', (statusDone chained r).run fr = (.error e, fr') ∧
      fr'.fields = fr.fields := by
  cases r with
  | ok rawResp =>
    have hlate : Frame.mounted { fr with lateSetStates := fr.lateSetStates + 1 } = false := hm
    have hcaught := run_setState_late hlate (·.fail "Failed to load product status.")
    exact ⟨_, _, (run_tryCatch_error ((run_bind_ok (run_lift _ fr)).trans
      (run_bind_error (run_setState_late hm _)))).trans (run_bind_error hcaught), rfl⟩
  | error e =>
    exact ⟨_, _, (run_tryCatch_error (run_bind_error (run_lift _ fr))).trans
      (run_bind_error (run_setState_late hm _)), rfl⟩

theorem statusDone_keepsTo (h : fr.fields.Within Q) (chained : Bool)
    (r : Except Thrown (Option Fields)) : KeepsTo Q ((statusDone chained r).run fr) := by
  cases hm : fr.mounted with
  | true =>
    rw [run_statusDone hm]
    cases StatusFile.productStatus.effect r with
    | shown statuses flag color =>
      refine ⟨⟨h.selected, h.available⟩, fun ops hops code chained hmem => ?_⟩
      cases hops
      cases List.mem_singleton.mp hmem
    | failed message => exact keepsTo_nil ⟨h.selected, h.available⟩
  | false =>
    obtain ⟨e, fr', hrun, hfields⟩ := run_statusDone_late hm chained r
    rw [hrun]
    exact ⟨hfields ▸ h, fun _ hops => by cases hops⟩

end Handlers

/-! ## Runs -/

/-- An answer to the page listed the product. -/
def Listed (s : StatusLive) (code : Text) : Prop :=
  ∃ i o, (i, StatusAnswer.products (.ok o)) ∈ s.answered ∧ code ∈ GraphQLService.getProducts o

/-- The page was opened with the product, or it was listed. -/
def Known (productCode : Text) (s : StatusLive) (code : Text) : Prop :=
  code = productCode ∨ Listed s code

/-- The page selects, lists and asks for known products only. -/
structure AsksKnown (productCode : Text) (s : StatusLive) : Prop where
  fields : s.frame.fields.Within (Known productCode s)
  asked : ∀ code chained, StatusOp.status code chained ∈ s.started → Known productCode s code

section Steps

variable {productCode : Text} {s t : StatusLive}

theorem Known.close {code : Text} (h : Known productCode s code) (i : Nat) (a : StatusAnswer) :
    Known productCode (s.close i a) code :=
  h.imp_right fun ⟨j, o, hmem, hcode⟩ => ⟨j, o, List.mem_append_left _ hmem, hcode⟩

theorem AsksKnown.close (h : AsksKnown productCode s) (i : Nat) (a : StatusAnswer) :
    AsksKnown productCode (s.close i a) where
  fields := ⟨h.fields.selected.close i a, fun code hcode => (h.fields.available code hcode).close i a⟩
  asked code chained hmem := (h.asked code chained hmem).close i a

theorem AsksKnown.settle (h : AsksKnown productCode s)
    {r : Except Thrown (List StatusOp) × Frame StatusFields} (hr : KeepsTo (Known productCode s) r) :
    AsksKnown productCode (s.settle r) := by
  obtain ⟨r, fr⟩ := r
  cases r with
  | ok ops =>
    refine ⟨hr.fields, fun code chained hmem => ?_⟩
    rw [Live.settle_ok_started] at hmem
    rcases List.mem_append.mp hmem with hold | hnew
    · exact h.asked code chained hold
    · exact hr.asked ops rfl code chained hnew
  | error e => exact ⟨hr.fields, h.asked⟩

theorem asksKnown_step {e : StatusEvent} (hs : AsksKnown productCode s)
    (h : (productStatusPage productCode).step s e = some t) : AsksKnown productCode t := by
  cases e with
  | tap tap =>
    obtain ⟨hm, hdl, hhdl, rfl⟩ := PageCode.step_tap h
    exact hs.settle (statusTap_keepsTo hm hs.fields hhdl)
  | answer i a =>
    obtain ⟨-, op, hdl, -, hhdl, rfl⟩ := PageCode.step_answer h
    have hclosed := hs.close i a
    refine hclosed.settle ?_
    cases op <;> cases a <;> cases hhdl
    · refine productsDone_keepsTo hclosed.fields (Or.inl rfl) fun codes hcodes code hcode => ?_
      rename_i r
      cases r with
      | error e => cases hcodes
      | ok o =>
        cases hcodes
        exact Or.inr ⟨i, o, List.mem_append_right _ List.mem_cons_self, hcode⟩
    · exact statusDone_keepsTo hclosed.fields _ _
    · exact assetDone_keepsTo hclosed.fields _ _
    · exact keepsTo_nil hclosed.fields
  | dispose =>
    obtain ⟨-, rfl⟩ := PageCode.step_dispose h
    exact ⟨hs.fields, hs.asked⟩

end Steps

theorem asksKnown_opened (productCode : Text) :
    AsksKnown productCode (productStatusPage productCode).opened where
  fields := ⟨Or.inl rfl, fun _ hcode => nomatch hcode⟩
  asked code chained hmem := by
    cases List.mem_singleton.mp hmem

theorem asksKnown_of_reachable {productCode : Text} {s : StatusLive}
    (h : Runs.Reachable (productStatusPage productCode).step (productStatusPage productCode).opened s) :
    AsksKnown productCode s :=
  h.of_throughout (Runs.throughout_of_step (I := AsksKnown productCode)
    (fun _ _ _ => asksKnown_step) (fun _ hs => hs) (asksKnown_opened productCode))

end ProductStatusPage

end SurveilOne
