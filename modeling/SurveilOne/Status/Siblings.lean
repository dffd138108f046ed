import SurveilOne.Lockstep
import SurveilOne.Status.Consistent
import SurveilOne.Status.Disposed

/-!
# The two status pages side by side

The two files hold the same page twice.  Both are opened for the same product here and
take the same taps and answers, and what they show is compared.  They differ where
`getProducts` throws, where the service returns `null` for a product's status and where
the worst flag of the rows is none of 0, 1 and 2.  Anywhere else they cannot be told
apart.
-/

namespace SurveilOne

open Dart Flutter Flutter.Handler

/-- While the page is mounted, `getProducts` does not throw, and an answer to
`getProductStatus` has rows whose worst flag is 0, 1 or 2. -/
def AnswersShared (s : StatusLive) (e : StatusEvent) (_ : StatusLive) : Prop :=
  s.frame.mounted = true →
    (∀ i thrown, e ≠ .answer i (.products (.error thrown))) ∧
    ∀ i o, e = .answer i (.status (.ok o)) → GraphQLService.getProductStatus o ≠ none ∧
      StatusFile.productStatus.FlagInRange (.ok o)

/-- The operation without who awaits it. -/
def StatusOp.unchained : StatusOp → StatusOp
  | .status productCode _ => .status productCode false
  | op => op

/-! ## What an answer shows -/

namespace ProductStatusPage

theorem extractStatuses_responseOf (first : Fields) (rest : List Fields) :
    extractStatuses (some (GraphQLService.responseOf first rest)) =
      (first :: rest).map GraphQLService.keptRow := by
  have hmaps : ∀ (f : Json → Option Fields), (∀ m, f (.map m) = some m) →
      ∀ rows : List Fields, (rows.map Json.map).filterMap f = rows := by
    intro f hf rows
    induction rows with
    | nil => rfl
    | cons row rest ih => rw [List.map_cons, List.filterMap_cons, hf, ih]
  exact hmaps _ (fun _ => rfl) _

theorem colorFor_flagOfColor (color : StatusColor) :
    MyProductsPage.colorFor (some (flagOfColor color)) = color := by
  cases color <;> rfl

end ProductStatusPage

namespace StatusFile

/-- The effect of an answer on the page of `product_status_page.dart` with rows. -/
theorem outcome_productStatus {o : HttpOutcome} {first : Fields} {rest : List Fields}
    (h : GraphQLService.getProductStatus o = some (GraphQLService.responseOf first rest)) :
    productStatus.outcome (.ok o) =
      .shown ((first :: rest).map GraphQLService.keptRow)
        (ProductStatusPage.flagOfColor (ProductStatusPage.getStatusColor
          ((first :: rest).map GraphQLService.keptRow)))
        (ProductStatusPage.getStatusColor ((first :: rest).map GraphQLService.keptRow)) := by
  have hmap : (Except.ok o : Except Thrown HttpOutcome).map GraphQLService.getProductStatus =
      .ok (some (GraphQLService.responseOf first rest)) := congrArg Except.ok h
  rw [outcome, hmap]
  simp only [effect, ProductStatusPage.extractStatuses_responseOf]

theorem outcome_myProducts {o : HttpOutcome} {first : Fields} {rest : List Fields}
    (h : GraphQLService.getProductStatus o = some (GraphQLService.responseOf first rest)) :
    myProducts.outcome (.ok o) =
      .shown ((first :: rest).map GraphQLService.keptRow)
        (worstOf ((first :: rest).map GraphQLService.keptRow))
        (MyProductsPage.colorFor (some (worstOf ((first :: rest).map GraphQLService.keptRow)))) := by
  have hmap : (Except.ok o : Except Thrown HttpOutcome).map GraphQLService.getProductStatus =
      .ok (some (GraphQLService.responseOf first rest)) := congrArg Except.ok h
  obtain ⟨hdecode, hflag⟩ := MyProductsPage.decodeStatuses_responseOf first rest
  rw [outcome, hmap, effect, hdecode, hflag]

theorem outcome_myProducts_none {o : HttpOutcome} (h : GraphQLService.getProductStatus o = none) :
    myProducts.outcome (.ok o) = .failed "Unable to load product status." := by
  have hmap : (Except.ok o : Except Thrown HttpOutcome).map GraphQLService.getProductStatus =
      .ok none := congrArg Except.ok h
  rw [outcome, hmap]
  rfl

theorem flagInRange_iff {o : HttpOutcome} {first : Fields} {rest : List Fields}
    (h : GraphQLService.getProductStatus o = some (GraphQLService.responseOf first rest)) :
    productStatus.FlagInRange (.ok o) ↔
      ProductStatusPage.flagOfColor (ProductStatusPage.getStatusColor
          ((first :: rest).map GraphQLService.keptRow)) =
        worstOf ((first :: rest).map GraphQLService.keptRow) := by
  rw [ProductStatusPage.flagOfColor_getStatusColor_iff, FlagInRange, h,
    ProductStatusPage.extractStatuses_responseOf]

/-- An answer of the shared kind has one effect. -/
theorem outcome_eq {r : Except Thrown HttpOutcome}
    (h : ∀ o, r = .ok o → GraphQLService.getProductStatus o ≠ none ∧
      productStatus.FlagInRange (.ok o)) : productStatus.outcome r = myProducts.outcome r := by
  cases r with
  | error e => rfl
  | ok o =>
    obtain ⟨hsome, hrange⟩ := h o rfl
    obtain ⟨resp, hresp⟩ := Option.ne_none_iff_exists'.mp hsome
    obtain ⟨first, rest, rfl⟩ := GraphQLService.getProductStatus_some hresp
    have hflag := (flagInRange_iff hresp).mp hrange
    rw [outcome_productStatus hresp, outcome_myProducts hresp, ← hflag,
      ProductStatusPage.colorFor_flagOfColor]

end StatusFile

/-! ## The relation -/

/-- The error that only the page of `my_products_page.dart` shows. -/
def unableMessage : Text := "Unable to load product status.".toList

structure FrameLike (fr fr' : Frame StatusFields) : Prop where
  mounted : fr.mounted = fr'.mounted
  selected : fr.fields.selectedCode = fr'.fields.selectedCode
  shared : fr.mounted = true → fr = fr' ∧ fr.fields.error ≠ some unableMessage

inductive ResultLike :
    Except Thrown (List StatusOp) × Frame StatusFields →
    Except Thrown (List StatusOp) × Frame StatusFields → Prop where
  | ok {ops ops' : List StatusOp} {fr fr' : Frame StatusFields}
      (hops : ops.map StatusOp.unchained = ops'.map StatusOp.unchained) (hfr : FrameLike fr fr') :
      ResultLike (.ok ops, fr) (.ok ops', fr')
  | error {e e' : Thrown} {fr fr' : Frame StatusFields} (hfr : FrameLike fr fr') :
      ResultLike (.error e, fr) (.error e', fr')

/-- The two pages have the same operations outstanding, and look the same while they
are mounted. -/
structure Siblings (s t : StatusLive) : Prop where
  frame : FrameLike s.frame t.frame
  outstanding : s.outstanding = t.outstanding
  started : s.started.map StatusOp.unchained = t.started.map StatusOp.unchained

theorem FrameLike.of_eq {fr : Frame StatusFields} (h : fr.fields.error ≠ some unableMessage) :
    FrameLike fr fr :=
  ⟨rfl, rfl, fun _ => ⟨rfl, h⟩⟩

theorem FrameLike.of_late {fr fr' : Frame StatusFields} (hm : fr.mounted = false)
    (hm' : fr'.mounted = false) (hsel : fr.fields.selectedCode = fr'.fields.selectedCode) :
    FrameLike fr fr' :=
  ⟨hm.trans hm'.symm, hsel, fun h => by rw [hm] at h; cases h⟩

theorem ResultLike.of_late {h h' : StatusHandler} (hl : LateThrows h) (hl' : LateThrows h')
    {fr fr' : Frame StatusFields} (hfr : FrameLike fr fr') (hm : fr.mounted = false) :
    ResultLike (h.run fr) (h'.run fr') := by
  obtain ⟨e, fr₁, hrun, hm₁, hkept⟩ := hl fr hm
  obtain ⟨e', fr₁', hrun', hm₁', hkept'⟩ := hl' fr' (hfr.mounted ▸ hm)
  rw [hrun, hrun']
  exact .error (.of_late hm₁ hm₁' (hkept.selected.symm.trans (hfr.selected.trans hkept'.selected)))

theorem Siblings.settle {s t : StatusLive} (hout : s.outstanding = t.outstanding)
    (hstart : s.started.map StatusOp.unchained = t.started.map StatusOp.unchained)
    {r r' : Except Thrown (List StatusOp) × Frame StatusFields} (h : ResultLike r r') :
    Siblings (s.settle r) (t.settle r') := by
  cases h with
  | error hfr => exact ⟨hfr, hout, hstart⟩
  | @ok ops ops' fr fr' hops hfr =>
    have hlen : s.started.length = t.started.length := by
      simpa using congrArg List.length hstart
    have hlen' : ops.length = ops'.length := by
      simpa using congrArg List.length hops
    refine ⟨hfr, ?_, ?_⟩
    · rw [Live.settle_ok_outstanding, Live.settle_ok_outstanding, hout, hlen, hlen']
    · rw [Live.settle_ok_started, Live.settle_ok_started, List.map_append, List.map_append, hstart,
        hops]

/-! ## What the continuations do to related pages -/

section Continuations

variable {fr fr' : Frame StatusFields}

theorem run_productsDone_shared (hm : fr.mounted = true) (productCode : Text) (codes : List Text) :
    ResultLike ((ProductStatusPage.productsDone productCode (.ok codes)).run fr)
      ((MyProductsPage.productsDone productCode (.ok codes)).run fr) := by
  have hplain : (ProductStatusPage.productsDone productCode (.ok codes)).run fr =
      (.ok [.status fr.fields.selectedCode false], { fr with
        fields := { fr.fields with availableCodes := codes }.resetForFetch }) := by
    rw [ProductStatusPage.productsDone, run_bind_ok (run_assign _ fr)]
    exact run_fetchStatus hm { fr.fields with availableCodes := codes } false
  have hawaited : (MyProductsPage.productsDone productCode (.ok codes)).run fr =
      (.ok [.status fr.fields.selectedCode true], { fr with
        fields := { fr.fields with availableCodes := codes }.resetForFetch }) := by
    refine run_tryCatch_ok ?_
    rw [run_bind_ok (run_lift _ fr), run_bind_ok (run_setState hm _)]
    exact run_fetchStatus hm { fr.fields with availableCodes := codes } true
  rw [hplain, hawaited]
  exact .ok rfl (.of_eq fun h => by cases h)

theorem FrameLike.productsDone (h : FrameLike fr fr') (productCode : Text)
    {r : Except Thrown (List Text)} (hr : fr.mounted = true → ∃ codes, r = .ok codes) :
    ResultLike ((ProductStatusPage.productsDone productCode r).run fr)
      ((MyProductsPage.productsDone productCode r).run fr') := by
  cases hm : fr.mounted with
  | true =>
    obtain ⟨rfl, -⟩ := h.shared hm
    obtain ⟨codes, rfl⟩ := hr hm
    exact run_productsDone_shared hm productCode codes
  | false =>
    exact .of_late (.productStatus_productsDone productCode r)
      (.myProducts_productsDone productCode r) h hm

/-- The page of `product_status_page.dart` has no message of its own for `null`. -/
theorem StatusFile.effect_error (r : Except Thrown (Option Fields)) {s : StatusFields}
    (h : s.error ≠ some unableMessage) :
    ((productStatus.effect r).apply s).error ≠ some unableMessage := by
  cases r with
  | ok rawResp => exact h
  | error e =>
    show some _ ≠ some unableMessage
    decide

theorem FrameLike.statusDone (h : FrameLike fr fr') (productCode : Text) (chained chained' : Bool)
    {r : Except Thrown (Option Fields)}
    (hr : fr.mounted = true →
      StatusFile.productStatus.effect r = StatusFile.myProducts.effect r) :
    ResultLike ((ProductStatusPage.statusDone chained r).run fr)
      ((MyProductsPage.statusDone productCode chained' r).run fr') := by
  cases hm : fr.mounted with
  | true =>
    obtain ⟨rfl, herror⟩ := h.shared hm
    rw [ProductStatusPage.run_statusDone hm, MyProductsPage.run_statusDone hm, ← hr hm]
    exact .ok rfl (.of_eq (StatusFile.effect_error r herror))
  | false =>
    exact .of_late (.productStatus_statusDone chained r)
      (.myProducts_statusDone productCode chained' r) h hm

theorem FrameLike.assetDone (h : FrameLike fr fr') (loaded : Bool) (color : StatusColor) :
    ResultLike ((assetDone loaded color).run fr) ((assetDone loaded color).run fr') := by
  cases loaded with
  | true => exact .ok rfl h
  | false =>
    refine .ok ?_ h
    rw [h.selected]

end Continuations

/-! ## Steps of the two pages -/

section Steps

variable {productCode : Text} {s t : StatusLive}

theorem ResultLike.of_eq {r : Except Thrown (List StatusOp) × Frame StatusFields}
    (h : r.2.fields.error ≠ some unableMessage) : ResultLike r r := by
  obtain ⟨r, fr⟩ := r
  cases r with
  | ok ops => exact .ok rfl (.of_eq h)
  | error e => exact .error (.of_eq h)

theorem statusTap_error {fr : Frame StatusFields} (hm : fr.mounted = true)
    (herror : fr.fields.error ≠ some unableMessage) {tap : StatusTap} {hdl : StatusHandler}
    (h : statusTap tap fr.fields = some hdl) :
    (hdl.run fr).2.fields.error ≠ some unableMessage := by
  let s : StatusLive := { frame := fr, started := [], outstanding := [], answered := [] }
  have hmove : StatusMove .productStatus s (.tap tap) (s.settle (hdl.run fr)) := .of_tap hm h
  rw [← Live.settle_frame s (hdl.run fr)]
  generalize s.settle (hdl.run fr) = s' at hmove ⊢
  cases hmove with
  | fetch e base fields chained hbase =>
    rw [Live.settle_frame]
    exact nofun
  | toggle =>
    rw [Live.settle_frame]
    exact herror

theorem Siblings.tap (h : Siblings s t) {tap : StatusTap} {s' : StatusLive}
    (hstep : (productStatusPage productCode).step s (.tap tap) = some s') :
    ∃ t', (myProductsPage productCode).step t (.tap tap) = some t' ∧ Siblings s' t' := by
  obtain ⟨hm, hdl, hhdl, rfl⟩ := PageCode.step_tap hstep
  obtain ⟨hframe, herror⟩ := h.frame.shared hm
  have hm' : t.frame.mounted = true := hframe ▸ hm
  refine ⟨t.settle (hdl.run t.frame), ?_, ?_⟩
  · rw [PageCode.step, if_pos hm', ← hframe]
    exact congrArg (Option.map _) hhdl
  · rw [← hframe]
    exact .settle h.outstanding h.started (.of_eq (statusTap_error hm herror hhdl))

theorem Siblings.started_getElem? (h : Siblings s t) {i : Nat} {op : StatusOp}
    (hop : s.started[i]? = some op) :
    ∃ op', t.started[i]? = some op' ∧ op.unchained = op'.unchained := by
  have hmap : (s.started.map StatusOp.unchained)[i]? = some op.unchained := by
    rw [List.getElem?_map, hop]
    rfl
  rw [h.started, List.getElem?_map] at hmap
  obtain ⟨op', hop', heq⟩ := Option.map_eq_some_iff.mp hmap
  exact ⟨op', hop', heq.symm⟩

/-- The two continuations of an answer, as long as it is shared. -/
theorem Siblings.resume (h : Siblings s t) {op op' : StatusOp}
    (hop : op.unchained = op'.unchained) {i : Nat} {a : StatusAnswer} {hdl : StatusHandler}
    (hc : AnswersShared s (.answer i a) s)
    (hhdl : (productStatusPage productCode).resume op a = some hdl) :
    ∃ hdl', (myProductsPage productCode).resume op' a = some hdl' ∧
      ResultLike (hdl.run s.frame) (hdl'.run t.frame) := by
  cases op with
  | products =>
    cases op' with
    | products =>
      cases a with
      | products r =>
        cases hhdl
        refine ⟨_, rfl, h.frame.productsDone productCode fun hm => ?_⟩
        cases r with
        | ok o => exact ⟨_, rfl⟩
        | error e => exact absurd rfl ((hc hm).1 i e)
      | _ => cases hhdl
    | _ => cases hop
  | status code chained =>
    cases op' with
    | status code' chained' =>
      cases a with
      | status r =>
        cases hhdl
        refine ⟨_, rfl, h.frame.statusDone productCode chained chained' fun hm => ?_⟩
        exact StatusFile.outcome_eq fun o ho => (hc hm).2 i o (by rw [ho])
      | _ => cases hhdl
    | _ => cases hop
  | asset code color =>
    cases op' with
    | asset code' color' =>
      cases hop
      cases a with
      | asset loaded =>
        cases hhdl
        exact ⟨_, rfl, h.frame.assetDone loaded color⟩
      | _ => cases hhdl
    | _ => cases hop
  | amberAsset code color =>
    cases op' with
    | amberAsset code' color' =>
      cases a with
      | asset loaded =>
        cases hhdl
        exact ⟨_, rfl, .ok rfl h.frame⟩
      | _ => cases hhdl
    | _ => cases hop

/-- Whether an answer fits an operation is the same in both files. -/
theorem resume_eq_none {op op' : StatusOp} (hop : op.unchained = op'.unchained) {a : StatusAnswer}
    (h : (productStatusPage productCode).resume op a = none) :
    (myProductsPage productCode).resume op' a = none := by
  cases op <;> cases op' <;> cases hop <;> cases a <;> first | rfl | cases h

theorem Siblings.answer (h : Siblings s t) {i : Nat} {a : StatusAnswer} {s' : StatusLive}
    (hc : AnswersShared s (.answer i a) s)
    (hstep : (productStatusPage productCode).step s (.answer i a) = some s') :
    ∃ t', (myProductsPage productCode).step t (.answer i a) = some t' ∧ Siblings s' t' := by
  obtain ⟨hi, op, hdl, hop, hhdl, rfl⟩ := PageCode.step_answer hstep
  obtain ⟨op', hop', heq⟩ := h.started_getElem? hop
  obtain ⟨hdl', hhdl', hlike⟩ := h.resume heq hc hhdl
  refine ⟨(t.close i a).settle (hdl'.run t.frame), ?_,
    .settle (s := s.close i a) (t := t.close i a) ?_ h.started hlike⟩
  · rw [PageCode.step, if_pos (h.outstanding ▸ hi), hop', Option.bind_some, hhdl']
    rfl
  · show s.outstanding.filter (· ≠ i) = t.outstanding.filter (· ≠ i)
    rw [h.outstanding]

theorem Siblings.dispose (h : Siblings s t) {s' : StatusLive}
    (hstep : (productStatusPage productCode).step s .dispose = some s') :
    ∃ t', (myProductsPage productCode).step t .dispose = some t' ∧ Siblings s' t' := by
  obtain ⟨hm, rfl⟩ := PageCode.step_dispose hstep
  have hm' : t.frame.mounted = true := h.frame.mounted ▸ hm
  refine ⟨t.disposed, ?_, ?_, h.outstanding, h.started⟩
  · rw [PageCode.step, if_pos hm']
  · exact .of_late rfl rfl h.frame.selected

theorem Siblings.stuck (h : Siblings s t) {e : StatusEvent}
    (hstep : (productStatusPage productCode).step s e = none) :
    (myProductsPage productCode).step t e = none := by
  cases e with
  | tap tap =>
    by_cases hm : s.frame.mounted = true
    · obtain ⟨hframe, -⟩ := h.frame.shared hm
      rw [PageCode.step, if_pos hm] at hstep
      have hnone : statusTap tap s.frame.fields = none := Option.map_eq_none_iff.mp hstep
      rw [PageCode.step, ← hframe, if_pos hm]
      exact Option.map_eq_none_iff.mpr hnone
    · rw [PageCode.step, if_neg (h.frame.mounted ▸ hm)]
  | answer i a =>
    rw [PageCode.step, ← h.outstanding]
    by_cases hi : i ∈ s.outstanding
    · rw [PageCode.step, if_pos hi] at hstep
      rw [if_pos hi]
      have hbind := Option.map_eq_none_iff.mp hstep
      refine Option.map_eq_none_iff.mpr (Option.bind_eq_none_iff.mpr fun op' hop' => ?_)
      have hlen : i < s.started.length := by
        have hlen := congrArg List.length h.started
        rw [List.length_map, List.length_map] at hlen
        rw [hlen]
        exact (List.getElem?_eq_some_iff.mp hop').1
      obtain ⟨op, hop⟩ : ∃ op, s.started[i]? = some op := ⟨_, List.getElem?_eq_getElem hlen⟩
      obtain ⟨op₁, hop₁, heq⟩ := h.started_getElem? hop
      obtain rfl := Option.some.inj (hop₁.symm.trans hop')
      exact resume_eq_none heq (Option.bind_eq_none_iff.mp hbind op hop)
    · rw [if_neg hi]
  | dispose =>
    by_cases hm : s.frame.mounted = true
    · rw [PageCode.step, if_pos hm] at hstep
      cases hstep
    · rw [PageCode.step, if_neg (h.frame.mounted ▸ hm)]

theorem Siblings.seen (h : Siblings s t) : s.seen = t.seen := by
  rw [Live.seen, Live.seen, ← h.frame.mounted]
  by_cases hm : s.frame.mounted = true
  · rw [if_pos hm, if_pos hm, (h.frame.shared hm).1]
  · rw [if_neg hm, if_neg hm]

/-! ## An answer that is not shared -/

/-- The effects of an answer can be told apart unless it is shared. -/
theorem StatusFile.shared_of_apply {o : HttpOutcome} {fields : StatusFields}
    (herror : fields.error ≠ some unableMessage)
    (h : (productStatus.outcome (.ok o)).apply fields = (myProducts.outcome (.ok o)).apply fields) :
    GraphQLService.getProductStatus o ≠ none ∧ productStatus.FlagInRange (.ok o) := by
  cases hresp : GraphQLService.getProductStatus o with
  | none =>
    rw [outcome_myProducts_none hresp] at h
    have hfailed := congrArg StatusFields.error h
    exact absurd hfailed herror
  | some resp =>
    obtain ⟨first, rest, rfl⟩ := GraphQLService.getProductStatus_some hresp
    refine ⟨Option.some_ne_none _, (flagInRange_iff hresp).mpr ?_⟩
    rw [outcome_productStatus hresp, outcome_myProducts hresp] at h
    exact Option.some.inj (congrArg StatusFields.productStatusFlag h)

theorem seen_settle {s : StatusLive} {r : Except Thrown (List StatusOp) × Frame StatusFields}
    {fr : Frame StatusFields} (hr : r.2 = fr) (hm : fr.mounted = true) :
    (s.settle r).seen = some fr.fields := by
  rw [Live.seen, Live.settle_frame, hr, if_pos hm]

theorem Siblings.sharp (h : Siblings s t) {e : StatusEvent} {s' t' : StatusLive}
    (hs : (productStatusPage productCode).step s e = some s')
    (ht : (myProductsPage productCode).step t e = some t') (hseen : s'.seen = t'.seen) :
    AnswersShared s e s' := by
  intro hm
  obtain ⟨hframe, herror⟩ := h.frame.shared hm
  have hm' : t.frame.mounted = true := hframe ▸ hm
  constructor
  · rintro i thrown rfl
    obtain ⟨-, op, hdl, -, hhdl, rfl⟩ := PageCode.step_answer hs
    obtain ⟨-, op', hdl', -, hhdl', rfl⟩ := PageCode.step_answer ht
    cases op <;> cases hhdl
    cases op' <;> cases hhdl'
    -- One page fetches and forgets the error, the other one shows it.
    obtain ⟨fields, -, hrun⟩ := ProductStatusPage.run_productsDone hm productCode (.error thrown)
    have hrun' := MyProductsPage.run_productsDone_error hm' productCode thrown
    have hfields := (seen_settle (congrArg Prod.snd hrun) hm).symm.trans
      (hseen.trans (seen_settle (congrArg Prod.snd hrun') hm'))
    cases congrArg StatusFields.error (Option.some.inj hfields)
  · rintro i o rfl
    obtain ⟨-, op, hdl, -, hhdl, rfl⟩ := PageCode.step_answer hs
    obtain ⟨-, op', hdl', -, hhdl', rfl⟩ := PageCode.step_answer ht
    cases op <;> cases hhdl
    cases op' with
    | status code chained =>
      cases hhdl'
      have hrun := ProductStatusPage.run_statusDone hm false
        ((Except.ok o : Except Thrown HttpOutcome).map GraphQLService.getProductStatus)
      have hrun' := MyProductsPage.run_statusDone hm' productCode chained
        ((Except.ok o : Except Thrown HttpOutcome).map GraphQLService.getProductStatus)
      have hfields := (seen_settle (congrArg Prod.snd hrun) hm).symm.trans
        (hseen.trans (seen_settle (congrArg Prod.snd hrun') hm'))
      refine StatusFile.shared_of_apply herror (Option.some.inj (hfields.trans ?_))
      rw [hframe]
      rfl
    | _ => cases hhdl'

end Steps

theorem siblings_opened (productCode : Text) :
    Siblings (productStatusPage productCode).opened (myProductsPage productCode).opened :=
  ⟨.of_eq nofun, rfl, rfl⟩

/-- Opened for one product and given the same taps and answers, the pages of the two
files show the same throughout a run exactly when each of its answers is shared. -/
theorem siblings_alike_iff (productCode : Text) (es : List StatusEvent) :
    Runs.Alike (productStatusPage productCode).step (myProductsPage productCode).step Live.seen
        Live.seen (productStatusPage productCode).opened (myProductsPage productCode).opened es ↔
      Runs.AtEachStep (productStatusPage productCode).step AnswersShared
        (productStatusPage productCode).opened es := by
  refine Runs.alike_iff (R := Siblings) (C := AnswersShared) (fun s t e s' h hs hc => ?_)
    (fun _ _ e h => h.stuck (e := e)) (fun _ _ h => h.seen)
    (fun _ _ e _ _ h => h.sharp (e := e)) (siblings_opened productCode) es
  cases e with
  | tap tap => exact h.tap hs
  | answer i a => exact h.answer hc hs
  | dispose => exact h.dispose hs

end SurveilOne
