import SurveilOne.Status.Pages

/-!
# What an answer does to a status page

On a mounted page the continuations of the two pages have only a few effects:
an answer to `getProductStatus` is shown or recorded as a failure, and an answer
to `getProducts` starts a fetch or is recorded as a failure.  `StatusFile.effect`
says which, and the lemmas here show that the continuations do just that.  The
developments over whole runs use these lemmas only.
-/

namespace SurveilOne

open Dart Flutter Flutter.Handler

inductive StatusEffect where
  | shown (statuses : List Fields) (flag : Int) (color : StatusColor)
  | failed (message : String)

/-- The two files with a status page. -/
inductive StatusFile where
  | productStatus
  | myProducts
  deriving DecidableEq, Repr

namespace StatusFile

def page : StatusFile → Text → PageCode StatusFields StatusOp StatusAnswer StatusTap
  | productStatus => productStatusPage
  | myProducts => myProductsPage

/-- The effect of an answer to `getProductStatus`. -/
def effect : StatusFile → Except Thrown (Option Fields) → StatusEffect
  | productStatus, .ok rawResp =>
    let statuses := ProductStatusPage.extractStatuses rawResp
    let color := ProductStatusPage.getStatusColor statuses
    .shown statuses (ProductStatusPage.flagOfColor color) color
  | productStatus, .error _ => .failed "Failed to load product status."
  | myProducts, .ok none => .failed "Unable to load product status."
  | myProducts, .ok (some resp) =>
    match MyProductsPage.decodeStatuses resp with
    | .ok statuses =>
      .shown statuses (MyProductsPage.resolvedFlag resp)
        (MyProductsPage.colorFor (some (MyProductsPage.resolvedFlag resp)))
    | .error _ => .failed "Failed to load product status."
  | myProducts, .error _ => .failed "Failed to load product status."

/-- Whether an answer to `getProducts` is followed by a fetch. -/
def fetchesAfter : StatusFile → Except Thrown (List Text) → Bool
  | productStatus, _ => true
  | myProducts, .ok _ => true
  | myProducts, .error _ => false

/-- What the service hands to the page for an answer to `getProductStatus`. -/
def outcome (f : StatusFile) (r : Except Thrown HttpOutcome) : StatusEffect :=
  f.effect (r.map GraphQLService.getProductStatus)

/-- An answer to `getProductStatus` that the page takes for rows.  The page of
`product_status_page.dart` takes a `null` for no rows. -/
def Accepts : StatusFile → Except Thrown HttpOutcome → Prop
  | productStatus, .ok _ => True
  | myProducts, .ok o => GraphQLService.getProductStatus o ≠ none
  | _, .error _ => False

theorem accepts_of_shown {f : StatusFile} {r : Except Thrown HttpOutcome} {statuses : List Fields}
    {flag : Int} {color : StatusColor} (h : f.outcome r = .shown statuses flag color) :
    f.Accepts r := by
  cases r with
  | error e => cases f <;> cases h
  | ok o =>
    cases f with
    | productStatus => trivial
    | myProducts =>
      intro hnone
      have hmap : (Except.ok o : Except Thrown HttpOutcome).map GraphQLService.getProductStatus =
          .ok none := congrArg Except.ok hnone
      rw [outcome, hmap] at h
      cases h

end StatusFile

namespace StatusEffect

def apply (e : StatusEffect) (s : StatusFields) : StatusFields :=
  match e with
  | shown statuses flag _ => s.display statuses flag
  | failed message => s.fail message

/-- The asset that is loaded after the effect. -/
def ops (e : StatusEffect) (s : StatusFields) : List StatusOp :=
  match e with
  | shown _ _ color => [.asset s.selectedCode color]
  | failed _ => []

end StatusEffect

section Mounted

variable {fr : Frame StatusFields} (hm : fr.mounted = true)

include hm

/-- A fetch begins, perhaps after some fields were assigned. -/
theorem run_fetchStatus (fields : StatusFields) (chained : Bool) :
    (fetchStatus chained).run { fr with fields := fields } =
      (.ok [.status fields.selectedCode chained], { fr with fields := fields.resetForFetch }) := by
  have hm' : ({ fr with fields := fields } : Frame StatusFields).mounted = true := hm
  rw [fetchStatus, run_bind_ok (run_setState hm' _)]
  rfl

theorem ProductStatusPage.run_statusDone (chained : Bool) (r : Except Thrown (Option Fields)) :
    (ProductStatusPage.statusDone chained r).run fr =
      (.ok ((StatusFile.productStatus.effect r).ops fr.fields),
        { fr with fields := (StatusFile.productStatus.effect r).apply fr.fields }) := by
  rw [ProductStatusPage.statusDone]
  cases r with
  | ok rawResp =>
    refine run_tryCatch_ok ?_
    rw [run_bind_ok (run_lift _ fr), run_bind_ok (run_setState hm _)]
    rfl
  | error e =>
    rw [run_tryCatch_error (run_bind_error (run_lift _ fr)), run_bind_ok (run_setState hm _)]
    rfl

theorem MyProductsPage.run_fetchStatusDone (r : Except Thrown (Option Fields)) :
    (MyProductsPage.fetchStatusDone r).run fr =
      (.ok ((StatusFile.myProducts.effect r).ops fr.fields),
        { fr with fields := (StatusFile.myProducts.effect r).apply fr.fields }) := by
  rw [MyProductsPage.fetchStatusDone]
  cases r with
  | error e =>
    rw [run_tryCatch_error (run_bind_error (run_lift _ fr)), run_bind_ok (run_setState hm _)]
    rfl
  | ok resp =>
    have hlift : ((lift (.ok resp) : Handler StatusFields (Option Fields)) >>=
        MyProductsPage.receive).run fr = (MyProductsPage.receive resp).run fr :=
      run_bind_ok (run_lift _ fr)
    cases resp with
    | none =>
      refine run_tryCatch_ok (hlift.trans ?_)
      rw [MyProductsPage.receive, run_bind_ok (run_setState hm _)]
      rfl
    | some resp =>
      cases hd : MyProductsPage.decodeStatuses resp with
      | ok statuses =>
        have heff : StatusFile.myProducts.effect (.ok (some resp)) =
            .shown statuses (MyProductsPage.resolvedFlag resp)
              (MyProductsPage.colorFor (some (MyProductsPage.resolvedFlag resp))) := by
          simp only [StatusFile.effect, hd]
        rw [heff]
        refine run_tryCatch_ok (hlift.trans ?_)
        rw [MyProductsPage.receive, hd, run_bind_ok (run_lift _ fr),
          run_bind_ok (run_setState hm _)]
        rfl
      | error e =>
        have heff : StatusFile.myProducts.effect (.ok (some resp)) =
            .failed "Failed to load product status." := by
          simp only [StatusFile.effect, hd]
        have hbody : (MyProductsPage.receive (some resp)).run fr = (.error e, fr) := by
          rw [MyProductsPage.receive, hd]
          exact run_bind_error (run_lift _ fr)
        rw [heff, run_tryCatch_error (hlift.trans hbody), run_bind_ok (run_setState hm _)]
        rfl

theorem MyProductsPage.run_statusDone (productCode : Text) (chained : Bool)
    (r : Except Thrown (Option Fields)) :
    (MyProductsPage.statusDone productCode chained r).run fr =
      (.ok ((StatusFile.myProducts.effect r).ops fr.fields),
        { fr with fields := (StatusFile.myProducts.effect r).apply fr.fields }) := by
  rw [MyProductsPage.statusDone]
  cases chained with
  | true => exact run_tryCatch_ok (MyProductsPage.run_fetchStatusDone hm r)
  | false => exact MyProductsPage.run_fetchStatusDone hm r

theorem ProductStatusPage.run_productsDone (productCode : Text) (r : Except Thrown (List Text)) :
    ∃ fields : StatusFields, fields.selectedCode = fr.fields.selectedCode ∧
      (ProductStatusPage.productsDone productCode r).run fr =
        (.ok [.status fields.selectedCode false], { fr with fields := fields.resetForFetch }) := by
  cases r with
  | ok codes =>
    refine ⟨{ fr.fields with availableCodes := codes }, rfl, ?_⟩
    rw [ProductStatusPage.productsDone, run_bind_ok (run_assign _ fr)]
    exact run_fetchStatus hm _ false
  | error e =>
    refine ⟨{ fr.fields with
      availableCodes := [productCode]
      error := some "Failed to load product list.".toList }, rfl, ?_⟩
    rw [ProductStatusPage.productsDone, run_bind_ok (run_assign _ fr)]
    exact run_fetchStatus hm _ false

theorem MyProductsPage.run_productsDone_ok (productCode : Text) (codes : List Text) :
    ∃ fields : StatusFields, fields.selectedCode = fr.fields.selectedCode ∧
      (MyProductsPage.productsDone productCode (.ok codes)).run fr =
        (.ok [.status fields.selectedCode true], { fr with fields := fields.resetForFetch }) := by
  refine ⟨{ fr.fields with availableCodes := codes }, rfl, ?_⟩
  rw [MyProductsPage.productsDone]
  refine run_tryCatch_ok ?_
  rw [run_bind_ok (run_lift _ fr), run_bind_ok (run_setState hm _)]
  exact run_fetchStatus hm _ true

theorem MyProductsPage.run_productsDone_error (productCode : Text) (e : Thrown) :
    (MyProductsPage.productsDone productCode (.error e)).run fr =
      (.ok [], { fr with fields := { fr.fields with
        availableCodes := [productCode]
        error := some "Failed to load product list.".toList } }) := by
  rw [MyProductsPage.productsDone, run_tryCatch_error (run_bind_error (run_lift _ fr)),
    MyProductsPage.productsFailed, run_bind_ok (run_setState hm _)]
  rfl

end Mounted

/-- Neither `getProducts` nor a `getProductStatus` request is outstanding. -/
def NoRequest (s : StatusLive) : Prop :=
  ∀ j ∈ s.outstanding, ∀ op, s.started[j]? = some op → op.isRequest = false

/-! ## Moves of a mounted page -/

/-- What a step of a mounted status page does. -/
inductive StatusMove (f : StatusFile) (s : StatusLive) : StatusEvent → StatusLive → Prop where
  /-- A tap, or an answer to `getProducts`, begins a fetch. -/
  | fetch (e : StatusEvent) (base : StatusLive) (fields : StatusFields) (chained : Bool)
      (hbase : base = s ∨ ∃ i r, e = .answer i (.products r) ∧
        s.started[i]? = some .products ∧ base = s.close i (.products r)) :
      StatusMove f s e (base.settle
        (.ok [.status fields.selectedCode chained],
          { s.frame with fields := fields.resetForFetch }))
  | toggle : StatusMove f s (.tap .toggle) (s.settle
      (.ok [], { s.frame with
        fields := { s.frame.fields with showProductList := !s.frame.fields.showProductList } }))
  /-- The list of products failed and no fetch follows. -/
  | noProducts (i : Nat) (r : Except Thrown HttpOutcome) (codes : List Text) (message : Text)
      (hop : s.started[i]? = some .products)
      (hf : f.fetchesAfter (r.map GraphQLService.getProducts) = false) :
      StatusMove f s (.answer i (.products r)) ((s.close i (.products r)).settle
        (.ok [], { s.frame with
          fields := { s.frame.fields with availableCodes := codes, error := some message } }))
  | status (i : Nat) (r : Except Thrown HttpOutcome) (code : Text) (chained : Bool)
      (hi : i ∈ s.outstanding) (hop : s.started[i]? = some (.status code chained)) :
      StatusMove f s (.answer i (.status r)) ((s.close i (.status r)).settle
        (.ok ((f.outcome r).ops s.frame.fields),
          { s.frame with fields := (f.outcome r).apply s.frame.fields }))
  | asset (i : Nat) (loaded : Bool) (op : StatusOp) (ops : List StatusOp)
      (hop : s.started[i]? = some op) (hreq : op.isRequest = false)
      (hops : ∀ o ∈ ops, o.isRequest = false) :
      StatusMove f s (.answer i (.asset loaded)) ((s.close i (.asset loaded)).settle
        (.ok ops, s.frame))
  | dispose : StatusMove f s .dispose s.disposed

theorem StatusMove.of_select {f : StatusFile} {s : StatusLive} (hm : s.frame.mounted = true)
    (code : Text) :
    StatusMove f s (.tap (.select code)) (s.settle
      ((setState (fun s : StatusFields => { s with selectedCode := code, showProductList := false })
        >>= fun _ => fetchStatus false).run s.frame)) := by
  rw [run_bind_ok (run_setState hm _), run_fetchStatus hm]
  exact .fetch _ s _ false (Or.inl rfl)

theorem StatusMove.of_tap {f : StatusFile} {s : StatusLive} (hm : s.frame.mounted = true)
    {tap : StatusTap} {hdl : StatusHandler} (h : statusTap tap s.frame.fields = some hdl) :
    StatusMove f s (.tap tap) (s.settle (hdl.run s.frame)) := by
  have hfetch : StatusMove f s (.tap tap) (s.settle ((fetchStatus false).run s.frame)) := by
    rw [run_fetchStatus hm s.frame.fields false]
    exact .fetch _ s _ false (Or.inl rfl)
  cases tap with
  | select code =>
    rw [statusTap] at h
    split at h
    · cases h; exact StatusMove.of_select hm code
    · cases h
  | toggle =>
    cases h
    rw [run_bind_ok (run_setState hm _)]
    exact .toggle
  | refresh => cases h; exact hfetch
  | retry =>
    rw [statusTap] at h
    split at h
    · cases h; exact hfetch
    · cases h

section Answers

variable {f : StatusFile} {s : StatusLive}
  {productsDone : Except Thrown (List Text) → StatusHandler}
  {statusDone : Bool → Except Thrown (Option Fields) → StatusHandler}

/-- The continuations have the effects of file `f` in the frame at hand. -/
structure HasEffects (f : StatusFile) (fr : Frame StatusFields)
    (productsDone : Except Thrown (List Text) → StatusHandler)
    (statusDone : Bool → Except Thrown (Option Fields) → StatusHandler) : Prop where
  status : ∀ chained r, (statusDone chained r).run fr =
    (.ok ((f.effect r).ops fr.fields), { fr with fields := (f.effect r).apply fr.fields })
  products : ∀ r,
    (∃ (fields : StatusFields) (chained : Bool), (productsDone r).run fr =
      (.ok [.status fields.selectedCode chained], { fr with fields := fields.resetForFetch })) ∨
    (f.fetchesAfter r = false ∧ ∃ codes message, (productsDone r).run fr =
      (.ok [], { fr with
        fields := { fr.fields with availableCodes := codes, error := some message } }))

theorem StatusMove.of_answer (he : HasEffects f s.frame productsDone statusDone)
    {pc : Text} {i : Nat} {a : StatusAnswer} {op : StatusOp} {hdl : StatusHandler}
    (hi : i ∈ s.outstanding) (hop : s.started[i]? = some op)
    (h : (statusPage pc productsDone statusDone).resume op a = some hdl) :
    StatusMove f s (.answer i a) ((s.close i a).settle (hdl.run s.frame)) := by
  cases op with
  | products =>
    cases a with
    | products r =>
      cases h
      rcases he.products (r.map GraphQLService.getProducts) with
        ⟨fields, chained, hrun⟩ | ⟨hf, codes, message, hrun⟩
      · rw [hrun]
        exact .fetch _ _ fields chained (Or.inr ⟨i, r, rfl, hop, rfl⟩)
      · rw [hrun]
        exact .noProducts i r codes message hop hf
    | status r => cases h
    | asset loaded => cases h
  | status code chained =>
    cases a with
    | status r =>
      cases h
      rw [he.status]
      exact .status i r code chained hi hop
    | products r => cases h
    | asset loaded => cases h
  | asset code color =>
    cases a with
    | asset loaded =>
      cases h
      cases loaded with
      | true => exact .asset i true _ [] hop rfl (by simp)
      | false =>
        exact .asset i false _ [.amberAsset s.frame.fields.selectedCode color] hop rfl
          (by simp [StatusOp.isRequest])
    | products r => cases h
    | status r => cases h
  | amberAsset code color =>
    cases a with
    | asset loaded => cases h; exact .asset i loaded _ [] hop rfl (by simp)
    | products r => cases h
    | status r => cases h

theorem ProductStatusPage.hasEffects {fr : Frame StatusFields} (hm : fr.mounted = true)
    (pc : Text) : HasEffects .productStatus fr (ProductStatusPage.productsDone pc)
      ProductStatusPage.statusDone where
  status := ProductStatusPage.run_statusDone hm
  products r := by
    obtain ⟨fields, -, hrun⟩ := ProductStatusPage.run_productsDone hm pc r
    exact Or.inl ⟨fields, false, hrun⟩

theorem MyProductsPage.hasEffects {fr : Frame StatusFields} (hm : fr.mounted = true)
    (pc : Text) : HasEffects .myProducts fr (MyProductsPage.productsDone pc)
      (MyProductsPage.statusDone pc) where
  status := MyProductsPage.run_statusDone hm pc
  products r := by
    cases r with
    | ok codes =>
      obtain ⟨fields, -, hrun⟩ := MyProductsPage.run_productsDone_ok hm pc codes
      exact Or.inl ⟨fields, true, hrun⟩
    | error e =>
      exact Or.inr ⟨rfl, _, _, MyProductsPage.run_productsDone_error hm pc e⟩

end Answers

/-- The steps of a mounted status page are its moves. -/
theorem StatusFile.move_of_step {f : StatusFile} {pc : Text} {s t : StatusLive}
    {e : StatusEvent} (hm : s.frame.mounted = true) (h : (f.page pc).step s e = some t) :
    StatusMove f s e t := by
  cases e with
  | tap tap =>
    obtain ⟨-, hdl, hhdl, rfl⟩ := PageCode.step_tap h
    cases f <;> exact StatusMove.of_tap hm hhdl
  | answer i a =>
    obtain ⟨hi, op, hdl, hop, hhdl, rfl⟩ := PageCode.step_answer h
    cases f with
    | productStatus => exact .of_answer (ProductStatusPage.hasEffects hm pc) hi hop hhdl
    | myProducts => exact .of_answer (MyProductsPage.hasEffects hm pc) hi hop hhdl
  | dispose =>
    obtain ⟨-, rfl⟩ := PageCode.step_dispose h
    exact .dispose

/-! ## Answers of the server -/

/-- An answer with one row of the given flag. -/
def statusAnswer (flag : Int) : StatusAnswer :=
  .status (.ok (.response 200 [] (some (.map [("data".toList, .map [("getProductStatus".toList,
    .list [.map (MyProductsPage.flagRow flag)])])]))))

/-- An answer with a list of product codes. -/
def productsAnswer (codes : List String) : StatusAnswer :=
  .products (.ok (.response 200 [] (some (.map [("data".toList, .map [("getProducts".toList,
    .list (codes.map fun c => .map [("product_code".toList, .string c.toList)]))])]))))

/-! ## Timeliness of the code -/

theorem fetchStatus_timely (chained : Bool) : (fetchStatus chained).Timely :=
  .bind (.setState _) fun _ => .bind .getFields fun _ => .pure _

theorem fetchStatus_late (chained : Bool) : (fetchStatus chained).Late :=
  .bind_left (.setState _) fun _ => .bind .getFields fun _ => .pure _

theorem setStateOnly_timely (f : StatusFields → StatusFields) :
    Timely (setState f >>= fun _ => (pure [] : StatusHandler)) :=
  .bind (.setState _) fun _ => .pure _

theorem setStateOnly_late (f : StatusFields → StatusFields) :
    Late (setState f >>= fun _ => (pure [] : StatusHandler)) :=
  .bind_left (.setState _) fun _ => .pure _

theorem statusTap_timely {t : StatusTap} {s : StatusFields} {h : StatusHandler}
    (ht : statusTap t s = some h) : h.Timely := by
  cases t with
  | select code =>
    rw [statusTap] at ht
    split at ht
    · cases ht; exact .bind (.setState _) fun _ => fetchStatus_timely false
    · cases ht
  | toggle => cases ht; exact setStateOnly_timely _
  | refresh => cases ht; exact fetchStatus_timely false
  | retry =>
    rw [statusTap] at ht
    split at ht
    · cases ht; exact fetchStatus_timely false
    · cases ht

theorem assetDone_timely (loaded : Bool) (color : StatusColor) :
    (assetDone loaded color).Timely := by
  cases loaded with
  | true => exact .pure _
  | false => exact .bind .getFields fun _ => .pure _

theorem statusPage_timely {pc : Text} {productsDone : Except Thrown (List Text) → StatusHandler}
    {statusDone : Bool → Except Thrown (Option Fields) → StatusHandler}
    (hp : ∀ r, (productsDone r).Timely) (hs : ∀ c r, (statusDone c r).Timely) :
    (statusPage pc productsDone statusDone).Timely where
  initState := .pure _
  onTap _ _ _ h := statusTap_timely h
  resume op a h hr := by
    cases op <;> cases a <;> cases hr
    · exact hp _
    · exact hs _ _
    · exact assetDone_timely _ _
    · exact .pure _

theorem ProductStatusPage.productsDone_timely (pc : Text) (r : Except Thrown (List Text)) :
    (ProductStatusPage.productsDone pc r).Timely := by
  cases r <;> exact .bind (.assign _) fun _ => fetchStatus_timely false

theorem ProductStatusPage.statusDone_timely (c : Bool) (r : Except Thrown (Option Fields)) :
    (ProductStatusPage.statusDone c r).Timely :=
  .tryCatch
    (.bind (.lift _) fun _ => .bind (.setState _) fun _ => .bind .getFields fun _ => .pure _)
    fun _ => setStateOnly_timely _

theorem MyProductsPage.receive_timely (resp : Option Fields) :
    (MyProductsPage.receive resp).Timely := by
  cases resp with
  | none => exact setStateOnly_timely _
  | some resp =>
    exact .bind (.lift _) fun _ => .bind (.setState _) fun _ => .bind .getFields fun _ => .pure _

theorem MyProductsPage.fetchStatusDone_timely (r : Except Thrown (Option Fields)) :
    (MyProductsPage.fetchStatusDone r).Timely :=
  .tryCatch (.bind (.lift _) fun resp => MyProductsPage.receive_timely resp)
    fun _ => setStateOnly_timely _

theorem MyProductsPage.productsDone_timely (pc : Text) (r : Except Thrown (List Text)) :
    (MyProductsPage.productsDone pc r).Timely :=
  .tryCatch (.bind (.lift _) fun _ => .bind (.setState _) fun _ => fetchStatus_timely true)
    fun _ => setStateOnly_timely _

theorem MyProductsPage.statusDone_timely (pc : Text) (c : Bool)
    (r : Except Thrown (Option Fields)) : (MyProductsPage.statusDone pc c r).Timely := by
  cases c with
  | true =>
    exact .tryCatch (MyProductsPage.fetchStatusDone_timely r) fun _ => setStateOnly_timely _
  | false => exact MyProductsPage.fetchStatusDone_timely r

theorem StatusFile.page_timely (f : StatusFile) (pc : Text) : (f.page pc).Timely := by
  cases f with
  | productStatus =>
    exact statusPage_timely (ProductStatusPage.productsDone_timely pc)
      ProductStatusPage.statusDone_timely
  | myProducts =>
    exact statusPage_timely (MyProductsPage.productsDone_timely pc)
      (MyProductsPage.statusDone_timely pc)

end SurveilOne
