import SurveilOne.Status.Effects

/-!
# Error, rows and flag of a status page

A fetch resets the error, the rows and the flag together, and its answer writes
some of them.  `SettlesConsistent` says that once no request is outstanding the
page has either an error and nothing else, or rows, their worst flag and no
error.

With overlapping fetches an answer can come after another one has already
written, and then it leaves the other's fields standing.  `CleanAnswer` says that
an answer finds nothing it leaves standing.
-/

namespace SurveilOne

open Dart Flutter

/-- The worst flag of the rows, as the service works it out.  Without rows it is
the flag that both pages show as green. -/
def worstOf : List Fields → Int
  | [] => 0
  | first :: rest => GraphQLService.worstFlag (flagOf first) (rest.map flagOf)

namespace GraphQLService

theorem rowFlags_cons {item : Json} {rest : List Json} {flags : List Int}
    (h : rowFlags (item :: rest) = .ok flags) :
    ∃ m more, item = .map m ∧ rowFlags rest = .ok more ∧ flags = flagOf m :: more := by
  cases item with
  | map m =>
    cases hrest : rowFlags rest with
    | error e => simp [rowFlags, hrest, Json.index, bind, Except.bind] at h
    | ok more =>
      refine ⟨m, more, rfl, rfl, ?_⟩
      simpa [rowFlags, hrest, Json.index, bind, Except.bind, flagOf, eq_comm] using h
  | _ => cases h

theorem rowFlags_ok {raw : List Json} {flags : List Int} (h : rowFlags raw = .ok flags) :
    ∃ rows : List Fields, raw = rows.map .map ∧ flags = rows.map flagOf := by
  induction raw generalizing flags with
  | nil =>
    cases h
    exact ⟨[], rfl, rfl⟩
  | cons item rest ih =>
    obtain ⟨m, more, rfl, hrest, rfl⟩ := rowFlags_cons h
    obtain ⟨rows, rfl, rfl⟩ := ih hrest
    exact ⟨m :: rows, rfl, rfl⟩

theorem getProductStatus_some {o : HttpOutcome} {resp : Fields}
    (h : getProductStatus o = some resp) :
    ∃ first rest, resp = responseOf first rest := by
  rw [getProductStatus] at h
  split at h
  · split at h
    · rename_i raw _
      cases hflags : rowFlags raw with
      | error e =>
        have hresp : statusResponse raw = .error e := by
          rw [statusResponse, hflags]
          rfl
        rw [hresp] at h
        cases h
      | ok flags =>
        obtain ⟨rows, rfl, rfl⟩ := rowFlags_ok hflags
        cases rows with
        | nil => cases h
        | cons first rest =>
          rw [statusResponse_maps] at h
          exact ⟨first, rest, (Option.some.inj h).symm⟩
    · cases h
  · cases h

end GraphQLService

theorem worstOf_keptRows (first : Fields) (rest : List Fields) :
    worstOf ((first :: rest).map GraphQLService.keptRow) =
      GraphQLService.worstFlag (flagOf first) (rest.map flagOf) := by
  rw [List.map_cons, worstOf, List.map_map]
  rfl

namespace MyProductsPage

theorem castStatuses_maps (rows : List Fields) : castStatuses (rows.map .map) = .ok rows := by
  induction rows with
  | nil => rfl
  | cons row rest ih => simp [castStatuses, Json.asMap, ih, bind, Except.bind]

/-- The page decodes every response, and its flag is the worst of the rows. -/
theorem decodeStatuses_responseOf (first : Fields) (rest : List Fields) :
    decodeStatuses (GraphQLService.responseOf first rest) =
        .ok ((first :: rest).map GraphQLService.keptRow) ∧
      resolvedFlag (GraphQLService.responseOf first rest) =
        worstOf ((first :: rest).map GraphQLService.keptRow) :=
  ⟨castStatuses_maps _, (worstOf_keptRows first rest).symm⟩

end MyProductsPage

namespace ProductStatusPage

/-- The scan finds the worst flag exactly when that is one of 0, 1 and 2. -/
theorem flagOfColor_getStatusColor_iff (rows : List Fields) :
    flagOfColor (getStatusColor rows) = worstOf rows ↔ 0 ≤ worstOf rows ∧ worstOf rows ≤ 2 := by
  rw [getStatusColor_eq]
  cases rows with
  | nil => decide
  | cons first rest =>
    have hmem := GraphQLService.worstFlag_mem (flagOf first) (rest.map flagOf)
    have hle := GraphQLService.le_worstFlag (flagOf first) (rest.map flagOf)
    rw [worstOf, StatusColor.ofFlags, List.map_cons]
    generalize GraphQLService.worstFlag (flagOf first) (rest.map flagOf) = worst at hmem hle
    generalize flagOf first :: rest.map flagOf = flags at hmem hle
    by_cases h2 : 2 ∈ flags
    · have := hle 2 h2
      rw [if_pos h2, flagOfColor]
      omega
    · have hw2 : worst ≠ 2 := fun hw => h2 (hw ▸ hmem)
      rw [if_neg h2]
      by_cases h1 : 1 ∈ flags
      · have := hle 1 h1
        rw [if_pos h1, flagOfColor]
        omega
      · have hw1 : worst ≠ 1 := fun hw => h1 (hw ▸ hmem)
        rw [if_neg h1, flagOfColor]
        omega

end ProductStatusPage

namespace StatusFile

/-- The rows of an accepted answer have a flag the page can show.  The page of
`product_status_page.dart` knows the flags 0, 1 and 2 only. -/
def FlagInRange : StatusFile → Except Thrown HttpOutcome → Prop
  | productStatus, .ok o =>
    let rows := ProductStatusPage.extractStatuses (GraphQLService.getProductStatus o)
    0 ≤ worstOf rows ∧ worstOf rows ≤ 2
  | _, _ => True

theorem outcome_accepted {f : StatusFile} {r : Except Thrown HttpOutcome} (ha : f.Accepts r)
    (hr : f.FlagInRange r) : ∃ statuses color, f.outcome r = .shown statuses (worstOf statuses) color := by
  cases r with
  | error e => cases f <;> exact ha.elim
  | ok o =>
    cases f with
    | productStatus =>
      refine ⟨ProductStatusPage.extractStatuses (GraphQLService.getProductStatus o),
        ProductStatusPage.getStatusColor
          (ProductStatusPage.extractStatuses (GraphQLService.getProductStatus o)), ?_⟩
      rw [← (ProductStatusPage.flagOfColor_getStatusColor_iff _).mpr hr]
      rfl
    | myProducts =>
      obtain ⟨resp, hresp⟩ := Option.ne_none_iff_exists'.mp ha
      obtain ⟨first, rest, rfl⟩ := GraphQLService.getProductStatus_some hresp
      obtain ⟨hdecode, hflag⟩ := MyProductsPage.decodeStatuses_responseOf first rest
      have hmap : (Except.ok o : Except Thrown HttpOutcome).map GraphQLService.getProductStatus =
          .ok (some (GraphQLService.responseOf first rest)) := congrArg Except.ok hresp
      rw [outcome, hmap, effect, hdecode, hflag]
      exact ⟨_, _, rfl⟩

theorem outcome_rejected {f : StatusFile} {r : Except Thrown HttpOutcome} (ha : ¬ f.Accepts r) :
    ∃ message, f.outcome r = .failed message := by
  cases hout : f.outcome r with
  | shown statuses flag color => exact absurd (accepts_of_shown hout) ha
  | failed message => exact ⟨message, rfl⟩

end StatusFile

/-! ## The law and its condition -/

/-- An error and nothing else, or the rows, their worst flag and no error. -/
def Consistent (s : StatusFields) : Prop :=
  s.loading = false ∧
    ((s.error ≠ none ∧ s.statuses = [] ∧ s.productStatusFlag = none) ∨
      (s.error = none ∧ s.productStatusFlag = some (worstOf s.statuses)))

/-- While the page is up, it is consistent once no request is outstanding. -/
def SettlesConsistent (s : StatusLive) : Prop :=
  s.frame.mounted = true → NoRequest s → Consistent s.frame.fields

/-- Rows come while no error is recorded, a failure comes while no rows are
shown, and when `getProducts` fails with no fetch to follow, no rows are shown
and the page waits for nothing but requests that are still out. -/
structure CleanAnswer (f : StatusFile) (s : StatusLive) (e : StatusEvent) (_ : StatusLive) :
    Prop where
  accepted : ∀ i r, e = .answer i (.status r) → s.frame.mounted = true → f.Accepts r →
    s.frame.fields.error = none ∧ f.FlagInRange r
  rejected : ∀ i r, e = .answer i (.status r) → s.frame.mounted = true → ¬ f.Accepts r →
    s.frame.fields.productStatusFlag = none
  noProducts : ∀ i r, e = .answer i (.products r) → s.frame.mounted = true →
    f.fetchesAfter (r.map GraphQLService.getProducts) = false →
    s.frame.fields.productStatusFlag = none ∧ (s.frame.fields.loading = false ∨
      ∃ j ∈ s.outstanding, ∃ code chained, s.started[j]? = some (.status code chained))

/-- The invariant of runs whose answers are clean. -/
structure Unmixed (s : StatusLive) : Prop where
  bare : s.frame.fields.productStatusFlag = none → s.frame.fields.statuses = []
  shown : ∀ flag, s.frame.fields.productStatusFlag = some flag →
    s.frame.fields.error = none ∧ flag = worstOf s.frame.fields.statuses
  settled : s.frame.fields.loading = false →
    s.frame.fields.error ≠ none ∨ s.frame.fields.productStatusFlag ≠ none
  waiting : s.frame.fields.loading = true →
    ∃ i ∈ s.outstanding, ∃ op, s.started[i]? = some op ∧ op.isRequest = true

theorem Unmixed.consistent {s : StatusLive} (h : Unmixed s) (hno : NoRequest s) :
    Consistent s.frame.fields := by
  have hloading : s.frame.fields.loading = false := by
    cases hl : s.frame.fields.loading with
    | false => rfl
    | true =>
      obtain ⟨i, hi, op, hop, hreq⟩ := h.waiting hl
      rw [hno i hi op hop] at hreq
      cases hreq
  refine ⟨hloading, ?_⟩
  cases hflag : s.frame.fields.productStatusFlag with
  | none =>
    rcases h.settled hloading with herr | hne
    · exact Or.inl ⟨herr, h.bare hflag, rfl⟩
    · exact absurd hflag hne
  | some flag =>
    obtain ⟨herr, rfl⟩ := h.shown flag hflag
    exact Or.inr ⟨herr, rfl⟩

theorem unmixed_opened (f : StatusFile) (productCode : Text) :
    Unmixed (f.page productCode).opened := by
  have hfirst : 0 ∈ [0] := List.mem_singleton.mpr rfl
  cases f <;> exact
    { bare := fun _ => rfl
      shown := fun _ h => by cases h
      settled := fun h => by cases h
      waiting := fun _ => ⟨0, hfirst, .products, rfl, rfl⟩ }

theorem Unmixed.move {f : StatusFile} {s t : StatusLive} {e : StatusEvent} (h : Unmixed s)
    (hm : s.frame.mounted = true) (hc : CleanAnswer f s e t) (hmove : StatusMove f s e t) :
    Unmixed t := by
  cases hmove with
  | fetch e base fields chained hbase =>
    refine ⟨fun _ => rfl, fun _ hf => (by cases hf), fun hl => (by cases hl), fun _ => ?_⟩
    refine ⟨base.started.length, ?_, .status fields.selectedCode chained, ?_, rfl⟩
    · simp [Live.settle_ok_outstanding]
    · simp
  | toggle =>
    refine ⟨h.bare, h.shown, h.settled, fun hl => ?_⟩
    obtain ⟨i, hi, op, hop, hreq⟩ := h.waiting hl
    exact ⟨i, Live.mem_settle_of_mem hi, op, Live.settle_getElem? hop, hreq⟩
  | noProducts i r codes message hop hf =>
    obtain ⟨hflag, hwait⟩ := hc.noProducts i r rfl hm hf
    refine ⟨h.bare, fun v hv => ?_, fun _ => Or.inl (by simp), fun hl => ?_⟩
    · exact absurd (hflag.symm.trans hv) (by simp)
    · rcases hwait with hl' | ⟨j, hj, code, chained, hjop⟩
      · exact absurd (hl'.symm.trans hl) (by simp)
      · have hji : j ≠ i := by
          rintro rfl
          cases hop.symm.trans hjop
        exact ⟨j, Live.mem_settle_close hj hji, _, Live.settle_getElem? hjop, rfl⟩
  | status i r code chained hi hop =>
    by_cases ha : f.Accepts r
    · obtain ⟨herr, hrange⟩ := hc.accepted i r rfl hm ha
      obtain ⟨statuses, color, hout⟩ := StatusFile.outcome_accepted ha hrange
      rw [hout]
      refine ⟨fun hf => (by cases hf), fun v hv => ?_, fun _ => Or.inr (by simp [StatusEffect.apply,
        StatusFields.display]), fun hl => (by cases hl)⟩
      cases hv
      exact ⟨herr, rfl⟩
    · have hflag := hc.rejected i r rfl hm ha
      obtain ⟨message, hout⟩ := StatusFile.outcome_rejected ha
      rw [hout]
      refine ⟨h.bare, fun v hv => ?_, fun _ => Or.inl (by simp [StatusEffect.apply,
        StatusFields.fail]), fun hl => (by cases hl)⟩
      exact absurd (hflag.symm.trans hv) (by simp)
  | asset i loaded op ops hop hreq hops =>
    refine ⟨h.bare, h.shown, h.settled, fun hl => ?_⟩
    obtain ⟨j, hj, opj, hjop, hjreq⟩ := h.waiting hl
    have hji : j ≠ i := StatusOp.index_ne hop hreq hjop hjreq
    exact ⟨j, Live.mem_settle_close hj hji, opj, Live.settle_getElem? hjop, hjreq⟩
  | dispose => exact ⟨h.bare, h.shown, h.settled, h.waiting⟩

/-- In every run whose answers are clean, the page is consistent whenever no
request is outstanding. -/
theorem StatusFile.settlesConsistent_throughout (f : StatusFile) (productCode : Text)
    (es : List StatusEvent)
    (h : Runs.AtEachStep (f.page productCode).step (CleanAnswer f) (f.page productCode).opened es) :
    Runs.Throughout (f.page productCode).step SettlesConsistent (f.page productCode).opened es := by
  refine Runs.throughout_of_inv (I := fun s => s.frame.mounted = true → Unmixed s) ?_
    (fun s hs hm => (hs hm).consistent) (fun _ => unmixed_opened f productCode) h
  intro s e t hs hc hstep hmt
  have hm := PageCode.mounted_before (f.page_timely productCode) hstep hmt
  exact (hs hm).move hm hc (StatusFile.move_of_step hm hstep)

/-! ## Two runs -/

/-- A pull to refresh while the first answer is out, and rows for both. -/
def refreshRun (second : StatusAnswer) : List StatusEvent :=
  [.answer 0 (productsAnswer ["IND_SUR"]), .tap .refresh, .answer 1 (statusAnswer 1),
    .answer 2 second]

theorem StatusFile.refreshRun_settlesConsistent :
    Runs.Throughout (myProductsPage "IND_SUR".toList).step SettlesConsistent
      (myProductsPage "IND_SUR".toList).opened (refreshRun (statusAnswer 2)) := by
  refine StatusFile.settlesConsistent_throughout .myProducts "IND_SUR".toList _ ?_
  intro t ht
  cases ht
  refine ⟨⟨fun _ _ he => (by cases he), fun _ _ he => (by cases he), fun i r he _ hf => ?_⟩, ?_⟩
  · cases he
    cases hf
  intro t ht
  cases ht
  refine ⟨⟨fun _ _ he => (by cases he), fun _ _ he => (by cases he),
    fun _ _ he => (by cases he)⟩, ?_⟩
  intro t ht
  cases ht
  refine ⟨⟨fun i r he _ _ => ⟨rfl, ?_⟩, fun i r he _ ha => absurd ?_ ha,
    fun _ _ he => (by cases he)⟩, ?_⟩
  · cases he
    trivial
  · cases he
    exact fun h => by cases h
  intro t ht
  cases ht
  refine ⟨⟨fun i r he _ _ => ⟨rfl, ?_⟩, fun i r he _ ha => absurd ?_ ha,
    fun _ _ he => (by cases he)⟩, trivial⟩
  · cases he
    trivial
  · cases he
    exact fun h => by cases h

/-- The answer to a request that ran into the timeout. -/
def timeoutAnswer : StatusAnswer := .status (.ok (.threw .timeoutException))

/-- The page of `product_status_page.dart` shows flag 0 for a row with flag 3.
The page of `my_products_page.dart` keeps the rows of one request beside the
error of another. -/
theorem StatusFile.not_settlesConsistent :
    (¬ ∀ productCode es, Runs.Throughout (productStatusPage productCode).step SettlesConsistent
      (productStatusPage productCode).opened es) ∧
    ¬ ∀ productCode es, Runs.Throughout (myProductsPage productCode).step SettlesConsistent
      (myProductsPage productCode).opened es := by
  constructor
  · intro h
    have hfinal := fun t => Runs.throughout_iff_exec.mp
      (h "IND_SUR".toList [.answer 0 (productsAnswer ["IND_SUR"]), .answer 1 (statusAnswer 3)])
      _ [] t (List.append_nil _).symm
    have hquiet : ∀ i ∈ [2], ∀ op, [StatusOp.products, .status "IND_SUR".toList false,
        .asset "IND_SUR".toList .green][i]? = some op → op.isRequest = false := by
      intro i hi op hop
      obtain rfl := List.mem_singleton.mp hi
      cases hop
      rfl
    rcases (hfinal _ rfl rfl hquiet).2 with ⟨herr, -, -⟩ | ⟨-, hflag⟩
    · exact herr rfl
    · exact absurd (Option.some.inj hflag) (by decide)
  · intro h
    have hfinal := fun t => Runs.throughout_iff_exec.mp
      (h "IND_SUR".toList (refreshRun timeoutAnswer)) _ [] t (List.append_nil _).symm
    have hquiet : ∀ i ∈ [3], ∀ op, [StatusOp.products, .status "IND_SUR".toList true,
        .status "IND_SUR".toList false, .asset "IND_SUR".toList .yellow][i]? = some op →
        op.isRequest = false := by
      intro i hi op hop
      obtain rfl := List.mem_singleton.mp hi
      cases hop
      rfl
    rcases (hfinal _ rfl rfl hquiet).2 with ⟨-, hrows, -⟩ | ⟨herr, -⟩
    · cases hrows
    · cases herr

end SurveilOne
