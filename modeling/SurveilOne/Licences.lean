import SurveilOne.Menu
import SurveilOne.Status.Effects

/-!
# Failed requests for the licensed products

`getProducts` ends in the empty list both for a server that lists no product and
for every kind of failure, where its sibling methods end in `null`.  Its callers
each have a branch for an exception, which it never throws.  So no failure is
told apart from an empty list of licences.
-/

namespace SurveilOne

open Dart Flutter Flutter.Handler

/-- The server answered with a list of the given licence rows. -/
def ListsLicences (o : HttpOutcome) (rows : List Fields) : Prop :=
  ∃ text body data, o = .response 200 text (some (.map body)) ∧ Fields.get body "errors" = .null ∧
    Fields.get body "data" = .map data ∧ Fields.get data "getProducts" = .list (rows.map .map)

/-- The ways in which a `getProducts` request fails.  The last is none of the server's:
`_post` prints the body before it looks at it, which throws on a number that is not
finite. -/
inductive ProductsFailure : HttpOutcome → Prop where
  | threw (e : Thrown) : ProductsFailure (.threw e)
  | notJson (status : Int) (text : Text) : ProductsFailure (.response status text none)
  | notObject (status : Int) (text : Text) (json : Json) (h : ∀ m, json ≠ .map m) :
      ProductsFailure (.response status text (some json))
  | httpStatus (status : Int) (text : Text) (json : Json) (h : status ≠ 200) :
      ProductsFailure (.response status text (some json))
  | errors (status : Int) (text : Text) (body : Fields) (h : body.get "errors" ≠ .null) :
      ProductsFailure (.response status text (some (.map body)))
  | noData (status : Int) (text : Text) (body : Fields) (h : ∀ data, body.get "data" ≠ .map data) :
      ProductsFailure (.response status text (some (.map body)))
  | notList (status : Int) (text : Text) (body data : Fields) (hdata : body.get "data" = .map data)
      (h : ∀ raw, data.get "getProducts" ≠ .list raw) :
      ProductsFailure (.response status text (some (.map body)))
  | notRow (status : Int) (text : Text) (body data : Fields) (raw : List Json) (e : Json)
      (hdata : body.get "data" = .map data) (hraw : data.get "getProducts" = .list raw)
      (he : e ∈ raw) (h : ∀ row, e ≠ .map row) :
      ProductsFailure (.response status text (some (.map body)))
  | notPrinted (status : Int) (text : Text) (body : Fields)
      (h : (Json.map body).encodable = false) :
      ProductsFailure (.response status text (some (.map body)))

theorem maps_of_forall {raw : List Json} (h : ∀ e ∈ raw, ∃ row, e = .map row) :
    ∃ rows : List Fields, raw = rows.map .map := by
  induction raw with
  | nil => exact ⟨[], rfl⟩
  | cons e rest ih =>
    obtain ⟨row, rfl⟩ := h e (List.mem_cons_self ..)
    obtain ⟨rows, rfl⟩ := ih fun e he => h e (List.mem_cons_of_mem _ he)
    exact ⟨row :: rows, rfl⟩

theorem GraphQLService.Delivers.not_failure {o : HttpOutcome} {data : Fields} {rows : List Fields}
    (h : Delivers o data) (hraw : Fields.get data "getProducts" = .list (rows.map .map)) :
    ¬ ProductsFailure o := by
  obtain ⟨text, body, rfl, hprint, herrors, hdata⟩ := h
  intro hfail
  cases hfail with
  | notObject _ _ _ h => exact h body rfl
  | httpStatus _ _ _ h => exact h rfl
  | errors _ _ _ h => exact h herrors
  | noData _ _ _ h => exact h data hdata
  | notList _ _ _ data' hdata' h =>
    obtain rfl : data' = data := by simpa using hdata'.symm.trans hdata
    exact h _ hraw
  | notRow _ _ _ data' raw e hdata' hraw' he h =>
    obtain rfl : data' = data := by simpa using hdata'.symm.trans hdata
    obtain rfl : raw = rows.map .map := by simpa using hraw'.symm.trans hraw
    obtain ⟨row, -, hrow⟩ := List.mem_map.mp he
    exact h row hrow.symm
  | notPrinted _ _ _ h =>
    rw [hprint] at h
    cases h

/-- A response that lists no rows is one of the failures. -/
theorem listsLicences_of_not_failure {o : HttpOutcome} (h : ¬ ProductsFailure o) :
    ∃ rows, ListsLicences o rows := by
  cases o with
  | threw e => exact absurd (.threw e) h
  | response status text decoded =>
    cases decoded with
    | none => exact absurd (.notJson status text) h
    | some json =>
      by_cases hobj : ∃ body, json = .map body
      · obtain ⟨body, rfl⟩ := hobj
        have hstatus : status = 200 := by
          by_contra hs
          exact h (.httpStatus status text _ hs)
        have herrors : Fields.get body "errors" = .null := by
          by_contra he
          exact h (.errors status text body he)
        have hdata : ∃ data, Fields.get body "data" = .map data := by
          by_contra hd
          exact h (.noData status text body fun data he => hd ⟨data, he⟩)
        obtain ⟨data, hdata⟩ := hdata
        have hraw : ∃ raw, Fields.get data "getProducts" = .list raw := by
          by_contra hr
          exact h (.notList status text body data hdata fun raw he => hr ⟨raw, he⟩)
        obtain ⟨raw, hraw⟩ := hraw
        have hrows : ∀ e ∈ raw, ∃ row, e = .map row := by
          intro e he
          by_contra hrow
          exact h (.notRow status text body data raw e hdata hraw he fun row hr => hrow ⟨row, hr⟩)
        obtain ⟨rows, rfl⟩ := maps_of_forall hrows
        exact ⟨rows, text, body, data, by rw [hstatus], herrors, hdata, hraw⟩
      · exact absurd (.notObject status text json fun m hm => hobj ⟨m, hm⟩) h

namespace GraphQLService

/-- The product codes of the rows. -/
def licensedCodes (rows : List Fields) : List Text :=
  rows.filterMap fun row => (row.get "product_code").toText?

theorem productCodes_maps (rows : List Fields) :
    productCodes (rows.map .map) = .ok (rows.map fun row => (row.get "product_code").toText?) := by
  induction rows with
  | nil => rfl
  | cons row rest ih => simp [productCodes, Json.asMap, ih, bind, Except.bind]

theorem productCodes_ok {raw : List Json} {codes : List (Option Text)}
    (h : productCodes raw = .ok codes) : ∃ rows : List Fields, raw = rows.map .map := by
  induction raw generalizing codes with
  | nil => exact ⟨[], rfl⟩
  | cons e rest ih =>
    cases e with
    | map row =>
      cases hrest : productCodes rest with
      | error e => simp [productCodes, Json.asMap, hrest, bind, Except.bind] at h
      | ok more =>
        obtain ⟨rows, rfl⟩ := ih hrest
        exact ⟨row :: rows, rfl⟩
    | _ => cases h

theorem getProducts_of_lists {o : HttpOutcome} {rows : List Fields} (h : ListsLicences o rows)
    (hno : ¬ ProductsFailure o) : getProducts o = licensedCodes rows := by
  obtain ⟨text, body, data, rfl, herrors, hdata, hraw⟩ := h
  have hprint : (Json.map body).encodable = true := by
    by_contra hprint
    exact hno (.notPrinted 200 text body (by simpa using hprint))
  have hdelivers : Delivers (.response 200 text (some (.map body))) data :=
    ⟨text, body, rfl, hprint, herrors, hdata⟩
  rw [getProducts, post_ok_iff.mpr hdelivers]
  simp only [hraw, productCodes_maps]
  rw [licensedCodes, List.filterMap_map]
  rfl

theorem getProducts_of_failure {o : HttpOutcome} (h : ProductsFailure o) : getProducts o = [] := by
  rw [getProducts]
  cases hp : post productsUrl o with
  | error e => rfl
  | ok data =>
    cases hraw : data.get "getProducts" with
    | list raw =>
      cases hcodes : productCodes raw with
      | error e => simp only [hraw, hcodes]
      | ok codes =>
        obtain ⟨rows, rfl⟩ := productCodes_ok hcodes
        exact absurd h ((post_ok_iff.mp hp).not_failure hraw)
    | _ => simp only [hraw]

/-- A licence row with the number `1e999`, which is decoded to infinity. -/
example : getProducts (.response 200 [] (some (.map [("data".toList, .map [("getProducts".toList,
    .list [.map [("product_code".toList, .string "IND_SUR".toList),
      ("n".toList, .double ⟨"Infinity".toList, by decide⟩)]])])]))) = [] := rfl

end GraphQLService

/-! ## What the callers do with the answer -/

section Callers

variable {σ Op : Type}

/-- The caller goes on after the answer as it does after an exception. -/
def TakesCatch (done : Except Thrown (List Text) → Handler σ (List Op)) (o : HttpOutcome)
    (fr : Frame σ) : Prop :=
  ∃ e, (done (.ok (GraphQLService.getProducts o))).run fr = (done (.error e)).run fr

end Callers

/-- The menu takes its failure branch for a failed request and shows the snack
bar, and it says that there are no licensed products only when the server
listed none. -/
def MenuPage.ToldApart (o : HttpOutcome) : Prop :=
  ∀ fr : Frame MenuFields, fr.mounted = true →
    (ProductsFailure o → TakesCatch loadDone o fr ∧
      ∃ e, ((loadDone (.ok (GraphQLService.getProducts o))).run fr).2.fields.snackBars =
        fr.fields.snackBars ++ [⟨"Failed to load products: ".toList, e⟩]) ∧
      (ShowsEmpty ((loadDone (.ok (GraphQLService.getProducts o))).run fr).2.fields →
        ∃ rows, ListsLicences o rows ∧ GraphQLService.licensedCodes rows = [])

namespace StatusFile

/-- `_fetchAvailableProducts` of the file after its `await`. -/
def productsDone : StatusFile → Text → Except Thrown (List Text) → StatusHandler
  | productStatus => ProductStatusPage.productsDone
  | myProducts => MyProductsPage.productsDone

theorem resume_products (f : StatusFile) (pc : Text) (r : Except Thrown HttpOutcome) :
    (f.page pc).resume .products (.products r) =
      some (f.productsDone pc (r.map GraphQLService.getProducts)) := by
  cases f <;> rfl

/-- The status page takes its failure branch for a failed request, which leaves
its own product as the only one. -/
def ToldApart (f : StatusFile) (o : HttpOutcome) : Prop :=
  ∀ (productCode : Text) (fr : Frame StatusFields), fr.mounted = true →
    ProductsFailure o → TakesCatch (f.productsDone productCode) o fr ∧
      ((f.productsDone productCode (.ok (GraphQLService.getProducts o))).run fr).2.fields.availableCodes
        = [productCode]

end StatusFile

theorem MenuPage.toldApart_iff (o : HttpOutcome) : ToldApart o ↔ ¬ ProductsFailure o := by
  constructor
  · intro h hfail
    obtain ⟨-, e, he⟩ := (h { fields := menuPage.initial } rfl).1 hfail
    -- Only the failure branch shows a snack bar.
    rw [GraphQLService.getProducts_of_failure hfail, run_loadDone_ok rfl] at he
    cases he
  · intro hno fr hm
    refine ⟨fun hfail => absurd hfail hno, fun hempty => ?_⟩
    obtain ⟨rows, hrows⟩ := listsLicences_of_not_failure hno
    rw [GraphQLService.getProducts_of_lists hrows hno, run_loadDone_ok hm] at hempty
    exact ⟨rows, hrows, ((showsEmpty_iff _).mp hempty).2⟩

theorem StatusFile.toldApart_iff (f : StatusFile) (o : HttpOutcome) :
    f.ToldApart o ↔ ¬ ProductsFailure o := by
  refine ⟨fun h hfail => ?_, fun hno _ _ _ hfail => absurd hfail hno⟩
  obtain ⟨-, he⟩ := h [] { fields := (f.page []).initial } rfl hfail
  rw [GraphQLService.getProducts_of_failure hfail] at he
  cases f <;> cases he

/-- Each caller tells the answer to a request apart exactly when the request
does not fail. -/
theorem productsFailure_toldApart_iff (o : HttpOutcome) :
    (MenuPage.ToldApart o ↔ ¬ ProductsFailure o) ∧
      ∀ f : StatusFile, f.ToldApart o ↔ ¬ ProductsFailure o :=
  ⟨MenuPage.toldApart_iff o, fun f => f.toldApart_iff o⟩

/-- A timeout is taken for an empty list of licences. -/
theorem timeout_not_toldApart :
    ¬ ∀ o : HttpOutcome, MenuPage.ToldApart o ∧ ∀ f : StatusFile, f.ToldApart o := by
  intro h
  exact (MenuPage.toldApart_iff (.threw .timeoutException)).mp (h _).1 (.threw _)

end SurveilOne
