import SurveilOne.Flutter.Page
import SurveilOne.Service

/-!
# The menu page

`MenuPage` loads the licensed products when it is opened and at each pull to
refresh.  The continuation after the request looks at `mounted` before it
touches the page.
-/

namespace SurveilOne

open Dart Flutter Flutter.Handler

/-- A snack bar whose text is the label followed by the text of what was
caught. -/
structure SnackBar where
  label : Text
  caught : Thrown
  deriving DecidableEq, Repr

structure MenuFields where
  licensedProductCodes : List Text
  isLoading : Bool
  /-- The snack bars shown so far. -/
  snackBars : List SnackBar

inductive MenuOp where
  | products

inductive MenuTap where
  | refresh

abbrev MenuHandler := Handler MenuFields (List MenuOp)

namespace MenuPage

/-- Title and icon of each product the page knows. -/
def productMeta : List (Text × Text × Text) :=
  [("IND_SUR".toList, "Indoor Surveillance".toList, "assets/images/indoor.png".toList),
    ("OUT_SUR".toList, "Outdoor Surveillance".toList, "assets/images/outdoor.png".toList),
    ("TIM_TRA".toList, "Employee Time Tracking".toList, "assets/images/timetrack.png".toList),
    ("PHA_GOV".toList, "Pharmacy Governance".toList, "assets/images/phar.png".toList)]

inductive ProductTile where
  | note (text : Text)
  | product (code title icon : Text)
  deriving DecidableEq, Repr

/-- `_buildProductTiles`.  A code without an entry gets no tile. -/
def buildProductTiles (licensedProductCodes : List Text) : List ProductTile :=
  if licensedProductCodes.isEmpty then [.note "No licensed products found.".toList]
  else licensedProductCodes.filterMap fun code =>
    (productMeta.lookup code).map fun entry => .product code entry.1 entry.2

/-- `_loadLicensedProducts` up to its `await`. -/
def loadLicensedProducts : MenuHandler := do
  setState fun s => { s with isLoading := true }
  pure [.products]

/-- Its `try` and `catch` after the `await`. -/
def receiveProducts (r : Except Thrown (List Text)) : Handler MenuFields Unit :=
  tryCatch
    (do
      let products ← lift r
      whenMounted (setState fun s => { s with licensedProductCodes := products }))
    fun e => whenMounted (assign fun s => { s with
      snackBars := s.snackBars ++ [⟨"Failed to load products: ".toList, e⟩] })

/-- `_loadLicensedProducts` after its `await`. -/
def loadDone (r : Except Thrown (List Text)) : MenuHandler := do
  tryFinally (receiveProducts r) (whenMounted (setState fun s => { s with isLoading := false }))
  pure []

/-- The page shows that there are no licensed products. -/
def ShowsEmpty (s : MenuFields) : Prop :=
  s.isLoading = false ∧
    buildProductTiles s.licensedProductCodes = [.note "No licensed products found.".toList]

theorem buildProductTiles_note {codes : List Text} {text : Text}
    (h : .note text ∈ buildProductTiles codes) : codes = [] := by
  rw [buildProductTiles] at h
  split at h
  · exact List.isEmpty_iff.mp ‹_›
  · obtain ⟨code, -, hcode⟩ := List.mem_filterMap.mp h
    obtain ⟨entry, -, hentry⟩ := Option.map_eq_some_iff.mp hcode
    cases hentry

theorem showsEmpty_iff (s : MenuFields) :
    ShowsEmpty s ↔ s.isLoading = false ∧ s.licensedProductCodes = [] := by
  refine and_congr_right fun _ => ⟨fun h => ?_, fun h => ?_⟩
  · exact buildProductTiles_note (h ▸ List.mem_singleton.mpr rfl)
  · rw [h]
    rfl

section Mounted

variable {fr : Frame MenuFields} (hm : fr.mounted = true)

include hm

theorem run_loadDone_ok (codes : List Text) :
    (loadDone (.ok codes)).run fr = (.ok [], { fr with
      fields := { fr.fields with licensedProductCodes := codes, isLoading := false } }) := by
  have hbody : (receiveProducts (.ok codes)).run fr = (.ok (), { fr with
      fields := { fr.fields with licensedProductCodes := codes } }) := by
    refine run_tryCatch_ok ?_
    rw [run_bind_ok (run_lift _ fr), run_whenMounted hm, run_setState hm]
  have hfinal : (whenMounted (setState fun s : MenuFields => { s with isLoading := false })).run
      { fr with fields := { fr.fields with licensedProductCodes := codes } } =
      (.ok (), { fr with
        fields := { fr.fields with licensedProductCodes := codes, isLoading := false } }) := by
    rw [run_whenMounted (by exact hm), run_setState (by exact hm)]
  rw [loadDone, run_bind_ok (run_tryFinally_ok hbody hfinal)]
  rfl

end Mounted

/-! ## Timeliness -/

theorem loadLicensedProducts_timely : loadLicensedProducts.Timely :=
  .bind (.setState _) fun _ => .pure _

theorem receiveProducts_timely (r : Except Thrown (List Text)) : (receiveProducts r).Timely :=
  .tryCatch (.bind (.lift _) fun _ => .whenMounted (.setState _))
    fun _ => .whenMounted (.assign _)

theorem loadDone_timely (r : Except Thrown (List Text)) : (loadDone r).Timely :=
  .bind (.tryFinally (receiveProducts_timely r) (.whenMounted (.setState _))) fun _ => .pure _

theorem receiveProducts_silent (r : Except Thrown (List Text)) : (receiveProducts r).Silent :=
  .tryCatch (.bind (.lift _) fun _ => .whenMounted (.setState _))
    (.bind (.lift _) (.lift _) fun _ => .whenMounted _) fun _ => .whenMounted _

theorem loadDone_silent (r : Except Thrown (List Text)) : (loadDone r).Silent :=
  .bind (.tryFinally (receiveProducts_timely r) (.whenMounted (.setState _)))
    (.tryFinally (receiveProducts_timely r) (receiveProducts_silent r) (.whenMounted _))
    fun _ => .pure _

end MenuPage

/-- The page.  It can be pulled once it is not loading. -/
def menuPage : PageCode MenuFields MenuOp (Except Thrown HttpOutcome) MenuTap where
  initial := { licensedProductCodes := [], isLoading := true, snackBars := [] }
  initState := MenuPage.loadLicensedProducts
  onTap
    | .refresh, s => if s.isLoading then none else some MenuPage.loadLicensedProducts
  resume
    | .products, r => some (MenuPage.loadDone (r.map GraphQLService.getProducts))

end SurveilOne
