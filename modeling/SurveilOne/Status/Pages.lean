import SurveilOne.Flutter.Page
import SurveilOne.Status.Color

/-!
# The two product status pages

`lib/pages` holds two pages of the class name `ProductStatusPage`.  The one in
`product_status_page.dart` is what the menu opens, the one in
`my_products_page.dart` is its sibling.  They share the fields, the controls and
the start of a fetch, and differ in what they do with the answers.

`statusPage` is the common page, `productStatusPage` and `myProductsPage` are its
two instances.  Each is a page in the sense of `Flutter.PageCode`: `getProducts`
is outstanding once it is open, and every fetch leaves one `getProductStatus`
and later the loading of an asset outstanding.
-/

namespace SurveilOne

open Dart Flutter Flutter.Handler

structure StatusFields where
  selectedCode : Text
  availableCodes : List Text
  statuses : List Fields
  productStatusFlag : Option Int
  error : Option Text
  loading : Bool
  showProductList : Bool

inductive StatusOp where
  | products
  /-- `chained` when `_fetchAvailableProducts` awaits the whole fetch. -/
  | status (productCode : Text) (chained : Bool)
  /-- Loading the asset of a product code and a colour. -/
  | asset (code : Text) (color : StatusColor)
  | amberAsset (code : Text) (color : StatusColor)

/-- How an operation ended.  A request ended in an exception or in what the
service makes of an HTTP outcome. -/
inductive StatusAnswer where
  | products (r : Except Thrown HttpOutcome)
  | status (r : Except Thrown HttpOutcome)
  | asset (loaded : Bool)

inductive StatusTap where
  | select (code : Text)
  | toggle
  | refresh
  | retry

def StatusOp.isRequest : StatusOp → Bool
  | .products => true
  | .status _ _ => true
  | _ => false

theorem StatusOp.index_ne {ops : List StatusOp} {i j : Nat} {op op' : StatusOp}
    (hi : ops[i]? = some op) (hop : op.isRequest = false) (hj : ops[j]? = some op')
    (hop' : op'.isRequest = true) : j ≠ i := by
  rintro rfl
  obtain rfl := Option.some.inj (hi.symm.trans hj)
  rw [hop] at hop'
  cases hop'

abbrev StatusHandler := Handler StatusFields (List StatusOp)

abbrev StatusLive := Live StatusFields StatusOp StatusAnswer

abbrev StatusEvent := Event StatusAnswer StatusTap

/-! ## What the pages share -/

namespace StatusFields

/-- The reset at the start of `_fetchStatus`. -/
def resetForFetch (s : StatusFields) : StatusFields :=
  { s with loading := true, error := none, statuses := [], productStatusFlag := none }

def fail (s : StatusFields) (message : String) : StatusFields :=
  { s with error := some message.toList, loading := false }

def display (s : StatusFields) (statuses : List Fields) (flag : Int) : StatusFields :=
  { s with statuses := statuses, productStatusFlag := some flag, loading := false }

end StatusFields

/-- `_fetchStatus` up to its `await`. -/
def fetchStatus (chained : Bool) : StatusHandler := do
  setState StatusFields.resetForFetch
  let s ← getFields
  pure [.status s.selectedCode chained]

/-- The controls: a tile of the product list, the header that unfolds the list,
the pull to refresh, and Retry, which is shown with an error only. -/
def statusTap (t : StatusTap) (s : StatusFields) : Option StatusHandler :=
  match t with
  | .select code =>
    if code ∈ s.availableCodes ∧ code ≠ s.selectedCode then
      some do
        setState fun s => { s with selectedCode := code, showProductList := false }
        fetchStatus false
    else none
  | .toggle =>
    some do
      setState fun s => { s with showProductList := !s.showProductList }
      pure []
  | .refresh => some (fetchStatus false)
  | .retry => if s.loading = false ∧ s.error ≠ none then some (fetchStatus false) else none

/-- After loading an asset failed, its amber variant is tried.  Both failures
are swallowed. -/
def assetDone (loaded : Bool) (color : StatusColor) : StatusHandler :=
  if loaded then pure []
  else do
    let s ← getFields
    pure [.amberAsset s.selectedCode color]

/-- The page whose answers to `getProducts` and `getProductStatus` are handled
by the given continuations. -/
def statusPage (productCode : Text)
    (productsDone : Except Thrown (List Text) → StatusHandler)
    (statusDone : Bool → Except Thrown (Option Fields) → StatusHandler) :
    PageCode StatusFields StatusOp StatusAnswer StatusTap where
  initial :=
    { selectedCode := productCode, availableCodes := [], statuses := [], productStatusFlag := none
      error := none, loading := true, showProductList := false }
  initState := pure [.products]
  onTap := statusTap
  resume
    | .products, .products r => some (productsDone (r.map GraphQLService.getProducts))
    | .status _ chained, .status r =>
      some (statusDone chained (r.map GraphQLService.getProductStatus))
    | .asset _ color, .asset loaded => some (assetDone loaded color)
    | .amberAsset _ _, .asset _ => some (pure [])
    | _, _ => none

/-! ## product_status_page.dart -/

namespace ProductStatusPage

/-- `_extractStatuses` on what the service returned.  Entries that are no map
are dropped. -/
def extractStatuses (resp : Option Fields) : List Fields :=
  match resp with
  | some resp =>
    match resp.get "statuses" with
    | .list l => l.filterMap fun e => match e with | .map m => some m | _ => none
    | _ => []
  | none => []

def flagOfColor (color : StatusColor) : Int :=
  match color with
  | .red => 2
  | .yellow => 1
  | .green => 0

/-- `_fetchAvailableProducts` after its `await`.  The fetch that follows is not
awaited. -/
def productsDone (productCode : Text) (r : Except Thrown (List Text)) : StatusHandler := do
  match r with
  | .ok codes => assign fun s => { s with availableCodes := codes }
  | .error _ =>
    assign fun s => { s with
      availableCodes := [productCode], error := some "Failed to load product list.".toList }
  fetchStatus false

/-- `_fetchStatus` after its `await`. -/
def statusDone (_ : Bool) (r : Except Thrown (Option Fields)) : StatusHandler :=
  tryCatch
    (do
      let rawResp ← lift r
      let statuses := extractStatuses rawResp
      let statusColor := getStatusColor statuses
      setState fun s => s.display statuses (flagOfColor statusColor)
      let s ← getFields
      pure [.asset s.selectedCode statusColor])
    fun _ => do
      setState fun s => s.fail "Failed to load product status."
      pure []

end ProductStatusPage

def productStatusPage (productCode : Text) : PageCode StatusFields StatusOp StatusAnswer StatusTap :=
  statusPage productCode (ProductStatusPage.productsDone productCode) ProductStatusPage.statusDone

/-! ## my_products_page.dart -/

namespace MyProductsPage

/-- `(e as Map).map(…)` over the statuses. -/
def castStatuses : List Json → Except Thrown (List Fields)
  | [] => .ok []
  | e :: rest => do
    let row ← e.asMap
    let rows ← castStatuses rest
    .ok (row :: rows)

/-- `(resp['statuses'] as List?)?.map(…).toList() ?? []`. -/
def decodeStatuses (resp : Fields) : Except Thrown (List Fields) :=
  match resp.get "statuses" with
  | .null => .ok []
  | .list l => castStatuses l
  | _ => .error .typeError

/-- The `try` block of `_fetchStatus` once there is a response. -/
def receive (resp : Option Fields) : StatusHandler :=
  match resp with
  | none => do
    setState fun s => s.fail "Unable to load product status."
    pure []
  | some resp => do
    let statuses ← lift (decodeStatuses resp)
    setState fun s => s.display statuses (resolvedFlag resp)
    let s ← getFields
    pure [.asset s.selectedCode (colorFor (some (resolvedFlag resp)))]

/-- `_fetchStatus` after its `await`. -/
def fetchStatusDone (r : Except Thrown (Option Fields)) : StatusHandler :=
  tryCatch
    (do
      let resp ← lift r
      receive resp)
    fun _ => do
      setState fun s => s.fail "Failed to load product status."
      pure []

/-- The `catch` of `_fetchAvailableProducts`. -/
def productsFailed (productCode : Text) : StatusHandler := do
  setState fun s => { s with
    availableCodes := [productCode], error := some "Failed to load product list.".toList }
  pure []

/-- `_fetchAvailableProducts` after its first `await`. -/
def productsDone (productCode : Text) (r : Except Thrown (List Text)) : StatusHandler :=
  tryCatch
    (do
      let codes ← lift r
      setState fun s => { s with availableCodes := codes }
      fetchStatus true)
    fun _ => productsFailed productCode

/-- A fetch that `_fetchAvailableProducts` awaits hands its exceptions to the
`catch` there. -/
def statusDone (productCode : Text) (chained : Bool) (r : Except Thrown (Option Fields)) :
    StatusHandler :=
  if chained then tryCatch (fetchStatusDone r) fun _ => productsFailed productCode
  else fetchStatusDone r

end MyProductsPage

def myProductsPage (productCode : Text) : PageCode StatusFields StatusOp StatusAnswer StatusTap :=
  statusPage productCode (MyProductsPage.productsDone productCode)
    (MyProductsPage.statusDone productCode)

end SurveilOne
