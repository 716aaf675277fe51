import Nourgomla.Controllers.PageLoads
import Nourgomla.Controllers.UserController

set_option autoImplicit false

/-! # Searching for products and for vendors

`controllers/search_controller.dart` and `vendor_controller.dart` with the services behind them. Both
load what is found page by page. A search reads the text field when it is submitted, and a further
page is asked for with whatever the listener finds when the list is scrolled to its end: the products
with the text of that moment and no barcode, the vendors without a name. A method is cut at its
`await`; in between anything may happen. -/

namespace Nourgomla

variable {α : Type}

/-! ## Products -/

/-- What the bodies are built from besides the fields of the controller. -/
structure SearchContext where
  user : UserState
  langId : String
  sortBy : String
deriving DecidableEq

/-- The body of `searchProducts`. -/
structure SearchBody where
  itemsPerPage : Int
  startIndex : Int
  userRoleId : Option Int
  languageId : IntOrText
  sortBy : String
  userId : String
  name : String
  barcode : String
deriving DecidableEq

/-- The map `searchProducts` returns; an entry it does not have is null. -/
structure SearchData (α : Type) where
  products : Option (List α) := none
  totalCount : Option Int := none

/-- Whatever goes wrong is caught, and the map is empty. The total is read into an `int`. -/
def SearchProductsService.searchProducts (fromJson : Json → Except DartError α)
    (answer : Except DartError Json) : SearchData α :=
  let searchData : Except DartError (SearchData α) := do
    let data ← answer
    let json ← data.listField "data"
    let totalCount ← data.intField "totalCount"
    let products ← (← notNull json).mapM fromJson
    return { products := some products, totalCount := totalCount }
  match searchData with
  | .ok searchData => searchData
  | .error _ => {}

structure SearchController (α : Type) where
  /-- `textController.text` -/
  text : String := ""
  searchList : List α := []
  loading : Bool := false
  startIndex : Int := 0
  totalCount : Option Int := some 0
deriving DecidableEq

namespace SearchController

/-- The body of a first page; the language is the number 1. -/
def firstBody (context : SearchContext) (barCode : Option String) (con : SearchController α) :
    SearchBody :=
  { itemsPerPage := itemsPerPage
    startIndex := con.startIndex
    userRoleId := UserController.userRole context.user
    languageId := .int (some 1)
    sortBy := context.sortBy
    userId := UserController.userId context.user
    name := con.text
    barcode := barCode.getD "" }

/-- The body the scroll listener builds. -/
def moreBody (context : SearchContext) (con : SearchController α) : SearchBody :=
  { itemsPerPage := itemsPerPage
    startIndex := con.startIndex
    userRoleId := UserController.userRole context.user
    languageId := .text context.langId
    sortBy := context.sortBy
    userId := UserController.userId context.user
    name := con.text
    barcode := "" }

/-- `searchList.addAll(searchResult['products'])` -/
def addProducts (searchResult : SearchData α) : Method DartError (SearchController α) Unit := do
  let products ← Method.ofExcept (notNull searchResult.products)
  modify fun con => { con with searchList := con.searchList ++ products }

/-- `catch (e) { loading.value = false; … }` -/
def stopLoading (_ : DartError) : Method DartError (SearchController α) Unit := do
  modify fun con => { con with loading := false }

def getProducts (context : SearchContext) (barCode : Option String) :
    AwaitingCall (SearchController α) SearchBody (SearchData α) where
  post con :=
    let con := { con with startIndex := 0, loading := true, searchList := [] }
    (some (con.firstBody context barCode), con)
  assign searchResult con :=
    let rest : Method DartError (SearchController α) Unit := do
      addProducts searchResult
      modify fun con => { con with totalCount := searchResult.totalCount }
      modify fun con => { con with loading := false }
      modify fun con => { con with startIndex := con.startIndex + itemsPerPage }
    ((tryCatch rest stopLoading).exec con).2

/-- The listener's call of `getMoreProducts`. -/
def getMoreProducts (context : SearchContext) :
    AwaitingCall (SearchController α) SearchBody (SearchData α) where
  post con :=
    match con.totalCount with
    | some totalCount =>
      if con.startIndex < totalCount then
        (some (con.moreBody context), { con with loading := true })
      else (none, con)
    -- an index cannot be compared with null, which is caught
    | none => (none, { con with loading := false })
  assign searchResult con :=
    let rest : Method DartError (SearchController α) Unit := do
      addProducts searchResult
      modify fun con => { con with startIndex := con.startIndex + itemsPerPage }
      modify fun con => { con with loading := false }
    ((tryCatch rest stopLoading).exec con).2

end SearchController

/-- The controller, those it reads, and its requests that wait for an answer. -/
structure SearchState (α : Type) where
  con : SearchController α := {}
  context : SearchContext
  waiting : List (PagedMethod × SearchBody) := []
deriving DecidableEq

inductive SearchEvent
  /-- the text field is edited -/
  | editText (text : String)
  /-- the search icon, or the key of the keyboard; both need a text -/
  | search
  /-- another order is chosen, which searches again -/
  | sortBy (sortBy : String)
  /-- the scanner is closed; `getProducts` runs up to its `await` at once -/
  | scanned (barcodeScanRes : Option String)
  | scrolledToEnd
  /-- another user or another language -/
  | changeContext (context : SearchContext)
  /-- what `postData` returns or throws for the `k`-th waiting request -/
  | answer (k : Nat) (response : Except DartError Json)

namespace SearchState

/-- The part of a method up to its `await`. -/
def start (s : SearchState α) (method : PagedMethod)
    (call : AwaitingCall (SearchController α) SearchBody (SearchData α)) : SearchState α :=
  { s with
    con := (call.post s.con).2
    waiting := s.waiting ++ (call.post s.con).1.toList.map fun body => (method, body) }

/-- `getProducts` -/
def submit (s : SearchState α) (barCode : Option String) : SearchState α :=
  s.start .first (SearchController.getProducts s.context barCode)

/-- `scanBarcode` after the scan -/
def scan (s : SearchState α) (barcodeScanRes : Option String) : SearchState α :=
  match barcodeScanRes with
  | some barCode =>
    { s with con := { s.con with text := "", searchList := [] } }.submit (some barCode)
  | none => s

/-- The rest of a method with the data of its request. -/
def assign (s : SearchState α) (method : PagedMethod) (searchResult : SearchData α) :
    SearchController α :=
  match method with
  | .first => (SearchController.getProducts s.context none).assign searchResult s.con
  | .more => (SearchController.getMoreProducts s.context).assign searchResult s.con

def step (fromJson : Json → Except DartError α) (s : SearchState α) :
    SearchEvent → Option (SearchState α)
  | .editText text => some { s with con := { s.con with text := text } }
  | .search => if s.con.text ≠ "" then some (s.submit none) else none
  | .sortBy sortBy => some ({ s with context := { s.context with sortBy := sortBy } }.submit none)
  | .scanned barcodeScanRes => some (s.scan barcodeScanRes)
  | .scrolledToEnd => some (s.start .more (SearchController.getMoreProducts s.context))
  | .changeContext context => some { s with context := context }
  | .answer k response => s.waiting[k]?.map fun (method, _) =>
    { s with
      con := s.assign method (SearchProductsService.searchProducts fromJson response)
      waiting := s.waiting.eraseIdx k }

end SearchState

/-- The search for products. -/
def productSearch (fromJson : Json → Except DartError α) :
    Machine (SearchState α) SearchEvent where
  step := SearchState.step fromJson

/-! ## What the methods do -/

namespace SearchController

open Method

theorem assign_getProducts (context : SearchContext) (barCode : Option String)
    (searchResult : SearchData α) (con : SearchController α) :
    (getProducts context barCode).assign searchResult con =
      match searchResult.products with
      | some products => { con with
          searchList := con.searchList ++ products, totalCount := searchResult.totalCount
          loading := false, startIndex := con.startIndex + itemsPerPage }
      | none => { con with loading := false } := by
  cases hproducts : searchResult.products <;>
    simp [getProducts, addProducts, stopLoading, exec_bind, hproducts, notNull]

theorem assign_getMoreProducts (context : SearchContext) (searchResult : SearchData α)
    (con : SearchController α) :
    (getMoreProducts context).assign searchResult con =
      match searchResult.products with
      | some products => { con with
          searchList := con.searchList ++ products, loading := false
          startIndex := con.startIndex + itemsPerPage }
      | none => { con with loading := false } := by
  cases hproducts : searchResult.products <;>
    simp [getMoreProducts, addProducts, stopLoading, exec_bind, hproducts, notNull]

end SearchController

namespace SearchState

open SearchController

/-- A page that is there is added, whatever it was asked for with. -/
theorem assign_of_products {searchResult : SearchData α} {products : List α}
    (h : searchResult.products = some products) (s : SearchState α) (method : PagedMethod) :
    (s.assign method searchResult).searchList = s.con.searchList ++ products ∧
      (s.assign method searchResult).startIndex = s.con.startIndex + itemsPerPage := by
  cases method <;> simp [assign, assign_getProducts, assign_getMoreProducts, h]

/-- Without one, list and index stay. -/
theorem assign_of_no_products {searchResult : SearchData α} (h : searchResult.products = none)
    (s : SearchState α) (method : PagedMethod) :
    s.assign method searchResult = { s.con with loading := false } := by
  cases method <;> simp [assign, assign_getProducts, assign_getMoreProducts, h]

/-- Asking for a further page leaves list and index alone. -/
theorem start_getMoreProducts (s : SearchState α) :
    (s.start .more (getMoreProducts s.context)).con.searchList = s.con.searchList ∧
      (s.start .more (getMoreProducts s.context)).con.startIndex = s.con.startIndex := by
  simp only [start, getMoreProducts]
  split
  · split
    · exact ⟨rfl, rfl⟩
    · exact ⟨rfl, rfl⟩
  · exact ⟨rfl, rfl⟩

/-- A search empties the list and puts the index to 0. -/
theorem submit_fields (s : SearchState α) (barCode : Option String) :
    (s.submit barCode).con.searchList = [] ∧ (s.submit barCode).con.startIndex = 0 :=
  ⟨rfl, rfl⟩

end SearchState
end Nourgomla
