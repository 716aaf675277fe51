import Nourgomla.Controllers.FilterController
import Nourgomla.Library.Pages
import Nourgomla.Services.ProductsService

set_option autoImplicit false

/-! # The products of a category (`ui/products/products_page.dart`)

A stack of such pages, the filter screen that may be over it, and the filter controller, which
`Get.put` makes one for all of them. A page asks for its products with the values of the controller of
that moment: `initData` when it is opened and when a filter is applied, `getMoreProducts` when it is
scrolled to its end. The filter bars of a page write to the controller around `initData`. -/

namespace Nourgomla

variable {α : Type}

/-- `_ProductsPageState` -/
structure ProductsPage (α : Type) where
  categoryId : Int
  products : Option (List α) := some []
  startIndex : Int := 0
  totalCount : Option Int := some 0
  isLoading : Bool := false
deriving DecidableEq

/-- The four values a request reads off the controller. -/
def FilterController.values (con : FilterController) : FilterValues :=
  { order := con.selectedOrder, company := con.selectedCompany
    trademark := con.selectedTrademark, type := con.selectedType }

namespace ProductsPage

/-- The request of both methods. -/
def call (filter : FilterValues) (page : ProductsPage α) : ProductsCall :=
  { startIndex := page.startIndex, categoryId := page.categoryId, filter := filter
    itemsPerPage := itemsPerPage }

def initData (filter : FilterValues) :
    AwaitingCall (ProductsPage α) ProductsCall (PageData α) where
  post page :=
    let page := { page with startIndex := 0, products := some [] }
    (some (page.call filter), page)
  assign productsData page :=
    let rest : Method DartError (ProductsPage α) Unit := do
      modify fun page => { page with products := productsData.items }
      let totalCount ← Method.ofExcept productsData.totalCount.asInt
      modify fun page => { page with totalCount := totalCount }
      modify fun page => { page with startIndex := page.startIndex + itemsPerPage }
    (rest.exec page).2

def getMoreProducts (filter : FilterValues) :
    AwaitingCall (ProductsPage α) ProductsCall (PageData α) where
  post page :=
    match page.totalCount with
    | some totalCount =>
      if page.startIndex < totalCount then
        (some (page.call filter), { page with isLoading := true })
      else (none, page)
    -- an index cannot be compared with null
    | none => (none, page)
  assign productsData page :=
    let rest : Method DartError (ProductsPage α) Unit := do
      let products ← Method.ofExcept (notNull page.products)
      let more ← Method.ofExcept (notNull productsData.items)
      modify fun page => { page with products := some (products ++ more) }
      modify fun page => { page with startIndex := page.startIndex + itemsPerPage }
      modify fun page => { page with isLoading := false }
    (rest.exec page).2

end ProductsPage

/-- The values a body was posted with. -/
def ProductsBody.filter (body : ProductsBody) : FilterValues :=
  { order := body.sortBy, company := body.filter1, trademark := body.filter2, type := body.filter3 }

/-- The page of products of a body. -/
def ProductsBody.page (body : ProductsBody) (items : List α) : LoadedPage FilterValues α :=
  { key := body.filter, startIndex := body.startIndex, items := items }

/-- A page on the stack with its requests that wait for an answer. `loaded` is a history variable, which
    nothing reads: the pages `products` was put together from since it was emptied or replaced. -/
structure OpenPage (α : Type) where
  page : ProductsPage α
  waiting : List (PagedMethod × Except DartError ProductsBody) := []
  loaded : List (LoadedPage FilterValues α) := []

/-- The pages that are open, the one on top first, and what they share. -/
structure ProductsScreens (α : Type) where
  filterCon : FilterController := {}
  userCon : UserState := {}
  langId : String := "1"
  stack : List (OpenPage α) := []
  /-- the filter screen is over the page on top -/
  filterScreen : Bool := false

inductive ProductsEvent
  /-- a page is opened, from elsewhere or for a sub-category -/
  | openPage (categoryId : Int)
  | closePage
  | scrolledToEnd
  | openFilterScreen
  /-- an entry of the filter screen -/
  | select (root : FilterGroup) (i : Nat)
  | closeFilterScreen
  | applyFilter
  | resetFilter
  /-- an entry of a filter bar, and its reset button -/
  | selectInBar (root : FilterGroup) (i : Nat)
  | resetBar (root : FilterGroup)
  /-- the answer of `initCategories` -/
  | initFilter (companiesList trademarksList typesList : List Category)
  /-- another user or another language -/
  | changeUser (userCon : UserState) (langId : String)
  /-- what `postData` returns or throws for the `k`-th waiting request of the `i`-th page -/
  | answer (i k : Nat) (response : Except DartError Json)

namespace OpenPage

/-- What a call adds to the waiting requests. -/
def posted (userCon : UserState) (langId : String) (method : PagedMethod) (call : Option ProductsCall) :
    List (PagedMethod × Except DartError ProductsBody) :=
  call.toList.map fun call => (method, ProductsService.productsBody userCon langId call)

/-- `initData` up to its `await` -/
def initData (filter : FilterValues) (userCon : UserState) (langId : String) (p : OpenPage α) :
    OpenPage α :=
  { page := ((ProductsPage.initData filter).post p.page).2
    waiting := p.waiting ++
      posted userCon langId .first ((ProductsPage.initData filter).post p.page).1
    loaded := [] }

/-- `getMoreProducts` up to its `await` -/
def getMore (filter : FilterValues) (userCon : UserState) (langId : String) (p : OpenPage α) :
    OpenPage α :=
  { p with
    page := ((ProductsPage.getMoreProducts filter).post p.page).2
    waiting := p.waiting ++
      posted userCon langId .more ((ProductsPage.getMoreProducts filter).post p.page).1 }

/-- The pages after an answer. -/
def loadedAfter (method : PagedMethod) (posted : Except DartError ProductsBody)
    (productsData : PageData α) (p : OpenPage α) : List (LoadedPage FilterValues α) :=
  match method, posted, productsData.items with
  | .first, .ok body, some products => [body.page products]
  | .first, _, _ => []
  | .more, .ok body, some products =>
    if p.page.products.isSome then p.loaded ++ [body.page products] else p.loaded
  | .more, _, _ => p.loaded

/-- The rest of a method with the answer to its request. -/
def answer (fromJson : Json → Except DartError α) (filter : FilterValues) (k : Nat)
    (response : Except DartError Json) (p : OpenPage α) : OpenPage α :=
  match p.waiting[k]? with
  | some (method, posted) =>
    let productsData := ProductsService.getProducts fromJson posted response
    { page := match method with
        | .first => (ProductsPage.initData filter).assign productsData p.page
        | .more => (ProductsPage.getMoreProducts filter).assign productsData p.page
      waiting := p.waiting.eraseIdx k
      loaded := p.loadedAfter method posted productsData }
  | none => p

end OpenPage

namespace ProductsScreens

/-- `initData` of the page on top -/
def initData (s : ProductsScreens α) : ProductsScreens α :=
  { s with stack := s.stack.modifyHead (OpenPage.initData s.filterCon.values s.userCon s.langId) }

/-- `Get.back(result: result)` of the filter screen -/
def back (result : Bool) (s : ProductsScreens α) : ProductsScreens α :=
  let s := { s with filterScreen := false }
  if result then s.initData else s

/-- A tap on an entry of a bar; the bar of a group is there once its list has entries. -/
def selectInBar (root : FilterGroup) (entry : Category) (i : Nat) (s : ProductsScreens α) :
    ProductsScreens α :=
  let id := nullableText (entry.id.map .int)
  let s := { s with filterCon := s.filterCon.selectEntryId root.nameEn (some id) }
  let s := s.initData
  { s with filterCon := s.filterCon.selectFilter root i }

/-- The reset button of a bar. -/
def resetBar (root : FilterGroup) (s : ProductsScreens α) : ProductsScreens α :=
  if s.filterCon.selected root ≠ some "" then
    { s with filterCon := s.filterCon.resetGroup root }.initData
  else s

def step (fromJson : Json → Except DartError α) (s : ProductsScreens α) :
    ProductsEvent → Option (ProductsScreens α)
  | .openPage categoryId => if s.filterScreen then none else
    some { s with stack := { page := { categoryId := categoryId } } :: s.stack }.initData
  | .closePage => if s.filterScreen then none else some { s with stack := s.stack.tail }
  | .scrolledToEnd => if s.filterScreen then none else some { s with
      stack := s.stack.modifyHead (OpenPage.getMore s.filterCon.values s.userCon s.langId) }
  | .openFilterScreen => if s.stack = [] then none else some { s with filterScreen := true }
  | .select root i =>
    if s.filterScreen ∧ root ∈ s.filterCon.filterEntries ∧ i < (s.filterCon.children root).length then
      some { s with filterCon := s.filterCon.selectFilter root i }
    else none
  | .closeFilterScreen => if s.filterScreen then some (s.back false) else none
  | .applyFilter => if s.filterScreen then some (s.back true) else none
  | .resetFilter => if s.filterScreen then
      some ({ s with filterCon := s.filterCon.resetFilter }.back true)
    else none
  | .selectInBar root i => if s.filterScreen ∨ root = .order then none else
    (s.filterCon.children root)[i]?.map fun entry => s.selectInBar root entry i
  | .resetBar root => if s.filterScreen ∨ root = .order then none else some (s.resetBar root)
  | .initFilter companies trademarks types =>
    some { s with filterCon := s.filterCon.initFilter companies trademarks types }
  | .changeUser userCon langId => some { s with userCon := userCon, langId := langId }
  | .answer i k response => some { s with
      stack := s.stack.modify i (OpenPage.answer fromJson s.filterCon.values k response) }

end ProductsScreens

/-- The product pages as a machine. -/
def productsScreens (fromJson : Json → Except DartError α) :
    Machine (ProductsScreens α) ProductsEvent where
  step := ProductsScreens.step fromJson

/-! ## What the methods do -/

namespace ProductsPage

open Method

/-- A first page with a total replaces the list. -/
theorem assign_initData {filter : FilterValues} {productsData : PageData α} {total : Option Int}
    (htotal : productsData.totalCount.asInt = .ok total) (page : ProductsPage α) :
    (initData filter).assign productsData page = { page with
      products := productsData.items, totalCount := total
      startIndex := page.startIndex + itemsPerPage } := by
  simp [initData, exec_bind, htotal]

/-- A first page always replaces the list. -/
theorem products_initData (filter : FilterValues) (productsData : PageData α)
    (page : ProductsPage α) :
    ((initData filter).assign productsData page).products = productsData.items := by
  cases htotal : productsData.totalCount.asInt <;> simp [initData, exec_bind, htotal]

/-- A further page is added if there is one, and a list. -/
theorem assign_getMoreProducts {filter : FilterValues} {productsData : PageData α}
    {products more : List α} {page : ProductsPage α} (hproducts : page.products = some products)
    (hitems : productsData.items = some more) :
    (getMoreProducts filter).assign productsData page = { page with
      products := some (products ++ more), startIndex := page.startIndex + itemsPerPage
      isLoading := false } := by
  simp [getMoreProducts, exec_bind, hproducts, hitems, notNull]

/-- Otherwise `getMoreProducts` throws before it writes anything. -/
theorem assign_getMoreProducts_none {filter : FilterValues} {productsData : PageData α}
    {page : ProductsPage α} (h : page.products = none ∨ productsData.items = none) :
    (getMoreProducts filter).assign productsData page = page := by
  cases hproducts : page.products with
  | none => simp [getMoreProducts, exec_bind, hproducts, notNull]
  | some products =>
      have hitems : productsData.items = none := h.resolve_left (by simp [hproducts])
      simp [getMoreProducts, exec_bind, hproducts, hitems, notNull]

/-- Asking for a further page leaves list and index alone. -/
theorem post_getMoreProducts (filter : FilterValues) (page : ProductsPage α) :
    ((getMoreProducts filter).post page).2.products = page.products ∧
      ((getMoreProducts filter).post page).2.startIndex = page.startIndex := by
  simp only [getMoreProducts]
  split
  · split
    · exact ⟨rfl, rfl⟩
    · exact ⟨rfl, rfl⟩
  · exact ⟨rfl, rfl⟩

end ProductsPage

/-! ## What a step does to the stack -/

/-- The page on top asks for its first page anew. -/
def ProductsEvent.Reloads : ProductsEvent → Prop
  | .applyFilter | .resetFilter | .selectInBar _ _ | .resetBar _ => True
  | _ => False

/-- The stack after an event. -/
inductive StackAfter (fromJson : Json → Except DartError α) (s : ProductsScreens α) :
    ProductsEvent → List (OpenPage α) → Prop
  | kept (e : ProductsEvent) : StackAfter fromJson s e s.stack
  | opened (categoryId : Int) : StackAfter fromJson s (.openPage categoryId)
      (({ page := { categoryId := categoryId } } : OpenPage α).initData s.filterCon.values s.userCon s.langId :: s.stack)
  | closed : StackAfter fromJson s .closePage s.stack.tail
  | scrolled : StackAfter fromJson s .scrolledToEnd
      (s.stack.modifyHead (OpenPage.getMore s.filterCon.values s.userCon s.langId))
  /-- with the selections that the event leaves for it -/
  | reloaded {e : ProductsEvent} (he : e.Reloads) (filter : FilterValues) : StackAfter fromJson s e
      (s.stack.modifyHead (OpenPage.initData filter s.userCon s.langId))
  | answered (i k : Nat) (response : Except DartError Json) : StackAfter fromJson s (.answer i k response)
      (s.stack.modify i (OpenPage.answer fromJson s.filterCon.values k response))

theorem stackAfter_of_step {fromJson : Json → Except DartError α} {s s' : ProductsScreens α} {e : ProductsEvent}
    (hstep : (productsScreens fromJson).step s e = some s') : StackAfter fromJson s e s'.stack := by
  cases e with
  | openPage categoryId =>
      obtain ⟨-, hstep⟩ := Option.ite_none_left_eq_some.1 hstep
      obtain rfl := Option.some.inj hstep
      exact .opened categoryId
  | closePage =>
      obtain ⟨-, hstep⟩ := Option.ite_none_left_eq_some.1 hstep
      obtain rfl := Option.some.inj hstep
      exact .closed
  | scrolledToEnd =>
      obtain ⟨-, hstep⟩ := Option.ite_none_left_eq_some.1 hstep
      obtain rfl := Option.some.inj hstep
      exact .scrolled
  | openFilterScreen =>
      obtain ⟨-, hstep⟩ := Option.ite_none_left_eq_some.1 hstep
      obtain rfl := Option.some.inj hstep
      exact .kept _
  | select root i =>
      obtain ⟨-, hstep⟩ := Option.ite_none_right_eq_some.1 hstep
      obtain rfl := Option.some.inj hstep
      exact .kept _
  | closeFilterScreen =>
      obtain ⟨-, hstep⟩ := Option.ite_none_right_eq_some.1 hstep
      obtain rfl := Option.some.inj hstep
      exact .kept _
  | applyFilter =>
      obtain ⟨-, hstep⟩ := Option.ite_none_right_eq_some.1 hstep
      obtain rfl := Option.some.inj hstep
      exact .reloaded (show ProductsEvent.Reloads (.applyFilter) from trivial) _
  | resetFilter =>
      obtain ⟨-, hstep⟩ := Option.ite_none_right_eq_some.1 hstep
      obtain rfl := Option.some.inj hstep
      exact .reloaded (show ProductsEvent.Reloads (.resetFilter) from trivial) _
  | selectInBar root i =>
      -- the tap writes to the controller before and after `initData`
      obtain ⟨-, hstep⟩ := Option.ite_none_left_eq_some.1 hstep
      obtain ⟨entry, -, rfl⟩ := Option.map_eq_some_iff.1 hstep
      exact .reloaded (show ProductsEvent.Reloads (.selectInBar root i) from trivial) _
  | resetBar root =>
      obtain ⟨-, hstep⟩ := Option.ite_none_left_eq_some.1 hstep
      obtain rfl := Option.some.inj hstep
      unfold ProductsScreens.resetBar
      split
      · exact .reloaded (show ProductsEvent.Reloads (.resetBar root) from trivial) _
      · exact .kept _
  | initFilter companies trademarks types =>
      obtain rfl := Option.some.inj hstep
      exact .kept _
  | changeUser userCon langId =>
      obtain rfl := Option.some.inj hstep
      exact .kept _
  | answer i k response =>
      obtain rfl := Option.some.inj hstep
      exact .answered i k response

end Nourgomla
