import Nourgomla.Controllers.PagedLists
import Nourgomla.Library.Method
import Nourgomla.Models.Cart

set_option autoImplicit false

/-! # Page loads that can fail

`getUserOrders` and `getMoreOrders` of `controllers/orders_controller.dart` and their counterparts in
`favorites_controller.dart`, with the services behind them. A request can fail, and its body may not
be what was hoped for. `OrderServices` reports a failure as an empty map, `FavouriteService` as null,
and the controllers look at neither. `PagedLists` has the same methods for the answers of a server
that always answers; `exec_loadFirst_page` and `exec_loadMore_page` tie the two together. -/

namespace Nourgomla

/-! ## Requests and answers -/

/-- What the requests are built from besides the index. -/
structure PageContext where
  currentUser : Option User
  /-- `int.parse(langId())` -/
  langId : Int
  sortBy : String

/-- The body of `OrderServices.getUserOrders`. -/
structure OrdersBody where
  itemsPerPage : Int
  startIndex : Int
  userId : Option Int
  sortBy : String
  vendorId : String
deriving DecidableEq

/-- `Favorite` -/
structure FavoritesBody where
  itemsPerPage : Int
  startIndex : Int
  userRoleId : Option Int
  languageId : Int
  sortBy : String
  userId : Option Int
deriving DecidableEq

/-- The map a service returns; an entry it does not have is null. -/
structure PageData (α : Type) where
  items : Option (List α) := none
  totalCount : Json := .null

variable {α : Type}

/-- Read a page off an answer, or throw. -/
def pageData (fromJson : Json → Except DartError α) (answer : Except DartError Json) :
    Except DartError (PageData α) := do
  let response ← answer
  let data ← notNull (← response.listField "data")
  let items ← data.mapM fromJson
  return { items := some items, totalCount := ← response.field "totalCount" }

/-- The orders of a page: whatever goes wrong, the user that is missing included, is caught, and the
    map is empty. -/
def OrderServices.getUserOrders (fromJson : Json → Except DartError α)
    (server : OrdersBody → Except DartError Json) (context : PageContext)
    (itemsPerPage startIndex : Int) : PageData α :=
  let ordersData := do
    let user ← notNull context.currentUser
    pageData fromJson (server {
      itemsPerPage := itemsPerPage, startIndex := startIndex, userId := user.id
      sortBy := context.sortBy, vendorId := "" })
  match ordersData with
  | .ok ordersData => ordersData
  | .error _ => {}

/-- The favorites of a page, or null. The user and the language are written to the body before
    anything is caught. -/
def FavouriteService.getFavoriteItems (fromJson : Json → Except DartError α)
    (server : FavoritesBody → Except DartError Json) (context : PageContext)
    (favItems : FavoritesBody) : Except DartError (Option (PageData α)) := do
  let user ← notNull context.currentUser
  let favItems := { favItems with userId := user.id, languageId := context.langId }
  match pageData fromJson (server favItems) with
  | .ok favoritesData => return some favoritesData
  | .error _ => return none

/-! ## The controllers -/

/-- The fields of a controller that pages. -/
structure PageState (α : Type) where
  items : List α := []
  loadingMore : Bool := false
  isLoading : Bool := false
  startIndex : Int := 0
  totalCount : Option Int := some 0

/-- `itemsPerPage`, which nothing writes -/
def itemsPerPage : Int := 10

/-- What the methods of a controller do differently: what they evaluate before they look at the index
    or set a flag, and the map they get for an index, which throws if it is null. -/
structure PageLoader (α : Type) where
  prepare : Except DartError Unit
  load : Int → Except DartError (PageData α)

/-- `list.assignAll(items)`. It throws at null; `left` is what the package leaves of the list then. -/
def assignAll (left : List α → List α) (items : Option (List α)) :
    Method DartError (PageState α) Unit := do
  match items with
  | some items => modify fun con => { con with items := items }
  | none =>
    modify fun con => { con with items := left con.items }
    throw .noSuchMethod

namespace PageLoader

/-- Load the first page. -/
def loadFirst (left : List α → List α) (loader : PageLoader α) :
    Method DartError (PageState α) Unit := do
  modify fun con => { con with startIndex := 0 }
  Method.ofExcept loader.prepare
  modify fun con => { con with isLoading := true }
  let data ← Method.ofExcept (loader.load (← get).startIndex)
  -- everything from here on is skipped if the map is not what it should be
  assignAll left data.items
  let totalCount ← Method.ofExcept data.totalCount.asInt
  modify fun con => { con with totalCount := totalCount }
  modify fun con => { con with isLoading := false }
  modify fun con => { con with startIndex := con.startIndex + itemsPerPage }

/-- Load the next page, if there is one. -/
def loadMore (loader : PageLoader α) : Method DartError (PageState α) Unit := do
  Method.ofExcept loader.prepare
  let con ← get
  let totalCount ← Method.ofExcept (notNull con.totalCount)
  if con.startIndex < totalCount then
    modify fun con => { con with loadingMore := true }
    let data ← Method.ofExcept (loader.load con.startIndex)
    let items ← Method.ofExcept (notNull data.items)
    modify fun con => { con with items := con.items ++ items }
    modify fun con => { con with startIndex := con.startIndex + itemsPerPage }
    modify fun con => { con with loadingMore := false }

end PageLoader

/-- How the orders are loaded. -/
def OrdersController.loader (fromJson : Json → Except DartError α)
    (server : OrdersBody → Except DartError Json) (context : PageContext) : PageLoader α where
  prepare := .ok ()
  load startIndex :=
    .ok (OrderServices.getUserOrders fromJson server context itemsPerPage startIndex)

/-- How the favorites are loaded: the body needs the user, before anything else. -/
def FavoritesController.loader (fromJson : Json → Except DartError α)
    (server : FavoritesBody → Except DartError Json) (context : PageContext) : PageLoader α where
  prepare := do let _user ← notNull context.currentUser
  load startIndex := do
    let user ← notNull context.currentUser
    let favItemsBody : FavoritesBody := {
      itemsPerPage := itemsPerPage, startIndex := startIndex, userId := user.id
      userRoleId := user.role, languageId := 1, sortBy := context.sortBy }
    -- null has no entries
    notNull (← FavouriteService.getFavoriteItems fromJson server context favItemsBody)

/-! ## What the methods do -/

namespace PageLoader

open Method

/-- With a map that can be assigned the first page is there and the index is past it. -/
theorem exec_loadFirst {left : List α → List α} {loader : PageLoader α} {data : PageData α}
    {items : List α} {total : Option Int} (hprepare : loader.prepare = .ok ())
    (hload : loader.load 0 = .ok data) (hitems : data.items = some items)
    (htotal : data.totalCount.asInt = .ok total) (con : PageState α) :
    (loader.loadFirst left).exec con = (.ok (), { con with
      items := items, isLoading := false, startIndex := itemsPerPage, totalCount := total }) := by
  simp [loadFirst, exec_bind, hprepare, hload, assignAll, hitems, htotal]

/-- If it returned, there was such a map. -/
theorem of_loadFirst {left : List α → List α} {loader : PageLoader α} {con : PageState α}
    (h : ((loader.loadFirst left).exec con).1 = .ok ()) :
    loader.prepare = .ok () ∧ ∃ data items total, loader.load 0 = .ok data ∧
      data.items = some items ∧ data.totalCount.asInt = .ok total := by
  cases hprepare : loader.prepare with
  | error e => simp [loadFirst, exec_bind, hprepare] at h
  | ok _ =>
      refine ⟨rfl, ?_⟩
      cases hload : loader.load 0 with
      | error e => simp [loadFirst, exec_bind, hprepare, hload] at h
      | ok data =>
          cases hitems : data.items with
          | none => simp [loadFirst, exec_bind, hprepare, hload, assignAll, hitems] at h
          | some items =>
              cases htotal : data.totalCount.asInt with
              | error e =>
                  simp [loadFirst, exec_bind, hprepare, hload, assignAll, hitems, htotal] at h
              | ok total => exact ⟨data, items, total, rfl, hitems, htotal⟩

/-- At the end of the list nothing is asked for. -/
theorem exec_loadMore_end {loader : PageLoader α} {con : PageState α} {total : Int}
    (hprepare : loader.prepare = .ok ()) (htotal : con.totalCount = some total)
    (hend : total ≤ con.startIndex) : loader.loadMore.exec con = (.ok (), con) := by
  simp [loadMore, exec_bind, hprepare, htotal, notNull, hend.not_gt]

theorem exec_loadMore {loader : PageLoader α} {con : PageState α} {total : Int} {data : PageData α}
    {items : List α} (hprepare : loader.prepare = .ok ()) (htotal : con.totalCount = some total)
    (hmore : con.startIndex < total) (hload : loader.load con.startIndex = .ok data)
    (hitems : data.items = some items) :
    loader.loadMore.exec con = (.ok (), { con with
      items := con.items ++ items, startIndex := con.startIndex + itemsPerPage
      loadingMore := false }) := by
  simp [loadMore, exec_bind, hprepare, htotal, notNull, hmore, hload, hitems]

theorem of_loadMore {loader : PageLoader α} {con : PageState α}
    (h : (loader.loadMore.exec con).1 = .ok ()) :
    loader.prepare = .ok () ∧ ∃ total, con.totalCount = some total ∧
      (con.startIndex < total → ∃ data items, loader.load con.startIndex = .ok data ∧
        data.items = some items) := by
  cases hprepare : loader.prepare with
  | error e => simp [loadMore, exec_bind, hprepare] at h
  | ok _ =>
      refine ⟨rfl, ?_⟩
      cases htotal : con.totalCount with
      | none => simp [loadMore, exec_bind, hprepare, htotal, notNull] at h
      | some total =>
          refine ⟨total, rfl, fun hmore => ?_⟩
          cases hload : loader.load con.startIndex with
          | error e => simp [loadMore, exec_bind, hprepare, htotal, notNull, hmore, hload] at h
          | ok data =>
              cases hitems : data.items with
              | none =>
                  simp [loadMore, exec_bind, hprepare, htotal, notNull, hmore, hload, hitems] at h
              | some items => exact ⟨data, items, rfl, hitems⟩

end PageLoader

/-! ## Against a server that always answers -/

/-- The fields of `PagedLists`' controller. -/
def PagedList.state (con : PagedList α) : PageState α :=
  { items := con.items
    loadingMore := con.loadingMore
    isLoading := con.isLoading
    startIndex := con.startIndex
    totalCount := some con.totalCount }

/-- A page as the map of a service. -/
def Page.data (page : Page α) : PageData α :=
  { items := some page.items, totalCount := .num (.int page.totalCount) }

/-- With a page for an answer `loadFirst` is `getFirst`, posted and answered. -/
theorem PageLoader.exec_loadFirst_page {left : List α → List α} {loader : PageLoader α}
    {page : Page α} (hprepare : loader.prepare = .ok ()) (hload : loader.load 0 = .ok page.data)
    {con : PagedList α} (hpages : con.itemsPerPage = 10) :
    (loader.loadFirst left).exec con.state
      = (.ok (), (PagedList.getFirst.assign page (PagedList.getFirst.post con).2).state) := by
  rw [PageLoader.exec_loadFirst hprepare hload rfl rfl]
  simp [PagedList.state, PagedList.getFirst, hpages, itemsPerPage]

/-- And `loadMore` is `getMore`. -/
theorem PageLoader.exec_loadMore_page {loader : PageLoader α} {page : Page α} {con : PagedList α}
    (hprepare : loader.prepare = .ok ()) (hload : loader.load con.startIndex = .ok page.data)
    (hpages : con.itemsPerPage = 10) :
    loader.loadMore.exec con.state = (.ok (), ((PagedList.getMore.post con).1.elim con fun _ =>
      PagedList.getMore.assign page (PagedList.getMore.post con).2).state) := by
  by_cases hmore : con.startIndex < con.totalCount
  · rw [PageLoader.exec_loadMore hprepare rfl (by simpa [PagedList.state] using hmore) hload rfl]
    simp [PagedList.state, PagedList.getMore, hmore, hpages, itemsPerPage]
  · rw [PageLoader.exec_loadMore_end hprepare rfl (by simpa [PagedList.state] using hmore)]
    simp [PagedList.getMore, hmore]

end Nourgomla
