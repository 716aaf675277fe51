import Nourgomla.Library.Machine

set_option autoImplicit false

/-! # Lists that are loaded in pages

`controllers/orders_controller.dart`, `favorites_controller.dart` and `rating_controller.dart` load a
list of the server page by page with the same code: one method starts over, another one, called when
the list is scrolled to its end, asks for the next page. Both post the `startIndex` of the controller
and advance it when their answer is there, whatever happened to it meanwhile. -/

namespace Nourgomla

/-- A method that awaits an answer: up to its `await` it posts a request or returns at once, after it
    takes the answer. -/
structure AwaitingCall (σ ρ π : Type) where
  post : σ → Option ρ × σ
  assign : π → σ → σ

/-- What a page request carries of the controller. -/
structure PageRequest where
  itemsPerPage : Nat
  startIndex : Nat
deriving DecidableEq

/-- A page that was answered: its elements, and how many there are in all. -/
structure Page (α : Type) where
  items : List α
  totalCount : Nat
deriving DecidableEq

/-- The fields of a controller that pages. -/
structure PagedList (α : Type) where
  items : List α := []
  loadingMore : Bool := false
  isLoading : Bool := false
  itemsPerPage : Nat := 10
  startIndex : Nat := 0
  totalCount : Nat := 0
deriving DecidableEq

namespace PagedList

variable {α : Type}

/-- The request for the page at `startIndex`. -/
def request (con : PagedList α) : PageRequest :=
  { itemsPerPage := con.itemsPerPage, startIndex := con.startIndex }

/-- Load the first page. -/
def getFirst : AwaitingCall (PagedList α) PageRequest (Page α) where
  post con :=
    let con := { con with startIndex := 0, isLoading := true }
    (some con.request, con)
  assign page con :=
    { con with
      items := page.items
      totalCount := page.totalCount
      isLoading := false
      startIndex := con.startIndex + con.itemsPerPage }

/-- Load the next page, if there is one. -/
def getMore : AwaitingCall (PagedList α) PageRequest (Page α) where
  post con :=
    if con.startIndex < con.totalCount then (some con.request, { con with loadingMore := true })
    else (none, con)
  -- no look at the index that was posted, nor at another call that may be on its way
  assign page con :=
    { con with
      items := con.items ++ page.items
      startIndex := con.startIndex + con.itemsPerPage
      loadingMore := false }

end PagedList

/-! ## The three controllers -/

namespace OrdersController

variable {OrderHistory : Type}

def getUserOrders : AwaitingCall (PagedList OrderHistory) PageRequest (Page OrderHistory) :=
  PagedList.getFirst

def getMoreOrders : AwaitingCall (PagedList OrderHistory) PageRequest (Page OrderHistory) :=
  PagedList.getMore

end OrdersController

namespace FavoritesController

variable {Product : Type}

def getUserFavorites : AwaitingCall (PagedList Product) PageRequest (Page Product) :=
  PagedList.getFirst

/-- It builds its request before it looks at the index, and posts it as the others do. -/
def getMoreFavorites : AwaitingCall (PagedList Product) PageRequest (Page Product) :=
  PagedList.getMore

end FavoritesController

namespace RatingController

variable {Rate : Type}

def getRates : AwaitingCall (PagedList Rate) PageRequest (Page Rate) := PagedList.getFirst

def getMoreRating : AwaitingCall (PagedList Rate) PageRequest (Page Rate) := PagedList.getMore

end RatingController

/-- The controllers that page. -/
inductive Pager
  | orders
  | favorites
  | rating
deriving DecidableEq

namespace Pager

variable {α : Type}

/-- The method that starts over, called by `onInit` and when the sort order changes. -/
def first : Pager → AwaitingCall (PagedList α) PageRequest (Page α)
  | .orders => OrdersController.getUserOrders
  | .favorites => FavoritesController.getUserFavorites
  | .rating => RatingController.getRates

/-- The method the scroll listener calls. -/
def more : Pager → AwaitingCall (PagedList α) PageRequest (Page α)
  | .orders => OrdersController.getMoreOrders
  | .favorites => FavoritesController.getMoreFavorites
  | .rating => RatingController.getMoreRating

theorem first_eq (pager : Pager) : (pager.first : AwaitingCall (PagedList α) _ _) = PagedList.getFirst := by
  cases pager <;> rfl

theorem more_eq (pager : Pager) : (pager.more : AwaitingCall (PagedList α) _ _) = PagedList.getMore := by
  cases pager <;> rfl

end Pager

/-! ## The screen and the server -/

/-- Which method a request is from. -/
inductive PagedMethod
  | first
  | more
deriving DecidableEq

/-- The controller and its requests that wait for an answer. -/
structure PagedScreen (α : Type) where
  con : PagedList α := {}
  waiting : List (PagedMethod × PageRequest) := []

inductive PagedEvent
  /-- the list is loaded anew: the sort order was changed -/
  | refresh
  /-- the list is scrolled to its end -/
  | scrolledToEnd
  /-- the answer to the `k`-th waiting request -/
  | answer (k : Nat)

namespace PagedScreen

variable {α : Type}

/-- The server's answer: the page of its list at the index that was posted. -/
def pageOf (server : List α) (request : PageRequest) : Page α :=
  { items := (server.drop request.startIndex).take request.itemsPerPage
    totalCount := server.length }

/-- The part of a method up to its `await`. -/
def start (s : PagedScreen α) (method : PagedMethod)
    (call : AwaitingCall (PagedList α) PageRequest (Page α)) : PagedScreen α :=
  let (request, con) := call.post s.con
  { con := con, waiting := s.waiting ++ request.toList.map fun request => (method, request) }

def step (pager : Pager) (server : List α) (s : PagedScreen α) :
    PagedEvent → Option (PagedScreen α)
  | .refresh => some (s.start .first pager.first)
  | .scrolledToEnd => some (s.start .more pager.more)
  | .answer k => s.waiting[k]?.map fun (method, request) =>
    { con := match method with
        | .first => pager.first.assign (pageOf server request) s.con
        | .more => pager.more.assign (pageOf server request) s.con
      waiting := s.waiting.eraseIdx k }

/-- The screen just opened: `onInit` loads the first page. -/
def opened (pager : Pager) : PagedScreen α := PagedScreen.start {} .first pager.first

end PagedScreen

/-- A paged screen against a fixed list of the server. -/
def pagedScreen {α : Type} (pager : Pager) (server : List α) :
    Machine (PagedScreen α) PagedEvent where
  step := PagedScreen.step pager server

end Nourgomla
