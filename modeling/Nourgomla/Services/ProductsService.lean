import Nourgomla.Controllers.PageLoads
import Nourgomla.Controllers.UserController

set_option autoImplicit false

/-! # The products of a category (`services/api_calls/products_service.dart`)

A page of a category, with the four values of the filter. The caller is named by the user if `loggedIn`
says that there is one, and is role 1 without an id otherwise. -/

namespace Nourgomla

/-- The values of the filter. -/
structure FilterValues where
  order : Option String
  company : Option String
  trademark : Option String
  type : Option String
deriving DecidableEq

/-- The arguments of `getProducts`. -/
structure ProductsCall where
  startIndex : Int
  categoryId : Int
  filter : FilterValues
  itemsPerPage : Int

/-- The body of `getProducts`. -/
structure ProductsBody where
  itemsPerPage : Int
  startIndex : Int
  categoryId : Int
  userRoleId : Option Int
  languageId : String
  userId : IntOrText
  sortBy : Option String
  filter1 : Option String
  filter2 : Option String
  filter3 : Option String
deriving DecidableEq

namespace ProductsService

/-- `loggedIn ? currentUser.role : 1` -/
def userRoleId (con : UserState) : Except DartError (Option Int) :=
  if con.loggedIn then do return (← notNull con.currentUser).role else .ok (some 1)

/-- `loggedIn ? currentUser.id : ''` -/
def userId (con : UserState) : Except DartError IntOrText :=
  if con.loggedIn then do return .int (← notNull con.currentUser).id else .ok (.text "")

/-- The body that is posted. -/
def productsBody (con : UserState) (langId : String) (call : ProductsCall) :
    Except DartError ProductsBody := do
  let role ← userRoleId con
  let id ← userId con
  return {
    itemsPerPage := call.itemsPerPage
    startIndex := call.startIndex
    categoryId := call.categoryId
    userRoleId := role
    languageId := langId
    userId := id
    sortBy := call.filter.order
    filter1 := call.filter.company
    filter2 := call.filter.trademark
    filter3 := call.filter.type }

variable {α : Type}

/-- The rest of `getProducts` with the answer to what was posted; whatever goes wrong is caught and the
    map is empty. -/
def getProducts (fromJson : Json → Except DartError α) (posted : Except DartError ProductsBody)
    (answer : Except DartError Json) : PageData α :=
  let productsData : Except DartError (PageData α) := do
    let _body ← posted
    pageData fromJson answer
  match productsData with
  | .ok productsData => productsData
  | .error _ => {}

/-- A body that is posted has the index of the call, and a caller. -/
theorem of_productsBody {con : UserState} {langId : String} {call : ProductsCall} {body : ProductsBody}
    (h : productsBody con langId call = .ok body) : body.startIndex = call.startIndex ∧
      userRoleId con = .ok body.userRoleId ∧ userId con = .ok body.userId := by
  obtain ⟨role, hrole, h⟩ := bind_eq_ok.1 h
  obtain ⟨id, hid, h⟩ := bind_eq_ok.1 h
  obtain rfl := Except.ok.inj h
  exact ⟨rfl, hrole, hid⟩

/-- With a caller there is a body. -/
theorem exists_productsBody {con : UserState} {role : Option Int} {id : IntOrText} (langId : String)
    (call : ProductsCall) (hrole : userRoleId con = .ok role) (hid : userId con = .ok id) :
    ∃ body, productsBody con langId call = .ok body ∧ body.userRoleId = role ∧ body.userId = id := by
  unfold productsBody
  rw [hrole, hid]
  exact ⟨_, rfl, rfl, rfl⟩

theorem caller_of_loggedIn {con : UserState} {user : UserAccount} (hlogged : con.loggedIn = true)
    (huser : con.currentUser = some user) :
    userRoleId con = .ok user.role ∧ userId con = .ok (.int user.id) := by
  unfold userRoleId userId
  rw [hlogged, huser]
  exact ⟨rfl, rfl⟩

theorem caller_of_guest {con : UserState} (hlogged : con.loggedIn = false) :
    userRoleId con = .ok (some 1) ∧ userId con = .ok (.text "") := by
  unfold userRoleId userId
  rw [hlogged]
  exact ⟨rfl, rfl⟩

/-- A page that is there is one of a body that was posted. -/
theorem posted_of_items {fromJson : Json → Except DartError α}
    {posted : Except DartError ProductsBody} {answer : Except DartError Json} {products : List α}
    (h : (getProducts fromJson posted answer).items = some products) :
    ∃ body, posted = .ok body := by
  cases posted with
  | ok body => exact ⟨body, rfl⟩
  | error e => cases h

end ProductsService
end Nourgomla
