import Nourgomla.Controllers.PageLoads
import Nourgomla.Services.HomeServices

set_option autoImplicit false

/-! # Vendors (`controllers/vendor_controller.dart`, `services/api_calls/vendors_services.dart`)

The vendors of a category, or those found by name. The first page is asked for with the name in the
text field and replaces the list when it is there; until then, and if it never is, the old list stays.
A further page is asked for without a name. -/

namespace Nourgomla

variable {α : Type}

/-- The arguments of `getVendors`. -/
structure VendorsCall where
  itemsPerPage : Int
  startIndex : Int
  vendorCategoryId : Option String
  searchName : Option String := none

/-- The body of `getVendors`. -/
structure VendorsBody where
  itemsPerPage : Int
  startIndex : Int
  vendorCategoryId : Option String
  name : String
  areaName : Option String
deriving DecidableEq

namespace VendorsServices

/-- The area in the body; adding null to a text, or a text to null, throws. -/
def areaName (locationCon : LocationController) : Except DartError (Option String) :=
  match locationCon.chosenArea, locationCon.userLocation with
  | some keyArea, _ => .ok keyArea
  | none, some location => do
    let adminArea ← notNull location.adminArea
    let subAdminArea ← notNull location.subAdminArea
    return some (adminArea ++ "_" ++ subAdminArea)
  | none, none => .ok (some "")

/-- The body that is posted. -/
def vendorsBody (locationCon : LocationController) (call : VendorsCall) :
    Except DartError VendorsBody := do
  let areaName ← areaName locationCon
  return {
    itemsPerPage := call.itemsPerPage
    startIndex := call.startIndex
    vendorCategoryId := call.vendorCategoryId
    name := call.searchName.getD ""
    areaName := areaName }

theorem startIndex_of_vendorsBody {locationCon : LocationController} {call : VendorsCall}
    {body : VendorsBody} (h : vendorsBody locationCon call = .ok body) :
    body.startIndex = call.startIndex := by
  obtain ⟨areaName, -, h⟩ := bind_eq_ok.1 h
  obtain rfl := Except.ok.inj h
  rfl

/-- The rest of `getVendors` with the answer to what was posted. Whatever goes wrong is caught and the
    map is empty, also a location that is null where it is printed. -/
def getVendors (fromJson : Json → Except DartError α) (locationCon : LocationController)
    (posted : Except DartError VendorsBody) (answer : Except DartError Json) : PageData α :=
  let vendorData : Except DartError (PageData α) := do
    let _body ← posted
    let response ← answer
    let _location ← notNull locationCon.userLocation
    let data ← notNull (← response.listField "data")
    let vendors ← data.mapM fromJson
    return { items := some vendors, totalCount := ← response.field "totalCount" }
  match vendorData with
  | .ok vendorData => vendorData
  | .error _ => {}

end VendorsServices

structure VendorController (α : Type) where
  /-- the category, which is null on the search screen -/
  vendorId : Option String
  /-- `textController.text` -/
  text : String := ""
  vendorData : List α := []
  isLoading : Bool := false
  loadingMore : Bool := false
  startIndex : Int := 0
  totalCount : Option Int := some 0
deriving DecidableEq

namespace VendorController

def getVendors : AwaitingCall (VendorController α) VendorsCall (PageData α) where
  post con :=
    let con := { con with startIndex := 0, isLoading := true }
    (some {
      itemsPerPage := itemsPerPage, startIndex := con.startIndex, vendorCategoryId := con.vendorId
      searchName := some con.text }, con)
  assign data con :=
    let rest : Method DartError (VendorController α) Unit := do
      -- the map has both entries or none
      match data.items with
      | some vendors =>
        modify fun con => { con with vendorData := vendors }
        let totalCount ← Method.ofExcept data.totalCount.asInt
        modify fun con => { con with totalCount := totalCount }
        modify fun con => { con with startIndex := con.startIndex + itemsPerPage }
      | none => pure ()
      modify fun con => { con with isLoading := false }
    (rest.exec con).2

def getMoreVendors : AwaitingCall (VendorController α) VendorsCall (PageData α) where
  post con :=
    match con.totalCount with
    | some totalCount =>
      if con.startIndex < totalCount then
        (some {
          itemsPerPage := itemsPerPage, startIndex := con.startIndex
          vendorCategoryId := con.vendorId }, { con with loadingMore := true })
      else (none, con)
    -- an index cannot be compared with null
    | none => (none, con)
  assign data con :=
    let rest : Method DartError (VendorController α) Unit := do
      let vendors ← Method.ofExcept (notNull data.items)
      modify fun con => { con with vendorData := con.vendorData ++ vendors }
      modify fun con => { con with startIndex := con.startIndex + itemsPerPage }
      modify fun con => { con with loadingMore := false }
    (rest.exec con).2

end VendorController

/-- The controller, the location it reads, and its requests that wait for an answer. -/
structure VendorState (α : Type) where
  con : VendorController α
  locationCon : LocationController := {}
  waiting : List (PagedMethod × Except DartError VendorsBody) := []

inductive VendorEvent
  | editText (text : String)
  /-- the search icon, or the key of the keyboard; both need a text -/
  | search
  | scrolledToEnd
  /-- the location is found, or an area is chosen -/
  | changeLocation (locationCon : LocationController)
  /-- what `postData` returns or throws for the `k`-th waiting request -/
  | answer (k : Nat) (response : Except DartError Json)

namespace VendorState

/-- The part of a method up to its `await`. -/
def start (s : VendorState α) (method : PagedMethod)
    (call : AwaitingCall (VendorController α) VendorsCall (PageData α)) : VendorState α :=
  { s with
    con := (call.post s.con).2
    waiting := s.waiting ++ (call.post s.con).1.toList.map fun call =>
      (method, VendorsServices.vendorsBody s.locationCon call) }

/-- `getVendors` -/
def submit (s : VendorState α) : VendorState α := s.start .first VendorController.getVendors

/-- The rest of a method with the data of its request. -/
def assign (s : VendorState α) (method : PagedMethod) (data : PageData α) : VendorController α :=
  match method with
  | .first => VendorController.getVendors.assign data s.con
  | .more => VendorController.getMoreVendors.assign data s.con

def step (fromJson : Json → Except DartError α) (s : VendorState α) :
    VendorEvent → Option (VendorState α)
  | .editText text => some { s with con := { s.con with text := text } }
  | .search => if s.con.text ≠ "" then some s.submit else none
  | .scrolledToEnd => some (s.start .more VendorController.getMoreVendors)
  | .changeLocation locationCon => some { s with locationCon := locationCon }
  | .answer k response => s.waiting[k]?.map fun (method, posted) =>
    { s with
      con := s.assign method (VendorsServices.getVendors fromJson s.locationCon posted response)
      waiting := s.waiting.eraseIdx k }

/-- `onInit`: unless it is there for a search, the controller loads its category. -/
def opened (vendorId : Option String) (isFromSearch : Bool) (locationCon : LocationController) :
    VendorState α :=
  let s : VendorState α := { con := { vendorId := vendorId }, locationCon := locationCon }
  if isFromSearch then s else s.submit

end VendorState

/-- The search for vendors. -/
def vendorSearch (fromJson : Json → Except DartError α) :
    Machine (VendorState α) VendorEvent where
  step := VendorState.step fromJson

/-! ## What the methods do -/

namespace VendorState

open Method VendorController

/-- A first page with a total replaces the list. -/
theorem assign_first {data : PageData α} {vendors : List α} {total : Option Int}
    (hitems : data.items = some vendors) (htotal : data.totalCount.asInt = .ok total)
    (s : VendorState α) : s.assign .first data = { s.con with
      vendorData := vendors, totalCount := total, startIndex := s.con.startIndex + itemsPerPage
      isLoading := false } := by
  simp [assign, getVendors, exec_bind, hitems, htotal]

theorem assign_first_none {data : PageData α} (hitems : data.items = none) (s : VendorState α) :
    s.assign .first data = { s.con with isLoading := false } := by
  simp [assign, getVendors, hitems]

/-- A further page is added, whatever it was asked for with. -/
theorem assign_more {data : PageData α} {vendors : List α} (hitems : data.items = some vendors)
    (s : VendorState α) : s.assign .more data = { s.con with
      vendorData := s.con.vendorData ++ vendors, startIndex := s.con.startIndex + itemsPerPage
      loadingMore := false } := by
  simp [assign, getMoreVendors, exec_bind, hitems, notNull]

/-- Without a page `getMoreVendors` throws before it writes anything. -/
theorem assign_more_none {data : PageData α} (hitems : data.items = none) (s : VendorState α) :
    s.assign .more data = s.con := by
  simp [assign, getMoreVendors, exec_bind, hitems, notNull]

/-- The category is never written. -/
theorem vendorId_assign (s : VendorState α) (method : PagedMethod) (data : PageData α) :
    (s.assign method data).vendorId = s.con.vendorId := by
  cases hitems : data.items with
  | none =>
      cases method with
      | first => rw [assign_first_none hitems]
      | more => rw [assign_more_none hitems]
  | some vendors =>
      cases method with
      | more => rw [assign_more hitems]
      | first =>
          cases htotal : data.totalCount.asInt with
          | ok total => rw [assign_first hitems htotal]
          | error e => simp [assign, getVendors, exec_bind, hitems, htotal]

/-- Asking for a further page leaves list and index alone. -/
theorem start_getMoreVendors (s : VendorState α) :
    (s.start .more getMoreVendors).con.vendorData = s.con.vendorData ∧
      (s.start .more getMoreVendors).con.startIndex = s.con.startIndex ∧
      ∀ w ∈ (s.start .more getMoreVendors).waiting, w ∈ s.waiting ∨ w.1 = .more := by
  simp only [start, getMoreVendors]
  split
  · split
    · refine ⟨rfl, rfl, fun w hw => ?_⟩
      rcases List.mem_append.1 hw with hw | hw
      · exact Or.inl hw
      · obtain rfl := List.mem_singleton.1 hw
        exact Or.inr rfl
    · exact ⟨rfl, rfl, fun w hw => Or.inl (by simpa using hw)⟩
  · exact ⟨rfl, rfl, fun w hw => Or.inl (by simpa using hw)⟩

end VendorState
end Nourgomla
