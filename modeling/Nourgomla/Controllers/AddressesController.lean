import Nourgomla.Library.Machine
import Nourgomla.Library.Method
import Nourgomla.Models.Cart

set_option autoImplicit false

/-! # The user's addresses

`controllers/adresses_controller.dart` and, of `services/api_calls/addresses_services.dart`, what is
made of the list the server answers. Addresses are objects: a list that is loaded again holds new
ones, and `selectedAddress` may be an object that is in no list any more. -/

namespace Nourgomla

/-- `AddressModel.fromJson` -/
def AddressModel.fromJson (json : Json) : Except DartError AddressModel := do
  let id ← json.intField "id"
  let _userId ← json.intField "user_id"
  return {
    id := id
    address := ← json.stringField "address"
    areaId := ← json.intField "area_id"
    areaNameEn := ← json.stringField "area_name_en"
    areaNameAr := ← json.stringField "area_name_ar"
    cost := ← json.intField "area_shipping"
    areaLat := ← json.stringField "latitude"
    areaLng := ← json.stringField "longitude" }

namespace AddressesServices

def decodeAddresses (answer : Except DartError Json) :
    Except DartError (Option (List AddressModel)) := do
  let json ← answer
  let values ← notNull (← json.listField "data")
  if values.isEmpty then return none else return some (← values.mapM AddressModel.fromJson)

/-- `getUserAddresses`: an empty list and every failure are both null. -/
def getUserAddresses (answer : Except DartError Json) : Option (List AddressModel) :=
  caught (decodeAddresses answer)

end AddressesServices

/-- An address object: which one it is, and its fields that never change. -/
structure AddressObject where
  ref : Nat
  model : AddressModel
deriving DecidableEq

/-- An address object in the list, with its flag. -/
structure ListedAddress extends AddressObject where
  selected : Bool := false
deriving DecidableEq

/-- `address.selected = false` -/
def ListedAddress.unselect (address : ListedAddress) : ListedAddress :=
  { address with selected := false }

/-- `address.selected = true` -/
def ListedAddress.select (address : ListedAddress) : ListedAddress :=
  { address with selected := true }

structure AddressesController where
  addressesData : List ListedAddress := []
  selectedAddress : Option AddressObject := none
  isLoading : Bool := false
deriving DecidableEq

namespace AddressesController

def selectAddress (index : Nat) : Method DartError AddressesController Unit := do
  modify fun con => { con with addressesData := con.addressesData.map ListedAddress.unselect }
  match (← get).addressesData[index]? with
  | some address =>
    modify fun con => { con with
      addressesData := con.addressesData.set index address.select
      selectedAddress := some address.toAddressObject }
  | none => throw .rangeError

/-- `getUserAddresses` up to its `await`. -/
def getUserAddressesPost : Method DartError AddressesController Unit :=
  modify fun con => { con with isLoading := true }

/-- The objects that are made of a decoded list, numbered from `next` on. -/
def objects (next : Nat) (data : List AddressModel) : List ListedAddress :=
  data.mapIdx fun i model => { ref := next + i, model := model }

/-- `getUserAddresses` after its `await`. -/
def getUserAddressesAssign (next : Nat) (data : Option (List AddressModel)) :
    Method DartError AddressesController Unit := do
  match data with
  | some (first :: rest) =>
    modify fun con => { con with addressesData := objects next (first :: rest) }
    selectAddress 0
  -- the list and the selection stay
  | _ => pure ()
  modify fun con => { con with isLoading := false }

/-- `deleteAddress` up to its `await`: the list is emptied, the selection is not. -/
def deleteAddressPost : Method DartError AddressesController Unit :=
  modify fun con => { con with addressesData := [] }

end AddressesController

/-! ## The address screen and its requests -/

/-- A request that waits for its answer. -/
inductive AddressRequest
  | select
  | insert
  | update (addressId : Option Int)
  | delete (addressId : Option Int)
deriving DecidableEq

/-- The controller, its requests that wait, and the number of address objects made so far. -/
structure AddressBook where
  con : AddressesController := {}
  waiting : List AddressRequest := []
  next : Nat := 0
deriving DecidableEq

inductive AddressEvent
  | getUserAddresses
  | addNewAddress
  | updateAddress (addressId : Option Int)
  | deleteAddress (addressId : Option Int)
  | selectAddress (index : Nat)
  /-- the answer to the `k`-th waiting request -/
  | answer (k : Nat) (answer : Except DartError Json)

namespace AddressBook

/-- Run a method of the controller. -/
def perform (s : AddressBook) (m : Method DartError AddressesController Unit) : AddressBook :=
  { s with con := (m.exec s.con).2 }

/-- Post a request. -/
def post (s : AddressBook) (request : AddressRequest) : AddressBook :=
  { s with waiting := s.waiting ++ [request] }

/-- `getUserAddresses` up to its `await`. -/
def load (s : AddressBook) : AddressBook :=
  (s.perform AddressesController.getUserAddressesPost).post .select

def step (s : AddressBook) : AddressEvent → Option AddressBook
  | .getUserAddresses => some s.load
  | .addNewAddress => some (s.post .insert)
  | .updateAddress addressId => some (s.post (.update addressId))
  | .deleteAddress addressId =>
    some ((s.perform AddressesController.deleteAddressPost).post (.delete addressId))
  | .selectAddress index =>
    if index < s.con.addressesData.length then
      some (s.perform (AddressesController.selectAddress index))
    else none
  | .answer k answer => s.waiting[k]?.map fun request =>
    let s := { s with waiting := s.waiting.eraseIdx k }
    match request with
    | .select =>
      let data := AddressesServices.getUserAddresses answer
      { s.perform (AddressesController.getUserAddressesAssign s.next data) with
        next := s.next + (data.getD []).length }
    -- whatever the answer to a change was, the list is loaded again
    | _ => s.load

/-- The controller just created: `onInit` loads the list. -/
def opened : AddressBook := AddressBook.load {}

end AddressBook

/-- The addresses as a machine. -/
def addressBook : Machine AddressBook AddressEvent where
  step := AddressBook.step

end Nourgomla
