import Nourgomla.Services.CartServices
import Nourgomla.Widgets.AreaBuilder

set_option autoImplicit false

/-! # Confirming an address

`ui/user_addresses/widgets/map_address_insert_widget.dart` on `ui/user_addresses/map_screen.dart`, the fields of
`controllers/adresses_controller.dart` they share, and what `services/api_calls/addresses_services.dart` posts. A
confirm waits twice, for the geocoder and for the areas; the button, the map and the mode can be used meanwhile, and
they write to the same fields. -/

namespace Nourgomla

structure AddressInsertBody where
  userId : Option Int
  address : Option String
  latitude : Rat
  longitude : Rat
  areaId : Int
  languageId : String
deriving DecidableEq

/-- The coordinates are posted as texts here. -/
structure AddressUpdateBody where
  userId : Option Int
  address : Option String
  latitude : String
  longitude : String
  areaId : Int
  languageId : String
  id : Option Int
deriving DecidableEq

inductive AddressPost
  | addressInsert (body : AddressInsertBody)
  | usersAddressUpdate (body : AddressUpdateBody)
deriving DecidableEq

namespace AddressesServices

/-- What is posted; without a user nothing is. -/
def addNewAddress (session : Session) (address : Option String) (latLng : LatLng) (areaId : Int) :
    Option AddressPost := do
  let user ← session.currentUser
  return .addressInsert {
    userId := user.id
    address := address
    latitude := latLng.latitude
    longitude := latLng.longitude
    areaId := areaId
    languageId := session.langId }

def updateAddress (session : Session) (address : Option String) (latLng : LatLng) (areaId : Int)
    (addressId : Option Int) : Option AddressPost := do
  let user ← session.currentUser
  return .usersAddressUpdate {
    userId := user.id
    address := address
    latitude := (Num.double latLng.latitude).text
    longitude := (Num.double latLng.longitude).text
    areaId := areaId
    languageId := session.langId
    id := addressId }

end AddressesServices

/-- What of other packages the form rests on. -/
structure AddressTools where
  doubleParse : String → Option Rat
  isGeoPointInPolygon : LatLng → List LatLng → Bool
  areaFromJson : Json → Except DartError (AreaModel LatLng)

/-- A confirm at one of its two `await`s, or after them. -/
inductive Confirm
  /-- waits for the geocoder -/
  | locating (coordinates : LatLng)
  /-- waits for the areas of that name -/
  | searching (areaName : String) (latLng : LatLng)
  | finished
deriving DecidableEq

structure AddressForm where
  updateMode : Bool := false
  addressToUpdate : Option AddressModel := none
  writtenAddress : Option String := none
  currentLatLng : Option LatLng := none
  shippingData : List (AreaModel LatLng) := []
  /-- all confirms that have begun -/
  confirms : List Confirm := []
  /-- what is posted, with its confirm -/
  posted : List (Nat × AddressPost) := []
deriving DecidableEq

inductive AddressFormEvent
  | switchToUpdateMode (address : AddressModel)
  | clearSelectedAddress
  /-- the map opens, with the location of the user -/
  | initData (userLocation : Option LatLng)
  /-- the button, with what is in the text field and the place that is picked -/
  | onTap (fullAddress : String) (selectedPlace : Option LatLng)
  /-- the geocoder answers the `k`-th confirm -/
  | located (k : Nat) (addresses : Option (List GeocoderAddress))
  /-- the areas for the `k`-th confirm come -/
  | areas (k : Nat) (answer : Except DartError Json) (session : Session)

namespace AddressForm

def switchToUpdateMode (s : AddressForm) (address : AddressModel) : AddressForm :=
  { s with updateMode := true, addressToUpdate := some address, writtenAddress := address.address }

/-- The address to update stays. -/
def clearSelectedAddress (s : AddressForm) : AddressForm :=
  { s with updateMode := false, writtenAddress := none }

/-- The coordinates of a stored address; where they cannot be read, `initData` throws. -/
def storedLatLng (doubleParse : String → Option Rat) (address : AddressModel) : Option LatLng := do
  let latitude ← address.areaLat >>= doubleParse
  let longitude ← address.areaLng >>= doubleParse
  return { latitude, longitude }

/-- Where the map opens. -/
def initialLatLng (tools : AddressTools) (s : AddressForm) (userLocation : Option LatLng) : Option LatLng :=
  if s.updateMode then s.addressToUpdate >>= storedLatLng tools.doubleParse else userLocation

/-- `MapScreen.initData` -/
def initData (tools : AddressTools) (s : AddressForm) (userLocation : Option LatLng) : AddressForm :=
  match s.initialLatLng tools userLocation with
  | some latLng => { s with currentLatLng := some latLng }
  | none => s

/-- The tap up to its first `await`. Without a place it throws after the text is saved. -/
def onTap (s : AddressForm) (fullAddress : String) (selectedPlace : Option LatLng) : AddressForm :=
  -- saved first, and validated after
  let s := { s with writtenAddress := some fullAddress }
  if multiLineTextValidator (some fullAddress) = none then
    match selectedPlace with
    | some place => { s with currentLatLng := some place, confirms := s.confirms ++ [.locating place] }
    | none => s
  else s

/-- `_getUserArea` after the geocoder's answer. It reads the position of this moment; without a second address it
    throws. -/
def getUserArea (s : AddressForm) (addresses : Option (List GeocoderAddress)) : Confirm :=
  match addresses.bind (·[1]?), s.currentLatLng with
  | some address, some latLng =>
    .searching (AreaBuilder.interpolated address.adminArea ++ "_" ++ AreaBuilder.interpolated address.subAdminArea)
      latLng
  | _, _ => .finished

/-- The post, if there is one. -/
def onSaveAddressPressed (s : AddressForm) (session : Session) (areaId : Int) : Option AddressPost := do
  let latLng ← s.currentLatLng
  if s.updateMode then
    let address ← s.addressToUpdate
    AddressesServices.updateAddress session s.writtenAddress latLng areaId address.id
  else AddressesServices.addNewAddress session s.writtenAddress latLng areaId

/-- The rest of the `k`-th confirm, which looked at `latLng`. -/
def areasAnswered (tools : AddressTools) (s : AddressForm) (k : Nat) (latLng : LatLng)
    (answer : Except DartError Json) (session : Session) : AddressForm :=
  let areas := AddressesServices.getAreas tools.areaFromJson answer
  let found := (AddressesController.getUserAreaId tools.isGeoPointInPolygon areas latLng).exec s.shippingData
  let s := { s with shippingData := found.2, confirms := s.confirms.set k .finished }
  match found.1.toOption.join.bind (s.onSaveAddressPressed session) with
  | some post => { s with posted := s.posted ++ [(k, post)] }
  | none => s

def step (tools : AddressTools) (s : AddressForm) : AddressFormEvent → Option AddressForm
  | .switchToUpdateMode address => some (s.switchToUpdateMode address)
  | .clearSelectedAddress => some s.clearSelectedAddress
  | .initData userLocation => some (s.initData tools userLocation)
  | .onTap fullAddress selectedPlace => some (s.onTap fullAddress selectedPlace)
  | .located k addresses =>
    match s.confirms[k]? with
    | some (.locating _) => some { s with confirms := s.confirms.set k (s.getUserArea addresses) }
    | _ => none
  | .areas k answer session =>
    match s.confirms[k]? with
    | some (.searching _ latLng) => some (s.areasAnswered tools k latLng answer session)
    | _ => none

end AddressForm

def addressForm (tools : AddressTools) : Machine AddressForm AddressFormEvent where
  step := AddressForm.step tools

end Nourgomla
