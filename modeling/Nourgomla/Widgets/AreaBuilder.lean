import Nourgomla.Controllers.ShippingAreas
import Nourgomla.Helpers.Validators
import Nourgomla.Library.JsonText
import Nourgomla.Library.Machine
import Nourgomla.Widgets.VendorsMap

set_option autoImplicit false

/-! # Drawing an area

`ui/user_addresses/area_builder.dart`, what it posts (`services/api_calls/addresses_services.dart`), and how an area is
read from an answer (`models/area_model.dart`). The corners are on the map while the geocoder is asked for the name of
the area: what is posted are the corners that are there when its answer arrives. -/

namespace Nourgomla

def PositionLatLng.toJson (pos : LatLng) : Json :=
  .obj [("lat", .num (.double pos.latitude)), ("lng", .num (.double pos.longitude))]

/-! ## Areas of an answer -/

namespace AreaModel

variable {Point : Type} (T : JsonText.NumberText) (newLatLng : Option Rat → Option Rat → Option Point)

/-- A variable of type `double` takes a dynamic value that is a double or null. -/
def asDouble : Json → Option (Option Rat)
  | .null => some none
  | .num (.double q) => some (some q)
  | _ => none

/-- `LatLng(e['lat'], e['lng'])`; the class is the package's. -/
def pointFromJson (e : Json) : Option Point := do
  let lat ← (e.field "lat").toOption >>= asDouble
  let lng ← (e.field "lng").toOption >>= asDouble
  newLatLng lat lng

/-- The corners of a stored area, or none where the text cannot be read. -/
def polygonFromJson (stringJson : Option String) : Option (List Point) :=
  match stringJson with
  | none => some []
  | some text =>
    if text ≠ "" then do
      let json ← JsonText.jsonDecode T text
      let corners ← json.asList.toOption.join
      corners.mapM (pointFromJson newLatLng)
    else some []

def fromJson (json : Json) : Option (AreaModel Point) := do
  let id ← (json.intField "id").toOption
  let _areaNameEn ← (json.stringField "area_name_en").toOption
  let _areaNameAr ← (json.stringField "area_name_ar").toOption
  let _cost ← (json.intField "area_shipping").toOption
  let _areaLat ← (json.stringField "area_latitude").toOption
  let _areaLng ← (json.stringField "area_longitude").toOption
  let radius ← (json.stringField "radius").toOption
  let polygon ← polygonFromJson T newLatLng radius
  return { id, polygon }

end AreaModel

/-! ## The screen -/

/-- The body that `insertArea` posts. -/
structure AreaInsertBody where
  languageId : Int
  areaNameAr : String
  areaNameEn : String
  areaShipping : Option String
  areaLatitude : String
  areaLongitude : String
  radius : String
deriving DecidableEq

def AddressesServices.insertAreaBody (T : JsonText.NumberText) (areaName : String) (shippingCost : Option String)
    (polygons : List Json) : AreaInsertBody :=
  { languageId := 1
    areaNameAr := areaName
    areaNameEn := areaName
    areaShipping := shippingCost
    areaLatitude := ""
    areaLongitude := ""
    radius := JsonText.jsonEncode T (.arr polygons) }

/-- Of an address of the geocoder. -/
structure GeocoderAddress where
  adminArea : Option String
  subAdminArea : Option String
deriving DecidableEq

structure AreaBuilder where
  polygonLatLngs : List LatLng := []
  shippingCost : Option String := none
  /-- the first corners that the geocoder has been asked about -/
  locating : List LatLng := []
  posted : List AreaInsertBody := []
deriving DecidableEq

inductive AreaBuilderEvent
  /-- a tap on the map -/
  | onTap (point : LatLng)
  /-- the button that is there while there are corners -/
  | undo
  /-- `Confirm Area`, with what is in the text field -/
  | confirm (shippingCost : String)
  /-- the geocoder answers -/
  | located (k : Nat) (addresses : Option (List GeocoderAddress))
deriving DecidableEq

namespace AreaBuilder

/-- `$text`: null prints as a word. -/
def interpolated (text : Option String) : String := text.getD "null"

/-- `insertNewArea` up to its `await`. -/
def insertNewArea (s : AreaBuilder) (shippingCost : String) : AreaBuilder :=
  -- saved first, and validated after
  let s := { s with shippingCost := some shippingCost }
  if fnLnValidator (some shippingCost) = none then { s with locating := s.locating ++ s.polygonLatLngs.head?.toList }
  else s

/-- The rest of `insertNewArea`. It reads the corners of this moment; without a second address, or without a corner,
    it throws. -/
def insertLocated (T : JsonText.NumberText) (s : AreaBuilder) (addresses : Option (List GeocoderAddress)) :
    AreaBuilder :=
  match addresses.bind (·[1]?), s.polygonLatLngs with
  | some address, _ :: _ =>
    let areaName := interpolated address.adminArea ++ "_" ++ interpolated address.subAdminArea
    { s with
      posted := s.posted ++ [AddressesServices.insertAreaBody T areaName s.shippingCost
        (s.polygonLatLngs.map PositionLatLng.toJson)] }
  | _, _ => s

def step (T : JsonText.NumberText) (s : AreaBuilder) : AreaBuilderEvent → Option AreaBuilder
  | .onTap point => some { s with polygonLatLngs := s.polygonLatLngs ++ [point] }
  | .undo => if s.polygonLatLngs = [] then none else some { s with polygonLatLngs := s.polygonLatLngs.dropLast }
  | .confirm shippingCost => some (s.insertNewArea shippingCost)
  | .located k addresses =>
    if k < s.locating.length then some (insertLocated T { s with locating := s.locating.eraseIdx k } addresses)
    else none

end AreaBuilder

def areaBuilder (T : JsonText.NumberText) : Machine AreaBuilder AreaBuilderEvent where
  step := AreaBuilder.step T

end Nourgomla
