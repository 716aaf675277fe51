import Nourgomla.Library.Dart
import Nourgomla.Library.Method

set_option autoImplicit false

/-! # The area of a point

`getUserAreaId` of `controllers/adresses_controller.dart` with the service behind it. The area of an
address decides its shipping. The point-in-polygon test is the package's: any predicate on polygons.
The area found is the first one that contains the point, or else the first of the list, as long as the
list is not empty and the area that was found has an id (`getUserAreaId_iff`). -/

namespace Nourgomla

/-- Of `AreaModel` what the search reads. -/
structure AreaModel (Point : Type) where
  id : Option Int
  polygon : List Point
deriving DecidableEq

variable {Point : Type}

/-- `getAreas`: the empty list stands for no area and for every failure. -/
def AddressesServices.getAreas (fromJson : Json → Except DartError (AreaModel Point))
    (answer : Except DartError Json) : List (AreaModel Point) :=
  let areas := do
    let data ← answer
    let json ← notNull (← data.listField "data")
    json.mapM fromJson
  match areas with
  | .ok areas => areas
  | .error _ => []

namespace AddressesController

section

variable (isGeoPointInPolygon : Point → List Point → Bool)

/-- The test of the loop: an empty polygon is skipped. -/
def areaMatches (latLng : Point) (area : AreaModel Point) : Bool :=
  !area.polygon.isEmpty && isGeoPointInPolygon latLng area.polygon

/-- The loop of `getUserAreaId`: what `areaId` is after it. -/
def matchedAreaId (latLng : Point) : List (AreaModel Point) → Option Int
  | [] => none
  | area :: rest =>
    if areaMatches isGeoPointInPolygon latLng area then area.id else matchedAreaId latLng rest

/-- `getUserAreaId` on the areas of the service, over the field `shippingData`. -/
def getUserAreaId (areas : List (AreaModel Point)) (latLng : Point) :
    Method DartError (List (AreaModel Point)) (Option Int) := do
  modify fun _ => areas
  let shippingData ← get
  match matchedAreaId isGeoPointInPolygon latLng shippingData with
  | some areaId => return some areaId
  | none =>
    match shippingData[0]? with
    | some area => return area.id
    | none => throw .rangeError

/-- What the search is for: the id of the first area that contains the point, else the id of the
    first area, else null. -/
def areaIdOf (areas : List (AreaModel Point)) (latLng : Point) : Option Int :=
  match areas.find? (areaMatches isGeoPointInPolygon latLng) with
  | some area => area.id
  | none => areas.head?.bind AreaModel.id

end

variable {isGeoPointInPolygon : Point → List Point → Bool} {latLng : Point}

/-- The loop stops at the first match, whether it has an id or not. -/
theorem matchedAreaId_eq (areas : List (AreaModel Point)) :
    matchedAreaId isGeoPointInPolygon latLng areas
      = (areas.find? (areaMatches isGeoPointInPolygon latLng)).bind AreaModel.id := by
  induction areas with
  | nil => rfl
  | cons area rest ih =>
      unfold matchedAreaId
      cases hmatch : areaMatches isGeoPointInPolygon latLng area with
      | true => simp [hmatch]
      | false => simp [hmatch, ih]

theorem exec_getUserAreaId_cons (first : AreaModel Point) (rest : List (AreaModel Point))
    (shippingData : List (AreaModel Point)) :
    (getUserAreaId isGeoPointInPolygon (first :: rest) latLng).exec shippingData
      = (.ok ((matchedAreaId isGeoPointInPolygon latLng (first :: rest)).orElse fun _ => first.id),
        first :: rest) := by
  simp only [getUserAreaId, Method.exec_modify_bind, Method.exec_get_bind]
  cases matchedAreaId isGeoPointInPolygon latLng (first :: rest) <;> rfl

/-- Without an area the fallback itself is out of range. -/
theorem exec_getUserAreaId_nil (shippingData : List (AreaModel Point)) :
    (getUserAreaId isGeoPointInPolygon [] latLng).exec shippingData = (.error .rangeError, []) := rfl

/-- For every predicate, list of areas and point: the method returns what the search is for exactly
    if there is an area, and the one that was found, if it has no id, is not hidden by the id of the
    first one. -/
theorem getUserAreaId_iff (isGeoPointInPolygon : Point → List Point → Bool)
    (areas : List (AreaModel Point)) (latLng : Point) (shippingData : List (AreaModel Point)) :
    ((getUserAreaId isGeoPointInPolygon areas latLng).exec shippingData).1
        = .ok (areaIdOf isGeoPointInPolygon areas latLng) ↔
      ∃ first rest, areas = first :: rest ∧
        ∀ area, areas.find? (areaMatches isGeoPointInPolygon latLng) = some area →
          area.id = none → first.id = none := by
  cases areas with
  | nil => simp [exec_getUserAreaId_nil]
  | cons first rest =>
      rw [exec_getUserAreaId_cons, matchedAreaId_eq, areaIdOf]
      cases hfind : (first :: rest).find? (areaMatches isGeoPointInPolygon latLng) with
      | none => simp
      | some area =>
          cases hid : area.id with
          | some id => simp [hid]
          | none => simp [hid]

/-! ## No areas, and an area without an id -/

/-- A predicate that answers yes to everything. -/
def everywhere (_ : Unit) (_ : List Unit) : Bool := true

/-- A failed request leaves no areas, and the method throws. A matched area without an id is passed
    over for the first one. -/
theorem getUserAreaId_misses :
    (((getUserAreaId everywhere (AddressesServices.getAreas (fun _ => .error .typeError)
        (.error .httpFailure)) ()).exec []).1 = .error .rangeError ∧
      areaIdOf everywhere [] () = none) ∧
    (((getUserAreaId everywhere [{ id := some 1, polygon := [] }, { id := none, polygon := [()] }]
        ()).exec []).1 = .ok (some 1) ∧
      areaIdOf everywhere [{ id := some 1, polygon := [] }, { id := none, polygon := [()] }] ()
        = none) :=
  ⟨⟨rfl, rfl⟩, rfl, rfl⟩

end AddressesController
end Nourgomla
