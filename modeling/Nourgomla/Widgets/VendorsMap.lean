import Mathlib.Data.List.Perm.Basic
import Nourgomla.Library.Dart
import Nourgomla.Library.Machine
import Nourgomla.Library.Method

set_option autoImplicit false

/-! # The map of the vendors

`ui/vendors/vendors_map_screen.dart`. `_initMap` starts the load of a marker for each turn of two nested
loops; the loads finish later, in any order, and each adds its marker. -/

namespace Nourgomla

structure LatLng where
  latitude : Rat
  longitude : Rat
deriving DecidableEq

/-- Of `VendorCategory` what the map and a tap on a marker read. -/
structure MapVendor where
  id : Option Int := none
  nameAr : Option String := none
  imagesPath : Option String := none
  bannerImagesPath : Option String := none
  latLng : Option LatLng := none
deriving DecidableEq

/-- The image of the vendor, or the default one if it cannot be had. -/
inductive MarkerIcon
  | bytes (image : Option String)
  | defaultMarker
deriving DecidableEq

/-- A tap opens the screen of `vendor`. -/
structure Marker where
  markerId : String
  icon : MarkerIcon
  position : Option LatLng
  vendor : MapVendor
deriving DecidableEq

/-- `_setMarkers` at its `await`. -/
structure MarkerLoad where
  markerIdVal : String
  vendor : MapVendor
deriving DecidableEq

structure MapState where
  latLng : Option LatLng := none
  /-- the set, without repetitions -/
  markers : List Marker := []
  markerIdCounter : Nat := 1
  loads : List MarkerLoad := []
deriving DecidableEq

namespace VendorsMapScreen

def markerIdVal (counter : Nat) : String := "marker_id_" ++ toString counter

/-- `_setMarkers` up to its `await`. -/
def setMarkers (s : MapState) (vendor : MapVendor) : MapState :=
  { s with
    markerIdCounter := s.markerIdCounter + 1
    loads := s.loads ++ [⟨markerIdVal s.markerIdCounter, vendor⟩] }

/-- The body of the inner loop. -/
def visit (i : Nat) (s : MapState) (vendor : MapVendor) : MapState :=
  match vendor.latLng with
  | none => s
  | some position => setMarkers (if i = 0 then { s with latLng := some position } else s) vendor

/-- `for (int i = 0; i <= vendorData.length; i++) vendorData.forEach(…)` -/
def visitAll (vendorData : List MapVendor) (s : MapState) : MapState :=
  (List.range (vendorData.length + 1)).foldl (fun s i => vendorData.foldl (visit i) s) s

/-- The user's location is where the camera goes without a vendor. -/
def initMap (vendorData : List MapVendor) (userLocation : Option LatLng) :
    Method DartError MapState Unit := do
  modify (visitAll vendorData)
  if (← get).latLng.isNone then
    let location ← Method.ofExcept (notNull userLocation)
    modify fun s => { s with latLng := some location }

/-- `_markers.add` -/
def addMarker (markers : List Marker) (marker : Marker) : List Marker :=
  if marker ∈ markers then markers else markers ++ [marker]

/-- `_setMarkers` from its `await` on. -/
def markerLoaded (s : MapState) (load : MarkerLoad) (icon : MarkerIcon) : MapState :=
  { s with markers := addMarker s.markers ⟨load.markerIdVal, icon, load.vendor.latLng, load.vendor⟩ }

end VendorsMapScreen

/-- The load at a place of the waiting ones is done. -/
structure LoadDone where
  place : Nat
  icon : MarkerIcon

/-- The loads end in any order. -/
def markerLoads : Machine MapState LoadDone where
  step s e := s.loads[e.place]?.map fun load =>
    VendorsMapScreen.markerLoaded { s with loads := s.loads.eraseIdx e.place } load e.icon

/-! ## The loads that are started -/

section Loops

open VendorsMapScreen

def MapVendor.located (vendor : MapVendor) : Bool := vendor.latLng.isSome

/-- Loads for these vendors, with ids from `counter` on. -/
def numbered (counter : Nat) : List MapVendor → List MarkerLoad
  | [] => []
  | vendor :: vendors => ⟨markerIdVal counter, vendor⟩ :: numbered (counter + 1) vendors

theorem numbered_append (counter : Nat) (vs ws : List MapVendor) :
    numbered counter (vs ++ ws) = numbered counter vs ++ numbered (counter + vs.length) ws := by
  induction vs generalizing counter with
  | nil => rfl
  | cons v vs ih =>
      rw [List.cons_append, numbered, numbered, ih, List.cons_append, List.length_cons,
        Nat.add_right_comm, Nat.add_assoc]

theorem map_vendor_numbered (counter : Nat) (vs : List MapVendor) :
    (numbered counter vs).map MarkerLoad.vendor = vs := by
  induction vs generalizing counter with
  | nil => rfl
  | cons v vs ih => rw [numbered, List.map_cons, ih]

theorem map_markerIdVal_numbered (counter : Nat) (vs : List MapVendor) :
    (numbered counter vs).map MarkerLoad.markerIdVal
      = (List.range' counter vs.length).map markerIdVal := by
  induction vs generalizing counter with
  | nil => rfl
  | cons v vs ih => rw [numbered, List.map_cons, ih, List.length_cons, List.range'_succ, List.map_cons]

/-- The camera after the vendors of the first turn: at the last located one. -/
def camera (vendors : List MapVendor) (before : Option LatLng) : Option LatLng :=
  vendors.foldl (fun latLng vendor => vendor.latLng <|> latLng) before

/-- One turn of the outer loop: a load for each located vendor, and in the first turn the camera. -/
theorem foldl_visit (i : Nat) (vendors : List MapVendor) (s : MapState) :
    vendors.foldl (visit i) s = { s with
      latLng := if i = 0 then camera vendors s.latLng else s.latLng
      markerIdCounter := s.markerIdCounter + (vendors.filter MapVendor.located).length
      loads := s.loads ++ numbered s.markerIdCounter (vendors.filter MapVendor.located) } := by
  induction vendors generalizing s with
  | nil => simp [camera, numbered]
  | cons vendor vendors ih =>
      rw [List.foldl_cons, ih]
      cases hlatLng : vendor.latLng with
      | none =>
          have hlocated : vendor.located = false := by simp [MapVendor.located, hlatLng]
          simp [visit, camera, hlatLng, hlocated]
      | some position =>
          have hlocated : vendor.located = true := by simp [MapVendor.located, hlatLng]
          by_cases hi : i = 0
          · simp [visit, camera, setMarkers, numbered, hlatLng, hlocated, hi]
            omega
          · simp [visit, setMarkers, numbered, hlatLng, hlocated, hi]
            omega

/-- The vendors whose markers `turns` turns of the outer loop load. -/
def visited (turns : Nat) (vendors : List MapVendor) : List MapVendor :=
  (List.replicate turns (vendors.filter MapVendor.located)).flatten

theorem visited_succ (turns : Nat) (vendors : List MapVendor) :
    visited (turns + 1) vendors = visited turns vendors ++ vendors.filter MapVendor.located := by
  rw [visited, List.replicate_succ', List.flatten_concat, visited]

/-- After the loops every located vendor has been visited once more than there are vendors. -/
theorem foldl_turns (vendors : List MapVendor) (turns : Nat) :
    (List.range turns).foldl (fun s i => vendors.foldl (visit i) s) {} =
      { latLng := if turns = 0 then none else camera vendors none
        markerIdCounter := 1 + (visited turns vendors).length
        loads := numbered 1 (visited turns vendors) } := by
  induction turns with
  | zero => rfl
  | succ turns ih =>
      rw [List.range_succ, List.foldl_concat, ih, foldl_visit, visited_succ, numbered_append,
        List.length_append]
      by_cases hfirst : turns = 0
      · simp [hfirst, Nat.add_assoc]
      · simp [hfirst, Nat.add_assoc]

theorem camera_of_located {vendors : List MapVendor} {before : Option LatLng} :
    camera vendors before = before ∧ vendors.filter MapVendor.located = [] ∨
      ∃ vendor ∈ vendors, vendor.located = true ∧ camera vendors before = vendor.latLng := by
  induction vendors generalizing before with
  | nil => exact .inl ⟨rfl, rfl⟩
  | cons vendor vendors ih =>
      have hcamera : camera (vendor :: vendors) before = camera vendors (vendor.latLng <|> before) :=
        rfl
      rw [hcamera]
      rcases @ih (vendor.latLng <|> before) with ⟨hrest, hnone⟩ | ⟨other, hother, hlocated, hrest⟩
      · cases hlatLng : vendor.latLng with
        | none =>
            left
            rw [hlatLng] at hrest
            exact ⟨hrest, by simp [hnone, MapVendor.located, hlatLng]⟩
        | some position =>
            right
            rw [hlatLng] at hrest
            exact ⟨vendor, List.mem_cons_self, by simp [MapVendor.located, hlatLng],
              hrest.trans hlatLng.symm⟩
      · exact .inr ⟨other, List.mem_cons_of_mem _ hother, hlocated, hrest⟩

end Loops
end Nourgomla
