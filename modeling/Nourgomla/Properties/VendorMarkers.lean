import Mathlib.Data.List.Nodup
import Nourgomla.Widgets.VendorsMap

set_option autoImplicit false

/-! # The markers of the vendors

Every located vendor should get one marker. The outer loop makes a turn more than there are vendors, and
each turn loads a marker of every located vendor under an id of its own, so the set keeps them all: the
markers are one for each vendor exactly if no vendor is located. -/

namespace Nourgomla

open VendorsMapScreen

/-- One marker for each located vendor and no other, distinct ids, and the camera on a located vendor. -/
structure OneMarkerEach (vendorData : List MapVendor) (s : MapState) : Prop where
  markers : (s.markers.map Marker.vendor).Perm (vendorData.filter MapVendor.located)
  ids : (s.markers.map Marker.markerId).Nodup
  camera : vendorData.filter MapVendor.located ≠ [] →
    ∃ vendor ∈ vendorData, vendor.located = true ∧ s.latLng = vendor.latLng

/-! ## Ids -/

theorem markerIdVal_injective : Function.Injective markerIdVal := by
  intro n m h
  have htext : (toString n : String) = toString m := by simpa [markerIdVal] using h
  have hdigits : Nat.toDigits 10 n = Nat.toDigits 10 m := by
    simpa [Nat.toList_repr] using congrArg String.toList htext
  have hvalue := congrArg (fun cs => Nat.ofDigitChars 10 cs 0) hdigits
  simpa only [Nat.ofDigitChars_ten_toDigits] using hvalue

theorem nodup_numbered (counter : Nat) (vs : List MapVendor) :
    ((numbered counter vs).map MarkerLoad.markerIdVal).Nodup := by
  rw [map_markerIdVal_numbered]
  exact List.Nodup.map markerIdVal_injective List.nodup_range'

/-! ## Loads end in any order -/

/-- The load a marker comes from. -/
def Marker.load (marker : Marker) : MarkerLoad := ⟨marker.markerId, marker.vendor⟩

/-- Markers and loads, which no order of the loads changes. -/
def MapState.started (s : MapState) : List MarkerLoad := s.markers.map Marker.load ++ s.loads

theorem addMarker_of_fresh {markers : List Marker} {marker : Marker}
    (h : marker.load ∉ markers.map Marker.load) : addMarker markers marker = markers ++ [marker] :=
  if_neg fun hmem => h (List.mem_map_of_mem hmem)

theorem markerLoads_step {s s' : MapState} {e : LoadDone}
    (hnodup : (s.started.map MarkerLoad.markerIdVal).Nodup)
    (h : markerLoads.step s e = some s') : s'.started.Perm s.started ∧ s'.latLng = s.latLng := by
  obtain ⟨load, hload, rfl⟩ := Option.map_eq_some_iff.1 h
  obtain ⟨hplace, hload⟩ := List.getElem?_eq_some_iff.1 hload
  have hwaiting : (load :: s.loads.eraseIdx e.place).Perm s.loads :=
    hload ▸ List.getElem_cons_eraseIdx_perm hplace
  have hstarted : s.started.Nodup := List.Nodup.of_map _ hnodup
  have hfresh : load ∉ s.markers.map Marker.load := by
    intro hmem
    exact (List.nodup_append.1 hstarted).2.2 load hmem load
      (hload ▸ List.getElem_mem hplace) rfl
  refine ⟨?_, rfl⟩
  unfold MapState.started markerLoaded
  rw [addMarker_of_fresh hfresh, List.map_append, List.append_assoc]
  exact (List.Perm.append_left _ hwaiting)

theorem markerLoads_run {s t : MapState} {events : List LoadDone}
    (hnodup : (s.started.map MarkerLoad.markerIdVal).Nodup)
    (h : markerLoads.run s events = some t) : t.started.Perm s.started ∧ t.latLng = s.latLng := by
  induction events generalizing s with
  | nil =>
      obtain rfl := Option.some.inj h
      exact ⟨.refl _, rfl⟩
  | cons e events ih =>
      obtain ⟨s', hstep, hrun⟩ := Machine.run_cons.1 h
      obtain ⟨hperm, hlatLng⟩ := markerLoads_step hnodup hstep
      obtain ⟨hperm', hlatLng'⟩ := ih ((hperm.map _).nodup_iff.2 hnodup) hrun
      exact ⟨hperm'.trans hperm, hlatLng'.trans hlatLng⟩

/-! ## After the loads -/

/-- The screen after `initState`. -/
def mapOpened (vendorData : List MapVendor) (userLocation : Option LatLng) : MapState :=
  ((initMap vendorData userLocation).exec {}).2

theorem visitAll_fresh (vendorData : List MapVendor) :
    visitAll vendorData {} =
      { latLng := camera vendorData none
        markerIdCounter := 1 + (visited (vendorData.length + 1) vendorData).length
        loads := numbered 1 (visited (vendorData.length + 1) vendorData) } := by
  rw [visitAll, foldl_turns, if_neg (Nat.succ_ne_zero _)]

/-- The user's location only matters if the loops have left the camera unset. -/
theorem mapOpened_cases (vendorData : List MapVendor) (userLocation : Option LatLng) :
    mapOpened vendorData userLocation = visitAll vendorData {} ∨
      camera vendorData none = none ∧
        ∃ latLng, mapOpened vendorData userLocation
          = { visitAll vendorData {} with latLng := latLng } := by
  cases hcamera : camera vendorData none with
  | some position =>
      left
      simp [mapOpened, initMap, visitAll_fresh, hcamera]
  | none =>
      refine .inr ⟨rfl, ?_⟩
      cases userLocation with
      | none =>
          -- the null location throws after the loops
          exact ⟨none, by simp [mapOpened, initMap, Method.exec_bind, visitAll_fresh, hcamera, notNull]⟩
      | some location =>
          exact ⟨some location,
            by simp [mapOpened, initMap, Method.exec_bind, visitAll_fresh, hcamera, notNull]⟩

theorem started_mapOpened (vendorData : List MapVendor) (userLocation : Option LatLng) :
    (mapOpened vendorData userLocation).started
      = numbered 1 (visited (vendorData.length + 1) vendorData) := by
  rcases mapOpened_cases vendorData userLocation with h | ⟨-, latLng, h⟩
  · rw [h, visitAll_fresh]
    rfl
  · rw [h, visitAll_fresh]
    rfl

theorem camera_mapOpened {vendorData : List MapVendor} (userLocation : Option LatLng)
    (h : vendorData.filter MapVendor.located ≠ []) :
    ∃ vendor ∈ vendorData, vendor.located = true ∧
      (mapOpened vendorData userLocation).latLng = vendor.latLng := by
  obtain ⟨-, hnone⟩ | ⟨vendor, hvendor, hlocated, hcamera⟩ := @camera_of_located vendorData none
  · exact absurd hnone h
  · refine ⟨vendor, hvendor, hlocated, ?_⟩
    rcases mapOpened_cases vendorData userLocation with hopened | ⟨hunset, -⟩
    · rw [hopened, visitAll_fresh, hcamera]
    · rw [hcamera] at hunset
      rw [MapVendor.located, hunset] at hlocated
      cases hlocated

section Completed

variable {vendorData : List MapVendor} {userLocation : Option LatLng} {events : List LoadDone}
  {t : MapState}

/-- Every load that was started is a marker. -/
theorem markers_perm (hrun : markerLoads.run (mapOpened vendorData userLocation) events = some t)
    (hdone : t.loads = []) : (t.markers.map Marker.load).Perm
      (numbered 1 (visited (vendorData.length + 1) vendorData)) := by
  have hstarted := started_mapOpened vendorData userLocation
  obtain ⟨hperm, -⟩ := markerLoads_run (by rw [hstarted]; exact nodup_numbered _ _) hrun
  rwa [hstarted, MapState.started, hdone, List.append_nil] at hperm

/-- Each located vendor has a marker for every turn of the outer loop. -/
theorem markers_vendors (hrun : markerLoads.run (mapOpened vendorData userLocation) events = some t)
    (hdone : t.loads = []) :
    (t.markers.map Marker.vendor).Perm (visited (vendorData.length + 1) vendorData) := by
  have hvendors := (markers_perm hrun hdone).map MarkerLoad.vendor
  rwa [List.map_map, map_vendor_numbered] at hvendors

theorem markers_ids (hrun : markerLoads.run (mapOpened vendorData userLocation) events = some t)
    (hdone : t.loads = []) : (t.markers.map Marker.markerId).Nodup := by
  have hids := (markers_perm hrun hdone).map MarkerLoad.markerIdVal
  rw [List.map_map] at hids
  exact hids.nodup_iff.2 (nodup_numbered _ _)

theorem markers_camera (hrun : markerLoads.run (mapOpened vendorData userLocation) events = some t)
    (h : vendorData.filter MapVendor.located ≠ []) :
    ∃ vendor ∈ vendorData, vendor.located = true ∧ t.latLng = vendor.latLng := by
  have hstarted := started_mapOpened vendorData userLocation
  obtain ⟨-, hlatLng⟩ := markerLoads_run (by rw [hstarted]; exact nodup_numbered _ _) hrun
  rw [hlatLng]
  exact camera_mapOpened userLocation h

/-- **Markers.** When all loads have ended, in whatever order, the ids are distinct and the camera is
    right; the markers are one for each located vendor exactly if no vendor is located. -/
theorem oneMarkerEach_iff
    (hrun : markerLoads.run (mapOpened vendorData userLocation) events = some t)
    (hdone : t.loads = []) :
    OneMarkerEach vendorData t ↔ ∀ vendor ∈ vendorData, vendor.located = false := by
  have hvendors := markers_vendors hrun hdone
  constructor
  · intro h
    have hlength := (hvendors.symm.trans h.markers).length_eq
    have hle : (vendorData.filter MapVendor.located).length ≤ vendorData.length :=
      List.length_filter_le _ _
    have hturns : (vendorData.length + 1) * (vendorData.filter MapVendor.located).length
        = (vendorData.filter MapVendor.located).length := by
      simpa [visited] using hlength
    have hprod : vendorData.length * (vendorData.filter MapVendor.located).length = 0 := by
      rw [Nat.add_mul, Nat.one_mul] at hturns
      omega
    have hnone : (vendorData.filter MapVendor.located).length = 0 := by
      rcases Nat.mul_eq_zero.1 hprod with hzero | hzero
      · omega
      · exact hzero
    simpa using List.eq_nil_of_length_eq_zero hnone
  · intro h
    have hnone : vendorData.filter MapVendor.located = [] := by simpa using h
    refine ⟨?_, markers_ids hrun hdone, markers_camera hrun⟩
    simpa [visited, hnone] using hvendors

end Completed

/-- One vendor of two is located, and another one is not. -/
def oneLocated : List MapVendor := [{ id := some 1, latLng := some ⟨30, 31⟩ }, { id := some 2 }]

def loadedLastFirst : List LoadDone :=
  [⟨1, .defaultMarker⟩, ⟨0, .defaultMarker⟩, ⟨0, .defaultMarker⟩]

theorem oneMarkerEach_oneLocated :
    ∃ t, markerLoads.run (mapOpened oneLocated none) loadedLastFirst = some t ∧ t.markers.length = 3 ∧
      (OneMarkerEach oneLocated t ↔ ∀ vendor ∈ oneLocated, vendor.located = false) := by
  obtain ⟨t, hrun, hdone, hlength⟩ : ∃ t, markerLoads.run (mapOpened oneLocated none) loadedLastFirst = some t ∧
      t.loads = [] ∧ t.markers.length = 3 := Machine.reaches (by decide +kernel)
  exact ⟨t, hrun, hlength, oneMarkerEach_iff hrun hdone⟩

/-- Its marker is there three times. -/
theorem located_vendor_thrice :
    ∃ t, markerLoads.run (mapOpened oneLocated none) loadedLastFirst = some t ∧ t.loads = [] ∧
      ¬ OneMarkerEach oneLocated t := by
  have hloaded : ∃ t, markerLoads.run (mapOpened oneLocated none) loadedLastFirst = some t ∧
      t.loads = [] ∧ t.markers.length = 3 := Machine.reaches (by decide +kernel)
  obtain ⟨t, hrun, hdone, hlength⟩ := hloaded
  refine ⟨t, hrun, hdone, fun h => ?_⟩
  have hone := h.markers.length_eq
  rw [List.length_map, hlength] at hone
  revert hone
  decide

end Nourgomla
