import Mathlib.Data.List.DropRight
import Nourgomla.Helpers.Validators
import Nourgomla.Library.Debounce
import Nourgomla.Library.Machine
import Nourgomla.Widgets.VendorsMap

set_option autoImplicit false

/-! # Picking a place

`external_packages/place_picker` with the options of `ui/user_addresses/map_screen.dart`: the search bar
(`src/autocomplete_search.dart`), the map under the pin (`src/google_map_place_picker.dart`), the pick of a prediction
(`src/place_picker.dart`) and what they share (`providers/place_provider.dart`, `providers/search_provider.dart`). The
bar and the map put their searches off with one and the same timer. -/

namespace Nourgomla

/-- What `String.trim` takes off. -/
def isTrimmedChar (c : Char) : Bool := isWhiteSpace c || c.toNat = 0x85

def trimChars (cs : List Char) : List Char := (cs.dropWhile isTrimmedChar).rdropWhile isTrimmedChar

/-- `text.trim()` -/
def trimmed (text : String) : String := String.ofList (trimChars text.toList)

structure CameraPosition where
  target : LatLng
  zoom : Rat
deriving DecidableEq

inductive PinState
  | preparing
  | idle
  | dragging
deriving DecidableEq

inductive SearchingState
  | idle
  | searching
deriving DecidableEq

/-- What the timer does when it fires. -/
inductive DebouncedSearch
  | searchPlace
  | searchByCameraLocation
deriving DecidableEq

/-- Of a prediction what a tap on it reads. -/
structure Prediction where
  placeId : Option String
deriving DecidableEq

inductive OverlayChild
  | searching
  | predictions (predictions : List Prediction)
deriving DecidableEq

structure OverlayEntry where
  id : Nat
  child : OverlayChild
deriving DecidableEq

/-- An answer of one of the web services. -/
inductive WebAnswer (α : Type)
  /-- nothing that can be read -/
  | thrown
  /-- an error message, or `REQUEST_DENIED` -/
  | denied
  | found (value : α)

structure PlacePickerState where
  debounceTimer : Debouncer DebouncedSearch := {}
  cameraPosition : Option CameraPosition := none
  prevCameraPosition : Option CameraPosition := none
  /-- the location of the place that is selected -/
  selectedPlace : Option LatLng := none
  placeSearchingState : SearchingState := .idle
  pinState : PinState := .preparing
  isSearchBarFocused : Bool := false
  isAutoCompleteSearching : Bool := false
  hasMapController : Bool := false
  /-- `controller.text` -/
  text : String := ""
  prevSearchTerm : String := ""
  overlayEntry : Option OverlayEntry := none
  /-- the entries that are shown, and the number of entries so far -/
  overlays : List OverlayEntry := []
  nextOverlay : Nat := 0
  /-- the terms of all searches, an empty one where the bar was emptied -/
  searches : List String := []
  /-- the requests that wait: for predictions, for the details of one, and for the place under the pin -/
  autocompleting : Nat := 0
  picking : Nat := 0
  geocoding : Nat := 0
  /-- all positions that were asked about -/
  located : List LatLng := []
  /-- the animations of the camera to a place that was picked -/
  moving : Nat := 0
deriving DecidableEq

inductive PlacePickerEvent
  /-- the text field changes, or only its selection -/
  | edit (text : String)
  /-- the clear icon; an empty field may still report a change of its selection -/
  | clearTapped (notifies : Bool)
  | focusChanged (hasFocus : Bool)
  /-- a timer fires -/
  | fire (id : Nat)
  | autocompleted (answer : WebAnswer (List Prediction))
  | predictionTapped (prediction : Prediction) (notifies : Bool)
  | detailed (answer : WebAnswer LatLng)
  | moved
  | mapCreated (initialCameraPosition : CameraPosition)
  | cameraMoveStarted (notifies : Bool)
  | cameraMove (position : CameraPosition)
  | cameraIdle
  | geocoded (answer : WebAnswer (List LatLng))

namespace PlacePickerState

/-! ## The search bar -/

def clearOverlay (s : PlacePickerState) : PlacePickerState :=
  match s.overlayEntry with
  | some entry => { s with overlays := s.overlays.filter (·.id ≠ entry.id), overlayEntry := none }
  | none => s

def displayOverlay (s : PlacePickerState) (child : OverlayChild) : PlacePickerState :=
  let s := s.clearOverlay
  let entry : OverlayEntry := ⟨s.nextOverlay, child⟩
  { s with overlayEntry := some entry, overlays := s.overlays ++ [entry], nextOverlay := s.nextOverlay + 1 }

def searchPlace (s : PlacePickerState) (searchTerm : String) : PlacePickerState :=
  let s := { s with prevSearchTerm := searchTerm, searches := s.searches ++ [searchTerm] }.clearOverlay
  if searchTerm = "" then s
  else
    let s := s.displayOverlay .searching
    { s with autocompleting := s.autocompleting + 1 }

/-- The listener of the text field. -/
def onSearchInputChange (s : PlacePickerState) (text : String) : PlacePickerState :=
  let s := { s with text := text }
  if text = "" then { s with debounceTimer := s.debounceTimer.cancel }.searchPlace text
  else if trimmed text = trimmed s.prevSearchTerm then { s with debounceTimer := s.debounceTimer.cancel }
  -- the search waits for the next word
  else if text.toList.getLast? = some ' ' then { s with debounceTimer := s.debounceTimer.cancel }
  else { s with debounceTimer := s.debounceTimer.restart .searchPlace }

def onFocusChanged (s : PlacePickerState) (hasFocus : Bool) : PlacePickerState :=
  { s with
    isSearchBarFocused := hasFocus
    debounceTimer := s.debounceTimer.cancel
    placeSearchingState := .idle }

def clearText (s : PlacePickerState) (notifies : Bool) : PlacePickerState :=
  if s.text ≠ "" ∨ notifies = true then s.onSearchInputChange "" else s

/-- `_performAutoCompleteSearch` after its `await`: without predictions the overlay stays. -/
def performAutoCompleteSearch (s : PlacePickerState) (answer : WebAnswer (List Prediction)) : PlacePickerState :=
  match answer with
  | .found predictions => s.displayOverlay (.predictions predictions)
  | _ => s

/-! ## The map -/

def hasZoomChanged (s : PlacePickerState) : Bool :=
  match s.cameraPosition, s.prevCameraPosition with
  | some position, some prev => position.zoom ≠ prev.zoom
  | _, _ => false

/-- `_searchByCameraLocation` up to its `await`. A zoom is no search. -/
def searchByCameraLocation (s : PlacePickerState) : PlacePickerState :=
  if s.hasZoomChanged then { s with placeSearchingState := .idle }
  else
    let s := { s with placeSearchingState := .searching }
    match s.cameraPosition with
    | some position => { s with located := s.located ++ [position.target], geocoding := s.geocoding + 1 }
    | none => s

/-- The rest of it. Without a result it throws, and goes on searching. -/
def geocoded (s : PlacePickerState) (answer : WebAnswer (List LatLng)) : PlacePickerState :=
  match answer with
  | .denied => { s with placeSearchingState := .idle }
  | .found (place :: _) => { s with selectedPlace := some place, placeSearchingState := .idle }
  | _ => s

def onMapCreated (s : PlacePickerState) (initialCameraPosition : CameraPosition) : PlacePickerState :=
  { s with hasMapController := true, cameraPosition := some initialCameraPosition, pinState := .dragging }

def onCameraMoveStarted (s : PlacePickerState) (notifies : Bool) : PlacePickerState :=
  clearText
    { s with
      prevCameraPosition := s.cameraPosition
      debounceTimer := s.debounceTimer.cancel
      pinState := .dragging
      placeSearchingState := .searching }
    notifies

/-- A move to a place that was picked is no search. -/
def onCameraIdle (s : PlacePickerState) : PlacePickerState :=
  if s.isAutoCompleteSearching then { s with isAutoCompleteSearching := false, pinState := .idle }
  else if s.pinState = .dragging then
    { s with debounceTimer := s.debounceTimer.restart .searchByCameraLocation, pinState := .idle }
  else { s with pinState := .idle }

/-! ## The pick of a prediction -/

/-- A tap on a tile, up to the `await` of `_pickPrediction`. -/
def pickPrediction (s : PlacePickerState) (notifies : Bool) : PlacePickerState :=
  let s := s.clearText notifies
  { s with placeSearchingState := .searching, picking := s.picking + 1 }

/-- The rest of it up to the animation of the camera. -/
def pickDetailed (s : PlacePickerState) (answer : WebAnswer LatLng) : PlacePickerState :=
  match answer with
  | .found place =>
    let s := { s with selectedPlace := some place, isAutoCompleteSearching := true }
    if s.hasMapController then { s with moving := s.moving + 1 } else { s with placeSearchingState := .idle }
  | _ => s

/-- The tiles that are shown. -/
def tiles (s : PlacePickerState) : List Prediction :=
  s.overlays.flatMap fun entry =>
    match entry.child with
    | .searching => []
    | .predictions predictions => predictions

def step (s : PlacePickerState) : PlacePickerEvent → Option PlacePickerState
  | .edit text => some (s.onSearchInputChange text)
  | .clearTapped notifies => some (s.clearText notifies)
  | .focusChanged hasFocus => some (s.onFocusChanged hasFocus)
  | .fire id =>
    match s.debounceTimer.fire id with
    | some (.searchPlace, timer) => some ({ s with debounceTimer := timer }.searchPlace (trimmed s.text))
    | some (.searchByCameraLocation, timer) => some { s with debounceTimer := timer }.searchByCameraLocation
    | none => none
  | .autocompleted answer =>
    if s.autocompleting = 0 then none
    else some ({ s with autocompleting := s.autocompleting - 1 }.performAutoCompleteSearch answer)
  | .predictionTapped prediction notifies => if prediction ∈ s.tiles then some (s.pickPrediction notifies) else none
  | .detailed answer =>
    if s.picking = 0 then none else some ({ s with picking := s.picking - 1 }.pickDetailed answer)
  | .moved =>
    if s.moving = 0 then none else some { s with moving := s.moving - 1, placeSearchingState := .idle }
  | .mapCreated initialCameraPosition => some (s.onMapCreated initialCameraPosition)
  | .cameraMoveStarted notifies => some (s.onCameraMoveStarted notifies)
  | .cameraMove position => some { s with cameraPosition := some position }
  | .cameraIdle => some s.onCameraIdle
  | .geocoded answer =>
    if s.geocoding = 0 then none else some ({ s with geocoding := s.geocoding - 1 }.geocoded answer)

end PlacePickerState

def placePicker : Machine PlacePickerState PlacePickerEvent where
  step := PlacePickerState.step

end Nourgomla
