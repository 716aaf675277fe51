import Mathlib.Data.List.Chain
import Nourgomla.Widgets.PlacePicker

set_option autoImplicit false

/-! # The searches of the place picker

The bar and the map share one timer: whatever happens, at most one search is put off. A term is searched only if it has
stood in the field until the timer fired, and never twice in a row unless the field was emptied; a position is asked
about only if the map has stood still since. -/

namespace Nourgomla

/-! ## Trimmed texts -/

theorem trimChars_trimChars (cs : List Char) : trimChars (trimChars cs) = trimChars cs := by
  have hdrop : (trimChars cs).dropWhile isTrimmedChar = trimChars cs := by
    refine List.dropWhile_eq_self_iff.2 fun hlength => ?_
    -- what is left begins like the text without its front
    have hprefix : trimChars cs <+: cs.dropWhile isTrimmedChar := List.rdropWhile_prefix _ _
    have hfront : 0 < (cs.dropWhile isTrimmedChar).length := hlength.trans_le hprefix.length_le
    rw [List.IsPrefix.getElem hprefix hlength]
    exact List.dropWhile_eq_self_iff.1 (List.dropWhile_idempotent _ _) hfront
  rw [trimChars, hdrop, trimChars, List.rdropWhile_idempotent]

theorem trimmed_trimmed (text : String) : trimmed (trimmed text) = trimmed text := by
  rw [trimmed, trimmed, String.toList_ofList, trimChars_trimChars]

/-! ## What disturbs a search that is put off -/

namespace PlacePickerEvent

/-- The field or its focus is touched, or the map begins to move. -/
def Touches : PlacePickerEvent → Prop
  | .edit _ | .clearTapped _ | .focusChanged _ | .predictionTapped _ _ | .cameraMoveStarted _ => True
  | _ => False

/-- The text is edited, the focus changes, or the map begins to move. -/
def TouchesMap : PlacePickerEvent → Prop
  | .edit _ | .focusChanged _ | .cameraMoveStarted _ => True
  | _ => False

end PlacePickerEvent

/-- Where the camera is. -/
def cameraAfter (camera : Option CameraPosition) : PlacePickerEvent → Option CameraPosition
  | .mapCreated position | .cameraMove position => some position
  | _ => camera

def cameraAt (es : List PlacePickerEvent) : Option CameraPosition := es.foldl cameraAfter none

theorem cameraAt_concat (es : List PlacePickerEvent) (e : PlacePickerEvent) :
    cameraAt (es ++ [e]) = cameraAfter (cameraAt es) e := by
  rw [cameraAt, List.foldl_append]
  rfl

/-! ## One step -/

namespace PlacePickerState

/-- What decides about the searches. -/
structure SearchView where
  debounceTimer : Debouncer DebouncedSearch
  text : String
  prevSearchTerm : String
  cameraPosition : Option CameraPosition
  searches : List String
  located : List LatLng

def view (s : PlacePickerState) : SearchView :=
  ⟨s.debounceTimer, s.text, s.prevSearchTerm, s.cameraPosition, s.searches, s.located⟩

/-- What an event does to the searches. -/
inductive Searches (v : SearchView) : PlacePickerEvent → SearchView → Prop
  | stays {e : PlacePickerEvent} (huntouched : ¬e.Touches ∨ v.text = "" ∧ ¬e.TouchesMap) :
      Searches v e { v with cameraPosition := cameraAfter v.cameraPosition e }
  | cancelled {e : PlacePickerEvent} (text : String) (hcamera : ∀ camera, cameraAfter camera e = camera) :
      Searches v e { v with debounceTimer := v.debounceTimer.cancel, text := text }
  | emptied {e : PlacePickerEvent} (hcamera : ∀ camera, cameraAfter camera e = camera) :
      Searches v e { v with
        debounceTimer := v.debounceTimer.cancel, text := "", prevSearchTerm := "", searches := v.searches ++ [""] }
  | awaited {text : String} (hne : text ≠ "") (hnew : trimmed text ≠ trimmed v.prevSearchTerm) :
      Searches v (.edit text) { v with debounceTimer := v.debounceTimer.restart .searchPlace, text := text }
  | stopped : Searches v .cameraIdle { v with debounceTimer := v.debounceTimer.restart .searchByCameraLocation }
  | searched {id : Nat} {debounceTimer : Debouncer DebouncedSearch}
      (hfire : v.debounceTimer.fire id = some (.searchPlace, debounceTimer)) :
      Searches v (.fire id) { v with
        debounceTimer := debounceTimer
        prevSearchTerm := trimmed v.text
        searches := v.searches ++ [trimmed v.text] }
  | looked {id : Nat} {debounceTimer : Debouncer DebouncedSearch} {located : List LatLng}
      (hfire : v.debounceTimer.fire id = some (.searchByCameraLocation, debounceTimer))
      (hlocated : located = v.located ∨
        ∃ position, v.cameraPosition = some position ∧ located = v.located ++ [position.target]) :
      Searches v (.fire id) { v with debounceTimer := debounceTimer, located := located }

variable {s s' : PlacePickerState}

@[simp] theorem view_clearOverlay (s : PlacePickerState) : s.clearOverlay.view = s.view := by
  unfold clearOverlay
  split <;> rfl

@[simp] theorem view_displayOverlay (s : PlacePickerState) (child : OverlayChild) :
    (s.displayOverlay child).view = s.view :=
  view_clearOverlay s

theorem view_searchPlace (s : PlacePickerState) (searchTerm : String) :
    (s.searchPlace searchTerm).view =
      { s.view with prevSearchTerm := searchTerm, searches := s.searches ++ [searchTerm] } := by
  unfold searchPlace
  simp only
  split
  · rw [view_clearOverlay]
    rfl
  · exact (view_displayOverlay _ .searching).trans (view_clearOverlay _)

theorem searches_onSearchInputChange (s : PlacePickerState) (text : String) :
    Searches s.view (.edit text) (s.onSearchInputChange text).view := by
  unfold onSearchInputChange
  simp only
  split
  · rename_i hempty
    rw [view_searchPlace, hempty]
    exact .emptied fun _ => rfl
  · rename_i hne
    split
    · exact .cancelled text fun _ => rfl
    · rename_i hnew
      split
      · exact .cancelled text fun _ => rfl
      · exact .awaited hne hnew

theorem view_onSearchInputChange_empty (s : PlacePickerState) :
    (s.onSearchInputChange "").view = { s.view with
      debounceTimer := s.debounceTimer.cancel, text := "", prevSearchTerm := "", searches := s.searches ++ [""] } := by
  unfold onSearchInputChange
  rw [if_pos rfl, view_searchPlace]
  rfl

/-- Emptying the field, unless it is empty and nothing is heard of it. -/
theorem searches_clearText (s : PlacePickerState) (notifies : Bool) {e : PlacePickerEvent} (he : ¬e.TouchesMap)
    (hcamera : ∀ camera, cameraAfter camera e = camera) : Searches s.view e (s.clearText notifies).view := by
  unfold clearText
  split
  · rw [view_onSearchInputChange_empty]
    exact .emptied hcamera
  · rename_i hsilent
    have h := Searches.stays (.inr ⟨not_not.1 (not_or.1 hsilent).1, he⟩ : ¬e.Touches ∨ s.view.text = "" ∧ ¬e.TouchesMap)
    rwa [hcamera] at h

theorem searches_onCameraMoveStarted (s : PlacePickerState) (notifies : Bool) :
    Searches s.view (.cameraMoveStarted notifies) (s.onCameraMoveStarted notifies).view := by
  unfold onCameraMoveStarted clearText
  split
  · rw [view_onSearchInputChange_empty]
    simp only [Debouncer.cancel_cancel]
    exact .emptied fun _ => rfl
  · exact .cancelled s.text fun _ => rfl

theorem searches_onCameraIdle (s : PlacePickerState) :
    Searches s.view .cameraIdle s.onCameraIdle.view := by
  unfold onCameraIdle
  split
  · exact .stays (.inl id)
  · split
    · exact .stopped
    · exact .stays (.inl id)

theorem view_searchByCameraLocation (s : PlacePickerState) :
    s.searchByCameraLocation.view = s.view ∨ ∃ position, s.cameraPosition = some position ∧
      s.searchByCameraLocation.view = { s.view with located := s.located ++ [position.target] } := by
  unfold searchByCameraLocation
  cases s.hasZoomChanged with
  | true => exact .inl rfl
  | false =>
      cases hcamera : s.cameraPosition with
      | none => exact .inl (by simp [hcamera, view])
      | some position => exact .inr ⟨position, rfl, by simp [hcamera, view]⟩

theorem searches_fire {id : Nat} {callback : DebouncedSearch} {timer : Debouncer DebouncedSearch}
    (hfire : s.debounceTimer.fire id = some (callback, timer))
    (hstep : placePicker.step s (.fire id) = some s') : Searches s.view (.fire id) s'.view := by
  simp only [placePicker, PlacePickerState.step, hfire] at hstep
  cases callback with
  | searchPlace =>
      obtain rfl : _ = s' := Option.some.inj hstep
      rw [view_searchPlace]
      exact .searched hfire
  | searchByCameraLocation =>
      obtain rfl : _ = s' := Option.some.inj hstep
      obtain hview | ⟨position, hcamera, hview⟩ := view_searchByCameraLocation { s with debounceTimer := timer }
      · rw [hview]
        exact .looked hfire (.inl rfl)
      · rw [hview]
        exact .looked hfire (.inr ⟨position, hcamera, rfl⟩)

/-- What every event does. -/
theorem searches_step {e : PlacePickerEvent} (hstep : placePicker.step s e = some s') :
    Searches s.view e s'.view := by
  cases e with
  | edit text =>
      obtain rfl : s.onSearchInputChange text = s' := Option.some.inj hstep
      exact searches_onSearchInputChange s text
  | clearTapped notifies =>
      obtain rfl : s.clearText notifies = s' := Option.some.inj hstep
      exact searches_clearText s notifies id fun _ => rfl
  | focusChanged hasFocus =>
      obtain rfl : s.onFocusChanged hasFocus = s' := Option.some.inj hstep
      exact .cancelled s.text fun _ => rfl
  | fire id =>
      cases hfire : s.debounceTimer.fire id with
      | none => simp [placePicker, PlacePickerState.step, hfire] at hstep
      | some fired => exact searches_fire hfire hstep
  | autocompleted answer =>
      obtain ⟨-, hstep⟩ := Option.ite_none_left_eq_some.1 hstep
      obtain rfl : _ = s' := Option.some.inj hstep
      have hview : ({ s with autocompleting := s.autocompleting - 1 }.performAutoCompleteSearch answer).view = s.view := by
        unfold performAutoCompleteSearch
        split
        · rw [view_displayOverlay]
          rfl
        · rfl
      rw [hview]
      exact .stays (.inl id)
  | predictionTapped prediction notifies =>
      obtain ⟨-, hstep⟩ := Option.ite_none_right_eq_some.1 hstep
      obtain rfl : _ = s' := Option.some.inj hstep
      exact searches_clearText s notifies id fun _ => rfl
  | detailed answer =>
      obtain ⟨-, hstep⟩ := Option.ite_none_left_eq_some.1 hstep
      obtain rfl : _ = s' := Option.some.inj hstep
      have hview : ({ s with picking := s.picking - 1 }.pickDetailed answer).view = s.view := by
        unfold pickDetailed
        split
        · simp only
          split <;> rfl
        · rfl
      rw [hview]
      exact .stays (.inl id)
  | moved =>
      obtain ⟨-, hstep⟩ := Option.ite_none_left_eq_some.1 hstep
      obtain rfl : _ = s' := Option.some.inj hstep
      exact .stays (.inl id)
  | mapCreated position =>
      obtain rfl : s.onMapCreated position = s' := Option.some.inj hstep
      exact .stays (.inl id)
  | cameraMoveStarted notifies =>
      obtain rfl : s.onCameraMoveStarted notifies = s' := Option.some.inj hstep
      exact searches_onCameraMoveStarted s notifies
  | cameraMove position =>
      obtain rfl : { s with cameraPosition := some position } = s' := Option.some.inj hstep
      exact .stays (.inl id)
  | cameraIdle =>
      obtain rfl : s.onCameraIdle = s' := Option.some.inj hstep
      exact searches_onCameraIdle s
  | geocoded answer =>
      obtain ⟨-, hstep⟩ := Option.ite_none_left_eq_some.1 hstep
      obtain rfl : _ = s' := Option.some.inj hstep
      have hview : (geocoded { s with geocoding := s.geocoding - 1 } answer).view = s.view := by
        unfold PlacePickerState.geocoded
        split <;> rfl
      rw [hview]
      exact .stays (.inl id)

end PlacePickerState

/-! ## The searches of a run -/

/-- The text is the last that was put in, and nothing has been touched since. -/
def StandsIn (es : List PlacePickerEvent) (text : String) : Prop :=
  ∃ before quiet, es = before ++ .edit text :: quiet ∧ ∀ e ∈ quiet, ¬e.Touches

/-- The map has stood still since it came to rest. -/
def StandsStill (es : List PlacePickerEvent) : Prop :=
  ∃ before quiet, es = before ++ .cameraIdle :: quiet ∧ ∀ e ∈ quiet, ¬e.TouchesMap

/-- A timer fired for a text that stood in the field. -/
def SearchedFor (es : List PlacePickerEvent) (term : String) : Prop :=
  ∃ before text id after, es = before ++ .fire id :: after ∧ StandsIn before text ∧ trimmed text = term

/-- A timer fired while the map stood still at the position. -/
def LookedAt (es : List PlacePickerEvent) (target : LatLng) : Prop :=
  ∃ before id after position, es = before ++ .fire id :: after ∧ StandsStill before ∧
    cameraAt before = some position ∧ position.target = target

section

variable {es : List PlacePickerEvent} {e : PlacePickerEvent} {text term : String} {target : LatLng}

theorem PlacePickerEvent.TouchesMap.touches (h : e.TouchesMap) : e.Touches := by
  cases e <;> trivial

theorem StandsIn.concat (h : StandsIn es text) (he : ¬e.Touches) : StandsIn (es ++ [e]) text := by
  obtain ⟨before, quiet, rfl, hquiet⟩ := h
  refine ⟨before, quiet ++ [e], by simp, fun e' he' => ?_⟩
  rw [List.mem_append, List.mem_singleton] at he'
  obtain he' | rfl := he'
  · exact hquiet e' he'
  · exact he

theorem StandsStill.concat (h : StandsStill es) (he : ¬e.TouchesMap) : StandsStill (es ++ [e]) := by
  obtain ⟨before, quiet, rfl, hquiet⟩ := h
  refine ⟨before, quiet ++ [e], by simp, fun e' he' => ?_⟩
  rw [List.mem_append, List.mem_singleton] at he'
  obtain he' | rfl := he'
  · exact hquiet e' he'
  · exact he

theorem SearchedFor.concat (h : SearchedFor es term) (e : PlacePickerEvent) : SearchedFor (es ++ [e]) term := by
  obtain ⟨before, text, id, after, rfl, hstands⟩ := h
  exact ⟨before, text, id, after ++ [e], by simp, hstands⟩

theorem LookedAt.concat (h : LookedAt es target) (e : PlacePickerEvent) : LookedAt (es ++ [e]) target := by
  obtain ⟨before, id, after, position, rfl, hstill⟩ := h
  exact ⟨before, id, after ++ [e], position, by simp, hstill⟩

end

/-- Two searches that follow each other are for different terms, unless the second only empties the field. -/
def Alternate (searches : List String) : Prop := searches.IsChain fun term term' => term' = "" ∨ term' ≠ term

theorem Alternate.concat {searches : List String} {term : String} (h : Alternate searches)
    (hterm : term = "" ∨ term ≠ searches.getLastD "") : Alternate (searches ++ [term]) := by
  refine List.IsChain.append h (List.isChain_singleton _) ?_
  intro last hlast term' hterm'
  obtain rfl : term = term' := by simpa using hterm'
  rw [List.getLastD_eq_getLast?, Option.mem_def.1 hlast] at hterm
  exact hterm

namespace PlacePickerState

/-- The searches so far, and the one that is put off. -/
structure SearchView.Sound (es : List PlacePickerEvent) (v : SearchView) : Prop where
  settled : v.debounceTimer.Settled
  camera : v.cameraPosition = cameraAt es
  prevSearchTerm : v.prevSearchTerm = v.searches.getLastD ""
  awaited : v.debounceTimer.Pending .searchPlace →
    v.text ≠ "" ∧ trimmed v.text ≠ trimmed v.prevSearchTerm ∧ StandsIn es v.text
  stopped : v.debounceTimer.Pending .searchByCameraLocation → StandsStill es
  alternate : Alternate v.searches
  searched : ∀ term ∈ v.searches, term ≠ "" → SearchedFor es term
  located : ∀ target ∈ v.located, LookedAt es target

namespace SearchView.Sound

variable {es : List PlacePickerEvent} {e : PlacePickerEvent} {v v' : SearchView}

theorem start : Sound [] (view {}) where
  settled := .start_empty
  camera := rfl
  prevSearchTerm := rfl
  awaited h := absurd h (Debouncer.not_pending rfl _)
  stopped h := absurd h (Debouncer.not_pending rfl _)
  alternate := List.isChain_nil
  searched := nofun
  located := nofun

theorem step (h : v.Sound es) (hsearches : Searches v e v') : v'.Sound (es ++ [e]) := by
  have hsearched (term : String) (hterm : term ∈ v.searches) (hne : term ≠ "") : SearchedFor (es ++ [e]) term :=
    (h.searched term hterm hne).concat e
  have hlocated (target : LatLng) (htarget : target ∈ v.located) : LookedAt (es ++ [e]) target :=
    (h.located target htarget).concat e
  have hcancelled (callback : DebouncedSearch) : ¬v.debounceTimer.cancel.Pending callback :=
    Debouncer.not_pending h.settled.active_cancel callback
  cases hsearches with
  | stays huntouched =>
      refine ⟨h.settled, ?_, h.prevSearchTerm, fun hpending => ?_, fun hpending => ?_, h.alternate, hsearched, hlocated⟩
      · show cameraAfter v.cameraPosition e = _
        rw [cameraAt_concat, h.camera]
      · obtain ⟨hne, hnew, hstands⟩ := h.awaited hpending
        exact ⟨hne, hnew, hstands.concat (huntouched.resolve_right fun hempty => hne hempty.1)⟩
      · refine (h.stopped hpending).concat ?_
        obtain huntouched | ⟨-, hmap⟩ := huntouched
        · exact fun hmap => huntouched hmap.touches
        · exact hmap
  | cancelled text hcamera =>
      exact ⟨h.settled.cancel, by rw [cameraAt_concat, hcamera]; exact h.camera, h.prevSearchTerm,
        fun hpending => absurd hpending (hcancelled _), fun hpending => absurd hpending (hcancelled _), h.alternate,
        hsearched, hlocated⟩
  | emptied hcamera =>
      refine ⟨h.settled.cancel, by rw [cameraAt_concat, hcamera]; exact h.camera, ?_,
        fun hpending => absurd hpending (hcancelled _), fun hpending => absurd hpending (hcancelled _),
        h.alternate.concat (.inl rfl), fun term hterm hne => ?_, hlocated⟩
      · simp
      · rw [List.mem_append, List.mem_singleton] at hterm
        obtain hterm | rfl := hterm
        · exact hsearched term hterm hne
        · exact absurd rfl hne
  | awaited hne hnew =>
      refine ⟨h.settled.restart _, by rw [cameraAt_concat]; exact h.camera, h.prevSearchTerm,
        fun _ => ⟨hne, hnew, es, [], rfl, nofun⟩, fun hpending => ?_, h.alternate, hsearched, hlocated⟩
      exact absurd (h.settled.pending_restart hpending) nofun
  | stopped =>
      refine ⟨h.settled.restart _, by rw [cameraAt_concat]; exact h.camera, h.prevSearchTerm, fun hpending => ?_,
        fun _ => ⟨es, [], rfl, nofun⟩, h.alternate, hsearched, hlocated⟩
      exact absurd (h.settled.pending_restart hpending) nofun
  | @searched id timer hfire =>
      obtain ⟨hpending, hidle⟩ := h.settled.fire hfire
      obtain ⟨-, hnew, hstands⟩ := h.awaited hpending
      refine ⟨.of_active_eq_nil hidle, by rw [cameraAt_concat]; exact h.camera, by simp,
        fun hpending => absurd hpending (Debouncer.not_pending hidle _),
        fun hpending => absurd hpending (Debouncer.not_pending hidle _), ?_, fun term hterm hne => ?_, hlocated⟩
      · refine h.alternate.concat (.inr fun hsame => hnew ?_)
        rw [h.prevSearchTerm, ← hsame, trimmed_trimmed]
      · rw [List.mem_append, List.mem_singleton] at hterm
        obtain hterm | rfl := hterm
        · exact hsearched term hterm hne
        · exact ⟨es, v.text, id, [], rfl, hstands, rfl⟩
  | @looked id timer located hfire hasked =>
      obtain ⟨hpending, hidle⟩ := h.settled.fire hfire
      refine ⟨.of_active_eq_nil hidle, by rw [cameraAt_concat]; exact h.camera, h.prevSearchTerm,
        fun hpending => absurd hpending (Debouncer.not_pending hidle _),
        fun hpending => absurd hpending (Debouncer.not_pending hidle _), h.alternate, hsearched, fun target htarget => ?_⟩
      obtain rfl | ⟨position, hposition, rfl⟩ := hasked
      · exact hlocated target htarget
      · rw [List.mem_append, List.mem_singleton] at htarget
        obtain htarget | rfl := htarget
        · exact hlocated target htarget
        · exact ⟨es, id, [], position, rfl, h.stopped hpending, h.camera.symm.trans hposition, rfl⟩

end SearchView.Sound

/-! ## The overlay -/

/-- The entry that is referred to is the only one that is shown. -/
def OneOverlay (s : PlacePickerState) : Prop := s.overlays = s.overlayEntry.toList

namespace OneOverlay

variable {s s' : PlacePickerState}

theorem of_eq (h : s.OneOverlay) (hentry : s'.overlayEntry = s.overlayEntry) (hoverlays : s'.overlays = s.overlays) :
    s'.OneOverlay := by
  unfold OneOverlay
  rw [hentry, hoverlays]
  exact h

theorem clearOverlay (h : s.OneOverlay) : s.clearOverlay.OneOverlay ∧ s.clearOverlay.overlays = [] := by
  unfold PlacePickerState.clearOverlay OneOverlay
  cases hentry : s.overlayEntry with
  | none =>
      have hnone : s.overlays = [] := by rw [h, hentry]; rfl
      simp [hentry, hnone]
  | some entry =>
      have hsingle : s.overlays = [entry] := by rw [h, hentry]; rfl
      simp [hsingle]

theorem displayOverlay (h : s.OneOverlay) (child : OverlayChild) : (s.displayOverlay child).OneOverlay := by
  show s.clearOverlay.overlays ++ _ = _
  rw [h.clearOverlay.2]
  rfl

theorem searchPlace (h : s.OneOverlay) (searchTerm : String) : (s.searchPlace searchTerm).OneOverlay := by
  have hcleared := (clearOverlay (s := { s with
    prevSearchTerm := searchTerm, searches := s.searches ++ [searchTerm] }) h).1
  unfold PlacePickerState.searchPlace
  simp only
  split
  · exact hcleared
  · exact hcleared.displayOverlay .searching

theorem onSearchInputChange (h : s.OneOverlay) (text : String) : (s.onSearchInputChange text).OneOverlay := by
  unfold PlacePickerState.onSearchInputChange
  simp only
  split
  · exact searchPlace (s := { s with text := text, debounceTimer := s.debounceTimer.cancel }) h text
  · split
    · exact h
    · split <;> exact h

theorem clearText (h : s.OneOverlay) (notifies : Bool) : (s.clearText notifies).OneOverlay := by
  unfold PlacePickerState.clearText
  split
  · exact h.onSearchInputChange ""
  · exact h

theorem step {e : PlacePickerEvent} (h : s.OneOverlay) (hstep : placePicker.step s e = some s') : s'.OneOverlay := by
  cases e with
  | edit text =>
      obtain rfl : s.onSearchInputChange text = s' := Option.some.inj hstep
      exact h.onSearchInputChange text
  | clearTapped notifies =>
      obtain rfl : s.clearText notifies = s' := Option.some.inj hstep
      exact h.clearText notifies
  | fire id =>
      simp only [placePicker, PlacePickerState.step] at hstep
      split at hstep
      · rename_i timer hfire
        obtain rfl : _ = s' := Option.some.inj hstep
        exact searchPlace (s := { s with debounceTimer := timer }) h _
      · obtain rfl : _ = s' := Option.some.inj hstep
        unfold searchByCameraLocation
        split
        · exact h
        · simp only
          split <;> exact h
      · cases hstep
  | autocompleted answer =>
      obtain ⟨-, hstep⟩ := Option.ite_none_left_eq_some.1 hstep
      obtain rfl : _ = s' := Option.some.inj hstep
      unfold performAutoCompleteSearch
      split
      · exact displayOverlay (s := { s with autocompleting := s.autocompleting - 1 }) h _
      · exact h
  | predictionTapped prediction notifies =>
      obtain ⟨-, hstep⟩ := Option.ite_none_right_eq_some.1 hstep
      obtain rfl : _ = s' := Option.some.inj hstep
      exact h.clearText notifies
  | detailed answer =>
      obtain ⟨-, hstep⟩ := Option.ite_none_left_eq_some.1 hstep
      obtain rfl : _ = s' := Option.some.inj hstep
      unfold pickDetailed
      split
      · simp only
        split <;> exact h
      · exact h
  | cameraMoveStarted notifies =>
      obtain rfl : s.onCameraMoveStarted notifies = s' := Option.some.inj hstep
      unfold onCameraMoveStarted
      refine clearText (of_eq h ?_ ?_) notifies <;> rfl
  | cameraIdle =>
      obtain rfl : s.onCameraIdle = s' := Option.some.inj hstep
      unfold onCameraIdle
      split
      · exact h
      · split <;> exact h
  | geocoded answer =>
      obtain ⟨-, hstep⟩ := Option.ite_none_left_eq_some.1 hstep
      obtain rfl : _ = s' := Option.some.inj hstep
      unfold PlacePickerState.geocoded
      split <;> exact h
  | moved =>
      obtain ⟨-, hstep⟩ := Option.ite_none_left_eq_some.1 hstep
      obtain rfl : _ = s' := Option.some.inj hstep
      exact h
  | focusChanged hasFocus =>
      obtain rfl : s.onFocusChanged hasFocus = s' := Option.some.inj hstep
      exact h
  | mapCreated position =>
      obtain rfl : s.onMapCreated position = s' := Option.some.inj hstep
      exact h
  | cameraMove position =>
      obtain rfl : { s with cameraPosition := some position } = s' := Option.some.inj hstep
      exact h

end OneOverlay

theorem sound_run {es : List PlacePickerEvent} {s : PlacePickerState} (hrun : placePicker.run {} es = some s) :
    s.view.Sound es ∧ s.OneOverlay := by
  refine Machine.inv_of_run (fun es s => s.view.Sound es ∧ s.OneOverlay) ⟨.start, rfl⟩ ?_ hrun
  intro before t e t' _ h hstep
  exact ⟨h.1.step (searches_step hstep), h.2.step hstep⟩

end PlacePickerState

/-- **One search at a time.** Whatever is typed, moved and answered in whatever order: at most one search is put off and
    one overlay is shown; two searches that follow each other are for different terms unless the field is emptied; a
    term is searched for only if it stood in the field, untouched, until the timer fired; and a position is asked about
    only if the map stood still at it. -/
theorem place_searches {es : List PlacePickerEvent} {s : PlacePickerState} (hrun : placePicker.run {} es = some s) :
    s.debounceTimer.active.length ≤ 1 ∧ s.overlays.length ≤ 1 ∧ Alternate s.searches ∧
      (∀ term ∈ s.searches, term ≠ "" → SearchedFor es term) ∧ ∀ target ∈ s.located, LookedAt es target := by
  have h := PlacePickerState.sound_run hrun
  refine ⟨h.1.settled.single, ?_, h.1.alternate, h.1.searched, h.1.located⟩
  rw [h.2]
  cases s.overlayEntry <;> simp

/-- The pin is dragged, a text is written, and its search is answered after the field is emptied. -/
def pickerSample : List PlacePickerEvent :=
  [.mapCreated ⟨⟨30, 31⟩, 15⟩, .cameraMoveStarted false, .cameraMove ⟨⟨30, 32⟩, 15⟩, .cameraIdle, .fire 0,
    .edit "Ca", .edit "Cairo ", .edit "Cairo", .fire 2, .edit "", .autocompleted (.found [⟨some "p"⟩]),
    .edit "Cairo", .fire 3]

theorem place_searches_sample : ∃ s, placePicker.run {} pickerSample = some s ∧
    s.searches = ["Cairo", "", "Cairo"] ∧ s.located = [⟨30, 32⟩] ∧ Alternate s.searches ∧
      SearchedFor pickerSample "Cairo" ∧ LookedAt pickerSample ⟨30, 32⟩ := by
  obtain ⟨s, hrun, hsearches, hlocated⟩ : ∃ s, placePicker.run {} pickerSample = some s ∧
      s.searches = ["Cairo", "", "Cairo"] ∧ s.located = [⟨30, 32⟩] := Machine.reaches (by decide +kernel)
  obtain ⟨-, -, halternate, hsearched, hlooked⟩ := place_searches hrun
  exact ⟨s, hrun, hsearches, hlocated, halternate, hsearched "Cairo" (by simp [hsearches]) (by decide),
    hlooked _ (by simp [hlocated])⟩

end Nourgomla
