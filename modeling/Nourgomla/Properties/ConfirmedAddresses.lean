import Nourgomla.Properties.DrawnAreas
import Nourgomla.Widgets.AddressInsert

set_option autoImplicit false

/-! # The addresses that are confirmed

Every address that is posted goes back to one tap of the button, and no tap posts two. Its area is looked up at the
position there is when the geocoder answers, and the rest is what is put in when the areas come: both are what was
confirmed if nothing is put in between. -/

namespace Nourgomla

variable (tools : AddressTools)

/-! ## What is put in -/

/-- The address that is updated, the written address and the position. -/
structure AddressDraft where
  target : Option AddressModel := none
  text : Option String := none
  place : Option LatLng := none

namespace AddressDraft

/-- A text that is not accepted is put in all the same, but not its place. -/
def after (d : AddressDraft) : AddressFormEvent → AddressDraft
  | .switchToUpdateMode address => { d with target := some address, text := address.address }
  | .clearSelectedAddress => { d with target := none, text := none }
  | .initData userLocation =>
    { d with place := (d.target.elim userLocation (AddressForm.storedLatLng tools.doubleParse)).or d.place }
  | .onTap fullAddress selectedPlace =>
    { d with
      text := some fullAddress
      place := if multiLineTextValidator (some fullAddress) = none then selectedPlace.or d.place else d.place }
  | _ => d

def of (es : List AddressFormEvent) : AddressDraft := es.foldl (after tools) {}

/-- The post that saves it. -/
def post (d : AddressDraft) (session : Session) (areaId : Int) : Option AddressPost :=
  d.place.bind fun latLng =>
    match d.target with
    | none => AddressesServices.addNewAddress session d.text latLng areaId
    | some address => AddressesServices.updateAddress session d.text latLng areaId address.id

variable {tools}

theorem of_concat (es : List AddressFormEvent) (e : AddressFormEvent) :
    of tools (es ++ [e]) = (of tools es).after tools e := by
  rw [of, List.foldl_append]
  rfl

end AddressDraft

namespace AddressFormEvent

/-- The answers put nothing in. -/
def PutsIn : AddressFormEvent → Prop
  | .located _ _ | .areas _ _ _ => False
  | _ => True

/-- A confirm begins. -/
def begins : AddressFormEvent → Bool
  | .onTap fullAddress (some _) => multiLineTextValidator (some fullAddress) = none
  | _ => false

end AddressFormEvent

/-- The number of confirms that have begun. -/
def begun (es : List AddressFormEvent) : Nat := es.countP AddressFormEvent.begins

variable {tools}

theorem AddressDraft.of_append_quiet {es mid : List AddressFormEvent} (hquiet : ∀ e ∈ mid, ¬e.PutsIn) :
    of tools (es ++ mid) = of tools es := by
  induction mid using List.reverseRecOn with
  | nil => rw [List.append_nil]
  | append_singleton mid e ih =>
      rw [← List.append_assoc, of_concat, ih fun e he => hquiet e (List.mem_append_left _ he)]
      have he : ¬e.PutsIn := hquiet e (by simp)
      cases e with
      | located k addresses => rfl
      | areas k answer session => rfl
      | _ => exact absurd trivial he

/-! ## One step -/

namespace AddressForm

/-- The fields hold what is put in. -/
structure Shows (s : AddressForm) (d : AddressDraft) : Prop where
  updateMode : s.updateMode = d.target.isSome
  addressToUpdate : s.updateMode = true → s.addressToUpdate = d.target
  writtenAddress : s.writtenAddress = d.text
  currentLatLng : s.currentLatLng = d.place

namespace Shows

variable {s : AddressForm} {d : AddressDraft}

theorem onSaveAddressPressed (h : s.Shows d) (session : Session) (areaId : Int) :
    s.onSaveAddressPressed session areaId = d.post session areaId := by
  unfold AddressForm.onSaveAddressPressed AddressDraft.post
  rw [h.currentLatLng, h.writtenAddress]
  refine congrArg _ (funext fun latLng => ?_)
  cases htarget : d.target with
  | none =>
      have hmode : s.updateMode = false := by rw [h.updateMode, htarget]; rfl
      rw [hmode]
      rfl
  | some address =>
      have hmode : s.updateMode = true := by rw [h.updateMode, htarget]; rfl
      rw [hmode, if_pos rfl, h.addressToUpdate hmode, htarget]
      rfl

theorem initialLatLng_eq (h : s.Shows d) (userLocation : Option LatLng) :
    s.initialLatLng tools userLocation = d.target.elim userLocation (storedLatLng tools.doubleParse) := by
  unfold initialLatLng
  cases htarget : d.target with
  | none => rw [h.updateMode, htarget]; rfl
  | some address =>
      have hmode : s.updateMode = true := by rw [h.updateMode, htarget]; rfl
      rw [hmode, if_pos rfl, h.addressToUpdate hmode, htarget]
      rfl

theorem initData (h : s.Shows d) (userLocation : Option LatLng) :
    (s.initData tools userLocation).Shows (d.after tools (.initData userLocation)) := by
  unfold AddressForm.initData
  simp only [AddressDraft.after, ← h.initialLatLng_eq]
  cases s.initialLatLng tools userLocation with
  | none => exact ⟨h.updateMode, h.addressToUpdate, h.writtenAddress, h.currentLatLng⟩
  | some latLng => exact ⟨h.updateMode, h.addressToUpdate, h.writtenAddress, rfl⟩

theorem onTap (h : s.Shows d) (fullAddress : String) (selectedPlace : Option LatLng) :
    (s.onTap fullAddress selectedPlace).Shows (d.after tools (.onTap fullAddress selectedPlace)) := by
  unfold AddressForm.onTap
  simp only [AddressDraft.after]
  by_cases hvalid : multiLineTextValidator (some fullAddress) = none
  · rw [if_pos hvalid, if_pos hvalid]
    cases selectedPlace with
    | none => exact ⟨h.updateMode, h.addressToUpdate, rfl, h.currentLatLng⟩
    | some place => exact ⟨h.updateMode, h.addressToUpdate, rfl, rfl⟩
  · rw [if_neg hvalid, if_neg hvalid]
    exact ⟨h.updateMode, h.addressToUpdate, rfl, h.currentLatLng⟩

/-- Every event puts in what it says. -/
theorem step {s' : AddressForm} {e : AddressFormEvent} (h : s.Shows d)
    (hstep : (addressForm tools).step s e = some s') : s'.Shows (d.after tools e) := by
  cases e with
  | switchToUpdateMode address =>
      obtain rfl : s.switchToUpdateMode address = s' := Option.some.inj hstep
      exact ⟨rfl, fun _ => rfl, rfl, h.currentLatLng⟩
  | clearSelectedAddress =>
      obtain rfl : s.clearSelectedAddress = s' := Option.some.inj hstep
      exact ⟨rfl, nofun, rfl, h.currentLatLng⟩
  | initData userLocation =>
      obtain rfl : s.initData tools userLocation = s' := Option.some.inj hstep
      exact h.initData userLocation
  | onTap fullAddress selectedPlace =>
      obtain rfl : s.onTap fullAddress selectedPlace = s' := Option.some.inj hstep
      exact h.onTap fullAddress selectedPlace
  | located k addresses =>
      simp only [addressForm, AddressForm.step] at hstep
      split at hstep
      · obtain rfl : _ = s' := Option.some.inj hstep
        exact ⟨h.updateMode, h.addressToUpdate, h.writtenAddress, h.currentLatLng⟩
      · cases hstep
  | areas k answer session =>
      simp only [addressForm, AddressForm.step] at hstep
      split at hstep
      · obtain rfl : _ = s' := Option.some.inj hstep
        unfold AddressForm.areasAnswered
        simp only
        split <;> exact ⟨h.updateMode, h.addressToUpdate, h.writtenAddress, h.currentLatLng⟩
      · cases hstep

end Shows

end AddressForm

/-! ## The area -/

/-- The area is the first of the answer that contains the position, or else the first. -/
def FindsArea (tools : AddressTools) (latLng : LatLng) (answer : Except DartError Json) (areaId : Int) : Prop :=
  ∃ first rest, AddressesServices.getAreas tools.areaFromJson answer = first :: rest ∧
    (AddressesController.matchedAreaId tools.isGeoPointInPolygon latLng (first :: rest)).or first.id = some areaId

theorem getUserAreaId_eq_some_iff {latLng : LatLng} {answer : Except DartError Json} {areaId : Int}
    {shippingData : List (AreaModel LatLng)} :
    ((AddressesController.getUserAreaId tools.isGeoPointInPolygon
      (AddressesServices.getAreas tools.areaFromJson answer) latLng).exec shippingData).1.toOption.join = some areaId ↔
      FindsArea tools latLng answer areaId := by
  unfold FindsArea
  cases AddressesServices.getAreas tools.areaFromJson answer with
  | nil =>
      rw [AddressesController.exec_getUserAreaId_nil]
      simp [Except.toOption]
  | cons first rest =>
      rw [AddressesController.exec_getUserAreaId_cons, Option.orElse_eq_or]
      constructor
      · intro hfound
        exact ⟨first, rest, rfl, hfound⟩
      · rintro ⟨first', rest', hcons, hfound⟩
        obtain ⟨rfl, rfl⟩ := List.cons.inj hcons
        exact hfound

namespace AddressForm

/-- What an event does to the confirms and the posts. -/
inductive Moves (tools : AddressTools) (s : AddressForm) : AddressFormEvent → AddressForm → Prop
  | stays {e : AddressFormEvent} {s' : AddressForm} (hbegins : e.begins = false) (hconfirms : s'.confirms = s.confirms)
      (hposted : s'.posted = s.posted) : Moves tools s e s'
  | begins {fullAddress : String} {place : LatLng} {s' : AddressForm}
      (hvalid : multiLineTextValidator (some fullAddress) = none)
      (hconfirms : s'.confirms = s.confirms ++ [.locating place]) (hposted : s'.posted = s.posted) :
      Moves tools s (.onTap fullAddress (some place)) s'
  | located {k : Nat} {addresses : Option (List GeocoderAddress)} {coordinates : LatLng} {s' : AddressForm}
      (hk : s.confirms[k]? = some (.locating coordinates))
      (hconfirms : s'.confirms = s.confirms.set k (s.getUserArea addresses)) (hposted : s'.posted = s.posted) :
      Moves tools s (.located k addresses) s'
  | areas {k : Nat} {answer : Except DartError Json} {session : Session} {areaName : String} {latLng : LatLng}
      {s' : AddressForm} (hk : s.confirms[k]? = some (.searching areaName latLng))
      (hconfirms : s'.confirms = s.confirms.set k .finished)
      (hposted : s'.posted = s.posted ∨ ∃ areaId post, FindsArea tools latLng answer areaId ∧
        s.onSaveAddressPressed session areaId = some post ∧ s'.posted = s.posted ++ [(k, post)]) :
      Moves tools s (.areas k answer session) s'

theorem moves_onTap (s : AddressForm) (fullAddress : String) (selectedPlace : Option LatLng) :
    Moves tools s (.onTap fullAddress selectedPlace) (s.onTap fullAddress selectedPlace) := by
  unfold AddressForm.onTap
  by_cases hvalid : multiLineTextValidator (some fullAddress) = none
  · rw [if_pos hvalid]
    cases selectedPlace with
    | none => exact .stays rfl rfl rfl
    | some place => exact .begins hvalid rfl rfl
  · rw [if_neg hvalid]
    refine .stays ?_ rfl rfl
    cases selectedPlace with
    | none => rfl
    | some place => exact decide_eq_false hvalid

theorem moves_areas {s : AddressForm} {k : Nat} {areaName : String} {latLng : LatLng}
    (hk : s.confirms[k]? = some (.searching areaName latLng)) (answer : Except DartError Json) (session : Session) :
    Moves tools s (.areas k answer session) (s.areasAnswered tools k latLng answer session) := by
  unfold AddressForm.areasAnswered
  simp only
  split
  · rename_i post hpost
    obtain ⟨areaId, hfound, hsave⟩ := Option.bind_eq_some_iff.1 hpost
    exact .areas hk rfl (.inr ⟨areaId, post, getUserAreaId_eq_some_iff.1 hfound, hsave, rfl⟩)
  · exact .areas hk rfl (.inl rfl)

theorem moves {s s' : AddressForm} {e : AddressFormEvent} (hstep : (addressForm tools).step s e = some s') :
    Moves tools s e s' := by
  cases e with
  | switchToUpdateMode address =>
      obtain rfl : s.switchToUpdateMode address = s' := Option.some.inj hstep
      exact .stays rfl rfl rfl
  | clearSelectedAddress =>
      obtain rfl : s.clearSelectedAddress = s' := Option.some.inj hstep
      exact .stays rfl rfl rfl
  | initData userLocation =>
      obtain rfl : s.initData tools userLocation = s' := Option.some.inj hstep
      unfold AddressForm.initData
      cases s.initialLatLng tools userLocation <;> exact .stays rfl rfl rfl
  | onTap fullAddress selectedPlace =>
      obtain rfl : s.onTap fullAddress selectedPlace = s' := Option.some.inj hstep
      exact moves_onTap s fullAddress selectedPlace
  | located k addresses =>
      simp only [addressForm, AddressForm.step] at hstep
      split at hstep
      · rename_i coordinates hk
        obtain rfl : _ = s' := Option.some.inj hstep
        exact .located hk rfl rfl
      · cases hstep
  | areas k answer session =>
      simp only [addressForm, AddressForm.step] at hstep
      split at hstep
      · rename_i areaName latLng hk
        obtain rfl : _ = s' := Option.some.inj hstep
        exact moves_areas hk answer session
      · cases hstep

end AddressForm

/-! ## Where a confirm comes from -/

/-- The `k`-th confirm began with a tap of the button. -/
def BeganAt (before : List AddressFormEvent) (k : Nat) (text : String) : Prop :=
  begun before = k ∧ multiLineTextValidator (some text) = none

/-- It is at its first wait. -/
def IsLocating (es : List AddressFormEvent) (k : Nat) (place : LatLng) : Prop :=
  ∃ before text mid, BeganAt before k text ∧ es = before ++ .onTap text (some place) :: mid

/-- It is at its second wait, and looks at `point`. -/
def IsSearching (tools : AddressTools) (es : List AddressFormEvent) (k : Nat) (point : LatLng) : Prop :=
  ∃ before text place mid addresses mid', BeganAt before k text ∧ addresses.bind (·[1]?) ≠ none ∧
    (AddressDraft.of tools (before ++ .onTap text (some place) :: mid)).place = some point ∧
    es = before ++ .onTap text (some place) :: mid ++ .located k addresses :: mid'

/-- The history of a confirm: the tap, the geocoder's answer, the areas, and what happens between them. -/
structure ConfirmHistory where
  k : Nat
  before : List AddressFormEvent
  text : String
  place : LatLng
  mid : List AddressFormEvent
  addresses : Option (List GeocoderAddress)
  mid' : List AddressFormEvent
  answer : Except DartError Json
  session : Session
  after : List AddressFormEvent

namespace ConfirmHistory

variable (tools) (c : ConfirmHistory)

def untilLocated : List AddressFormEvent := c.before ++ .onTap c.text (some c.place) :: c.mid

def untilSaved : List AddressFormEvent := c.untilLocated ++ .located c.k c.addresses :: c.mid'

def events : List AddressFormEvent := c.untilSaved ++ .areas c.k c.answer c.session :: c.after

/-- The area is that of the position when the geocoder answers; the rest is what is put in when the areas come. -/
structure Posts (post : AddressPost) : Prop where
  began : BeganAt c.before c.k c.text
  located : c.addresses.bind (·[1]?) ≠ none
  posts : ∃ point areaId, (AddressDraft.of tools c.untilLocated).place = some point ∧
    FindsArea tools point c.answer areaId ∧ (AddressDraft.of tools c.untilSaved).post c.session areaId = some post

/-- Nothing is put in while the confirm waits. -/
def Undisturbed : Prop := ∀ e ∈ c.mid ++ c.mid', ¬e.PutsIn

/-- What the user has confirmed. -/
def confirmed : AddressDraft :=
  { target := (AddressDraft.of tools c.before).target, text := some c.text, place := some c.place }

variable {tools c}

theorem Undisturbed.of_eq (h : c.Undisturbed) (hvalid : multiLineTextValidator (some c.text) = none) :
    AddressDraft.of tools c.untilLocated = c.confirmed tools ∧ AddressDraft.of tools c.untilSaved = c.confirmed tools := by
  have htap : AddressDraft.of tools (c.before ++ [.onTap c.text (some c.place)]) = c.confirmed tools := by
    rw [AddressDraft.of_concat]
    simp only [AddressDraft.after, if_pos hvalid, Option.some_or, confirmed]
  have hlocated : AddressDraft.of tools c.untilLocated = c.confirmed tools := by
    rw [← htap, untilLocated, List.append_cons]
    exact AddressDraft.of_append_quiet fun e he => h e (List.mem_append_left _ he)
  refine ⟨hlocated, ?_⟩
  rw [← hlocated, untilSaved]
  refine AddressDraft.of_append_quiet fun e he => ?_
  obtain rfl | he := List.mem_cons.1 he
  · exact id
  · exact h e (List.mem_append_right _ he)

end ConfirmHistory

/-- It has posted. -/
def HasPosted (tools : AddressTools) (es : List AddressFormEvent) (k : Nat) (post : AddressPost) : Prop :=
  ∃ c : ConfirmHistory, c.events = es ∧ c.k = k ∧ c.Posts tools post

namespace Confirm

def ComesFrom (tools : AddressTools) (es : List AddressFormEvent) (k : Nat) : Confirm → Prop
  | .locating place => IsLocating es k place
  | .searching _ point => IsSearching tools es k point
  | .finished => True

theorem ComesFrom.concat {es : List AddressFormEvent} {k : Nat} {c : Confirm} (h : c.ComesFrom tools es k)
    (e : AddressFormEvent) : c.ComesFrom tools (es ++ [e]) k := by
  cases c with
  | locating place =>
      obtain ⟨before, text, mid, hbegan, rfl⟩ := h
      exact ⟨before, text, mid ++ [e], hbegan, by simp⟩
  | searching areaName point =>
      obtain ⟨before, text, place, mid, addresses, mid', hbegan, hlocated, hpoint, rfl⟩ := h
      exact ⟨before, text, place, mid, addresses, mid' ++ [e], hbegan, hlocated, hpoint, by simp⟩
  | finished => trivial

end Confirm

theorem HasPosted.concat {es : List AddressFormEvent} {k : Nat} {post : AddressPost} (h : HasPosted tools es k post)
    (e : AddressFormEvent) : HasPosted tools (es ++ [e]) k post := by
  obtain ⟨c, rfl, hk, hposts⟩ := h
  exact ⟨{ c with after := c.after ++ [e] }, by simp [ConfirmHistory.events, ConfirmHistory.untilSaved,
    ConfirmHistory.untilLocated], hk, hposts.began, hposts.located, hposts.posts⟩

theorem getElem?_concat_eq_some {α : Type} {l : List α} {a b : α} {i : Nat} :
    (l ++ [a])[i]? = some b ↔ l[i]? = some b ∨ l.length = i ∧ b = a := by
  rw [List.getElem?_append]
  split
  · rename_i hi
    exact ⟨.inl, fun h => h.resolve_right fun hend => by omega⟩
  · rename_i hi
    have hnone : l[i]? = none := List.getElem?_eq_none (by omega)
    rw [List.getElem?_singleton, Option.ite_none_right_eq_some, hnone, Option.some.injEq]
    constructor
    · rintro ⟨hi', rfl⟩
      exact .inr ⟨by omega, rfl⟩
    · rintro (hold | ⟨rfl, rfl⟩)
      · cases hold
      · exact ⟨by omega, rfl⟩

/-- The form after the events so far. -/
structure AddressForm.Sound (tools : AddressTools) (es : List AddressFormEvent) (s : AddressForm) : Prop where
  shows : s.Shows (AddressDraft.of tools es)
  begun : s.confirms.length = begun es
  confirms : ∀ (k : Nat) (c : Confirm), s.confirms[k]? = some c → c.ComesFrom tools es k
  posted : ∀ k post, (k, post) ∈ s.posted → HasPosted tools es k post
  finished : ∀ k post, (k, post) ∈ s.posted → s.confirms[k]? = some .finished
  once : (s.posted.map Prod.fst).Nodup

namespace AddressForm.Sound

variable {es : List AddressFormEvent} {s s' : AddressForm}

theorem start : Sound tools [] {} where
  shows := ⟨rfl, nofun, rfl, rfl⟩
  begun := rfl
  confirms k c h := by simp at h
  posted k post h := by simp at h
  finished k post h := by simp at h
  once := List.nodup_nil

/-- A confirm that waits has not posted. -/
theorem notMem_of_waits (h : s.Sound tools es) {k : Nat} {c : Confirm} (hk : s.confirms[k]? = some c)
    (hwaits : c ≠ .finished) : k ∉ s.posted.map Prod.fst := by
  intro hmem
  obtain ⟨⟨k', post⟩, hpost, rfl⟩ := List.mem_map.1 hmem
  exact hwaits (Option.some.inj (hk.symm.trans (h.finished k' post hpost)))

theorem begun_concat (h : s.Sound tools es) {e : AddressFormEvent} (hbegins : e.begins = false)
    (hlength : s'.confirms.length = s.confirms.length) : s'.confirms.length = Nourgomla.begun (es ++ [e]) := by
  rw [hlength, h.begun, Nourgomla.begun, Nourgomla.begun, List.countP_append]
  simp [hbegins]

/-- The `k`-th confirm moves on, the others stay. -/
theorem comesFrom_set (h : s.Sound tools es) {k : Nat} {c' : Confirm} {e : AddressFormEvent}
    (hc' : c'.ComesFrom tools (es ++ [e]) k) {j : Nat} {c : Confirm}
    (hj : (s.confirms.set k c')[j]? = some c) : c.ComesFrom tools (es ++ [e]) j := by
  rw [List.getElem?_set] at hj
  split at hj
  · rename_i hkj
    subst hkj
    obtain ⟨-, hcc'⟩ := Option.ite_none_right_eq_some.1 hj
    obtain rfl : c' = c := Option.some.inj hcc'
    exact hc'
  · exact (h.confirms j c hj).concat e

theorem stays (h : s.Sound tools es) {e : AddressFormEvent} (hshows : s'.Shows (AddressDraft.of tools (es ++ [e])))
    (hbegins : e.begins = false) (hconfirms : s'.confirms = s.confirms) (hposted : s'.posted = s.posted) :
    s'.Sound tools (es ++ [e]) where
  shows := hshows
  begun := h.begun_concat hbegins (by rw [hconfirms])
  confirms k c hk := (h.confirms k c (hconfirms ▸ hk)).concat e
  posted k post hpost := (h.posted k post (hposted ▸ hpost)).concat e
  finished k post hpost := hconfirms ▸ h.finished k post (hposted ▸ hpost)
  once := hposted ▸ h.once

theorem begins (h : s.Sound tools es) {fullAddress : String} {place : LatLng}
    (hshows : s'.Shows (AddressDraft.of tools (es ++ [.onTap fullAddress (some place)])))
    (hvalid : multiLineTextValidator (some fullAddress) = none)
    (hconfirms : s'.confirms = s.confirms ++ [.locating place]) (hposted : s'.posted = s.posted) :
    s'.Sound tools (es ++ [.onTap fullAddress (some place)]) where
  shows := hshows
  begun := by
    rw [hconfirms, List.length_append, h.begun, Nourgomla.begun, Nourgomla.begun, List.countP_append]
    simp [AddressFormEvent.begins, hvalid]
  confirms k c hk := by
    rw [hconfirms] at hk
    obtain hold | ⟨rfl, rfl⟩ := getElem?_concat_eq_some.1 hk
    · exact (h.confirms k c hold).concat _
    · exact ⟨es, fullAddress, [], ⟨h.begun.symm, hvalid⟩, rfl⟩
  posted k post hpost := (h.posted k post (hposted ▸ hpost)).concat _
  finished k post hpost := by
    rw [hconfirms]
    exact getElem?_concat_eq_some.2 (.inl (h.finished k post (hposted ▸ hpost)))
  once := hposted ▸ h.once

theorem located (h : s.Sound tools es) {k : Nat} {addresses : Option (List GeocoderAddress)} {coordinates : LatLng}
    (hshows : s'.Shows (AddressDraft.of tools (es ++ [.located k addresses])))
    (hk : s.confirms[k]? = some (.locating coordinates))
    (hconfirms : s'.confirms = s.confirms.set k (s.getUserArea addresses)) (hposted : s'.posted = s.posted) :
    s'.Sound tools (es ++ [.located k addresses]) where
  shows := hshows
  begun := h.begun_concat rfl (by rw [hconfirms, List.length_set])
  confirms j c hj := by
    refine h.comesFrom_set ?_ (hconfirms ▸ hj)
    unfold AddressForm.getUserArea
    split
    · rename_i address latLng haddress hlatLng
      obtain ⟨before, text, mid, hbegan, rfl⟩ := h.confirms k _ hk
      rw [h.shows.currentLatLng] at hlatLng
      exact ⟨before, text, coordinates, mid, addresses, [], hbegan, by simp [haddress], hlatLng, rfl⟩
    · trivial
  posted j post hpost := (h.posted j post (hposted ▸ hpost)).concat _
  finished j post hpost := by
    have hne : k ≠ j := by
      rintro rfl
      exact h.notMem_of_waits hk nofun (List.mem_map_of_mem (hposted ▸ hpost))
    rw [hconfirms, List.getElem?_set_ne hne]
    exact h.finished j post (hposted ▸ hpost)
  once := hposted ▸ h.once

theorem areas (h : s.Sound tools es) {k : Nat} {answer : Except DartError Json} {session : Session}
    {areaName : String} {latLng : LatLng}
    (hshows : s'.Shows (AddressDraft.of tools (es ++ [.areas k answer session])))
    (hk : s.confirms[k]? = some (.searching areaName latLng))
    (hconfirms : s'.confirms = s.confirms.set k .finished)
    (hposted : s'.posted = s.posted ∨ ∃ areaId post, FindsArea tools latLng answer areaId ∧
      s.onSaveAddressPressed session areaId = some post ∧ s'.posted = s.posted ++ [(k, post)]) :
    s'.Sound tools (es ++ [.areas k answer session]) := by
  have hlength : s'.confirms.length = s.confirms.length := by rw [hconfirms, List.length_set]
  have hbegun := h.begun_concat (e := .areas k answer session) rfl hlength
  have hfinal : Confirm.finished.ComesFrom tools (es ++ [.areas k answer session]) k := trivial
  have hcomes (j : Nat) (c : Confirm) (hj : s'.confirms[j]? = some c) :
      c.ComesFrom tools (es ++ [.areas k answer session]) j := h.comesFrom_set hfinal (hconfirms ▸ hj)
  have hnot := h.notMem_of_waits hk nofun
  have hfinished (j : Nat) (post : AddressPost) (hpost : (j, post) ∈ s.posted) :
      s'.confirms[j]? = some .finished := by
    have hne : k ≠ j := by
      rintro rfl
      exact hnot (List.mem_map_of_mem hpost)
    rw [hconfirms, List.getElem?_set_ne hne]
    exact h.finished j post hpost
  obtain hsame | ⟨areaId, post, hfinds, hsave, hnew⟩ := hposted
  · exact ⟨hshows, hbegun, hcomes, fun j post hpost => (h.posted j post (hsame ▸ hpost)).concat _,
      fun j post hpost => hfinished j post (hsame ▸ hpost), hsame ▸ h.once⟩
  · refine ⟨hshows, hbegun, hcomes, fun j post' hpost => ?_, fun j post' hpost => ?_, ?_⟩
    · rw [hnew, List.mem_append, List.mem_singleton, Prod.mk.injEq] at hpost
      obtain hold | ⟨rfl, rfl⟩ := hpost
      · exact (h.posted j post' hold).concat _
      · obtain ⟨before, text, place, mid, addresses, mid', hbegan, hlocated, hpoint, rfl⟩ := h.confirms j _ hk
        rw [h.shows.onSaveAddressPressed] at hsave
        exact ⟨⟨j, before, text, place, mid, addresses, mid', answer, session, []⟩, rfl, rfl, hbegan, hlocated, latLng,
          areaId, hpoint, hfinds, hsave⟩
    · rw [hnew, List.mem_append, List.mem_singleton, Prod.mk.injEq] at hpost
      obtain hold | ⟨rfl, rfl⟩ := hpost
      · exact hfinished j post' hold
      · rw [hconfirms, List.getElem?_set_self (List.getElem?_eq_some_iff.1 hk).1]
    · rw [hnew, List.map_append, List.nodup_append]
      refine ⟨h.once, by simp, ?_⟩
      rintro j hj _ hk' rfl
      obtain rfl : j = k := by simpa using hk'
      exact hnot hj

theorem step (h : s.Sound tools es) {e : AddressFormEvent} (hstep : (addressForm tools).step s e = some s') :
    s'.Sound tools (es ++ [e]) := by
  have hshows : s'.Shows (AddressDraft.of tools (es ++ [e])) := by
    rw [AddressDraft.of_concat]
    exact h.shows.step hstep
  cases moves hstep with
  | stays hbegins hconfirms hposted => exact h.stays hshows hbegins hconfirms hposted
  | begins hvalid hconfirms hposted => exact h.begins hshows hvalid hconfirms hposted
  | located hk hconfirms hposted => exact h.located hshows hk hconfirms hposted
  | areas hk hconfirms hposted => exact h.areas hshows hk hconfirms hposted

theorem run (hrun : (addressForm tools).run {} es = some s) : s.Sound tools es :=
  Machine.inv_of_run (fun es s => s.Sound tools es) start (fun _ _ _ _ _ h hstep => h.step hstep) hrun

end AddressForm.Sound

/-! ## Nothing that is answered is lost -/

namespace AddressForm

variable {s s' : AddressForm} {k : Nat}

theorem posted_areasAnswered {latLng : LatLng} {answer : Except DartError Json} {session : Session} {areaId : Int}
    {post : AddressPost} (hfinds : FindsArea tools latLng answer areaId)
    (hsave : s.onSaveAddressPressed session areaId = some post) :
    (s.areasAnswered tools k latLng answer session).posted = s.posted ++ [(k, post)] := by
  unfold areasAnswered
  simp only
  rw [getUserAreaId_eq_some_iff.2 hfinds, Option.bind_some]
  split
  · rename_i post' hpost'
    obtain rfl : post = post' := Option.some.inj (hsave.symm.trans hpost')
    rfl
  · rename_i hnone
    exact absurd (hsave.symm.trans hnone) nofun

theorem getUserArea_eq {addresses : Option (List GeocoderAddress)} {latLng : LatLng}
    (hlocated : addresses.bind (·[1]?) ≠ none) (hlatLng : s.currentLatLng = some latLng) :
    ∃ areaName, s.getUserArea addresses = .searching areaName latLng := by
  obtain ⟨address, haddress⟩ := Option.ne_none_iff_exists'.1 hlocated
  unfold getUserArea
  rw [haddress, hlatLng]
  exact ⟨_, rfl⟩

theorem Moves.posted_subset {e : AddressFormEvent} (h : Moves tools s e s') : s.posted ⊆ s'.posted := by
  cases h with
  | stays hbegins hconfirms hposted => exact hposted ▸ List.Subset.refl _
  | begins hvalid hconfirms hposted => exact hposted ▸ List.Subset.refl _
  | located hk hconfirms hposted => exact hposted ▸ List.Subset.refl _
  | areas hk hconfirms hposted =>
      obtain hsame | ⟨areaId, post, -, -, hnew⟩ := hposted
      · exact hsame ▸ List.Subset.refl _
      · exact hnew ▸ List.subset_append_left _ _

/-- The confirm waits for the areas at `latLng`, or it is over. -/
def LooksAt (s : AddressForm) (k : Nat) (latLng : LatLng) : Prop :=
  (∃ areaName, s.confirms[k]? = some (.searching areaName latLng)) ∨ s.confirms[k]? = some .finished

/-- A confirm that has its geocoder answer stays where it is, or it is over. -/
theorem Moves.located_stays {c : Confirm} {e : AddressFormEvent} (hmoves : Moves tools s e s')
    (hk : s.confirms[k]? = some c) (hc : ∀ coordinates, c ≠ .locating coordinates) :
    s'.confirms[k]? = some c ∨ s'.confirms[k]? = some .finished := by
  have hlt : k < s.confirms.length := (List.getElem?_eq_some_iff.1 hk).1
  cases hmoves with
  | stays hbegins hconfirms hposted => exact .inl (by rw [hconfirms, hk])
  | begins hvalid hconfirms hposted => exact .inl (by rw [hconfirms, List.getElem?_append_left hlt, hk])
  | @located j _ coordinates _ hj hconfirms hposted =>
      have hne : j ≠ k := by
        rintro rfl
        exact hc coordinates (Option.some.inj (hk.symm.trans hj))
      exact .inl (by rw [hconfirms, List.getElem?_set_ne hne, hk])
  | @areas j _ _ _ _ _ hj hconfirms hposted =>
      by_cases hjk : j = k
      · subst hjk
        exact .inr (by rw [hconfirms, List.getElem?_set_self hlt])
      · exact .inl (by rw [hconfirms, List.getElem?_set_ne hjk, hk])

theorem LooksAt.step {latLng : LatLng} {e : AddressFormEvent} (h : s.LooksAt k latLng) (hmoves : Moves tools s e s') :
    s'.LooksAt k latLng := by
  obtain ⟨areaName, hk⟩ | hk := h
  · exact (hmoves.located_stays hk (by simp)).imp_left fun hk' => ⟨areaName, hk'⟩
  · exact .inr ((hmoves.located_stays hk (by simp)).elim id id)

/-- What is over stays over. -/
theorem finished_run {es : List AddressFormEvent} (hk : s.confirms[k]? = some .finished)
    (hrun : (addressForm tools).run s es = some s') : s'.confirms[k]? = some .finished :=
  Machine.inv_of_meets
    (fun _ _ _ ht _ hstep => ((moves hstep).located_stays ht (by simp)).elim id id) hk (Machine.meets_true es) hrun

theorem LooksAt.run {latLng : LatLng} {es : List AddressFormEvent} (h : s.LooksAt k latLng)
    (hrun : (addressForm tools).run s es = some s') : s'.LooksAt k latLng :=
  Machine.inv_of_meets (fun _ _ _ ht _ hstep => LooksAt.step ht (moves hstep)) h (Machine.meets_true es) hrun

theorem posted_subset_run {es : List AddressFormEvent} (hrun : (addressForm tools).run s es = some s') :
    s.posted ⊆ s'.posted :=
  Machine.inv_of_meets (fun _ _ _ ht _ hstep => List.Subset.trans ht (moves hstep).posted_subset) (List.Subset.refl _)
    (Machine.meets_true es) hrun

end AddressForm

/-- A confirm that gets both answers posts. -/
theorem ConfirmHistory.Posts.mem_posted {c : ConfirmHistory} {s : AddressForm} {post : AddressPost}
    (h : c.Posts tools post) (hrun : (addressForm tools).run {} c.events = some s) : (c.k, post) ∈ s.posted := by
  obtain ⟨point, areaId, hpoint, hfinds, hpost⟩ := h.posts
  rw [ConfirmHistory.events, Machine.run_append, Option.bind_eq_some_iff] at hrun
  obtain ⟨t₃, ht₃, hrun⟩ := hrun
  obtain ⟨t₄, hsaved, hafter⟩ := Machine.run_cons.1 hrun
  have hsound₃ := AddressForm.Sound.run ht₃
  rw [ConfirmHistory.untilSaved, Machine.run_append, Option.bind_eq_some_iff] at ht₃
  obtain ⟨t₁, ht₁, hmid⟩ := ht₃
  obtain ⟨t₂, hlocated, hmid'⟩ := Machine.run_cons.1 hmid
  have hsound₁ := AddressForm.Sound.run ht₁
  have hlooks : t₂.LooksAt c.k point := by
    simp only [addressForm, AddressForm.step] at hlocated
    split at hlocated
    · rename_i coordinates hk
      obtain rfl : _ = t₂ := Option.some.inj hlocated
      obtain ⟨areaName, hname⟩ :=
        AddressForm.getUserArea_eq h.located (hsound₁.shows.currentLatLng.trans hpoint)
      exact .inl ⟨areaName, by rw [List.getElem?_set_self (List.getElem?_eq_some_iff.1 hk).1, hname]⟩
    · cases hlocated
  obtain hsearching | hfinished := hlooks.run hmid'
  · obtain ⟨areaName, hk⟩ := hsearching
    simp only [addressForm, AddressForm.step, hk] at hsaved
    obtain rfl : _ = t₄ := Option.some.inj hsaved
    refine AddressForm.posted_subset_run hafter ?_
    rw [← hsound₃.shows.onSaveAddressPressed] at hpost
    rw [AddressForm.posted_areasAnswered hfinds hpost]
    simp
  · simp [addressForm, AddressForm.step, hfinished] at hsaved

/-- A confirm whose areas come has had its geocoder answer, with a second address. -/
theorem ConfirmHistory.located_of_run {c : ConfirmHistory} {s : AddressForm}
    (hrun : (addressForm tools).run {} c.events = some s) : c.addresses.bind (·[1]?) ≠ none := by
  intro hnone
  rw [events, untilSaved, List.append_assoc, List.cons_append, Machine.run_append, Option.bind_eq_some_iff] at hrun
  obtain ⟨t₁, -, hrun⟩ := hrun
  obtain ⟨t₂, hlocated, hrun⟩ := Machine.run_cons.1 hrun
  rw [Machine.run_append, Option.bind_eq_some_iff] at hrun
  obtain ⟨t₃, hmid', hrun⟩ := hrun
  obtain ⟨t₄, hsaved, -⟩ := Machine.run_cons.1 hrun
  have hfinished : t₂.confirms[c.k]? = some .finished := by
    simp only [addressForm, AddressForm.step] at hlocated
    split at hlocated
    · rename_i coordinates hk
      obtain rfl : _ = t₂ := Option.some.inj hlocated
      rw [List.getElem?_set_self (List.getElem?_eq_some_iff.1 hk).1, AddressForm.getUserArea, hnone]
    · cases hlocated
  simp [addressForm, AddressForm.step, AddressForm.finished_run hfinished hmid'] at hsaved

/-- If nothing is put in while it waits, the confirm that waits is the one of its tap. -/
theorem ConfirmHistory.Undisturbed.began_of_run {c : ConfirmHistory} {s : AddressForm} (h : c.Undisturbed)
    (hk : begun c.before = c.k) (hrun : (addressForm tools).run {} c.events = some s) :
    BeganAt c.before c.k c.text := by
  refine ⟨hk, ?_⟩
  by_contra hvalid
  have hbegins : (AddressFormEvent.onTap c.text (some c.place)).begins = false := by
    simp [AddressFormEvent.begins, hvalid]
  have hmid : c.mid.countP AddressFormEvent.begins = 0 := by
    refine List.countP_eq_zero.2 fun e he hbegins => h e (List.mem_append_left _ he) ?_
    cases e with
    | onTap fullAddress selectedPlace => trivial
    | _ => simp [AddressFormEvent.begins] at hbegins
  rw [events, untilSaved, List.append_assoc, List.cons_append, Machine.run_append, Option.bind_eq_some_iff] at hrun
  obtain ⟨t, ht, hrun⟩ := hrun
  obtain ⟨t', hlocated, -⟩ := Machine.run_cons.1 hrun
  -- no confirm has begun since, so there is no `k`-th
  have hlength : t.confirms.length = c.k := by
    rw [(AddressForm.Sound.run ht).begun, untilLocated, begun, List.countP_append, List.countP_cons, hmid, hbegins]
    exact hk
  have hnone : t.confirms[c.k]? = none := List.getElem?_eq_none hlength.le
  simp [addressForm, AddressForm.step, hnone] at hlocated

/-- **What is posted is what was confirmed.** Whatever is tapped and however late the answers come: no confirm posts
    twice, and a confirm posts exactly if both its answers come and an area is found, with the area of the position
    when the geocoder answers and with what is put in when the areas come. If nothing is put in meanwhile, both are
    what was confirmed. -/
theorem posted_is_confirmed {es : List AddressFormEvent} {s : AddressForm}
    (hrun : (addressForm tools).run {} es = some s) :
    (s.posted.map Prod.fst).Nodup ∧
      (∀ k post, (k, post) ∈ s.posted ↔ ∃ c : ConfirmHistory, c.events = es ∧ c.k = k ∧ c.Posts tools post) ∧
      ∀ (c : ConfirmHistory) post, c.Posts tools post → c.Undisturbed →
        ∃ areaId, FindsArea tools c.place c.answer areaId ∧
          (c.confirmed tools).post c.session areaId = some post := by
  have h := AddressForm.Sound.run hrun
  refine ⟨h.once, fun k post => ⟨h.posted k post, ?_⟩, ?_⟩
  · rintro ⟨c, rfl, rfl, hposts⟩
    exact hposts.mem_posted hrun
  · intro c post hposts hquiet
    obtain ⟨point, areaId, hpoint, hfinds, hpost⟩ := hposts.posts
    obtain ⟨hlocated, hsaved⟩ := hquiet.of_eq hposts.began.2
    rw [hlocated] at hpoint
    rw [hsaved] at hpost
    obtain rfl : c.place = point := Option.some.inj hpoint
    exact ⟨areaId, hfinds, hpost⟩

/-- The even-odd test of the package. -/
def evenOdd (point : LatLng) (polygon : List LatLng) : Bool :=
  let crossings := (polygon.zip (polygon.rotate (polygon.length - 1))).filter fun (p, q) =>
    (p.latitude ≤ point.latitude && point.latitude < q.latitude ||
        q.latitude ≤ point.latitude && point.latitude < p.latitude) &&
      point.longitude < (q.longitude - p.longitude) * (point.latitude - p.latitude) / (q.latitude - p.latitude) +
        p.longitude
  crossings.length % 2 = 1

def sampleTools : AddressTools where
  doubleParse := readNumber
  isGeoPointInPolygon := evenOdd
  areaFromJson json :=
    (AreaModel.fromJson decimalText (fun latitude longitude => return ⟨← latitude, ← longitude⟩) json).elim
      (.error .typeError) .ok

def sampleArea (id : Int) (corners : List LatLng) : Json :=
  .obj [("id", .num (.int id)),
    ("radius", .str (JsonText.jsonEncode decimalText (.arr (corners.map PositionLatLng.toJson))))]

def sampleAreas : Json :=
  .obj [("data", .arr [sampleArea 4 [⟨0, 0⟩, ⟨0, 2⟩, ⟨2, 2⟩, ⟨2, 0⟩], sampleArea 5 [⟨8, 8⟩, ⟨8, 10⟩, ⟨10, 10⟩, ⟨10, 8⟩]])]

/-- The second tap comes while the first confirm waits for the areas: both save the second address, the first with the
    area of the first. -/
def confirmedSample : List AddressFormEvent :=
  [.initData (some ⟨5, 5⟩), .onTap "1 Nile St" (some ⟨9, 9⟩), .located 0 (some [⟨none, none⟩, ⟨some "Cairo", none⟩]),
    .onTap "2 Nile St" (some ⟨1, 1⟩), .areas 0 (.ok sampleAreas) {},
    .located 1 (some [⟨none, none⟩, ⟨some "Cairo", none⟩]), .areas 1 (.ok sampleAreas) {}]

theorem posted_is_confirmed_sample : ∃ s, (addressForm sampleTools).run {} confirmedSample = some s ∧
    (s.posted.map Prod.fst).Nodup ∧ ∃ (post : AddressPost) (c : ConfirmHistory), (0, post) ∈ s.posted ∧
      c.events = confirmedSample ∧ c.k = 0 ∧ c.Posts sampleTools post := by
  obtain ⟨s, hrun, hposted⟩ : ∃ s, (addressForm sampleTools).run {} confirmedSample = some s ∧
      s.posted.map Prod.fst = [0, 1] := Machine.reaches (by decide +kernel)
  have hzero : 0 ∈ s.posted.map Prod.fst := by simp [hposted]
  obtain ⟨⟨_, post⟩, hmem, rfl⟩ := List.mem_map.1 hzero
  obtain ⟨honce, hiff, -⟩ := posted_is_confirmed hrun
  obtain ⟨c, hc⟩ := (hiff _ post).1 hmem
  exact ⟨s, hrun, honce, post, c, hmem, hc⟩

end Nourgomla
