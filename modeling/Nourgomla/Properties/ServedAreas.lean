import Nourgomla.Properties.ConfirmedAddresses

set_option autoImplicit false

/-! # A drawn area serves the addresses in it

From the corners that are tapped on the map to the area of an address: the text that is posted for the area, the row
that comes back with it, and the search for the area of a position. -/

namespace Nourgomla

variable {T : JsonText.NumberText} {newLatLng : Option Rat → Option Rat → Option LatLng} {tools : AddressTools}

def AddressPost.areaId : AddressPost → Int
  | .addressInsert body => body.areaId
  | .usersAddressUpdate body => body.areaId

theorem AddressDraft.areaId_of_post {d : AddressDraft} {session : Session} {areaId : Int} {post : AddressPost}
    (h : d.post session areaId = some post) : post.areaId = areaId := by
  obtain ⟨latLng, -, h⟩ := Option.bind_eq_some_iff.1 h
  split at h
  · obtain ⟨user, -, h⟩ := Option.bind_eq_some_iff.1 h
    obtain rfl : _ = post := Option.some.inj h
    rfl
  · obtain ⟨user, -, h⟩ := Option.bind_eq_some_iff.1 h
    obtain rfl : _ = post := Option.some.inj h
    rfl

/-- A user is all a post needs. -/
theorem AddressDraft.exists_post {d : AddressDraft} {session : Session} {latLng : LatLng} (hplace : d.place = some latLng)
    (huser : session.currentUser ≠ none) (areaId : Int) : ∃ post, d.post session areaId = some post := by
  obtain ⟨user, huser⟩ := Option.ne_none_iff_exists'.1 huser
  unfold AddressDraft.post
  rw [hplace, Option.bind_some]
  cases d.target with
  | none => simp [AddressesServices.addNewAddress, huser]
  | some address => simp [AddressesServices.updateAddress, huser]

/-- The first area that contains the position is found. -/
theorem findsArea_of_first {latLng : LatLng} {answer : Except DartError Json} {id : Int}
    {pre suf : List (AreaModel LatLng)} {area : AreaModel LatLng}
    (hareas : AddressesServices.getAreas tools.areaFromJson answer = pre ++ area :: suf)
    (hpre : ∀ other ∈ pre, AddressesController.areaMatches tools.isGeoPointInPolygon latLng other = false)
    (harea : AddressesController.areaMatches tools.isGeoPointInPolygon latLng area = true)
    (hid : area.id = some id) : FindsArea tools latLng answer id := by
  have hnone : pre.find? (AddressesController.areaMatches tools.isGeoPointInPolygon latLng) = none := by
    rw [List.find?_eq_none]
    intro other hother
    simp [hpre other hother]
  obtain ⟨first, rest, hcons⟩ : ∃ first rest, pre ++ area :: suf = first :: rest := by cases pre <;> exact ⟨_, _, rfl⟩
  refine ⟨first, rest, hareas.trans hcons, ?_⟩
  rw [AddressesController.matchedAreaId_eq, ← hcons, List.find?_append, hnone, Option.none_or,
    List.find?_cons_of_pos harea, Option.bind_some, hid, Option.some_or]

theorem mapM_ne_nil {α β : Type} {f : α → Option β} {l : List α} {l' : List β} (h : l.mapM f = some l')
    (hne : l ≠ []) : l' ≠ [] := by
  obtain ⟨a, l, rfl⟩ := List.exists_cons_of_ne_nil hne
  rw [List.mapM_cons] at h
  obtain ⟨b, -, h⟩ := Option.bind_eq_some_iff.1 h
  obtain ⟨bs, -, h⟩ := Option.bind_eq_some_iff.1 h
  obtain rfl : b :: bs = l' := Option.some.inj h
  exact List.cons_ne_nil b bs

/-- **Drawn areas serve the addresses in them.** An area is drawn and posted; its row comes back in the areas of a
    confirm, where no area before it contains the place, and there is a user. If the place lies within the corners that
    were on the map, and nothing is put in while the confirm waits, the confirm posts what was confirmed with that
    area. -/
theorem drawn_area_serves {drawing : List AreaBuilderEvent} {builder : AreaBuilder}
    (hdrawing : (areaBuilder T).run {} drawing = some builder) (htaps : ∀ p, .onTap p ∈ drawing → p.ReadsBack T)
    {body : AreaInsertBody} (hbody : body ∈ builder.posted) {row : Json} {area : AreaModel LatLng} {id : Int}
    (hradius : row.stringField "radius" = .ok (some body.radius))
    (hrow : AreaModel.fromJson T newLatLng row = some area) (hid : area.id = some id)
    {c : ConfirmHistory} {s : AddressForm} (hrun : (addressForm tools).run {} c.events = some s)
    (hbegun : begun c.before = c.k) (hquiet : c.Undisturbed) (huser : c.session.currentUser ≠ none)
    {pre suf : List (AreaModel LatLng)}
    (hareas : AddressesServices.getAreas tools.areaFromJson c.answer = pre ++ area :: suf)
    (hpre : ∀ other ∈ pre, AddressesController.areaMatches tools.isGeoPointInPolygon c.place other = false) :
    ∃ before k addresses after, drawing = before ++ .located k addresses :: after ∧
      ∃ corners, (drawn before).mapM (fun p => newLatLng (some p.latitude) (some p.longitude)) = some corners ∧
        (tools.isGeoPointInPolygon c.place corners = true →
          ∃ post, (c.k, post) ∈ s.posted ∧ post.areaId = id ∧ (c.confirmed tools).post c.session id = some post) := by
  obtain ⟨before, k, addresses, after, rfl, hdrawn, htext⟩ := posted_run hdrawing hbody
  rw [htext] at hradius
  have hcorners := polygon_of_fromJson hradius hrow
  rw [polygonFromJson_jsonEncode fun p hp => htaps p (List.mem_append_left _ (onTap_of_mem_drawn hp))] at hcorners
  refine ⟨before, k, addresses, after, rfl, area.polygon, hcorners, fun hinside => ?_⟩
  have hmatches : AddressesController.areaMatches tools.isGeoPointInPolygon c.place area = true := by
    simp [AddressesController.areaMatches, hinside, mapM_ne_nil hcorners hdrawn]
  have hbegan := hquiet.began_of_run hbegun hrun
  have ⟨hlocated, hsaved⟩ : AddressDraft.of tools c.untilLocated = c.confirmed tools ∧
      AddressDraft.of tools c.untilSaved = c.confirmed tools := hquiet.of_eq hbegan.2
  obtain ⟨post, hpost⟩ := (c.confirmed tools).exists_post rfl huser id
  have hposts : c.Posts tools post :=
    { began := hbegan
      located := c.located_of_run hrun
      posts := ⟨c.place, id, by rw [hlocated]; rfl, findsArea_of_first hareas hpre hmatches hid, by rwa [hsaved]⟩ }
  exact ⟨post, hposts.mem_posted hrun, AddressDraft.areaId_of_post hpost, hpost⟩

def servedDrawing : List AreaBuilderEvent :=
  [.onTap ⟨0, 0⟩, .onTap ⟨0, 2⟩, .onTap ⟨2, 2⟩, .onTap ⟨2, 0⟩, .confirm "15",
    .located 0 (some [⟨none, none⟩, ⟨some "Cairo", none⟩])]

def servedArea : AreaModel LatLng := ⟨some 4, [⟨0, 0⟩, ⟨0, 2⟩, ⟨2, 2⟩, ⟨2, 0⟩]⟩

def servedConfirm : ConfirmHistory where
  k := 0
  before := []
  text := "1 Nile St"
  place := ⟨1, 1⟩
  mid := []
  addresses := some [⟨none, none⟩, ⟨some "Cairo", none⟩]
  mid' := []
  answer := .ok (.obj [("data", .arr [sampleArea 4 servedArea.polygon])])
  session := {}
  after := []

theorem stringField_sampleArea (id : Int) (corners : List LatLng) :
    (sampleArea id corners).stringField "radius" =
      .ok (some (JsonText.jsonEncode decimalText (.arr (corners.map PositionLatLng.toJson)))) := rfl

theorem drawn_area_serves_sample : ∃ builder body s, (areaBuilder decimalText).run {} servedDrawing = some builder ∧
    body ∈ builder.posted ∧ (addressForm sampleTools).run {} servedConfirm.events = some s ∧
    ∃ before k addresses after, servedDrawing = before ++ .located k addresses :: after ∧
      ∃ corners, (drawn before).mapM (fun p => some p) = some corners ∧
        (evenOdd ⟨1, 1⟩ corners = true → ∃ post, (0, post) ∈ s.posted ∧ post.areaId = 4 ∧
          (servedConfirm.confirmed sampleTools).post {} 4 = some post) := by
  have hreads (q : Rat) (hq : q ∈ [0, (2 : Rat)]) : decimalText.ReadsBack (.double q) := by
    simp only [List.mem_cons, List.not_mem_nil, or_false] at hq
    obtain rfl | rfl := hq <;> exact readsBack_decimalText (by decide +kernel) (by decide +kernel)
  have htaps (p : LatLng) (hp : .onTap p ∈ servedDrawing) : p.ReadsBack decimalText := by
    simp only [servedDrawing, List.mem_cons, AreaBuilderEvent.onTap.injEq, List.not_mem_nil, or_false, reduceCtorEq] at hp
    obtain rfl | rfl | rfl | rfl := hp <;> exact ⟨hreads _ (by simp), hreads _ (by simp)⟩
  obtain ⟨builder, hdrawing, hposted⟩ : ∃ builder, (areaBuilder decimalText).run {} servedDrawing = some builder ∧
      builder.posted.map (·.radius) =
        [JsonText.jsonEncode decimalText (.arr (servedArea.polygon.map PositionLatLng.toJson))] :=
    Machine.reaches (by decide +kernel)
  obtain ⟨body, hbody, hradius⟩ := List.map_eq_singleton_iff.1 hposted
  obtain ⟨s, hrun, -⟩ : ∃ s, (addressForm sampleTools).run {} servedConfirm.events = some s ∧ s.posted.length = 1 :=
    Machine.reaches (by decide +kernel)
  have hareas : AddressesServices.getAreas sampleTools.areaFromJson servedConfirm.answer = [] ++ servedArea :: [] := by
    decide +kernel
  have hrow : AreaModel.fromJson decimalText (fun latitude longitude => return ⟨← latitude, ← longitude⟩)
      (sampleArea 4 servedArea.polygon) = some servedArea := by decide +kernel
  have hquiet : servedConfirm.Undisturbed := by
    intro e he
    cases he
  have hfield : (sampleArea 4 servedArea.polygon).stringField "radius" = .ok (some body.radius) := by
    rw [hradius, stringField_sampleArea]
  have hmem : body ∈ builder.posted := by simp [hbody]
  exact ⟨builder, body, s, hdrawing, hmem, hrun,
    drawn_area_serves hdrawing htaps hmem hfield hrow rfl hrun rfl hquiet nofun hareas nofun⟩

end Nourgomla
