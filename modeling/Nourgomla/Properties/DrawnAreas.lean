import Nourgomla.Widgets.AreaBuilder

set_option autoImplicit false

/-! # A drawn area is read back

Whatever was tapped, undone and confirmed, and however long the geocoder took: the area that was posted is, corner by
corner, the one that was on the map when the geocoder answered. -/

namespace Nourgomla

variable {T : JsonText.NumberText} {Point : Type} {newLatLng : Option Rat → Option Rat → Option Point}

/-! ## The text of a polygon -/

/-- The coordinates are written in a way that is read back. -/
def LatLng.ReadsBack (T : JsonText.NumberText) (p : LatLng) : Prop :=
  T.ReadsBack (.double p.latitude) ∧ T.ReadsBack (.double p.longitude)

theorem printable_toJson {p : LatLng} (hp : p.ReadsBack T) : JsonText.Printable T (PositionLatLng.toJson p) := by
  refine ⟨?_, hp.1, hp.2, trivial⟩
  simp

theorem printable_polygon {points : List LatLng} (hpoints : ∀ p ∈ points, p.ReadsBack T) :
    JsonText.Printable T (.arr (points.map PositionLatLng.toJson)) := by
  show JsonText.PrintableElements T _
  induction points with
  | nil => trivial
  | cons p points ih =>
      exact ⟨printable_toJson (hpoints p (by simp)), ih fun q hq => hpoints q (List.mem_cons_of_mem _ hq)⟩

theorem pointFromJson_toJson (p : LatLng) :
    AreaModel.pointFromJson newLatLng (PositionLatLng.toJson p) = newLatLng (some p.latitude) (some p.longitude) := by
  simp [AreaModel.pointFromJson, PositionLatLng.toJson, Json.field, AreaModel.asDouble, Except.toOption]

/-- A text that begins with a bracket is not empty. -/
theorem jsonEncode_arr_ne_empty (vs : List Json) : JsonText.jsonEncode T (.arr vs) ≠ "" := by
  intro h
  have htext := congrArg String.toList h
  cases vs <;> simp [JsonText.jsonEncode, JsonText.print] at htext

theorem polygonFromJson_jsonEncode {points : List LatLng} (hpoints : ∀ p ∈ points, p.ReadsBack T) :
    AreaModel.polygonFromJson T newLatLng
        (some (JsonText.jsonEncode T (.arr (points.map PositionLatLng.toJson)))) =
      points.mapM fun p => newLatLng (some p.latitude) (some p.longitude) := by
  have hmap : (points.map PositionLatLng.toJson).mapM (AreaModel.pointFromJson newLatLng) =
      points.mapM fun p => newLatLng (some p.latitude) (some p.longitude) := by
    rw [List.mapM_map]
    exact congrArg (fun f => points.mapM f) (funext pointFromJson_toJson)
  rw [AreaModel.polygonFromJson, if_pos (jsonEncode_arr_ne_empty _),
    JsonText.jsonDecode_jsonEncode (printable_polygon hpoints)]
  simp [Json.asList, Except.toOption, hmap]

/-! ## The corners on the map -/

def drawnAfter (points : List LatLng) : AreaBuilderEvent → List LatLng
  | .onTap point => points ++ [point]
  | .undo => points.dropLast
  | _ => points

/-- The corners that taps and undos leave on the map. -/
def drawn (es : List AreaBuilderEvent) : List LatLng := es.foldl drawnAfter []

theorem drawn_concat (es : List AreaBuilderEvent) (e : AreaBuilderEvent) :
    drawn (es ++ [e]) = drawnAfter (drawn es) e := by
  rw [drawn, List.foldl_append]
  rfl

/-- Every corner was tapped. -/
theorem onTap_of_mem_drawn {es : List AreaBuilderEvent} {p : LatLng} (hp : p ∈ drawn es) : .onTap p ∈ es := by
  induction es using List.reverseRecOn with
  | nil => simp [drawn] at hp
  | append_singleton es e ih =>
      rw [drawn_concat] at hp
      cases e with
      | onTap point =>
          obtain hp | rfl := by simpa [drawnAfter] using hp
          · exact List.mem_append_left _ (ih hp)
          · simp
      | undo => exact List.mem_append_left _ (ih ((List.dropLast_sublist _).mem hp))
      | confirm shippingCost => exact List.mem_append_left _ (ih hp)
      | located k addresses => exact List.mem_append_left _ (ih hp)

/-- What an event leaves on the map, and what it posts. -/
theorem areaBuilder_step {s s' : AreaBuilder} {e : AreaBuilderEvent} (hstep : (areaBuilder T).step s e = some s') :
    s'.polygonLatLngs = drawnAfter s.polygonLatLngs e ∧
      (s'.posted = s.posted ∨ ∃ k addresses areaName, e = .located k addresses ∧ s.polygonLatLngs ≠ [] ∧
        s'.posted = s.posted ++ [AddressesServices.insertAreaBody T areaName s.shippingCost
          (s.polygonLatLngs.map PositionLatLng.toJson)]) := by
  cases e with
  | onTap point =>
      obtain rfl : _ = s' := Option.some.inj hstep
      exact ⟨rfl, .inl rfl⟩
  | undo =>
      obtain ⟨-, hstep⟩ := Option.ite_none_left_eq_some.1 hstep
      obtain rfl : _ = s' := Option.some.inj hstep
      exact ⟨rfl, .inl rfl⟩
  | confirm shippingCost =>
      obtain rfl : s.insertNewArea shippingCost = s' := Option.some.inj hstep
      unfold AreaBuilder.insertNewArea
      split <;> exact ⟨rfl, .inl rfl⟩
  | located k addresses =>
      obtain ⟨-, hstep⟩ := Option.ite_none_right_eq_some.1 hstep
      obtain rfl : _ = s' := Option.some.inj hstep
      unfold AreaBuilder.insertLocated
      split
      · rename_i address first rest haddress hcorners
        exact ⟨rfl, .inr ⟨k, addresses, _, rfl, fun hnil => by simp [hnil] at hcorners, rfl⟩⟩
      · exact ⟨rfl, .inl rfl⟩

theorem polygonLatLngs_run {es : List AreaBuilderEvent} {s : AreaBuilder} (hrun : (areaBuilder T).run {} es = some s) :
    s.polygonLatLngs = drawn es := by
  refine Machine.inv_of_run (fun es s => s.polygonLatLngs = drawn es) rfl ?_ hrun
  intro before t e t' _ ih hstep
  rw [(areaBuilder_step hstep).1, ih, drawn_concat]

/-- A body has the corners that were on the map when the geocoder answered. -/
theorem posted_run {es : List AreaBuilderEvent} {s : AreaBuilder} (hrun : (areaBuilder T).run {} es = some s)
    {body : AreaInsertBody} (hbody : body ∈ s.posted) :
    ∃ before k addresses after, es = before ++ .located k addresses :: after ∧ drawn before ≠ [] ∧
      body.radius = JsonText.jsonEncode T (.arr ((drawn before).map PositionLatLng.toJson)) := by
  induction es using List.reverseRecOn generalizing s with
  | nil =>
      obtain rfl : {} = s := Option.some.inj hrun
      simp at hbody
  | append_singleton es e ih =>
      obtain ⟨t, ht, hstep⟩ := Machine.run_concat.1 hrun
      obtain ⟨-, hsame | ⟨k, addresses, areaName, rfl, hcorners, hposted⟩⟩ := areaBuilder_step hstep
      · obtain ⟨before, k, addresses, after, rfl, hbefore⟩ := ih ht (hsame ▸ hbody)
        exact ⟨before, k, addresses, after ++ [e], by simp, hbefore⟩
      · rw [hposted, List.mem_append, List.mem_singleton] at hbody
        obtain hold | rfl := hbody
        · obtain ⟨before, k', addresses', after, rfl, hbefore⟩ := ih ht hold
          exact ⟨before, k', addresses', after ++ [.located k addresses], by simp, hbefore⟩
        · rw [polygonLatLngs_run ht] at hcorners ⊢
          exact ⟨es, k, addresses, [], rfl, hcorners, rfl⟩

/-- The corners of an area are read off its text, whatever else the row has. -/
theorem polygon_of_fromJson {json : Json} {area : AreaModel Point} {radius : String}
    (hradius : json.stringField "radius" = .ok (some radius))
    (harea : AreaModel.fromJson T newLatLng json = some area) :
    AreaModel.polygonFromJson T newLatLng (some radius) = some area.polygon := by
  simp only [AreaModel.fromJson, Option.bind_eq_bind, Option.bind_eq_some_iff, hradius] at harea
  obtain ⟨id, -, _, -, _, -, _, -, _, -, _, -, text, htext, polygon, hpolygon, harea⟩ := harea
  obtain rfl : _ = area := Option.some.inj harea
  obtain rfl : some radius = text := Option.some.inj htext
  exact hpolygon

/-- **A drawn area is read back.** Whatever was tapped, undone and confirmed in whatever order, the text that was posted for
    an area is decoded to the points that were on the map when the geocoder answered, corner by corner, and these are the
    polygon of any area that comes back with it. -/
theorem drawn_area_is_read_back {es : List AreaBuilderEvent} {s : AreaBuilder}
    (hrun : (areaBuilder T).run {} es = some s) (htaps : ∀ p, .onTap p ∈ es → p.ReadsBack T)
    {body : AreaInsertBody} (hbody : body ∈ s.posted) :
    ∃ before k addresses after, es = before ++ .located k addresses :: after ∧ drawn before ≠ [] ∧
      AreaModel.polygonFromJson T newLatLng (some body.radius) =
        (drawn before).mapM (fun p => newLatLng (some p.latitude) (some p.longitude)) ∧
      ∀ json area, json.stringField "radius" = .ok (some body.radius) →
        AreaModel.fromJson T newLatLng json = some area →
          (drawn before).mapM (fun p => newLatLng (some p.latitude) (some p.longitude)) = some area.polygon := by
  obtain ⟨before, k, addresses, after, rfl, hcorners, hradius⟩ := posted_run hrun hbody
  have hdecoded : AreaModel.polygonFromJson T newLatLng (some body.radius) =
      (drawn before).mapM fun p => newLatLng (some p.latitude) (some p.longitude) := by
    rw [hradius]
    exact polygonFromJson_jsonEncode fun p hp => htaps p (List.mem_append_left _ (onTap_of_mem_drawn hp))
  refine ⟨before, k, addresses, after, rfl, hcorners, hdecoded, fun json area hjson harea => ?_⟩
  rw [← hdecoded]
  exact polygon_of_fromJson hjson harea

/-- Numbers in decimals: a double has a point. -/
def decimalText : JsonText.NumberText where
  print n := n.text.toList
  read cs :=
    if '.' ∈ cs then (readNumber (String.ofList cs)).map .double
    else (readNumber (String.ofList cs)).map fun q => .int q.num

theorem readsBack_decimalText {q : Rat}
    (hchars : (Num.double q).text.toList.all JsonText.isNumberChar = true)
    (hread : readNumber (Num.double q).text = some q) : decimalText.ReadsBack (.double q) := by
  have hpoint : '.' ∈ (Num.double q).text.toList := by simp [Num.text]
  refine ⟨List.ne_nil_of_mem hpoint, List.all_eq_true.1 hchars, ?_⟩
  simp only [decimalText, if_pos hpoint, String.ofList_toList, hread, Option.map_some]

def drawnSample : List AreaBuilderEvent :=
  [.onTap ⟨30, 31⟩, .onTap ⟨0, 0⟩, .undo, .onTap ⟨121 / 4, 31⟩, .confirm "15", .onTap ⟨30, 125 / 4⟩,
    .located 0 (some [⟨none, none⟩, ⟨some "Cairo", none⟩]), .undo]

theorem drawn_area_is_read_back_sample : ∃ s body, (areaBuilder decimalText).run {} drawnSample = some s ∧
    s.posted = [body] ∧ body.areaNameEn = "Cairo_null" ∧
    ∃ before k addresses after, drawnSample = before ++ .located k addresses :: after ∧ drawn before ≠ [] ∧
      AreaModel.polygonFromJson decimalText (fun lat lng => some (lat, lng)) (some body.radius) =
        (drawn before).mapM (fun p => some (some p.latitude, some p.longitude)) ∧
      ∀ json area, json.stringField "radius" = .ok (some body.radius) →
        AreaModel.fromJson decimalText (fun lat lng => some (lat, lng)) json = some area →
          (drawn before).mapM (fun p => some (some p.latitude, some p.longitude)) = some area.polygon := by
  obtain ⟨s, hrun, hposted⟩ : ∃ s, (areaBuilder decimalText).run {} drawnSample = some s ∧
      s.posted.map (·.areaNameEn) = ["Cairo_null"] := Machine.reaches (by decide +kernel)
  obtain ⟨body, hbody, hname⟩ := List.map_eq_singleton_iff.1 hposted
  have hreads (q : Rat) (hq : q ∈ [30, 31, 0, 121 / 4, (125 / 4 : Rat)]) : decimalText.ReadsBack (.double q) := by
    simp only [List.mem_cons, List.not_mem_nil, or_false] at hq
    obtain rfl | rfl | rfl | rfl | rfl := hq <;>
      exact readsBack_decimalText (by decide +kernel) (by decide +kernel)
  refine ⟨s, body, hrun, hbody, hname, drawn_area_is_read_back hrun (fun p hp => ?_) (by simp [hbody])⟩
  simp only [drawnSample, List.mem_cons, AreaBuilderEvent.onTap.injEq, List.not_mem_nil, or_false, reduceCtorEq,
    false_or] at hp
  obtain rfl | rfl | rfl | rfl := hp <;> exact ⟨hreads _ (by simp), hreads _ (by simp)⟩

end Nourgomla
