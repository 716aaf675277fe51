import Nourgomla.SystemSpec
import Mathlib.Data.List.Perm.Basic

set_option autoImplicit false

/-! # One line per product, one vendor per cart

`addToCart` checks that the product is new and of the cart's vendor, waits for its insert, and then
extends the list. A second call that is checked while the first one waits does not see the first
one's line, and the table has no key that could refuse its row. In every run in which an addition
passes its checks only beside waiting additions of other products of the same vendor, the cart has
one line per product and one vendor (`unique_of_loneInsert`). -/

namespace Nourgomla

open CartController

/-- The paid lines have distinct products and one vendor, and the table one row per product. -/
structure Unique (app : App) : Prop where
  ids : ((app.con.cartProducts.filter CartItem.isPaid).map (·.product.id)).Nodup
  vendor : ∀ c ∈ app.con.cartProducts.filter CartItem.isPaid,
    ∀ d ∈ app.con.cartProducts.filter CartItem.isPaid, c.product.vendorId = d.product.vendorId
  rows : (app.cartTable.map CartRow.id).Nodup

/-- Additions, each overtaken at its `await` by any others, removals and clearings. -/
@[reducible] def OverlappingAdds : Event → Prop
  | .tapAdd _ _ | .resumeAdd _ | .deleteFromCart _ | .clearCart => True
  | _ => False

/-- An addition that passes its checks and can be stored waits only beside additions of other
    products of the same vendor. -/
@[reducible] def LoneInsert (s : System) : Event → Prop
  | .tapAdd config draft => s.app.accepts draft.item = true →
      (App.withShipping config draft.item).toRow.isSome = true →
      ∀ cart ∈ s.adds, cart.product.id ≠ draft.product.id ∧
        cart.product.vendorId = draft.product.vendorId
  | _ => True

/-! ## The invariant -/

/-- The product and the vendor of a line. -/
def CartItem.key (c : CartItem) : Option Int × Int := (c.product.id, c.product.vendorId)

@[simp] theorem CartItem.withPoints_key (c : CartItem) : c.withPoints.key = c.key := rfl

/-- The keys of the lines in memory and of those that wait for their insert. -/
def System.keys (s : System) : List (Option Int × Int) :=
  (s.app.con.cartProducts ++ s.adds).map CartItem.key

/-- The products are distinct, the vendor is one, and each row belongs to one of the products. -/
structure Keyed (keys : List (Option Int × Int)) (rowIds : List Int) : Prop where
  ids : (keys.map Prod.fst).Nodup
  vendor : ∀ k ∈ keys, ∀ k' ∈ keys, k.2 = k'.2
  rows : rowIds.Nodup
  known : ∀ id ∈ rowIds, some id ∈ keys.map Prod.fst

section Keyed

variable {keys keys' : List (Option Int × Int)} {rowIds rowIds' : List Int}

theorem Keyed.perm (h : Keyed keys rowIds) (hp : keys.Perm keys') : Keyed keys' rowIds where
  ids := ((hp.map Prod.fst).nodup_iff).1 h.ids
  vendor k hk k' hk' := h.vendor k (hp.mem_iff.2 hk) k' (hp.mem_iff.2 hk')
  rows := h.rows
  known id hid := (hp.map Prod.fst).mem_iff.1 (h.known id hid)

theorem Keyed.insert (h : Keyed keys rowIds) {id vendorId : Int}
    (hnew : ∀ k ∈ keys, k.1 ≠ some id ∧ k.2 = vendorId) :
    Keyed (keys ++ [(some id, vendorId)]) (rowIds ++ [id]) where
  ids := by
    rw [List.map_append, List.nodup_append]
    refine ⟨h.ids, by simp, ?_⟩
    intro i hi j hj
    obtain ⟨k, hk, rfl⟩ := List.mem_map.1 hi
    rw [List.map_singleton, List.mem_singleton] at hj
    exact hj ▸ (hnew k hk).1
  vendor := by
    have hvendor : ∀ k ∈ keys ++ [(some id, vendorId)], k.2 = vendorId := by
      intro k hk
      rcases List.mem_append.1 hk with hk | hk
      · exact (hnew k hk).2
      · rw [List.mem_singleton.1 hk]
    exact fun k hk k' hk' => (hvendor k hk).trans (hvendor k' hk').symm
  rows := by
    rw [List.nodup_append]
    refine ⟨h.rows, by simp, ?_⟩
    rintro i hi j hj rfl
    obtain ⟨k, hk, hki⟩ := List.mem_map.1 (h.known i hi)
    exact (hnew k hk).1 (hki.trans (congrArg some (List.mem_singleton.1 hj)))
  known := by
    intro i hi
    rw [List.map_append]
    rcases List.mem_append.1 hi with hi | hi
    · exact List.mem_append_left _ (h.known i hi)
    · simp [List.mem_singleton.1 hi]

theorem Keyed.sublist (h : Keyed keys rowIds) (hkeys : keys'.Sublist keys)
    (hrows : rowIds'.Sublist rowIds) (hknown : ∀ id ∈ rowIds', some id ∈ keys'.map Prod.fst) :
    Keyed keys' rowIds' where
  ids := h.ids.sublist (hkeys.map _)
  vendor k hk k' hk' := h.vendor k (hkeys.subset hk) k' (hkeys.subset hk')
  rows := h.rows.sublist hrows
  known := hknown

end Keyed

theorem Keyed.unique {s : System} (h : Keyed s.keys (s.app.cartTable.map CartRow.id)) :
    Unique s.app := by
  have hsub : (s.app.con.cartProducts.filter CartItem.isPaid).Sublist
      (s.app.con.cartProducts ++ s.adds) :=
    List.filter_sublist.trans (List.sublist_append_left _ _)
  have hids := h.ids
  rw [System.keys, List.map_map] at hids
  refine ⟨hids.sublist (hsub.map _), fun c hc d hd => ?_, h.rows⟩
  exact h.vendor c.key (List.mem_map_of_mem (hsub.subset hc)) d.key
    (List.mem_map_of_mem (hsub.subset hd))

/-! ## Steps and runs -/

/-- The checks compare with the lines in memory, the guard with those that wait. -/
theorem keyed_tapAdd {s s' : System} {config : Config} {draft : Draft}
    (hk : Keyed s.keys (s.app.cartTable.map CartRow.id))
    (hguard : LoneInsert s (.tapAdd config draft))
    (h : shop.step s (.tapAdd config draft) = some s') :
    Keyed s'.keys (s'.app.cartTable.map CartRow.id) := by
  rcases System.step_tapAdd h with ⟨-, rfl⟩ | ⟨-, -, rfl⟩ | ⟨ha, row, hrow, rfl⟩
  · exact hk
  · simpa [System.keys] using hk
  · obtain ⟨hid, hvendor, -⟩ := CartItem.toRow_eq_some hrow
    simp only [App.withShipping_product, Draft.item_product] at hid hvendor
    obtain ⟨hfresh, hsame⟩ := App.accepts_iff.1 ha
    simp only [Draft.item_product] at hfresh hsame
    have hwait := hguard ha (by simp [hrow])
    have hnew : ∀ k ∈ s.keys, k.1 ≠ some row.id ∧ k.2 = row.vendorId := by
      intro k hkey
      obtain ⟨c, hc, rfl⟩ := List.mem_map.1 hkey
      rw [← hid, hvendor]
      rcases List.mem_append.1 hc with hline | hadd
      · refine ⟨hfresh c hline, ?_⟩
        rcases hsame with hnil | ⟨d, hd, hdv⟩
        · simp [hnil] at hline
        · have hd' : d.key ∈ s.keys := List.mem_map_of_mem (List.mem_append_left _ hd)
          exact (hk.vendor _ hkey _ hd').trans hdv
      · exact hwait c hadd
    have hkeys := hk.insert hnew
    simpa [System.keys, System.inserting, CartItem.key, hid, hvendor] using hkeys

theorem keyed_resumeAdd {s s' : System} {k : Nat} (hs : s.Sound)
    (hk : Keyed s.keys (s.app.cartTable.map CartRow.id))
    (h : shop.step s (.resumeAdd k) = some s') :
    Keyed s'.keys (s'.app.cartTable.map CartRow.id) := by
  obtain ⟨cart, hcart, rfl⟩ := System.step_resumeAdd hs h
  obtain ⟨hlt, rfl⟩ := List.getElem?_eq_some_iff.1 hcart
  refine hk.perm ?_
  -- the line moves from the waiting ones to the end of the list
  have hmove : (s.app.con.cartProducts ++ s.adds).Perm
      (s.app.con.cartProducts ++ [s.adds[k]] ++ s.adds.eraseIdx k) := by
    rw [List.append_assoc]
    exact (List.getElem_cons_eraseIdx_perm hlt).symm.append_left _
  simpa [System.keys, appended, Function.comp_def] using hmove.map CartItem.key

theorem keyed_deleteFromCart {s s' : System} {productId : Option Int} (hs : s.Sound)
    (hk : Keyed s.keys (s.app.cartTable.map CartRow.id))
    (h : shop.step s (.deleteFromCart productId) = some s') :
    Keyed s'.keys (s'.app.cartTable.map CartRow.id) := by
  obtain rfl := System.step_deleteFromCart hs h
  have hkeys : System.keys { s with app := {
      con := (s.app.con.without productId).recount
      cartTable := s.app.rowsWithout productId } }
      = ((s.app.con.without productId).cartProducts ++ s.adds).map CartItem.key := by
    simp [System.keys, Function.comp_def]
  rw [hkeys]
  refine hk.sublist ?_ ((s.app.rowsWithout_sublist productId).map _) ?_
  · rw [without_cartProducts]
    exact (List.eraseP_sublist.append_right _).map _
  · -- a row that is left is of a line that is left or still waits
    intro id hid
    obtain ⟨row, hrow, rfl⟩ := List.mem_map.1 hid
    obtain ⟨hmem, hleft⟩ := App.mem_rowsWithout hrow
    obtain ⟨k, hk', hkid⟩ := List.mem_map.1 (hk.known _ (List.mem_map_of_mem hmem))
    obtain ⟨c, hc, rfl⟩ := List.mem_map.1 hk'
    rw [List.map_map]
    refine List.mem_map.2 ⟨c, ?_, hkid⟩
    rcases List.mem_append.1 hc with hline | hadd
    · exact List.mem_append_left _ (hleft c hline hkid)
    · exact List.mem_append_right _ hadd

theorem keyed_step {s s' : System} {e : Event} (hs : s.Sound)
    (hk : Keyed s.keys (s.app.cartTable.map CartRow.id)) (he : OverlappingAdds e)
    (hguard : LoneInsert s e) (h : shop.step s e = some s') :
    Keyed s'.keys (s'.app.cartTable.map CartRow.id) := by
  cases e with
  | tapAdd config draft => exact keyed_tapAdd hk hguard h
  | resumeAdd k => exact keyed_resumeAdd hs hk h
  | deleteFromCart productId => exact keyed_deleteFromCart hs hk h
  | clearCart =>
      obtain rfl := System.step_clearCart h
      exact hk.sublist (List.Sublist.map _ (List.sublist_append_right _ _)) (List.nil_sublist _)
        (by simp)
  | _ => exact he.elim

theorem keys_opened (table : List CartRow) :
    (System.opened table).keys = table.map fun row => (some row.id, row.vendorId) := by
  have hadds : (System.opened table).adds = [] := rfl
  rw [System.keys, System.opened_app, hadds, List.append_nil]
  simp [CartDbHelper.getAllProducts, Function.comp_def, CartItem.key, CartRow.toItem]

theorem keyed_opened {table : List CartRow} (hids : (table.map CartRow.id).Nodup)
    (hvendor : ∀ row ∈ table, ∀ row' ∈ table, row.vendorId = row'.vendorId) :
    Keyed (System.opened table).keys ((System.opened table).app.cartTable.map CartRow.id) := by
  have hfst : (System.opened table).keys.map Prod.fst = (table.map CartRow.id).map some := by
    rw [keys_opened, List.map_map, List.map_map]
    rfl
  refine ⟨?_, ?_, hids, ?_⟩
  · rw [hfst]
    exact hids.map (Option.some_injective Int)
  · rw [keys_opened]
    intro k hk k' hk'
    obtain ⟨row, hrow, rfl⟩ := List.mem_map.1 hk
    obtain ⟨row', hrow', rfl⟩ := List.mem_map.1 hk'
    exact hvendor row hrow row' hrow'
  · intro id hid
    rw [hfst]
    exact List.mem_map_of_mem hid

theorem OverlappingAdds.complete {e : Event} (h : OverlappingAdds e) : e.Complete := by
  cases e with
  | refresh _ _ => exact h.elim
  | answerUpdate _ _ => exact h.elim
  | _ => trivial

/-- From any opened cart of distinct products of one vendor, and at every moment of a run in which
    an addition passes its checks only beside waiting additions of other products of the same
    vendor: one line and one row per product, and one vendor. -/
theorem unique_of_loneInsert {table : List CartRow} {events : List Event}
    (hids : (table.map CartRow.id).Nodup)
    (hvendor : ∀ row ∈ table, ∀ row' ∈ table, row.vendorId = row'.vendorId)
    (henv : shop.Meets (fun _ e => OverlappingAdds e) (System.opened table) events)
    (hguard : shop.Meets LoneInsert (System.opened table) events) :
    shop.Throughout (fun s => Unique s.app) (System.opened table) events := by
  refine Machine.throughout_of_meets
    (fun s => s.Sound ∧ Keyed s.keys (s.app.cartTable.map CartRow.id))
    (fun _ hs => hs.2.unique) ?_ events ?_ (henv.and hguard)
  · rintro s e s' ⟨hs, hk⟩ ⟨he, hg⟩ h
    exact ⟨hs.step he.complete h, keyed_step hs hk he hg h⟩
  · exact ⟨System.sound_opened table, keyed_opened hids hvendor⟩

/-! ## Two taps before the first insert is done -/

instance (app : App) : Decidable (Unique app) :=
  decidable_of_iff (_ ∧ _ ∧ _) ⟨fun h => ⟨h.1, h.2.1, h.2.2⟩, fun h => ⟨h.ids, h.vendor, h.rows⟩⟩

instance (e : Event) : Decidable (OverlappingAdds e) := by
  apply @Event.casesOn (fun e => Decidable (OverlappingAdds e)) e <;> intros <;> infer_instance

instance (s : System) (e : Event) : Decidable (LoneInsert s e) := by
  apply @Event.casesOn (fun e => Decidable (LoneInsert s e)) e <;> intros <;> infer_instance

/-- The button is tapped twice for the same product. -/
theorem not_unique_after_two_taps : ∃ s,
    shop.Meets (fun _ e => OverlappingAdds e) (System.opened [])
      [.tapAdd Sample.singleVendor (Sample.draft 1 7 (.int 5) 1),
        .tapAdd Sample.singleVendor (Sample.draft 1 7 (.int 5) 1), .resumeAdd 0, .resumeAdd 0] ∧
    shop.run (System.opened [])
      [.tapAdd Sample.singleVendor (Sample.draft 1 7 (.int 5) 1),
        .tapAdd Sample.singleVendor (Sample.draft 1 7 (.int 5) 1), .resumeAdd 0, .resumeAdd 0]
      = some s ∧ ¬ Unique s.app := by
  have hrun : (shop.run (System.opened [])
      [.tapAdd Sample.singleVendor (Sample.draft 1 7 (.int 5) 1),
        .tapAdd Sample.singleVendor (Sample.draft 1 7 (.int 5) 1), .resumeAdd 0, .resumeAdd 0]).any
      (fun s => decide (¬ Unique s.app)) = true := by decide +kernel
  obtain ⟨s, hs, htwice⟩ := Machine.reaches hrun
  exact ⟨s, by decide +kernel, hs, htwice⟩

/-- Two products of one vendor may wait together, in any order. -/
theorem unique_of_sampleAdds : shop.Throughout (fun s => Unique s.app) (System.opened [])
    [.tapAdd Sample.singleVendor (Sample.draft 1 7 (.int 5) 1),
      .tapAdd Sample.singleVendor (Sample.draft 2 7 (.int 3) 1), .resumeAdd 1, .resumeAdd 0,
      .deleteFromCart (some 1), .clearCart] :=
  unique_of_loneInsert (by decide) (by decide) (by decide +kernel) (by decide +kernel)

end Nourgomla
