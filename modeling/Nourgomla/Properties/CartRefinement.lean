import Mathlib.Data.List.Induction
import Nourgomla.Library.KeyedList
import Nourgomla.Properties.Persistence

set_option autoImplicit false

/-! # The cart as a keyed list

What the cart is for: a list of products, each with its vendor, package type and quantity. As long as no answer of
the server puts its own lines in the place of the user's, the lines in memory and the rows of the table implement
one and the same keyed list, which is edited as the user asks (`cart_refines`). -/

namespace Nourgomla

open CartController

/-- What the cart has of a product. -/
structure CartEntry where
  vendorId : Int
  type : Option Int
  quantity : Option Int
deriving DecidableEq

def CartItem.entry (c : CartItem) : CartEntry := ⟨c.product.vendorId, c.type, c.quantity⟩

def CartRow.entry (row : CartRow) : CartEntry := ⟨row.vendorId, some row.packagingType, some row.quantity⟩

/-- The cart the user has put together: entries by product id. -/
abbrev Basket : Type := KeyedList (Option Int) CartEntry

namespace Basket

/-- A product is taken if it is new and of the vendor of the cart. -/
def Takes (basket : Basket) (productId : Option Int) (vendorId : Int) : Prop :=
  productId ∉ basket.keys ∧ (basket.entries = [] ∨ ∃ e ∈ basket.entries, e.2.vendorId = vendorId)

instance (basket : Basket) (productId : Option Int) (vendorId : Int) :
    Decidable (basket.Takes productId vendorId) := inferInstanceAs (Decidable (_ ∧ _))

/-- What an event does to the cart. A line without all the values of a row cannot be added. -/
def after (basket : Basket) : Event → Basket
  | .addToCart config draft =>
    if basket.Takes draft.product.id draft.product.vendorId ∧
        (App.withShipping config draft.item).toRow.isSome then
      basket.insert draft.product.id draft.item.entry
    else basket
  | .changeQuantity productId quantity =>
    basket.update productId fun e => { e with quantity := some quantity }
  | .deleteFromCart productId => basket.erase productId
  | .clearCart => .empty
  | .answerOrder _ answer => if OrderServices.succeeds answer then .empty else basket
  | _ => basket

end Basket

/-- All products of the cart are of one vendor. -/
def Basket.OneVendor (basket : Basket) : Prop :=
  ∀ e ∈ basket.entries, ∀ e' ∈ basket.entries, e.2.vendorId = e'.2.vendorId

/-- The events after which the lines are still the user's: not the server's lines, and not the rows or the line
    that a call has kept since it was overtaken. -/
@[reducible] def KeepsLines : Event → Prop
  | .tapAdd _ _ | .resumeAdd _ | .answerUpdate _ _ | .refresh _ _ | .finishLoad _ => False
  | _ => True

/-- Memory and table implement the cart. -/
structure Holds (app : App) (basket : Basket) : Prop where
  lines : Implements (fun c => c.product.id) CartItem.entry app.con.cartProducts basket
  rows : Implements (fun row => some row.id) CartRow.entry app.cartTable basket

namespace Holds

variable {app : App} {basket : Basket}

theorem getCartById (h : Holds app basket) (productId : Option Int) :
    (app.con.getCartById productId).map CartItem.entry = basket.lookup productId :=
  h.lines.find? hasId_iff

theorem recount_iff {con : CartController} {table : List CartRow} :
    Holds { con := con.recount, cartTable := table } basket ↔ Holds { con := con, cartTable := table } basket := by
  have hlines : Implements (fun c => c.product.id) CartItem.entry con.recount.cartProducts basket ↔
      Implements (fun c => c.product.id) CartItem.entry con.cartProducts basket := by
    rw [recount_cartProducts, Implements, Implements, List.map_map]
    rfl
  constructor
  · exact fun h => ⟨hlines.1 h.lines, h.rows⟩
  · exact fun h => ⟨hlines.2 h.lines, h.rows⟩

/-- The two checks of `addToCart` are those of the cart. -/
theorem accepts_iff (h : Holds app basket) (cart : CartItem) :
    app.accepts cart = true ↔ basket.Takes cart.product.id cart.product.vendorId := by
  rw [App.accepts_iff, Basket.Takes, ← h.lines.keys_eq, ← h.lines]
  simp only [List.mem_map, not_exists, not_and, List.map_eq_nil_iff, exists_exists_and_eq_and]
  rfl

end Holds

theorem CartItem.entry_of_toRow {c : CartItem} {row : CartRow} (h : c.toRow = some row) :
    some row.id = c.product.id ∧ row.entry = c.entry := by
  obtain ⟨hid, hvendor, hquantity, htype, -⟩ := CartItem.toRow_eq_some h
  exact ⟨hid.symm, by rw [CartRow.entry, CartItem.entry, hvendor, hquantity, htype]⟩

theorem withShipping_entry (config : Config) (cart : CartItem) :
    (App.withShipping config cart).entry = cart.entry := by
  unfold App.withShipping
  split <;> rfl

theorem requantified_entry (quantity : Int) (c : CartItem) :
    (requantified quantity c).entry = { c.entry with quantity := some quantity } :=
  congrArg CartItem.entry (requantified_core quantity c)

/-! ## Steps -/

namespace Holds

variable {s s' : System} {basket : Basket}

theorem addToCart (h : Holds s.app basket) (hs : s.Sound) {config : Config} {draft : Draft}
    (hstep : shop.step s (.addToCart config draft) = some s') :
    Holds s'.app (basket.after (.addToCart config draft)) := by
  have haccepts := h.accepts_iff draft.item
  rw [draft.item_product] at haccepts
  rcases System.step_addToCart hs hstep with ⟨hrefused, rfl⟩ | ⟨-, hrow, rfl⟩ | ⟨htaken, row, hrow, rfl⟩
  · have hnot : ¬basket.Takes draft.product.id draft.product.vendorId := by
      rw [← haccepts, hrefused]
      exact Bool.false_ne_true
    rw [Basket.after, if_neg fun hboth => hnot hboth.1]
    exact h
  · rw [Basket.after, if_neg (by simp [hrow])]
    obtain ⟨shipping, hcaptured⟩ := App.captured_eq config draft.item s.app.con
    rw [hcaptured]
    exact ⟨h.lines, h.rows⟩
  · have htakes := haccepts.1 htaken
    rw [Basket.after, if_pos ⟨htakes, by simp [hrow]⟩]
    have hline : (App.withShipping config draft.item).product.id = draft.product.id := by simp
    obtain ⟨hid, hentry⟩ := CartItem.entry_of_toRow hrow
    refine recount_iff.2 ⟨?_, ?_⟩
    · have happend := h.lines.append (a := App.withShipping config draft.item) (by rw [hline]; exact htakes.1)
      rw [hline, withShipping_entry] at happend
      simpa [appended] using happend
    · have happend := h.rows.append (a := row) (by rw [hid, hline]; exact htakes.1)
      rw [hid, hline, hentry, withShipping_entry] at happend
      exact happend

theorem changeQuantity (h : Holds s.app basket) (hs : s.Sound) {productId : Option Int} {quantity : Int}
    (hstep : shop.step s (.changeQuantity productId quantity) = some s') :
    Holds s'.app (basket.after (.changeQuantity productId quantity)) := by
  rcases System.step_changeQuantity hs hstep with ⟨hnone, rfl⟩ | ⟨cart, -, rfl⟩
  · have hsame := KeyedList.update_of_notMem (h.lines.notMem_of_find?_none hasId_iff hnone)
      fun e => { e with quantity := some quantity }
    exact ⟨h.lines.trans hsame.symm, h.rows.trans hsame.symm⟩
  · refine recount_iff.2 ⟨?_, ?_⟩
    · exact h.lines.updateFirst hasId_iff (fun c hc => by simpa using hc) fun c _ => requantified_entry quantity c
    · refine h.rows.map (fun row hrow => hrow) fun row _ => rfl

theorem deleteFromCart (h : Holds s.app basket) (hs : s.Sound) {productId : Option Int}
    (hstep : shop.step s (.deleteFromCart productId) = some s') :
    Holds s'.app (basket.after (.deleteFromCart productId)) := by
  obtain rfl := System.step_deleteFromCart hs hstep
  refine recount_iff.2 ⟨?_, ?_⟩
  · rw [without_cartProducts]
    exact h.lines.eraseP hasId_iff
  · show Implements _ _ (s.app.rowsWithout productId) (basket.erase productId)
    unfold App.rowsWithout
    split
    · rename_i hnone
      exact h.rows.trans (KeyedList.erase_of_notMem (h.lines.notMem_of_find?_none hasId_iff hnone)).symm
    · exact h.rows.filter productId

theorem empty (con : CartController) : Holds { con := con.cleared, cartTable := [] } .empty := ⟨rfl, rfl⟩

/-- A restart reads the cart off the table. -/
theorem restart (h : Holds s.app basket) (hstep : shop.step s .restart = some s') : Holds s'.app basket := by
  obtain rfl := System.step_restart hstep
  refine recount_iff.2 ⟨?_, h.rows⟩
  rw [loaded_cartProducts]
  exact Implements.congr h.rows

theorem step (h : Holds s.app basket) (hs : s.Sound) {e : Event} (he : KeepsLines e)
    (hstep : shop.step s e = some s') : Holds s'.app (basket.after e) := by
  cases e with
  | addToCart config draft => exact h.addToCart hs hstep
  | changeQuantity productId quantity => exact h.changeQuantity hs hstep
  | deleteFromCart productId => exact h.deleteFromCart hs hstep
  | clearCart =>
      obtain rfl := System.step_clearCart hstep
      exact empty s.app.con
  | postUpdate session =>
      rcases System.step_postUpdate hstep with rfl | rfl | ⟨_, _, _, -, -, -, rfl⟩
      · exact h
      · exact ⟨h.lines, h.rows⟩
      · exact ⟨h.lines, h.rows⟩
  | startLoad =>
      obtain rfl := System.step_startLoad hstep
      exact ⟨h.lines, h.rows⟩
  | postCoupon coupon =>
      rcases System.step_postCoupon hstep with ⟨-, rfl⟩ | ⟨_, _, -, rfl⟩
      · exact h
      · exact h
  | answerCoupon k answer =>
      obtain ⟨request, -, rfl⟩ := System.step_answerCoupon hstep
      exact ⟨h.lines, h.rows⟩
  | tapOrder checkout =>
      rcases System.step_tapOrder hstep with rfl | ⟨_, -, rfl⟩
      · exact h
      · exact h
  | insertOrder k =>
      obtain ⟨request, -, -, rfl⟩ := System.step_insertOrder hstep
      exact h
  | answerOrder k answer =>
      obtain ⟨request, -, ⟨hfailed, rfl⟩ | ⟨hsucceeds, rfl⟩⟩ := System.step_answerOrder hstep
      · simpa [Basket.after, hfailed] using h
      · simpa [Basket.after, hsucceeds] using empty s.app.con
  | restart => exact h.restart hstep
  | _ => exact he.elim

end Holds

/-! ## Runs -/

/-- The cart a run has put together. -/
def Basket.of (events : List Event) : Basket := events.foldl Basket.after .empty

theorem Basket.OneVendor.insert {basket : Basket} (h : basket.OneVendor) {productId : Option Int}
    {entry : CartEntry} (htakes : basket.Takes productId entry.vendorId) :
    Basket.OneVendor (basket.insert productId entry) := by
  have hvendor : ∀ e ∈ (basket.insert productId entry).entries, e.2.vendorId = entry.vendorId := by
    intro e he
    rw [KeyedList.insert_of_notMem htakes.1, List.mem_append, List.mem_singleton] at he
    obtain he | rfl := he
    · obtain hnil | ⟨e', he', hsame⟩ := htakes.2
      · simp [hnil] at he
      · exact (h e he e' he').trans hsame
    · rfl
  exact fun e he e' he' => (hvendor e he).trans (hvendor e' he').symm

theorem Basket.OneVendor.after {basket : Basket} (h : basket.OneVendor) (e : Event) :
    (basket.after e).OneVendor := by
  have hempty : Basket.OneVendor .empty := by simp [OneVendor]
  cases e with
  | addToCart config draft =>
      rw [Basket.after]
      split
      · rename_i htakes
        refine h.insert ?_
        simpa [CartItem.entry] using htakes.1
      · exact h
  | changeQuantity productId quantity =>
      have hkept : ∀ e ∈ (basket.after (.changeQuantity productId quantity)).entries,
          ∃ e' ∈ basket.entries, e.2.vendorId = e'.2.vendorId := by
        intro e he
        obtain ⟨e', he', rfl⟩ := List.mem_map.1 he
        refine ⟨e', he', ?_⟩
        split <;> rfl
      intro e he e' he'
      obtain ⟨d, hd, hsame⟩ := hkept e he
      obtain ⟨d', hd', hsame'⟩ := hkept e' he'
      rw [hsame, hsame', h d hd d' hd']
  | deleteFromCart productId =>
      exact fun e he e' he' => h e (List.mem_of_mem_filter he) e' (List.mem_of_mem_filter he')
  | clearCart => exact hempty
  | answerOrder k answer =>
      rw [Basket.after]
      split
      · exact hempty
      · exact h
  | _ => exact h

theorem Basket.oneVendor_of (events : List Event) : (Basket.of events).OneVendor := by
  induction events using List.reverseRecOn with
  | nil => simp [Basket.of, OneVendor]
  | append_singleton events e ih =>
      rw [Basket.of, List.foldl_append]
      exact ih.after e

theorem KeepsLines.complete {e : Event} (h : KeepsLines e) : e.Complete := by
  cases e with
  | refresh _ _ => exact h.elim
  | answerUpdate _ _ => exact h.elim
  | _ => trivial

theorem holds_run {basket : Basket} {events : List Event} (hkeeps : ∀ e ∈ events, KeepsLines e) :
    ∀ {s s' : System}, s.Sound → Holds s.app basket → shop.run s events = some s' →
      Holds s'.app (events.foldl Basket.after basket) := by
  induction events generalizing basket with
  | nil =>
      intro s s' _ h hrun
      obtain rfl : s = s' := Option.some.inj hrun
      exact h
  | cons e events ih =>
      intro s s' hs h hrun
      obtain ⟨t, hstep, hrest⟩ := Machine.run_cons.1 hrun
      have he := hkeeps e (by simp)
      exact ih (fun e' he' => hkeeps e' (List.mem_cons_of_mem _ he')) (hs.step he.complete hstep)
        (h.step hs he hstep) hrest

/-- **The cart is the one the user has put together.** After edits, restarts, coupons and orders in any order, the lines
    in memory and the rows of the table are those of one keyed list, in its order; a product is found in it with its
    vendor, package type and quantity, and all products are of one vendor. -/
theorem cart_refines {events : List Event} {s : System} (hrun : shop.run {} events = some s)
    (hkeeps : ∀ e ∈ events, KeepsLines e) :
    s.app.con.cartProducts.map (fun c => (c.product.id, c.entry)) = (Basket.of events).entries ∧
      s.app.cartTable.map (fun row => (some row.id, row.entry)) = (Basket.of events).entries ∧
      (∀ productId, (s.app.con.getCartById productId).map CartItem.entry = (Basket.of events).lookup productId) ∧
      (Basket.of events).OneVendor := by
  have hfirst : Holds ({} : System).app .empty := ⟨rfl, rfl⟩
  have h := holds_run hkeeps (System.sound_of_idle (by simp) rfl rfl) hfirst hrun
  exact ⟨h.lines, h.rows, h.getCartById, Basket.oneVendor_of events⟩

theorem cart_refines_sample : ∃ s, shop.run {} [
      .addToCart Sample.singleVendor (Sample.draft 1 7 (.int 5) 1),
      .addToCart Sample.singleVendor (Sample.draft 2 8 (.int 3) 1),
      .addToCart Sample.singleVendor (Sample.draft 3 7 (.int 3) 1), .changeQuantity (some 1) 3, .restart,
      .deleteFromCart (some 3)] = some s ∧
    (s.app.con.getCartById (some 1)).map CartItem.entry = some ⟨7, some 1, some 3⟩ := by
  obtain ⟨s, hrun, -⟩ : ∃ s, shop.run {} [
      .addToCart Sample.singleVendor (Sample.draft 1 7 (.int 5) 1),
      .addToCart Sample.singleVendor (Sample.draft 2 8 (.int 3) 1),
      .addToCart Sample.singleVendor (Sample.draft 3 7 (.int 3) 1), .changeQuantity (some 1) 3, .restart,
      .deleteFromCart (some 3)] = some s ∧ True := Machine.reaches (by decide +kernel)
  refine ⟨s, hrun, ?_⟩
  rw [(cart_refines hrun (by simp [KeepsLines])).2.2.1]
  decide +kernel

end Nourgomla
