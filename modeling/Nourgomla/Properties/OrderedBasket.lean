import Nourgomla.Properties.CartRefinement
import Nourgomla.Properties.Orders
import Nourgomla.Properties.Sync

set_option autoImplicit false

/-! # What is ordered is what was put together

Between the cart and an order stands the server: it answers a cart update with the lines that were posted, in any
order, and adds gifts. A gift is in memory and not in the table, it keeps its product from being added, and it is
posted with the order. A `Purchase` is the cart of the user with the gifts of the last answer; the lines in memory,
the rows of the table and the orders that are placed are all read off it (`ordered_is_purchase`). -/

namespace Nourgomla

open CartController

/-! ## Lines as entries -/

/-- A line as an entry of the cart. -/
def CartItem.keyed (c : CartItem) : Option Int × CartEntry := (c.product.id, c.entry)

/-- The product of a line and its vendor. -/
def CartItem.offered (c : CartItem) : Option Int × Int := (c.product.id, c.product.vendorId)

def paidEntries (lines : List CartItem) : List (Option Int × CartEntry) :=
  (lines.filter CartItem.isPaid).map CartItem.keyed

def giftEntries (lines : List CartItem) : List (Option Int × Int) :=
  (lines.filter fun c => !c.isPaid).map CartItem.offered

/-- What an order posts of an entry. -/
def postedEntry (e : Option Int × CartEntry) : PostedLine :=
  { productId := e.1, packageType := e.2.type, priceType := e.2.type, productCount := e.2.quantity }

theorem paidEntries_append (xs ys : List CartItem) : paidEntries (xs ++ ys) = paidEntries xs ++ paidEntries ys := by
  simp [paidEntries]

theorem giftEntries_append (xs ys : List CartItem) : giftEntries (xs ++ ys) = giftEntries xs ++ giftEntries ys := by
  simp [giftEntries]

theorem paidEntries_singleton (c : CartItem) : paidEntries [c] = if c.isPaid then [c.keyed] else [] := by
  cases h : c.isPaid <;> simp [paidEntries, h]

theorem giftEntries_singleton (c : CartItem) : giftEntries [c] = if c.isPaid then [] else [c.offered] := by
  cases h : c.isPaid <;> simp [giftEntries, h]

theorem mem_paidEntries {lines : List CartItem} {e : Option Int × CartEntry} :
    e ∈ paidEntries lines ↔ ∃ c ∈ lines, c.isPaid = true ∧ c.keyed = e := by
  simp [paidEntries, and_assoc]

/-- The values that are cached are not read. -/
theorem entries_of_core {lines lines' : List CartItem} (h : lines.map CartItem.core = lines'.map CartItem.core) :
    paidEntries lines = paidEntries lines' ∧ giftEntries lines = giftEntries lines' := by
  have hpaid (ls : List CartItem) : paidEntries (ls.map CartItem.core) = paidEntries ls := by
    rw [paidEntries, List.filter_map, List.map_map]
    rfl
  have hgifts (ls : List CartItem) : giftEntries (ls.map CartItem.core) = giftEntries ls := by
    rw [giftEntries, List.filter_map, List.map_map]
    rfl
  exact ⟨by rw [← hpaid, h, hpaid], by rw [← hgifts, h, hgifts]⟩

theorem entries_withPoints (lines : List CartItem) :
    paidEntries (lines.map CartItem.withPoints) = paidEntries lines ∧
      giftEntries (lines.map CartItem.withPoints) = giftEntries lines :=
  entries_of_core (by simp [List.map_map, Function.comp_def])

theorem entries_repriced (lines : List CartItem) :
    paidEntries (lines.map CartItem.repriced) = paidEntries lines ∧
      giftEntries (lines.map CartItem.repriced) = giftEntries lines :=
  entries_of_core (by simp [List.map_map, Function.comp_def])

theorem map_postedEntry_paidEntries (lines : List CartItem) :
    (paidEntries lines).map postedEntry = paidJson lines := by
  rw [paidEntries, List.map_map]
  rfl

/-- Every line is paid for or a gift. -/
theorem offered_perm (lines : List CartItem) :
    (lines.map CartItem.offered).Perm
      ((paidEntries lines).map (fun e => (e.1, e.2.vendorId)) ++ giftEntries lines) := by
  have hsplit := (List.filter_append_perm CartItem.isPaid lines).symm.map CartItem.offered
  rw [List.map_append] at hsplit
  rw [paidEntries, List.map_map]
  exact hsplit

/-! ## The purchase -/

/-- The cart of the user, and the product and vendor of each gift of the server. -/
structure Purchase where
  basket : Basket := .empty
  gifts : List (Option Int × Int) := []

namespace Purchase

/-- The products in the cart, gifts included, with their vendors. -/
def products (p : Purchase) : List (Option Int × Int) :=
  p.basket.entries.map (fun e => (e.1, e.2.vendorId)) ++ p.gifts

/-- A product is taken if it is new, also among the gifts, and of a vendor of the cart. -/
def Takes (p : Purchase) (productId : Option Int) (vendorId : Int) : Prop :=
  productId ∉ p.products.map Prod.fst ∧ (p.products = [] ∨ vendorId ∈ p.products.map Prod.snd)

instance (p : Purchase) (productId : Option Int) (vendorId : Int) : Decidable (p.Takes productId vendorId) :=
  inferInstanceAs (Decidable (_ ∧ _))

/-- An answer brings its own gifts, and one that cannot be read brings nothing. -/
def answered (p : Purchase) (answer : Except DartError Json) : Purchase :=
  (CartServices.cartUpdate answer).elim p fun r => { p with gifts := giftEntries r.1 }

/-- What an event does to the purchase. -/
def after (p : Purchase) : Event → Purchase
  | .addToCart config draft =>
    if p.Takes draft.product.id draft.product.vendorId ∧ (App.withShipping config draft.item).toRow.isSome then
      { p with basket := p.basket.insert draft.product.id draft.item.entry }
    else p
  | .changeQuantity productId quantity =>
    { p with basket := p.basket.update productId fun e => { e with quantity := some quantity } }
  | .deleteFromCart productId =>
    if productId ∈ p.basket.keys then { p with basket := p.basket.erase productId }
    else { p with gifts := p.gifts.eraseP fun g => g.1 = productId }
  | .clearCart => {}
  | .answerUpdate _ answer => p.answered answer
  | .refresh session answer =>
    if p.products = [] ∨ session.currentUser = none then p else p.answered answer
  | .answerOrder _ answer => if OrderServices.succeeds answer then {} else p
  -- the gifts are not in the table
  | .restart => { p with gifts := [] }
  | _ => p

def of (events : List Event) : Purchase := events.foldl after {}

end Purchase

/-- An edit finds the paid line of its product, the server answers with the paid lines that are in the cart, each
    with a quantity, and no call is overtaken that keeps a line or the rows of the table. -/
@[reducible] def Faithful (s : System) : Event → Prop
  | .tapAdd _ _ | .resumeAdd _ | .startLoad | .finishLoad _ => False
  | .changeQuantity productId _ | .deleteFromCart productId => SolePaid productId s.app.con.cartProducts
  | .answerUpdate _ answer | .refresh _ answer => CompleteAnswer answer ∧
      ∀ r ∈ CartServices.cartUpdate answer, (paidEntries r.1).Perm (paidEntries s.app.con.cartProducts)
  | _ => True

theorem Faithful.complete {s : System} {e : Event} (h : Faithful s e) : e.Complete := by
  cases e with
  | answerUpdate _ _ => exact h.1
  | refresh _ _ => exact h.1
  | _ => trivial

/-- Memory and table hold the purchase. -/
structure Shows (app : App) (p : Purchase) : Prop where
  paid : (paidEntries app.con.cartProducts).Perm p.basket.entries
  gifts : giftEntries app.con.cartProducts = p.gifts
  rows : Implements (fun row => some row.id) CartRow.entry app.cartTable p.basket

/-! ## Edits on entries -/

/-- Where the paid line of a product is found, there is no other on either side of it. -/
theorem SolePaid.entries {productId : Option Int} {lines : List CartItem} {c : CartItem}
    (h : SolePaid productId lines) (hfind : lines.find? (hasId productId) = some c) :
    ∃ pre post, lines = pre ++ c :: post ∧ c.product.id = productId ∧
      (∀ e ∈ paidEntries pre ++ paidEntries post, e.1 ≠ productId) ∧
      (∀ f, updateFirst (hasId productId) f lines = pre ++ f c :: post) ∧
      lines.eraseP (hasId productId) = pre ++ post := by
  obtain ⟨pre, post, hl, hid, hrest, hup, her⟩ := h.split hfind
  refine ⟨pre, post, hl, hid, fun e he => ?_, hup, her⟩
  refine hrest (postedEntry e) ?_
  rw [← map_postedEntry_paidEntries, ← map_postedEntry_paidEntries, ← List.map_append]
  exact List.mem_map_of_mem he

theorem paidEntries_cons (c : CartItem) (lines : List CartItem) :
    paidEntries (c :: lines) = paidEntries [c] ++ paidEntries lines :=
  paidEntries_append [c] lines

theorem giftEntries_cons (c : CartItem) (lines : List CartItem) :
    giftEntries (c :: lines) = giftEntries [c] ++ giftEntries lines :=
  giftEntries_append [c] lines

theorem requantified_keyed (quantity : Int) (c : CartItem) :
    (requantified quantity c).keyed = (c.keyed.1, { c.keyed.2 with quantity := some quantity }) := by
  rw [CartItem.keyed, requantified_entry]
  simp [CartItem.keyed]

theorem paidEntries_withQuantity {productId : Option Int} {lines : List CartItem} {c : CartItem} (quantity : Int)
    (h : SolePaid productId lines) (hfind : lines.find? (hasId productId) = some c) :
    paidEntries (updateFirst (hasId productId) (requantified quantity) lines) =
      (paidEntries lines).map fun e => if e.1 = productId then (e.1, { e.2 with quantity := some quantity }) else e := by
  obtain ⟨pre, post, hl, hid, hrest, hup, -⟩ := h.entries hfind
  have hkeep : ∀ l : List (Option Int × CartEntry), (∀ e ∈ l, e.1 ≠ productId) →
      (l.map fun e => if e.1 = productId then (e.1, { e.2 with quantity := some quantity }) else e) = l := by
    intro l hne
    exact (List.map_congr_left fun e he => if_neg (hne e he)).trans (List.map_id l)
  rw [hup, hl, paidEntries_append, paidEntries_append, paidEntries_cons, paidEntries_cons c, List.map_append,
    List.map_append, hkeep (paidEntries pre) fun e he => hrest e (List.mem_append_left _ he),
    hkeep (paidEntries post) fun e he => hrest e (List.mem_append_right _ he)]
  congr 2
  rw [paidEntries_singleton, paidEntries_singleton, requantified_isPaid, requantified_keyed]
  cases c.isPaid with
  | false => rfl
  | true => simp [CartItem.keyed, hid]

theorem giftEntries_withQuantity (productId : Option Int) (quantity : Int) (lines : List CartItem) :
    giftEntries (updateFirst (hasId productId) (requantified quantity) lines) = giftEntries lines := by
  have hview : (updateFirst (hasId productId) (requantified quantity) lines).map
      (fun c => (c.isPaid, c.offered)) = lines.map fun c => (c.isPaid, c.offered) :=
    map_updateFirst fun c _ => by simp [CartItem.offered]
  have hgifts (ls : List CartItem) :
      giftEntries ls = ((ls.map fun c => (c.isPaid, c.offered)).filter fun v => !v.1).map Prod.snd := by
    rw [giftEntries, List.filter_map, List.map_map]
    rfl
  rw [hgifts, hgifts, hview]

theorem paidEntries_without {productId : Option Int} {lines : List CartItem} {c : CartItem}
    (h : SolePaid productId lines) (hfind : lines.find? (hasId productId) = some c) :
    paidEntries (lines.eraseP (hasId productId)) = (paidEntries lines).filter fun e => e.1 ≠ productId := by
  obtain ⟨pre, post, hl, hid, hrest, -, her⟩ := h.entries hfind
  have hkeep : (paidEntries pre ++ paidEntries post).filter (fun e => e.1 ≠ productId) =
      paidEntries pre ++ paidEntries post :=
    List.filter_eq_self.2 fun e he => by simpa using hrest e he
  have hnone : (paidEntries [c]).filter (fun e => e.1 ≠ productId) = [] := by
    rw [paidEntries_singleton]
    cases c.isPaid <;> simp [CartItem.keyed, hid]
  rw [her, hl, paidEntries_append, paidEntries_append, paidEntries_cons, ← hkeep]
  simp only [List.filter_append, hnone, List.nil_append]

/-- The line that is removed is a gift, or no gift is removed. -/
theorem giftEntries_without {productId : Option Int} {lines : List CartItem} {c : CartItem}
    (hfind : lines.find? (hasId productId) = some c) :
    giftEntries (lines.eraseP (hasId productId)) =
      if c.isPaid then giftEntries lines else (giftEntries lines).eraseP fun g => g.1 = productId := by
  obtain ⟨pre, post, hl, hc, hpre, -, her⟩ := find?_split hfind
  rw [her, hl, giftEntries_append, giftEntries_append, giftEntries_cons, giftEntries_singleton]
  cases hpaid : c.isPaid with
  | true => simp
  | false =>
      have hearlier : ∀ g ∈ giftEntries pre, ¬decide (g.1 = productId) = true := by
        intro g hg
        obtain ⟨x, hx, rfl⟩ := List.mem_map.1 hg
        have hother : ¬x.product.id = productId := by
          simpa [hasId] using hpre x (List.mem_of_mem_filter hx)
        exact fun hsame => hother (of_decide_eq_true hsame)
      have hid : c.product.id = productId := (hasId_iff c).1 hc
      rw [List.eraseP_append_right _ hearlier]
      simp [CartItem.offered, hid]

/-! ## Steps -/

namespace Shows

variable {app : App} {p : Purchase} {s s' : System}

theorem products_perm (h : Shows app p) : (app.con.cartProducts.map CartItem.offered).Perm p.products := by
  refine (offered_perm app.con.cartProducts).trans ?_
  rw [h.gifts]
  exact (h.paid.map _).append_right _

theorem mem_keys_iff (h : Shows app p) {productId : Option Int} :
    productId ∈ p.basket.keys ↔ ∃ c ∈ app.con.cartProducts, c.isPaid = true ∧ c.product.id = productId := by
  rw [KeyedList.keys, ← (h.paid.map Prod.fst).mem_iff]
  simp [paidEntries, CartItem.keyed, and_assoc]

theorem products_eq_nil_iff (h : Shows app p) : p.products = [] ↔ app.con.cartProducts = [] := by
  rw [← List.map_eq_nil_iff (f := CartItem.offered)]
  constructor
  · intro hempty
    exact List.perm_nil.1 (hempty ▸ h.products_perm)
  · intro hempty
    exact List.nil_perm.1 (hempty ▸ h.products_perm)

/-- The two checks of `addToCart` are those of the purchase. -/
theorem accepts_iff (h : Shows app p) (cart : CartItem) :
    app.accepts cart = true ↔ p.Takes cart.product.id cart.product.vendorId := by
  have hids := (h.products_perm.map Prod.fst).mem_iff (a := cart.product.id)
  have hvendors := (h.products_perm.map Prod.snd).mem_iff (a := cart.product.vendorId)
  rw [App.accepts_iff, Purchase.Takes, ← hids, ← hvendors, h.products_eq_nil_iff]
  simp [CartItem.offered]

theorem recount_iff {con : CartController} {table : List CartRow} :
    Shows { con := con.recount, cartTable := table } p ↔ Shows { con := con, cartTable := table } p := by
  obtain ⟨hpaid, hgifts⟩ := entries_withPoints con.cartProducts
  constructor
  · exact fun h => ⟨hpaid ▸ h.paid, hgifts ▸ h.gifts, h.rows⟩
  · exact fun h => ⟨by rw [recount_cartProducts, hpaid]; exact h.paid,
      by rw [recount_cartProducts, hgifts]; exact h.gifts, h.rows⟩

theorem addToCart (h : Shows s.app p) (hs : s.Sound) {config : Config} {draft : Draft}
    (hstep : shop.step s (.addToCart config draft) = some s') : Shows s'.app (p.after (.addToCart config draft)) := by
  have haccepts := h.accepts_iff draft.item
  rw [draft.item_product] at haccepts
  rcases System.step_addToCart hs hstep with ⟨hrefused, rfl⟩ | ⟨-, hrow, rfl⟩ | ⟨htaken, row, hrow, rfl⟩
  · have hnot : ¬p.Takes draft.product.id draft.product.vendorId := by
      rw [← haccepts, hrefused]
      exact Bool.false_ne_true
    rw [Purchase.after, if_neg fun hboth => hnot hboth.1]
    exact h
  · rw [Purchase.after, if_neg (by simp [hrow])]
    obtain ⟨shipping, hcaptured⟩ := App.captured_eq config draft.item s.app.con
    rw [hcaptured]
    exact ⟨h.paid, h.gifts, h.rows⟩
  · have htakes := haccepts.1 htaken
    have hnew : draft.product.id ∉ p.basket.keys := by
      intro hmem
      obtain ⟨e, he, hid⟩ := List.mem_map.1 hmem
      have hproducts : (e.1, e.2.vendorId) ∈ p.products :=
        List.mem_append_left _ (List.mem_map_of_mem he)
      exact htakes.1 (List.mem_map.2 ⟨_, hproducts, hid⟩)
    have hline : (App.withShipping config draft.item).keyed = (draft.product.id, draft.item.entry) := by
      simp [CartItem.keyed, withShipping_entry]
    have hpaid : (App.withShipping config draft.item).isPaid = true := by simp
    obtain ⟨hid, hentry⟩ := CartItem.entry_of_toRow hrow
    rw [Purchase.after, if_pos ⟨htakes, by simp [hrow]⟩]
    refine recount_iff.2 ⟨?_, ?_, ?_⟩
    · rw [KeyedList.insert_of_notMem hnew]
      simp only [appended, App.captured_cartProducts, paidEntries_append, paidEntries_singleton, hpaid, if_true, hline]
      exact h.paid.append_right _
    · simp only [appended, App.captured_cartProducts, giftEntries_append, giftEntries_singleton, hpaid, if_true,
        List.append_nil]
      exact h.gifts
    · have happend := h.rows.append (a := row) (by rw [hid]; simpa using hnew)
      rw [hid, hentry, withShipping_entry, App.withShipping_product, draft.item_product] at happend
      exact happend

theorem changeQuantity (h : Shows s.app p) (hs : s.Sound) {productId : Option Int} {quantity : Int}
    (hsole : SolePaid productId s.app.con.cartProducts)
    (hstep : shop.step s (.changeQuantity productId quantity) = some s') :
    Shows s'.app (p.after (.changeQuantity productId quantity)) := by
  rcases System.step_changeQuantity hs hstep with ⟨hnone, rfl⟩ | ⟨cart, hcart, rfl⟩
  · have hmissing : productId ∉ p.basket.keys := by
      rw [h.mem_keys_iff]
      rintro ⟨c, hc, -, hid⟩
      exact List.find?_eq_none.1 hnone c hc ((hasId_iff c).2 hid)
    have hsame := KeyedList.update_of_notMem hmissing fun e => { e with quantity := some quantity }
    exact ⟨h.paid.trans (List.Perm.of_eq hsame.symm), h.gifts, h.rows.trans hsame.symm⟩
  · refine recount_iff.2 ⟨?_, ?_, ?_⟩
    · rw [withQuantity, paidEntries_withQuantity quantity hsole hcart]
      exact h.paid.map _
    · exact (giftEntries_withQuantity productId quantity s.app.con.cartProducts).trans h.gifts
    · exact h.rows.map (fun row hrow => hrow) fun row _ => rfl

theorem deleteFromCart (h : Shows s.app p) (hs : s.Sound) {productId : Option Int}
    (hsole : SolePaid productId s.app.con.cartProducts)
    (hstep : shop.step s (.deleteFromCart productId) = some s') :
    Shows s'.app (p.after (.deleteFromCart productId)) := by
  obtain rfl := System.step_deleteFromCart hs hstep
  refine recount_iff.2 ?_
  rw [Purchase.after]
  cases hfind : s.app.con.getCartById productId with
  | none =>
      have hmissing : ∀ c ∈ s.app.con.cartProducts, ¬c.product.id = productId := fun c hc hid =>
        List.find?_eq_none.1 hfind c hc ((hasId_iff c).2 hid)
      have hkeys : productId ∉ p.basket.keys := by
        rw [h.mem_keys_iff]
        rintro ⟨c, hc, -, hid⟩
        exact hmissing c hc hid
      have hgifts : p.gifts.eraseP (fun g => g.1 = productId) = p.gifts := by
        refine List.eraseP_of_forall_not fun g hg => ?_
        rw [← h.gifts] at hg
        obtain ⟨c, hc, rfl⟩ := List.mem_map.1 hg
        exact fun hsame => hmissing c (List.mem_of_mem_filter hc) (of_decide_eq_true hsame)
      rw [if_neg hkeys]
      refine ⟨?_, ?_, ?_⟩
      · rw [without_cartProducts, eraseP_of_find?_none hfind]
        exact h.paid
      · rw [without_cartProducts, eraseP_of_find?_none hfind, hgifts]
        exact h.gifts
      · rw [App.rowsWithout, if_pos hfind]
        exact h.rows
  | some cart =>
      have hrows : s.app.rowsWithout productId = s.app.cartTable.filter fun row => some row.id ≠ productId := by
        rw [App.rowsWithout, if_neg (by simp [hfind])]
      obtain ⟨pre, post, hl, hid, hrest, -, -⟩ := hsole.entries hfind
      cases hpaid : cart.isPaid with
      | true =>
          have hkeys : productId ∈ p.basket.keys := h.mem_keys_iff.2 ⟨cart, by simp [hl], hpaid, hid⟩
          rw [if_pos hkeys]
          refine ⟨?_, ?_, ?_⟩
          · rw [without_cartProducts, paidEntries_without hsole hfind]
            exact h.paid.filter _
          · rw [without_cartProducts, giftEntries_without hfind, if_pos hpaid]
            exact h.gifts
          · rw [hrows]
            exact h.rows.filter productId
      | false =>
          have hkeys : productId ∉ p.basket.keys := by
            rw [h.mem_keys_iff]
            rintro ⟨c, hc, hcpaid, hsame⟩
            rw [hl, List.mem_append, List.mem_cons] at hc
            obtain hc | rfl | hc := hc
            · exact hrest c.keyed (List.mem_append_left _ (mem_paidEntries.2 ⟨c, hc, hcpaid, rfl⟩)) hsame
            · simp [hpaid] at hcpaid
            · exact hrest c.keyed (List.mem_append_right _ (mem_paidEntries.2 ⟨c, hc, hcpaid, rfl⟩)) hsame
          have hsame := KeyedList.erase_of_notMem hkeys
          rw [if_neg hkeys]
          refine ⟨?_, ?_, ?_⟩
          · rw [without_cartProducts, paidEntries_without hsole hfind]
            exact (h.paid.filter _).trans (List.Perm.of_eq hsame)
          · rw [without_cartProducts, giftEntries_without hfind, if_neg (by simp [hpaid]), h.gifts]
          · rw [hrows]
            exact (h.rows.filter productId).trans hsame

theorem empty (con : CartController) : Shows { con := con.cleared, cartTable := [] } {} :=
  ⟨List.Perm.refl _, rfl, rfl⟩

/-- The lines of an answer take the place of those in memory. -/
theorem answering (h : Shows s.app p) {answer : Except DartError Json} {cartList : List CartItem}
    {details : CartDetails} (hupdate : CartServices.cartUpdate answer = some (cartList, details))
    (hpaid : (paidEntries cartList).Perm (paidEntries s.app.con.cartProducts)) :
    Shows (s.answering cartList details) (p.answered answer) := by
  obtain ⟨hpaidSame, hgiftsSame⟩ := entries_repriced cartList
  refine recount_iff.2 ⟨?_, ?_, ?_⟩
  · show (paidEntries (cartList.map CartItem.repriced)).Perm _
    rw [hpaidSame, Purchase.answered, hupdate]
    exact hpaid.trans h.paid
  · show giftEntries (cartList.map CartItem.repriced) = _
    rw [hgiftsSame, Purchase.answered, hupdate]
    rfl
  · rw [Purchase.answered, hupdate]
    exact h.rows

/-- A restart reads the cart off the table, where there are no gifts. -/
theorem restart (h : Shows s.app p) (hstep : shop.step s .restart = some s') :
    Shows s'.app { p with gifts := [] } := by
  obtain rfl := System.step_restart hstep
  have hrows : (CartDbHelper.getAllProducts s.app.cartTable).filter CartItem.isPaid =
      CartDbHelper.getAllProducts s.app.cartTable := by
    refine List.filter_eq_self.2 fun c hc => ?_
    obtain ⟨row, -, rfl⟩ := List.mem_map.1 hc
    rfl
  refine recount_iff.2 ⟨?_, ?_, h.rows⟩
  · rw [loaded_cartProducts, paidEntries, hrows, ← h.rows, CartDbHelper.getAllProducts, List.map_map]
    exact List.Perm.refl _
  · rw [loaded_cartProducts, giftEntries]
    refine List.map_eq_nil_iff.2 (List.filter_eq_nil_iff.2 fun c hc => ?_)
    obtain ⟨row, -, rfl⟩ := List.mem_map.1 hc
    exact Bool.false_ne_true

theorem refresh (h : Shows s.app p) {session : Session} {answer : Except DartError Json}
    (hcomplete : CompleteAnswer answer)
    (hechoes : ∀ r ∈ CartServices.cartUpdate answer, (paidEntries r.1).Perm (paidEntries s.app.con.cartProducts))
    (hstep : shop.step s (.refresh session answer) = some s') :
    Shows s'.app (p.after (.refresh session answer)) := by
  obtain rfl : s.perform (App.updateCartData session answer) = s' := Option.some.inj hstep
  rw [Purchase.after, System.perform]
  by_cases hlines : s.app.con.cartProducts = []
  · rw [if_pos (.inl (h.products_eq_nil_iff.2 hlines)), App.exec_updateCartData_empty session answer hlines]
    exact h
  by_cases huser : session.currentUser = none
  · rw [if_pos (.inr huser), App.exec_updateCartData_noUser answer hlines huser]
    exact ⟨h.paid, h.gifts, h.rows⟩
  rw [if_neg fun hor => hor.elim (hlines ∘ h.products_eq_nil_iff.1) huser, App.exec_updateCartData answer hlines huser]
  cases hupdate : CartServices.cartUpdate answer with
  | none =>
      rw [App.exec_updateCartDataAssign_none, Purchase.answered, hupdate]
      exact ⟨h.paid, h.gifts, h.rows⟩
  | some r =>
      obtain ⟨hquantities, hsound⟩ := sound_answered hcomplete hupdate
      rw [App.exec_updateCartDataAssign hquantities hsound]
      exact h.answering hupdate (hechoes r hupdate)

theorem step (h : Shows s.app p) (hs : s.Sound) {e : Event} (he : Faithful s e) (hstep : shop.step s e = some s') :
    Shows s'.app (p.after e) := by
  cases e with
  | addToCart config draft => exact h.addToCart hs hstep
  | changeQuantity productId quantity => exact h.changeQuantity hs he hstep
  | deleteFromCart productId => exact h.deleteFromCart hs he hstep
  | clearCart =>
      obtain rfl := System.step_clearCart hstep
      exact empty s.app.con
  | postUpdate session =>
      rcases System.step_postUpdate hstep with rfl | rfl | ⟨_, _, _, -, -, -, rfl⟩
      · exact h
      · exact ⟨h.paid, h.gifts, h.rows⟩
      · exact ⟨h.paid, h.gifts, h.rows⟩
  | answerUpdate k answer =>
      obtain ⟨body, -, ⟨hnone, rfl⟩ | ⟨cartList, details, hupdate, rfl⟩⟩ := System.step_answerUpdate he.1 hstep
      · simpa [Purchase.after, Purchase.answered, hnone] using h
      · exact h.answering hupdate (he.2 _ hupdate)
  | refresh session answer => exact h.refresh he.1 he.2 hstep
  | postCoupon coupon =>
      rcases System.step_postCoupon hstep with ⟨-, rfl⟩ | ⟨_, _, -, rfl⟩
      · exact h
      · exact h
  | answerCoupon k answer =>
      obtain ⟨request, -, rfl⟩ := System.step_answerCoupon hstep
      exact ⟨h.paid, h.gifts, h.rows⟩
  | tapOrder checkout =>
      rcases System.step_tapOrder hstep with rfl | ⟨_, -, rfl⟩
      · exact h
      · exact h
  | insertOrder k =>
      obtain ⟨request, -, -, rfl⟩ := System.step_insertOrder hstep
      exact h
  | answerOrder k answer =>
      obtain ⟨request, -, ⟨hfailed, rfl⟩ | ⟨hsucceeds, rfl⟩⟩ := System.step_answerOrder hstep
      · simpa [Purchase.after, hfailed] using h
      · simpa [Purchase.after, hsucceeds] using empty s.app.con
  | restart => exact h.restart hstep
  | _ => exact he.elim

end Shows

/-! ## Orders -/

/-- The order is one of the lines and the gifts of the purchase. -/
structure OrderBody.IsOf (body : OrderBody) (p : Purchase) : Prop where
  paid : body.paidLines.Perm (p.basket.entries.map postedEntry)
  gifts : (body.ordersProductsJson.filter fun entry => !entry.isPaid).map OrderProduct.productId = p.gifts.map Prod.fst

theorem Shows.isOf {app : App} {p : Purchase} (h : Shows app p) {body : OrderBody}
    (hbody : body.ordersProductsJson = app.con.cartProducts.map CartItem.orderProduct) : body.IsOf p := by
  constructor
  · rw [paidLines_eq hbody, ← map_postedEntry_paidEntries]
    exact h.paid.map _
  · rw [hbody, ← h.gifts, giftEntries, List.filter_map, List.map_map, List.map_map]
    rfl

/-- The order was posted by a tap, and is of the purchase of that moment. -/
def Tapped (events : List Event) (body : OrderBody) : Prop :=
  ∃ before checkout after, events = before ++ .tapOrder checkout :: after ∧ body.IsOf (Purchase.of before)

theorem Tapped.concat {events : List Event} {body : OrderBody} (h : Tapped events body) (e : Event) :
    Tapped (events ++ [e]) body := by
  obtain ⟨before, checkout, after, rfl, hof⟩ := h
  exact ⟨before, checkout, after ++ [e], by simp, hof⟩

/-- What is requested after a step was requested before or is the cart that is tapped. -/
theorem mem_orders_step {s s' : System} {e : Event} (hstep : shop.step s e = some s') {request : OrderRequest}
    (hrequest : request ∈ s'.orders) : (∃ earlier ∈ s.orders, earlier.body = request.body) ∨
      ∃ checkout, e = .tapOrder checkout ∧
        request.body.ordersProductsJson = s.app.con.cartProducts.map CartItem.orderProduct := by
  cases e with
  | tapOrder checkout =>
      rcases System.step_tapOrder hstep with rfl | ⟨body, hbody, rfl⟩
      · exact .inl ⟨request, hrequest, rfl⟩
      · obtain hold | hnew := List.mem_append.1 hrequest
        · exact .inl ⟨request, hold, rfl⟩
        · obtain rfl := List.mem_singleton.1 hnew
          exact .inr ⟨checkout, rfl, hbody⟩
  | insertOrder k =>
      obtain ⟨inserted, hinserted, -, rfl⟩ := System.step_insertOrder hstep
      obtain hold | rfl := List.mem_or_eq_of_mem_set hrequest
      · exact .inl ⟨request, hold, rfl⟩
      · exact .inl ⟨inserted, List.mem_of_getElem? hinserted, rfl⟩
  | answerOrder k answer =>
      obtain ⟨_, -, rfl⟩ := Option.map_eq_some_iff.1 hstep
      exact .inl ⟨request, List.mem_of_mem_eraseIdx hrequest, rfl⟩
  | restart =>
      obtain rfl := Option.some.inj hstep
      simp at hrequest
  | resumeAdd k =>
      obtain ⟨_, -, rfl⟩ := Option.map_eq_some_iff.1 hstep
      exact .inl ⟨request, hrequest, rfl⟩
  | answerUpdate k answer =>
      obtain ⟨_, -, rfl⟩ := Option.map_eq_some_iff.1 hstep
      exact .inl ⟨request, hrequest, rfl⟩
  | finishLoad k =>
      obtain ⟨_, -, rfl⟩ := Option.map_eq_some_iff.1 hstep
      exact .inl ⟨request, hrequest, rfl⟩
  | answerCoupon k answer =>
      obtain ⟨_, -, rfl⟩ := Option.map_eq_some_iff.1 hstep
      exact .inl ⟨request, hrequest, rfl⟩
  | _ =>
      obtain rfl := Option.some.inj hstep
      exact .inl ⟨request, hrequest, rfl⟩

/-- What is placed after a step was placed or requested before. -/
theorem mem_placed_step {s s' : System} {e : Event} (hstep : shop.step s e = some s') {body : OrderBody}
    (hbody : body ∈ s'.placed) : body ∈ s.placed ∨ ∃ request ∈ s.orders, request.body = body := by
  cases e with
  | insertOrder k =>
      obtain ⟨inserted, hinserted, -, rfl⟩ := System.step_insertOrder hstep
      obtain hold | hnew := List.mem_append.1 hbody
      · exact .inl hold
      · exact .inr ⟨inserted, List.mem_of_getElem? hinserted, (List.mem_singleton.1 hnew).symm⟩
  | answerOrder k answer =>
      obtain ⟨_, -, rfl⟩ := Option.map_eq_some_iff.1 hstep
      exact .inl hbody
  | resumeAdd k =>
      obtain ⟨_, -, rfl⟩ := Option.map_eq_some_iff.1 hstep
      exact .inl hbody
  | answerUpdate k answer =>
      obtain ⟨_, -, rfl⟩ := Option.map_eq_some_iff.1 hstep
      exact .inl hbody
  | finishLoad k =>
      obtain ⟨_, -, rfl⟩ := Option.map_eq_some_iff.1 hstep
      exact .inl hbody
  | answerCoupon k answer =>
      obtain ⟨_, -, rfl⟩ := Option.map_eq_some_iff.1 hstep
      exact .inl hbody
  | _ =>
      obtain rfl := Option.some.inj hstep
      exact .inl hbody

/-- Memory and table hold the purchase of the events so far, and every order is of an earlier one. -/
structure Holding (events : List Event) (s : System) : Prop where
  sound : s.Sound
  shows : Shows s.app (Purchase.of events)
  requested : ∀ request ∈ s.orders, Tapped events request.body
  placed : ∀ body ∈ s.placed, Tapped events body

theorem Purchase.of_concat (events : List Event) (e : Event) :
    Purchase.of (events ++ [e]) = (Purchase.of events).after e := by
  simp [Purchase.of]

theorem Holding.step {events : List Event} {s s' : System} {e : Event} (h : Holding events s) (he : Faithful s e)
    (hstep : shop.step s e = some s') : Holding (events ++ [e]) s' where
  sound := h.sound.step he.complete hstep
  shows := by
    rw [Purchase.of_concat]
    exact h.shows.step h.sound he hstep
  requested request hrequest := by
    obtain ⟨earlier, hearlier, hsame⟩ | ⟨checkout, rfl, hbody⟩ := mem_orders_step hstep hrequest
    · rw [← hsame]
      exact (h.requested earlier hearlier).concat e
    · exact ⟨events, checkout, [], rfl, h.shows.isOf hbody⟩
  placed body hbody := by
    obtain hold | ⟨request, hrequest, rfl⟩ := mem_placed_step hstep hbody
    · exact (h.placed body hold).concat e
    · exact (h.requested request hrequest).concat e

instance (s : System) (e : Event) : Decidable (Faithful s e) := by
  apply @Event.casesOn (fun e => Decidable (Faithful s e)) e <;> intros <;> infer_instance

/-- Two products, a refresh that turns them round and adds a gift, an edit, and an order. -/
def sampleOrdered : List Event :=
  [.addToCart Sample.singleVendor (Sample.draft 1 7 (.int 5) 2),
    .addToCart Sample.singleVendor (Sample.draft 2 7 (.int 3) 1),
    .refresh { currentUser := some {} } (Sample.answer [Sample.line 2 7 (.int 3) 1 false,
      Sample.line 3 7 (.int 5) 1 true, Sample.line 1 7 (.int 5) 2 false] (.int 0) (.int 13)),
    .changeQuantity (some 1) 4,
    .tapOrder { currentUser := some {}, selectedAddress := some {}, isMultiVendor := false, orderComment := "" },
    .insertOrder 0, .deleteFromCart (some 2)]

end Nourgomla
