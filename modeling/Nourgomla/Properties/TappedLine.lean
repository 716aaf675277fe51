import Nourgomla.System

set_option autoImplicit false

/-! # The line that was tapped

A line's tile passes the product id to `changeQuantity` and `deleteFromCart`, which look the line up
again and take the first one with that id. In the answer of a refresh a gift may have the id of a
paid line. An edit hits the line that was tapped, and only it, exactly if no line before it has its
id (`edits_tapped_iff`). Everything here holds of every cart, also where a method throws halfway. -/

namespace Nourgomla

open Method CartController

/-- A line without its cached points, which every edit counts again. -/
def CartItem.bare (cart : CartItem) : CartItem := { cart with cartItemPoints := 0 }

/-- The line at `i` has the quantity and is priced for it; every other line is as it was. -/
structure ChangesOnly (i : Nat) (quantity : Int) (before after : List CartItem) : Prop where
  tapped : after[i]?.map CartItem.bare = before[i]?.map fun c => (requantified quantity c).bare
  others : ∀ j, j ≠ i → after[j]?.map CartItem.bare = before[j]?.map CartItem.bare

/-- The line at `i` is gone; every other line is as it was. -/
def RemovesOnly (i : Nat) (before after : List CartItem) : Prop :=
  after.map CartItem.bare = (before.eraseIdx i).map CartItem.bare

/-! ## What an edit does to the lines -/

namespace CartController

/-- The lines without their cached points. -/
def bareLines (con : CartController) : List CartItem := con.cartProducts.map CartItem.bare

theorem keeps_bare_addPoints : Keeps (fun t : CartItem × Int => t.1.bare) addPoints :=
  keeps_bind (keeps_get _) fun _ => keeps_bind (keeps_ofExcept _ _) fun _ =>
    keeps_modify fun _ => rfl

theorem keeps_bareLines_calculateTotalPoints : Keeps bareLines calculateTotalPoints := by
  refine keeps_bind (keeps_get _) fun _ => keeps_ite ?_ (keeps_pure _ _)
  refine keeps_bind (keeps_modify fun _ => rfl) fun _ => keeps_onPart fun con => ?_
  exact map_forEachItem keeps_bare_addPoints con.cartProducts con.totalPoints

theorem keeps_bareLines_changeTotalPrice : Keeps bareLines changeTotalPrice := by
  refine keeps_bind (keeps_modify fun _ => rfl) fun _ => keeps_onPart fun con => ?_
  have hline : Keeps (fun t : CartItem × Rat => t.1.bare) addTotal :=
    fun t => congrArg CartItem.bare (keeps_line_addTotal t)
  exact map_forEachItem hline con.cartProducts con.cartTotalPrices

theorem bareLines_removeLine (productId : Option Int) (con : CartController) :
    ((removeLine productId).exec con).2.bareLines = (con.without productId).bareLines := by
  have hrest : Keeps bareLines
      (do calculateTotalPoints; changeTotalPrice : Method DartError CartController Unit) :=
    keeps_bind keeps_bareLines_calculateTotalPoints fun _ => keeps_bareLines_changeTotalPrice
  exact hrest (con.without productId)

theorem bareLines_writeQuantity {productId : Option Int} {con : CartController} {cart : CartItem}
    (quantity : Int) (hcart : con.getCartById productId = some cart) :
    ((writeQuantity productId quantity).exec con).2.bareLines
      = (con.withQuantity productId quantity).bareLines := by
  rw [writeQuantity, exec_bind_ok (exec_onCartById quantity hcart)]
  exact keeps_bareLines_calculateTotalPoints _

end CartController

namespace App

/-- The lines without their cached points. -/
def bareLines (app : App) : List CartItem := app.con.bareLines

theorem keeps_bareLines_inDb {α : Type} (m : Method DartError (List CartRow) α) :
    Keeps bareLines (inDb m) := fun _ => rfl

/-- The delete button removes the first line with the id. -/
theorem bareLines_tileDelete (cart : CartItem) (app : App) :
    ((tileDelete cart).exec app).2.bareLines
      = (app.con.cartProducts.eraseP (hasId cart.product.id)).map CartItem.bare := by
  simp only [tileDelete, deleteFromCart, exec_get_bind]
  rw [view_bind (f := bareLines) (fun _ => keeps_bareLines_inDb _) app, ← without_cartProducts]
  exact bareLines_removeLine cart.product.id app.con

/-- The spin control writes to the first line with the id. -/
theorem bareLines_tileChanged {cart first : CartItem} (value : Int) {app : App}
    (hfirst : app.con.getCartById cart.product.id = some first) :
    ((tileChanged cart value).exec app).2.bareLines
      = (updateFirst (hasId cart.product.id) (requantified value) app.con.cartProducts).map
          CartItem.bare := by
  have hrest : Keeps bareLines (do
      inDb (CartDbHelper.updateProductQuantity value cart.product.id)
      inCon changeTotalPrice) :=
    keeps_bind (keeps_bareLines_inDb _) fun _ app => keeps_bareLines_changeTotalPrice app.con
  exact (view_bind (fun _ => hrest) app).trans (bareLines_writeQuantity value hfirst)

/-! ## The line that is hit -/

/-- No line before the one at `i` has its product id. -/
def FirstOfItsId (lines : List CartItem) (i : Nat) (cart : CartItem) : Prop :=
  ∀ j, j < i → ∀ c, lines[j]? = some c → c.product.id ≠ cart.product.id

/-- **Edits of a tapped line.** The spin control of a line's tile changes this line only, whatever the
    quantity, and the delete button removes this line only, exactly if no line before it has its
    product id. -/
theorem edits_tapped_iff {app : App} {i : Nat} {cart : CartItem}
    (hcart : app.con.cartProducts[i]? = some cart) :
    ((∀ value, ChangesOnly i value app.con.cartProducts
        ((tileChanged cart value).exec app).2.con.cartProducts) ∧
      RemovesOnly i app.con.cartProducts ((tileDelete cart).exec app).2.con.cartProducts) ↔
    FirstOfItsId app.con.cartProducts i cart := by
  have hid : hasId cart.product.id cart = true := by rw [hasId_iff]
  have hfound : ∃ first, app.con.getCartById cart.product.id = some first := by
    refine Option.isSome_iff_exists.1 (List.find?_isSome.2 ⟨cart, ?_, hid⟩)
    exact List.mem_of_getElem? hcart
  obtain ⟨first, hfound⟩ := hfound
  have hget : ∀ (value : Int) (j : Nat), (((tileChanged cart value).exec app).2.con.cartProducts)[j]?.map
      CartItem.bare = (updateFirst (hasId cart.product.id) (requantified value)
        app.con.cartProducts)[j]?.map CartItem.bare := fun value j => by
    have hlines := congrArg (·[j]?) (bareLines_tileChanged value hfound)
    simpa [bareLines, CartController.bareLines] using hlines
  constructor
  · rintro ⟨hchanges, -⟩ j hj c hc hsame
    -- a line before it is hit, and this one keeps a quantity it should not have
    have htapped := (hchanges (cart.quantity.getD 0 + 1)).tapped
    rw [hget, getElem?_updateFirst_of_earlier hj hc (by rw [hasId_iff, hsame]), hcart] at htapped
    have hquantity := congrArg CartItem.quantity (Option.some.inj htapped)
    have hwritten : cart.quantity = some (cart.quantity.getD 0 + 1) :=
      hquantity.trans (congrArg CartItem.quantity (requantified_core _ cart))
    cases hq : cart.quantity with
    | none => simp [hq] at hwritten
    | some q => simp [hq] at hwritten
  · intro hfirst
    obtain ⟨-, hset, herase⟩ := updateFirst_eq_set hcart hid fun j hj c hc => by
      simpa [hasId] using hfirst j hj c hc
    refine ⟨fun value => ⟨?_, fun j hj => ?_⟩, ?_⟩
    · rw [hget, hset, hcart, List.getElem?_set_self (List.getElem?_eq_some_iff.1 hcart).1]
      rfl
    · rw [hget, hset, List.getElem?_set_ne (Ne.symm hj)]
    · rw [RemovesOnly, ← herase]
      exact bareLines_tileDelete cart app

/-! ## A gift before the line that is paid for -/

/-- A cart of two items of product 1, refreshed with an answer of `lines`. -/
def sampleRefreshed (lines : List Json) : App :=
  ((updateCartData {} (Sample.answer lines (.int 0) (.int 10))).exec
    ((addToCart Sample.singleVendor (Sample.draft 1 7 (.int 5) 2).item).exec {}).2).2

/-- Product 1 as a gift before the two items that are paid for. -/
def sampleGiftFirst : App :=
  sampleRefreshed [Sample.line 1 7 (.int 5) 1 true, Sample.line 1 7 (.int 5) 2 false]

/-- The second line. -/
def sampleSecond (app : App) : CartItem := app.con.cartProducts[1]?.getD { product := {} }

/-- A tap on the tile of the paid line changes the gift before it, and removes it. -/
theorem not_edits_tapped_of_gift :
    let app := sampleGiftFirst
    let cart := sampleSecond app
    app.con.cartProducts[1]? = some cart ∧ cart.isPaid = true ∧
      ¬ ChangesOnly 1 3 app.con.cartProducts ((tileChanged cart 3).exec app).2.con.cartProducts ∧
      ¬ RemovesOnly 1 app.con.cartProducts ((tileDelete cart).exec app).2.con.cartProducts ∧
      ((tileChanged cart 3).exec app).2.con.cartProducts.map (fun c => (c.isPaid, c.quantity))
        = [(false, some 3), (true, some 2)] := by
  refine ⟨by decide +kernel, by decide +kernel, fun h => ?_, fun h => ?_, by decide +kernel⟩
  · exact absurd h.tapped (by decide +kernel)
  · have hpaid := congrArg (List.map CartItem.isPaid) h
    exact absurd hpaid (by decide +kernel)

/-- The gift stands behind the paid line, and a gift of another product before it. -/
def sampleGiftLast : App :=
  sampleRefreshed [Sample.line 2 7 (.int 5) 1 true, Sample.line 1 7 (.int 5) 2 false,
    Sample.line 1 7 (.int 5) 1 true]

theorem edits_tapped_of_giftLast :
    let app := sampleGiftLast
    let cart := sampleSecond app
    (∀ value, ChangesOnly 1 value app.con.cartProducts
        ((tileChanged cart value).exec app).2.con.cartProducts) ∧
      RemovesOnly 1 app.con.cartProducts ((tileDelete cart).exec app).2.con.cartProducts := by
  refine (edits_tapped_iff (by decide +kernel)).2 fun j hj => ?_
  obtain rfl : j = 0 := by omega
  have hfirst : ∀ c ∈ sampleGiftLast.con.cartProducts[0]?,
      c.product.id ≠ (sampleSecond sampleGiftLast).product.id := by decide +kernel
  exact hfirst

end App
end Nourgomla
