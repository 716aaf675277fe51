import Nourgomla.SystemSpec

set_option autoImplicit false

/-! # An emptied cart

`clearCart` and the deletion of the last line both leave no lines, but they reset different fields.
Only `deleteFromCart` leaves the edit mode, only `clearCart` drops the coupon, the details, the flag
and the points, and neither drops the captured shipping. After a run, every cart that was emptied
along the way was left as a fresh one exactly if at each of these moments the fields that the
operation forgets were fresh already (`emptied_fresh_iff`). -/

namespace Nourgomla

open Method CartController

/-- The controller of a fresh empty cart, up to its spinner. -/
structure CartController.FreshEmpty (con : CartController) : Prop where
  lines : con.cartProducts = []
  prices : con.cartTotalPrices = 0
  points : con.totalPoints = 0
  coupon : con.userCoupon = none
  details : con.cartDetails = none
  updated : con.dataUpdated = false
  mood : con.editMood = false
  shipping : con.vendorShipping = none

theorem freshEmpty_new : ({} : CartController).FreshEmpty := ⟨rfl, rfl, rfl, rfl, rfl, rfl, rfl, rfl⟩

theorem freshEmpty_iff {con : CartController} : con.FreshEmpty ↔
    (con.cartProducts = [] ∧ con.cartTotalPrices = 0 ∧ con.totalPoints = 0) ∧
      con.userCoupon = none ∧ con.cartDetails = none ∧ con.dataUpdated = false ∧
      con.editMood = false ∧ con.vendorShipping = none :=
  ⟨fun h => ⟨⟨h.lines, h.prices, h.points⟩, h.coupon, h.details, h.updated, h.mood, h.shipping⟩,
    fun ⟨⟨hl, hp, hn⟩, hc, hd, hu, hm, hs⟩ => ⟨hl, hp, hn, hc, hd, hu, hm, hs⟩⟩

instance (con : CartController) : Decidable con.FreshEmpty := decidable_of_iff _ freshEmpty_iff.symm

/-! ## The two ways -/

/-- The fields `clearCart` forgets are fresh. -/
def CartController.ClearForgetsNothing (con : CartController) : Prop :=
  con.editMood = false ∧ con.vendorShipping = none

/-- The fields `deleteFromCart` forgets are fresh. -/
def CartController.DeleteForgetsNothing (con : CartController) : Prop :=
  con.totalPoints = 0 ∧ con.userCoupon = none ∧ con.cartDetails = none ∧
    con.dataUpdated = false ∧ con.vendorShipping = none

theorem freshEmpty_cleared_iff (con : CartController) :
    con.cleared.FreshEmpty ↔ con.ClearForgetsNothing := by
  constructor
  · intro h
    exact ⟨h.mood, h.shipping⟩
  · rintro ⟨hmood, hshipping⟩
    exact ⟨rfl, rfl, rfl, rfl, rfl, rfl, hmood, hshipping⟩

/-- The line is the only one in the cart. -/
def CartController.isLast (con : CartController) (productId : Option Int) : Bool :=
  con.isProductInCart productId && (con.cartProducts.eraseP (hasId productId)).isEmpty

/-- What the deletion of the last line leaves, whatever the line looked like: both loops run over
    no lines, and the points loop leaves the sum it finds. -/
theorem con_deleteFromCart_last {productId : Option Int} {app : App}
    (h : app.con.isLast productId = true) :
    ((App.deleteFromCart productId).exec app).2.con
      = { app.con with cartProducts := [], editMood := false, cartTotalPrices := 0 } := by
  simp only [isLast, Bool.and_eq_true, List.isEmpty_iff] at h
  obtain ⟨-, hrest⟩ := h
  have hsound : SoundLines (app.con.without productId).cartProducts := by simp [hrest]
  have hremove : ((removeLine productId).exec app.con).2 = (app.con.without productId).recount :=
    congrArg Prod.snd (exec_recount hsound)
  rw [App.con_deleteFromCart, hremove]
  simp [without, recount, pointed, hrest, paidTotal]

theorem freshEmpty_deleteFromCart_iff {productId : Option Int} {app : App}
    (h : app.con.isLast productId = true) :
    ((App.deleteFromCart productId).exec app).2.con.FreshEmpty
      ↔ app.con.DeleteForgetsNothing := by
  rw [con_deleteFromCart_last h]
  constructor
  · intro hfresh
    exact ⟨hfresh.points, hfresh.coupon, hfresh.details, hfresh.updated, hfresh.shipping⟩
  · rintro ⟨hpoints, hcoupon, hdetails, hupdated, hshipping⟩
    exact ⟨rfl, rfl, hpoints, hcoupon, hdetails, hupdated, rfl, hshipping⟩

/-! ## Runs

The cart screen adds the edit button to the events of the shop: it toggles the mode, and is
replaced by a spinner while the cart is loading. -/

inductive CartTap
  | edit
  | shop (e : Event)

def cartScreen : Machine System CartTap where
  step s
  | .edit =>
    if s.app.con.isLoading then none
    else some { s with app := { s.app with con := { s.app.con with
      editMood := !s.app.con.editMood } } }
  | .shop e => Nourgomla.shop.step s e

/-- The step empties the cart: `clearCart`, on its own or for a placed order, or the deletion of
    the last line. -/
def Empties (s : System) : CartTap → Bool
  | .shop .clearCart => true
  | .shop (.answerOrder _ answer) => OrderServices.succeeds answer
  | .shop (.deleteFromCart productId) => s.app.con.isLast productId
  | _ => false

/-- The screen, and whether the last step emptied the cart. -/
def emptying : Machine (System × Bool) CartTap := cartScreen.track fun s tap _ => Empties s tap

/-- A cart that was just emptied is a fresh one. -/
def FreshWhenEmptied (t : System × Bool) : Prop := t.2 = true → t.1.app.con.FreshEmpty

/-- If the step empties the cart, the fields it forgets are fresh already. -/
def ForgetsNothing (t : System × Bool) : CartTap → Prop
  | .shop .clearCart => t.1.app.con.ClearForgetsNothing
  | .shop (.answerOrder _ answer) =>
    OrderServices.succeeds answer = true → t.1.app.con.ClearForgetsNothing
  | .shop (.deleteFromCart productId) =>
    t.1.app.con.isLast productId = true → t.1.app.con.DeleteForgetsNothing
  | _ => True

/-- One step: what it leaves is fresh, if it empties the cart, exactly if it forgets nothing. -/
theorem freshWhenEmptied_iff {t t' : System × Bool} {tap : CartTap}
    (h : emptying.step t tap = some t') : FreshWhenEmptied t' ↔ ForgetsNothing t tap := by
  obtain ⟨hstep, hnote⟩ := Machine.track_step.1 h
  unfold FreshWhenEmptied
  rw [hnote]
  cases tap with
  | edit => simp [Empties, ForgetsNothing]
  | shop e =>
      cases e with
      | clearCart =>
          rw [System.step_clearCart hstep]
          simpa [Empties, ForgetsNothing] using freshEmpty_cleared_iff t.1.app.con
      | answerOrder k answer =>
          refine imp_congr_right fun hok => ?_
          obtain ⟨_, -, ⟨hfailed, -⟩ | ⟨-, hcleared⟩⟩ := System.step_answerOrder hstep
          · exact absurd (hfailed.symm.trans hok) (by decide)
          · rw [hcleared]
            exact freshEmpty_cleared_iff t.1.app.con
      | deleteFromCart productId =>
          refine imp_congr_right fun hlast => ?_
          have hperform : t.1.perform (App.deleteFromCart productId) = t'.1 := Option.some.inj hstep
          rw [← hperform]
          exact freshEmpty_deleteFromCart_iff hlast
      | _ => simp [Empties, ForgetsNothing]

/-- From any state, and over any run: each time `clearCart` or the deletion of the last line
    empties the cart it leaves a fresh one, exactly if each time the edit mode and the shipping
    (for `clearCart`), or the points, the coupon, the details, the flag and the shipping (for
    `deleteFromCart`), are fresh before. -/
theorem emptied_fresh_iff (s : System) (taps : List CartTap) :
    emptying.Throughout FreshWhenEmptied (s, false) taps
      ↔ emptying.Meets ForgetsNothing (s, false) taps := by
  refine Machine.throughout_iff_of_good_step ?_ taps ?_ (Machine.meets_true taps)
  · intro t tap t' _ _ h
    exact freshWhenEmptied_iff h
  · intro hfalse
    exact absurd hfalse Bool.false_ne_true

/-! ## What the next cart inherits -/

/-- One item for 12 is added in multi-vendor mode and a coupon is accepted. Clearing the cart keeps
    the shipping of its vendor; deleting the line keeps the coupon, the points and the shipping. -/
theorem not_fresh_when_emptied :
    (∃ t, emptying.run ({}, false) [.shop (.addToCart (Sample.multiVendor [7])
        (Sample.draft 1 7 (.int 12) 1)), .shop .clearCart] = some t ∧
      t.2 = true ∧ ¬ t.1.app.con.FreshEmpty ∧ t.1.app.con.vendorShipping = some "15") ∧
    ∃ t, emptying.run ({}, false) [.shop (.addToCart (Sample.multiVendor [7])
        (Sample.draft 1 7 (.int 12) 1)), .shop (.postCoupon "TEN"),
        .shop (.answerCoupon 0 (Sample.couponAnswer 1)), .shop (.deleteFromCart (some 1))]
          = some t ∧
      t.2 = true ∧ ¬ t.1.app.con.FreshEmpty ∧ t.1.app.con.userCoupon.isSome = true ∧
        t.1.app.con.totalPoints = 4 :=
  ⟨Machine.reaches (by decide +kernel), Machine.reaches (by decide +kernel)⟩

end Nourgomla
