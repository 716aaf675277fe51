import Nourgomla.System

set_option autoImplicit false

/-! # The sign of the bill

The bill is shipping plus total minus coupon, and nothing bounds the coupon. A percentage is taken
of the undiscounted total, so one of at most 99 is covered by what it is taken off as long as there is
no discount. A fixed coupon, a percentage under a discount, and one of 100, which can be rounded up
above the total, can exceed what there is to pay: the bill is negative exactly then
(`billedAmount_nonneg_iff`). -/

namespace Nourgomla

open CartController

namespace CartController

/-- A cart that can be billed: its total is a double and not negative, a percentage is one, a fixed
    coupon gives and does not take, and the discounted total is between nothing and the total. -/
structure Billable (con : CartController) : Prop where
  isDouble : IsDouble con.cartTotalPrices
  total : 0 ≤ con.cartTotalPrices
  coupon : ∀ coupon ∈ con.userCoupon, ∃ value, coupon.couponValue = some value ∧ 0 ≤ value ∧
    (coupon.couponType = some 1 → value ≤ 100)
  details : ∀ details ∈ con.cartDetails, ∃ total, details.totalPriceWithDiscount = some total ∧
    0 ≤ total.toRat ∧ total.toRat ≤ con.cartTotalPrices

theorem addedTo_nonneg {c : CartItem} {x : Rat} (hprice : ∀ t ∈ c.totalPrice, 0 ≤ t)
    (hx : IsDouble x ∧ 0 ≤ x) : IsDouble (c.addedTo x) ∧ 0 ≤ c.addedTo x := by
  have htotal : 0 ≤ c.totalPrice.getD 0 := by
    cases ht : c.totalPrice with
    | none => exact le_refl 0
    | some t => exact hprice t ht
  unfold CartItem.addedTo
  split
  · exact ⟨isDouble_nearestDouble _, nearestDouble_nonneg (add_nonneg hx.2 htotal)⟩
  · exact hx

/-- The total of lines with non-negative totals is a double that is not negative. -/
theorem billable_total {con : CartController}
    (htotal : con.cartTotalPrices = paidTotal con.cartProducts)
    (hlines : ∀ c ∈ con.cartProducts, ∀ t ∈ c.totalPrice, 0 ≤ t) :
    IsDouble con.cartTotalPrices ∧ 0 ≤ con.cartTotalPrices := by
  have hfold : ∀ (lines : List CartItem) (x : Rat), (∀ c ∈ lines, ∀ t ∈ c.totalPrice, 0 ≤ t) →
      IsDouble x ∧ 0 ≤ x → IsDouble (lines.foldl (fun x c => c.addedTo x) x) ∧
        0 ≤ lines.foldl (fun x c => c.addedTo x) x := by
    intro lines
    induction lines with
    | nil => exact fun x _ hx => hx
    | cons c cs ih =>
        intro x hlines hx
        exact ih _ (fun d hd => hlines d (List.mem_cons_of_mem c hd))
          (addedTo_nonneg (hlines c List.mem_cons_self) hx)
  rw [htotal]
  exact hfold _ 0 hlines ⟨isDouble_zero, le_refl 0⟩

/-- What there is to pay before the coupon. -/
def payable (con : CartController) (shippingCost : Int) : Rat :=
  nearest ((if con.freeShipping then 0 else Num.toDouble (.int shippingCost)) +
    if con.hasDiscount then
      ((con.cartDetails.bind CartDetails.totalPriceWithDiscount).map Num.toDouble).getD 0
    else con.cartTotalPrices)

/-- A percentage of the undiscounted total, as the cart computes it. -/
def percentage (con : CartController) (value : Int) : Rat :=
  nearest (nearest (con.cartTotalPrices * Num.toDouble (.int value)) / 100)

/-- The coupon takes off no more than there is to pay. That is to be asked of a fixed one in any cart, and of a
    percentage in a discounted one or if it is the whole. -/
def CouponCovered (con : CartController) (shippingCost : Int) : Prop :=
  ∀ coupon ∈ con.userCoupon, ∀ value ∈ coupon.couponValue,
    if coupon.couponType = some 1 then
      con.hasDiscount = true ∨ 99 < value → con.percentage value ≤ con.payable shippingCost
    else Num.toDouble (.int value) ≤ con.payable shippingCost

/-- What a coupon takes off. -/
theorem couponVal_eq {con : CartController} {coupon : Coupon} {value : Int}
    (hcoupon : con.userCoupon = some coupon) (hvalue : coupon.couponValue = some value) :
    con.couponVal = .ok (if coupon.couponType = some 1 then con.percentage value
      else Num.toDouble (.int value)) := by
  unfold couponVal
  rw [hcoupon]
  simp only [hvalue]
  split <;> rfl

theorem couponVal_ok {con : CartController} (h : con.Billable) :
    ∃ share, con.couponVal = .ok share ∧ IsDouble share := by
  cases hc : con.userCoupon with
  | none =>
      refine ⟨0, ?_, isDouble_zero⟩
      simp only [couponVal, hc]
      rfl
  | some coupon =>
      obtain ⟨value, hvalue, -⟩ := h.coupon coupon hc
      refine ⟨_, couponVal_eq hc hvalue, ?_⟩
      split
      · exact isDouble_nearestDouble _
      · exact isDouble_nearestDouble _

theorem billedAmount_eq {con : CartController} (h : con.Billable) {share : Rat}
    (hshare : con.couponVal = .ok share) (shippingCost : Int) :
    con.billedAmount (some shippingCost) = .ok (nearest (con.payable shippingCost - share)) := by
  have hshipping : con.shippingTerm (some shippingCost)
      = .ok (if con.freeShipping then 0 else Num.toDouble (.int shippingCost)) := by
    unfold shippingTerm
    cases con.freeShipping <;> rfl
  unfold billedAmount payable
  rw [hshipping, hshare]
  cases hdiscount : con.hasDiscount with
  | false => rfl
  | true =>
      cases hdetails : con.cartDetails with
      | none => simp [hasDiscount, hdetails] at hdiscount
      | some details =>
          obtain ⟨total, htotal, -⟩ := h.details details hdetails
          simp [notNull, htotal, bind, Except.bind, pure, Except.pure]

theorem shippingTerm_nonneg (con : CartController) {shippingCost : Int} (hcost : 0 ≤ shippingCost) :
    0 ≤ if con.freeShipping then (0 : Rat) else Num.toDouble (.int shippingCost) := by
  split
  · exact le_refl 0
  · have hcost' : (0 : Rat) ≤ shippingCost := by exact_mod_cast hcost
    exact nearestDouble_nonneg hcost'

/-- Without a discount there is at least the total to pay. -/
theorem total_le_payable {con : CartController} (h : con.Billable) {shippingCost : Int}
    (hcost : 0 ≤ shippingCost) (hdiscount : con.hasDiscount = false) :
    con.cartTotalPrices ≤ con.payable shippingCost := by
  have hshipping := con.shippingTerm_nonneg hcost
  calc con.cartTotalPrices = nearestDouble con.cartTotalPrices := h.isDouble.nearest_eq.symm
    _ ≤ con.payable shippingCost := by
        refine nearestDouble_mono ?_
        rw [hdiscount]
        exact le_add_of_nonneg_left hshipping

theorem payable_nonneg {con : CartController} (h : con.Billable) {shippingCost : Int}
    (hcost : 0 ≤ shippingCost) : 0 ≤ con.payable shippingCost := by
  have htotal : (0 : Rat) ≤ if con.hasDiscount then
      ((con.cartDetails.bind CartDetails.totalPriceWithDiscount).map Num.toDouble).getD 0
      else con.cartTotalPrices := by
    split
    · cases hdetails : con.cartDetails with
      | none => simp
      | some details =>
          obtain ⟨total, htotal, hnonneg, -⟩ := h.details details hdetails
          have hdiscounted : 0 ≤ total.toDouble := nearestDouble_nonneg hnonneg
          simpa [htotal] using hdiscounted
    · exact h.total
  exact nearestDouble_nonneg (add_nonneg (con.shippingTerm_nonneg hcost) htotal)

/-- At most 99 per cent of a total is at most the total: the hundredth that is left is more than the rounding. -/
theorem percentage_le {con : CartController} (h : con.Billable) {value : Int} (hnonneg : 0 ≤ value)
    (hvalue : value ≤ 99) : con.percentage value ≤ con.cartTotalPrices := by
  have hexact : Num.toDouble (.int value) = value := nearestDouble_intCast hnonneg (by omega)
  have hvalue' : (value : Rat) ≤ 99 := by exact_mod_cast hvalue
  have hproduct : 0 ≤ con.cartTotalPrices * value :=
    mul_nonneg h.total (by exact_mod_cast hnonneg)
  have hround := (abs_le.1 (abs_nearestDouble_sub_le (con.cartTotalPrices * value))).2
  rw [abs_of_nonneg hproduct] at hround
  rw [percentage, hexact]
  refine h.isDouble.nearest_le ?_
  rw [div_le_iff₀ (by norm_num), nearest_eq_nearestDouble]
  rcases h.isDouble.eq_zero_or_leastDouble_le h.total with hzero | hleast
  · rw [hzero, zero_mul, zero_mul, nearestDouble_zero]
  · have hmul : con.cartTotalPrices * value ≤ con.cartTotalPrices * 99 :=
      mul_le_mul_of_nonneg_left hvalue' h.total
    have hpart : con.cartTotalPrices * value / 2 ^ 53 ≤ con.cartTotalPrices / 2 := by
      rw [div_le_div_iff₀ (by norm_num) (by norm_num)]
      nlinarith [h.total]
    linarith

theorem share_le_payable_iff {con : CartController} (h : con.Billable) {share : Rat}
    (hshare : con.couponVal = .ok share) {shippingCost : Int} (hcost : 0 ≤ shippingCost) :
    share ≤ con.payable shippingCost ↔ con.CouponCovered shippingCost := by
  unfold CouponCovered
  cases hc : con.userCoupon with
  | none =>
      have hzero : con.couponVal = .ok 0 := by
        simp only [couponVal, hc]
        rfl
      obtain rfl : share = 0 := Except.ok.inj (hshare.symm.trans hzero)
      simpa using payable_nonneg h hcost
  | some coupon =>
      obtain ⟨value, hvalue, hnonneg, -⟩ := h.coupon coupon hc
      obtain rfl := Except.ok.inj (hshare.symm.trans (couponVal_eq hc hvalue))
      simp only [Option.mem_def, Option.some.injEq, forall_eq', hvalue]
      by_cases htype : coupon.couponType = some 1
      · rw [if_pos htype, if_pos htype]
        constructor
        · exact fun hle _ => hle
        · intro hcovered
          by_cases hasked : con.hasDiscount = true ∨ 99 < value
          · exact hcovered hasked
          · obtain ⟨hdiscount, hpart⟩ := not_or.1 hasked
            exact (percentage_le h hnonneg (not_lt.1 hpart)).trans
              (total_le_payable h hcost (Bool.eq_false_iff.2 hdiscount))
      · rw [if_neg htype, if_neg htype]

end CartController

/-! ## Coupons that exceed the bill -/

/-- A cart of lines for these amounts. -/
def samplePriced (totals : List Rat) : CartController :=
  let lines : List CartItem := totals.map fun total =>
    { product := Sample.product 1 7 (.double total), quantity := some 1, totalPrice := some (nearest total) }
  { cartProducts := lines, cartTotalPrices := paidTotal lines }

/-- A cart of such lines with a coupon of `value`, per cent if `type` is 1; discounted to 8 or not. -/
def sampleCouponed (totals : List Rat) (value type : Int) (discounted : Bool) : CartController :=
  { samplePriced totals with
    userCoupon := some { couponValue := some value, couponType := some type }
    cartDetails := if discounted then
      some { cartDiscount := some (.int 2), totalPriceWithDiscount := some (.int 8) } else none }

theorem sampleCouponed_billable {totals : List Rat} {value type : Int} {discounted : Bool}
    (htotals : ∀ total ∈ totals, 0 ≤ total) (hvalue : 0 ≤ value) (htype : type = 1 → value ≤ 100)
    (height : discounted = true → 8 ≤ (samplePriced totals).cartTotalPrices) :
    (sampleCouponed totals value type discounted).Billable := by
  have htotal : IsDouble (samplePriced totals).cartTotalPrices ∧ 0 ≤ (samplePriced totals).cartTotalPrices := by
    refine billable_total rfl fun c hc t ht => ?_
    obtain ⟨total, hmem, rfl⟩ := List.mem_map.1 hc
    exact Option.some.inj ht ▸ nearestDouble_nonneg (htotals total hmem)
  refine ⟨htotal.1, htotal.2, fun coupon hc => ?_, fun details hd => ?_⟩
  · obtain rfl := Option.some.inj hc
    exact ⟨value, rfl, hvalue, fun h => htype (Option.some.inj h)⟩
  · cases discounted with
    | false => cases hd
    | true =>
        obtain rfl := Option.some.inj hd
        exact ⟨.int 8, rfl, by decide +kernel, height rfl⟩

end Nourgomla
