import Nourgomla.Controllers.CartRounding
import Nourgomla.Properties.Totals

set_option autoImplicit false

/-! # The order and the bill

The checkout screen shows `billAmount` of the address's shipping cost; the order posts the lines,
the coupon and a shipping of its own. What is posted adds up to an exact amount, the bill is computed
in doubles. While those have the cents right and no coupon takes off half a cent, the posted amounts
of an order after a successful refresh add up to the bill shown exactly if the coupon has a value and
the shipping, where it is charged, is the same number on both sides (`amount_eq_bill`). In
multi-vendor mode the two are read from different places. -/

namespace Nourgomla

open Method CartController

/-! ## What a posted order costs -/

/-- A posted value read as a number. -/
def Json.number : Json → Option Rat
  | .num n => some n.toRat
  | .str s => readNumber s
  | _ => none

namespace OrderProduct

/-- The count times the price of an entry: the discounted one if it is positive. -/
def amount (entry : OrderProduct) : Option Rat := do
  let count ← entry.productCount
  let price ← (entry.priceDiscount.filter fun p => 0 < p.toRat).orElse fun _ => entry.packagePrice
  return count * price.toRat

end OrderProduct

namespace OrderBody

/-- What the entries cost that are no gifts. -/
def productsAmount (body : OrderBody) : Option Rat :=
  ((body.ordersProductsJson.filter OrderProduct.isPaid).mapM OrderProduct.amount).map List.sum

/-- The shipping: none if the coupon gives it for free. -/
def shippingAmount (body : OrderBody) : Option Rat :=
  if body.couponFreeShipping.equalsInt 1 then some 0 else body.areaShipping.number

/-- The coupon's share of `products`; without a coupon its value is the empty text. -/
def couponAmount (body : OrderBody) (products : Rat) : Option Rat :=
  match body.couponValue with
  | .num value =>
    some (if body.couponType.equalsInt 1 then products * value.toRat / 100 else value.toRat)
  | .str _ => some 0
  | _ => none

/-- The amount an order is about. -/
def amount (body : OrderBody) : Option Rat := do
  let products ← body.productsAmount
  return roundToCents (products + (← body.shippingAmount) - (← body.couponAmount products))

end OrderBody

/-- The bill of the address can be shown, and the order amounts to it. -/
def AmountIsBill (con : CartController) (address : AddressModel) (body : OrderBody) : Prop :=
  ∃ total, (con.billAmount address.cost).toOption = some total ∧ body.amount = some total

/-- The coupon has a value and, unless it gives free shipping, the address has a shipping cost,
    which in multi-vendor mode is the number the vendor's shipping reads as. -/
structure SameShipping (con : CartController) (checkout : Checkout) (address : AddressModel) :
    Prop where
  valued : ∀ coupon ∈ con.userCoupon, coupon.couponValue.isSome = true
  shipping : con.freeShipping = true ∨ ∃ cost, address.cost = some cost ∧
    (checkout.isMultiVendor = true → con.vendorShipping.bind readNumber = some (cost : Rat))

/-- A percentage of the coupon takes off a number of cents and a half. -/
def CartController.TakesHalfCent (con : CartController) : Prop :=
  ∃ coupon ∈ con.userCoupon, coupon.couponType = some 1 ∧
    ∃ value ∈ coupon.couponValue, HalfCent (linesWorth con.cartProducts * value / 100)

/-- The value of a coupon, and 0 without one. -/
def CartController.couponHeight (con : CartController) : Rat :=
  |((con.userCoupon.bind Coupon.couponValue).getD 0 : Rat)|

/-- The percentage of a coupon, and 0 if it is none. -/
def CartController.percentHeight (con : CartController) : Rat :=
  |(((con.userCoupon.filter fun coupon => coupon.couponType = some 1).bind Coupon.couponValue).getD 0 : Rat)|

/-- What the amounts of a bill are bounded by: shipping, coupon and lines. -/
def CartController.height (con : CartController) (cost : Option Int) : Rat :=
  |(cost.getD 0 : Rat)| + con.couponHeight + (1 + linesWeight con.cartProducts) * (1 + con.percentHeight / 100)

/-- Amounts that a double has the cents of, also after one operation for each line. -/
def CartController.Moderate (con : CartController) (cost : Option Int) : Prop :=
  (con.cartProducts.length + 10) * con.height cost ≤ 10 ^ 10

/-! ## The products -/

/-- A decoded line has the price of the package it is sold in. -/
theorem CartServices.selectedPrice_of_cartLine {json : Json} {c : CartItem}
    (h : CartServices.cartLine json = .ok c) (htype : c.KnownType) :
    c.selectedPrice = c.product.packagePrice c.type := by
  obtain ⟨-, hproduct, price, hselected, hprice⟩ := CartServices.cartLine_fields h
  obtain ⟨h1, h2, h3⟩ := Product.fromJson_prices hproduct
  have hsame : ∀ key p, json.numField key = .ok (some price) → json.numOrZero key = .ok p →
      price = p := by
    intro key p hfield hzero
    simpa [Json.numOrZero, hfield, bind, Except.bind, pure, Except.pure] using hzero
  rw [hselected]
  rcases htype with ht | ht | ht
  · rw [ht, show typeKey "package_" (some 1) "_price" = "package_1_price" by decide] at hprice
    rw [ht, hsame _ _ hprice h1]
    rfl
  · rw [ht, show typeKey "package_" (some 2) "_price" = "package_2_price" by decide] at hprice
    rw [ht, hsame _ _ hprice h2]
    rfl
  · rw [ht, show typeKey "package_" (some 3) "_price" = "package_3_price" by decide] at hprice
    rw [ht, hsame _ _ hprice h3]
    rfl

/-- The entry of a line costs what the line is worth. -/
theorem amount_orderProduct {c : CartItem} (h : c.Calculated)
    (hprice : c.selectedPrice = c.product.packagePrice c.type) :
    c.orderProduct.amount = some c.worth := by
  obtain ⟨q, u, -, hq, hu, -⟩ := h
  have hworth : c.worth = q * u := by rw [CartItem.worth, hq, hu]; rfl
  obtain ⟨price, hpackage, rfl⟩ := Option.map_eq_some_iff.1 hu
  have hsale : (c.selectedSalePrice.filter fun p => 0 < p.toRat).orElse (fun _ => c.selectedPrice)
      = some (c.salePrice.getD price) := by
    rw [hprice, hpackage]
    unfold CartItem.salePrice
    cases c.selectedSalePrice.filter fun p => 0 < p.toRat <;> rfl
  simp only [OrderProduct.amount, CartItem.orderProduct, hq, hsale, hworth]
  rfl

/-- The entries cost together what the paid lines are worth. -/
theorem productsAmount_eq {lines : List CartItem} {body : OrderBody}
    (hbody : body.ordersProductsJson = lines.map CartItem.orderProduct)
    (h : ∀ c ∈ lines, c.orderProduct.amount = some c.worth) :
    body.productsAmount = some (linesWorth lines) := by
  have hpaid : ∀ c : CartItem, c.orderProduct.isPaid = c.isPaid := fun _ => rfl
  rw [OrderBody.productsAmount, hbody, linesWorth]
  clear hbody
  induction lines with
  | nil => rfl
  | cons c cs ih =>
      have hcs := ih fun d hd => h d (List.mem_cons_of_mem c hd)
      cases hc : c.isPaid with
      | false => simpa [hpaid, hc] using hcs
      | true =>
          obtain ⟨amounts, hamounts, hsum⟩ := Option.map_eq_some_iff.1 hcs
          simp [hpaid, hc, h c List.mem_cons_self, hamounts, hsum]

/-! ## Shipping and coupon -/

/-- The shipping an order posts: none if the bill charges none, else the vendor's or the
    address's. -/
def CartController.postedShipping (con : CartController) (checkout : Checkout)
    (address : AddressModel) : Option Rat :=
  if con.freeShipping then some 0
  else if checkout.isMultiVendor then con.vendorShipping.bind readNumber
  else address.cost.map fun cost : Int => (cost : Rat)

theorem shippingAmount_eq {con : CartController} {checkout : Checkout} {address : AddressModel}
    {body : OrderBody}
    (hshipping : body.areaShipping =
      if checkout.isMultiVendor then jsonText con.vendorShipping else jsonInt address.cost)
    (hfree : body.couponFreeShipping = fieldOrEmpty con.userCoupon fun c => jsonInt c.freeShipping) :
    body.shippingAmount = con.postedShipping checkout address := by
  have hsame : body.couponFreeShipping.equalsInt 1 = con.freeShipping := by
    rw [hfree, CartController.freeShipping]
    cases con.userCoupon with
    | none => rfl
    | some coupon => exact equalsInt_jsonInt 1 coupon.freeShipping
  rw [OrderBody.shippingAmount, CartController.postedShipping, hsame, hshipping]
  cases checkout.isMultiVendor
  · cases address.cost <;> rfl
  · cases con.vendorShipping <;> rfl

/-- The shipping of the bill. -/
def CartController.billedShipping (con : CartController) (cost : Option Int) : Option Rat :=
  if con.freeShipping then some 0 else cost.map fun cost : Int => (cost : Rat)

/-- What the coupon takes off. -/
def CartController.couponShare (con : CartController) : Option Rat :=
  match con.userCoupon with
  | some coupon => coupon.couponValue.map fun value : Int =>
      if coupon.couponType = some 1 then linesWorth con.cartProducts * value / 100 else value
  | none => some 0

/-- The posted coupon is worth what it takes off. -/
theorem couponAmount_eq {con : CartController} {body : OrderBody}
    (htype : body.couponType = fieldOrEmpty con.userCoupon fun c => jsonInt c.couponType)
    (hvalue : body.couponValue = fieldOrEmpty con.userCoupon fun c => jsonInt c.couponValue) :
    body.couponAmount (linesWorth con.cartProducts) = con.couponShare := by
  rw [OrderBody.couponAmount, CartController.couponShare, htype, hvalue]
  cases con.userCoupon with
  | none => rfl
  | some coupon =>
      have hpercent : (jsonInt coupon.couponType).equalsInt 1 = (coupon.couponType == some 1) :=
        equalsInt_jsonInt 1 coupon.couponType
      simp only [fieldOrEmpty, Option.elim_some, hpercent, beq_iff_eq]
      cases coupon.couponValue with
      | none => rfl
      | some value => by_cases hp : coupon.couponType = some 1 <;> simp only [hp] <;> rfl

/-! ## The cart after a refresh -/

/-- The cart holds the lines that were counted, each with its total and the price it is posted with. -/
structure CartController.Refreshed (con : CartController) : Prop where
  lines : ∀ c ∈ con.cartProducts, c.Calculated
  total : con.cartTotalPrices = paidTotal con.cartProducts
  prices : ∀ c ∈ con.cartProducts, c.selectedPrice = c.product.packagePrice c.type

/-- Pricing a line of a known type gives it the total it keeps. -/
theorem CartItem.calculated_repriced {c : CartItem} (hq : c.quantity.isSome = true) (htype : c.KnownType)
    (h : c.WholeCentPrices) : c.repriced.Calculated := by
  obtain ⟨q, hq⟩ := Option.isSome_iff_exists.1 hq
  obtain ⟨u, hu, hcents⟩ := CartItem.unitPrice_of_knownType htype h
  obtain ⟨price, hprice, rfl⟩ := Option.map_eq_some_iff.1 hu
  have htotal : ∃ t, c.newTotal = .ok (some t) := by
    rcases CartItem.newTotal_cases hq hprice with ht | ht <;> exact ⟨_, ht⟩
  obtain ⟨t, ht⟩ := htotal
  rw [CartItem.repriced_eq ht]
  exact ⟨q, _, t, hq, hu, hcents, ht, rfl⟩

theorem CartItem.Calculated.sound {c : CartItem} (h : c.Calculated) : c.Sound := by
  obtain ⟨q, u, t, hq, -, -, -, ht⟩ := h
  exact ⟨by simp [hq], by simp [ht]⟩

theorem refreshed {session : Session} {answer : Except DartError Json} {app app' : App}
    (hknown : ∀ r ∈ CartServices.cartUpdate answer, ∀ c ∈ r.1, c.KnownType ∧ c.WholeCentPrices)
    (hrefresh : (App.updateCartData session answer).exec app = (.ok true, app')) :
    app'.con.Refreshed := by
  have hok := App.ok_of_updateCartData (congrArg Prod.fst hrefresh)
  rcases App.updateCartData_cases session answer app with ⟨-, he⟩ | ⟨-, -, he⟩ | ⟨-, he⟩
  · simp [he] at hrefresh
  · simp [he] at hrefresh
  · rw [he] at hrefresh
    cases hupdate : CartServices.cartUpdate answer with
    | none => simp [hupdate, App.exec_updateCartDataAssign_none] at hrefresh
    | some r =>
        obtain ⟨cartList, details⟩ := r
        -- the refresh succeeded, so every line could be priced and has a quantity
        have hq : ∀ c ∈ cartList, c.quantity.isSome = true := fun c hc =>
          CartItem.quantity_of_calculatePrice (hknown _ hupdate c hc).1 (hok _ hupdate c hc)
        have hlines : ∀ c ∈ cartList.map CartItem.repriced, c.Calculated := by
          intro c hc
          obtain ⟨d, hd, rfl⟩ := List.mem_map.1 hc
          obtain ⟨htype, hcents⟩ := hknown _ hupdate d hd
          exact CartItem.calculated_repriced (hq d hd) htype hcents
        rw [hupdate, App.exec_updateCartDataAssign hq fun c hc => (hlines c hc).sound] at hrefresh
        obtain rfl := (Prod.ext_iff.1 hrefresh).2
        refine ⟨fun c hc => ?_, (paidTotal_withPoints _).symm, fun c hc => ?_⟩
        · obtain ⟨d, hd, rfl⟩ := List.mem_map.1 hc
          exact hlines d hd
        · obtain ⟨c', hc', rfl⟩ := List.mem_map.1 hc
          obtain ⟨d, hd, rfl⟩ := List.mem_map.1 hc'
          obtain ⟨json, hline⟩ := CartServices.exists_cartLine hupdate hd
          have hsame : d.repriced.selectedPrice = d.selectedPrice :=
            (congrArg CartItem.selectedPrice d.repriced_core :)
          have htype : d.repriced.type = d.type := (congrArg CartItem.type d.repriced_core :)
          show d.repriced.selectedPrice = d.repriced.product.packagePrice d.repriced.type
          rw [hsame, htype, CartItem.repriced_product]
          exact CartServices.selectedPrice_of_cartLine hline (hknown _ hupdate d hd).1

theorem CartController.Refreshed.wholeCents {con : CartController} (h : con.Refreshed) :
    WholeCents (linesWorth con.cartProducts) := by
  have hsum : ∀ lines : List CartItem, (∀ c ∈ lines, c.Calculated) → WholeCents (linesWorth lines) := by
    intro lines
    induction lines with
    | nil => exact fun _ => wholeCents_zero
    | cons c cs ih =>
        intro hlines
        have hcs := ih fun d hd => hlines d (List.mem_cons_of_mem c hd)
        cases hc : c.isPaid with
        | false => simpa [linesWorth, hc] using hcs
        | true => simpa [linesWorth, hc] using (hlines c List.mem_cons_self).wholeCents.add hcs
  exact hsum _ h.lines

/-! ## What the bill is off by -/

section

variable {con : CartController} {cost : Option Int}

theorem couponHeight_nonneg (con : CartController) : 0 ≤ con.couponHeight := abs_nonneg _

theorem percentHeight_nonneg (con : CartController) : 0 ≤ con.percentHeight := abs_nonneg _

/-- The three parts fit side by side. -/
theorem parts_le_height (con : CartController) (cost : Option Int) :
    |(cost.getD 0 : Rat)| + con.couponHeight + (1 + linesWeight con.cartProducts) ≤ con.height cost := by
  have hmixed : 0 ≤ (1 + linesWeight con.cartProducts) * (con.percentHeight / 100) :=
    mul_nonneg (by linarith [linesWeight_nonneg con.cartProducts]) (by linarith [percentHeight_nonneg con])
  rw [CartController.height, mul_add, mul_one]
  linarith

/-- The lines, and their percentage. -/
theorem percentage_le_height (con : CartController) (cost : Option Int) :
    |(cost.getD 0 : Rat)| + linesWeight con.cartProducts + (1 + linesWeight con.cartProducts) * con.percentHeight / 100
      ≤ con.height cost := by
  rw [CartController.height, mul_add, mul_one, mul_div_assoc]
  linarith [couponHeight_nonneg con]

theorem CartController.Moderate.bounds (h : con.Moderate cost) :
    1 + linesWeight con.cartProducts ≤ con.height cost ∧ con.height cost ≤ 10 ^ 9 ∧
      con.cartProducts.length ≤ 10 ^ 10 := by
  have hlow : 1 + linesWeight con.cartProducts ≤ con.height cost := by
    linarith [parts_le_height con cost, abs_nonneg (cost.getD 0 : Rat), couponHeight_nonneg con]
  have hcount : (0 : Rat) ≤ con.cartProducts.length := Nat.cast_nonneg _
  have hheight : 1 ≤ con.height cost := by linarith [linesWeight_nonneg con.cartProducts]
  unfold CartController.Moderate at h
  refine ⟨hlow, by nlinarith, ?_⟩
  have hlength : (con.cartProducts.length : Rat) ≤ 10 ^ 10 := by nlinarith
  exact_mod_cast hlength

theorem off_total (hrefreshed : con.Refreshed) {M : Rat} (hM : 1 + linesWeight con.cartProducts ≤ M)
    (h : con.Moderate cost) (hcap : M ≤ con.height cost) :
    Off M (4 * con.cartProducts.length) (linesWorth con.cartProducts) con.cartTotalPrices := by
  obtain ⟨-, hhigh, hcount⟩ := h.bounds
  rw [hrefreshed.total]
  exact off_paidTotal hrefreshed.lines hM (by linarith) (by omega)

/-- A percentage is computed from the total in its own units, which the factor scales; the product and the quotient are
    rounded. -/
theorem off_percentage (hrefreshed : con.Refreshed) (h : con.Moderate cost) {value : Int}
    (hvalue : con.percentHeight = |(value : Rat)|) :
    |linesWorth con.cartProducts * value / 100| ≤
        con.height cost - |(cost.getD 0 : Rat)| - linesWeight con.cartProducts ∧
      Off (con.height cost) (8 * con.cartProducts.length + 3) (linesWorth con.cartProducts * value / 100)
        (nearest (nearest (con.cartTotalPrices * Num.toDouble (.int value)) / 100)) := by
  obtain ⟨hlow, -, hcount⟩ := h.bounds
  have hweight := linesWeight_nonneg con.cartProducts
  have hworth := abs_linesWorth_le con.cartProducts
  have hcost := abs_nonneg (cost.getD 0 : Rat)
  have hpercentage := percentage_le_height con cost
  rw [hvalue] at hpercentage
  have hscaled : |linesWorth con.cartProducts * value| ≤ (1 + linesWeight con.cartProducts) * |(value : Rat)| := by
    rw [abs_mul]
    exact mul_le_mul_of_nonneg_right (by linarith) (abs_nonneg _)
  have hshare : |linesWorth con.cartProducts * value / 100| ≤
      con.height cost - |(cost.getD 0 : Rat)| - linesWeight con.cartProducts := by
    rw [abs_div, abs_of_pos (show (0 : Rat) < 100 by norm_num)]
    linarith
  have htotal := off_total hrefreshed le_rfl h hlow
  have hproduct : Off (100 * con.height cost) (2 * (4 * con.cartProducts.length) + 1)
      (linesWorth con.cartProducts * value) (con.cartTotalPrices * Num.toDouble (.int value)) :=
    (htotal.mul_nearestDouble (by linarith) (wholeCents_int value).eq_zero_or_le).of_le (by linarith)
  have hquotient := (hproduct.nearest (by linarith) (by linarith) (by omega)).div (by norm_num)
  refine ⟨hshare, (hquotient.nearest (by linarith) (by linarith) (by omega)).mono (by linarith) (by omega)⟩

/-- The coupon's value is computed if it has one, and is off by the units of the total and a few. -/
theorem off_couponVal (hrefreshed : con.Refreshed) (h : con.Moderate cost) :
    con.couponShare = none ∧ con.couponVal.toOption = none ∨
      ∃ share off, con.couponShare = some share ∧ con.couponVal.toOption = some off ∧
        |share| ≤ con.height cost - |(cost.getD 0 : Rat)| - linesWeight con.cartProducts ∧
        Off (con.height cost) (8 * con.cartProducts.length + 3) share off := by
  have hparts := parts_le_height con cost
  have hlow := h.bounds.1
  have hweight := linesWeight_nonneg con.cartProducts
  cases hcoupon : con.userCoupon with
  | none =>
      have hroom := couponHeight_nonneg con
      refine Or.inr ⟨0, 0, by simp only [couponShare, hcoupon], by simp only [couponVal, hcoupon]; rfl, ?_,
        Off.refl (by linarith)⟩
      rw [abs_zero]
      linarith
  | some coupon =>
      cases hvalue : coupon.couponValue with
      | none =>
          refine Or.inl ⟨by simp only [couponShare, hcoupon, hvalue]; rfl, ?_⟩
          by_cases hp : coupon.couponType = some 1 <;> simp only [couponVal, hcoupon, hvalue, hp] <;> rfl
      | some value =>
          right
          by_cases hp : coupon.couponType = some 1
          · have hpercent : con.percentHeight = |(value : Rat)| := by
              simp [CartController.percentHeight, hcoupon, Option.filter, hp, hvalue]
            obtain ⟨hsmall, hoff⟩ := off_percentage hrefreshed h hpercent
            refine ⟨_, _, ?_, ?_, hsmall, hoff⟩
            · simp only [couponShare, hcoupon, hvalue, hp, Option.map_some, if_true]
            · simp only [couponVal, hcoupon, hvalue, hp]
              rfl
          · have hfixed : con.couponHeight = |(value : Rat)| := by
              rw [CartController.couponHeight, hcoupon, Option.bind_some, hvalue, Option.getD_some]
            rw [hfixed] at hparts
            have hround : Off (con.height cost) 1 value (nearestDouble value) :=
              off_nearestDouble (by linarith) (by linarith [abs_nonneg (cost.getD 0 : Rat)])
            refine ⟨value, _, ?_, ?_, by linarith, hround.mono (by linarith) (by omega)⟩
            · simp only [couponShare, hcoupon, hvalue, hp, Option.map_some, if_false]
            · simp only [couponVal, hcoupon, hvalue, hp]
              rfl

end

/-- The bill without a discount, as it is computed. -/
theorem billAmount_eq {con : CartController} (cost : Option Int) (h : con.hasDiscount = false) :
    (con.billAmount cost).toOption = (con.shippingTerm cost).toOption.bind fun shipping =>
      con.couponVal.toOption.map fun coupon =>
        roundToCents (nearest (nearest (shipping + con.cartTotalPrices) - coupon)) := by
  unfold CartController.billAmount CartController.billedAmount
  rw [h]
  cases con.shippingTerm cost <;> cases con.couponVal <;> rfl

/-- The shipping of the bill is computed if it is there, and is off by its own rounding. -/
theorem off_shippingTerm {con : CartController} {cost : Option Int} (h : con.Moderate cost) :
    con.billedShipping cost = none ∧ (con.shippingTerm cost).toOption = none ∨
      ∃ shipping off, con.billedShipping cost = some shipping ∧ (con.shippingTerm cost).toOption = some off ∧
        |shipping| ≤ |(cost.getD 0 : Rat)| ∧ WholeCents shipping ∧ Off (con.height cost) 1 shipping off := by
  obtain ⟨hlow, hhigh, -⟩ := h.bounds
  have hweight := linesWeight_nonneg con.cartProducts
  unfold CartController.billedShipping CartController.shippingTerm
  cases con.freeShipping with
  | true =>
      refine Or.inr ⟨0, 0, rfl, rfl, ?_, wholeCents_zero, Off.refl (by linarith)⟩
      rw [abs_zero]
      exact abs_nonneg _
  | false =>
      cases hcost : cost with
      | none => exact Or.inl ⟨rfl, rfl⟩
      | some shipping =>
          subst hcost
          have hparts := parts_le_height con (some shipping)
          have hroom := couponHeight_nonneg con
          rw [Option.getD_some] at hparts
          exact Or.inr ⟨shipping, _, rfl, rfl, le_rfl, wholeCents_int shipping,
            off_nearestDouble (by linarith) (by linarith)⟩

/-- The share of a coupon is in hundredths of a cent, and half a cent only of a percentage. -/
theorem couponShare_cents {con : CartController} (h : con.Refreshed) {share : Rat}
    (hshare : con.couponShare = some share) :
    (∃ m : Int, share * 10000 = m) ∧ (HalfCent share → con.TakesHalfCent) := by
  unfold CartController.couponShare at hshare
  cases hcoupon : con.userCoupon with
  | none =>
      rw [hcoupon] at hshare
      obtain rfl := Option.some.inj hshare
      exact ⟨⟨0, by simp⟩, fun hhalf => absurd hhalf wholeCents_zero.not_halfCent⟩
  | some coupon =>
      rw [hcoupon] at hshare
      obtain ⟨value, hvalue, rfl⟩ := Option.map_eq_some_iff.1 hshare
      by_cases hp : coupon.couponType = some 1
      · simp only [if_pos hp]
        obtain ⟨n, hn⟩ := h.wholeCents
        refine ⟨⟨n * value, ?_⟩, fun hhalf => ⟨coupon, hcoupon, hp, value, hvalue, hhalf⟩⟩
        push_cast
        rw [← hn]
        ring
      · simp only [if_neg hp]
        refine ⟨⟨value * 10000, by push_cast; ring⟩, fun hhalf => absurd hhalf (wholeCents_int value).not_halfCent⟩

/-- While the doubles have the cents right, the bill that is shown is the exact one. -/
theorem billAmount_exact {con : CartController} {cost : Option Int} (hrefreshed : con.Refreshed)
    (hdiscount : con.hasDiscount = false) (h : con.Moderate cost) (hhalf : ¬ con.TakesHalfCent) :
    (con.billAmount cost).toOption = (con.billedShipping cost).bind fun shipping =>
      con.couponShare.map fun coupon => roundToCents (shipping + linesWorth con.cartProducts - coupon) := by
  rw [billAmount_eq cost hdiscount]
  rcases off_shippingTerm h with ⟨hnone, hfails⟩ | ⟨shipping, term, hshipping, hterm, hsmall, hcents, hoff⟩
  · rw [hnone, hfails]
    rfl
  rcases off_couponVal hrefreshed h with ⟨hnone, hfails⟩ | ⟨share, value, hshare, hvalue, hshareSmall, hshareOff⟩
  · rw [hnone, hfails, hshipping, hterm]
    rfl
  obtain ⟨hlow, -, hcount⟩ := h.bounds
  have hweight := linesWeight_nonneg con.cartProducts
  have hworth := abs_linesWorth_le con.cartProducts
  have hM : 1 ≤ con.height cost := by linarith
  have hsum := abs_add_le shipping (linesWorth con.cartProducts)
  have hdiff := abs_sub (shipping + linesWorth con.cartProducts) share
  have hshareNonneg := abs_nonneg share
  have hcharged := (hoff.add (off_total hrefreshed hlow h le_rfl)).nearest hM (by linarith) (by omega)
  have hbilled := (hcharged.sub hshareOff).nearest hM (by linarith) (by omega)
  have hnear : |nearest (nearest (term + con.cartTotalPrices) - value)
      - (shipping + linesWorth con.cartProducts - share)| < 1 / 10000 := by
    have hunits : ((1 + 4 * con.cartProducts.length + 1 + (8 * con.cartProducts.length + 3) + 1 : Nat) : Rat)
        * con.height cost ≤ 12 * 10 ^ 10 := by
      unfold CartController.Moderate at h
      push_cast
      nlinarith
    calc _ ≤ ((1 + 4 * con.cartProducts.length + 1 + (8 * con.cartProducts.length + 3) + 1 : Nat) : Rat)
          * (con.height cost / 2 ^ 51) := hbilled
      _ ≤ 12 * 10 ^ 10 / 2 ^ 51 := by
          rw [mul_div_assoc']
          exact div_le_div_of_nonneg_right hunits (by norm_num)
      _ < 1 / 10000 := by norm_num
  obtain ⟨⟨m, hm⟩, htakes⟩ := couponShare_cents hrefreshed hshare
  have hwhole : WholeCents (shipping + linesWorth con.cartProducts) := hcents.add hrefreshed.wholeCents
  have hround := roundToCents_eq_of_near (x := shipping + linesWorth con.cartProducts - share) (by
    obtain ⟨n, hn⟩ := hwhole
    exact ⟨n * 100 - m, by push_cast; linarith⟩) (fun hbetween => hhalf (htakes (hwhole.halfCent_of_sub hbetween))) hnear
  rw [hshipping, hterm, hshare, hvalue]
  exact congrArg some hround

/-- What an order amounts to whose entries cost what the lines are worth. -/
theorem amount_eq {con : CartController} {checkout : Checkout} {ordersList : List OrderProduct}
    {vendorId : String} {body : OrderBody}
    (hbody : OrderServices.placeOrderBody checkout con ordersList con.userCoupon vendorId = .ok body)
    (hproducts : body.productsAmount = some (linesWorth con.cartProducts)) :
    ∃ address, checkout.selectedAddress = some address ∧
      body.amount = (con.postedShipping checkout address).bind fun shipping =>
        con.couponShare.map fun coupon =>
          roundToCents (linesWorth con.cartProducts + shipping - coupon) := by
  obtain ⟨address, haddress, -, hshipping, htype, hvalue, hfree⟩ :=
    OrderServices.placeOrderBody_fields hbody
  refine ⟨address, haddress, ?_⟩
  rw [← shippingAmount_eq hshipping hfree, ← couponAmount_eq htype hvalue, OrderBody.amount,
    hproducts]
  simp only [Option.bind_eq_bind, Option.bind_some]
  cases body.shippingAmount <;> cases body.couponAmount (linesWorth con.cartProducts) <;> rfl

/-- The two shippings are one number. -/
theorem sameShipping_iff {con : CartController} {checkout : Checkout} {address : AddressModel} :
    SameShipping con checkout address ↔
      (∃ coupon, con.couponShare = some coupon) ∧
        ∃ shipping, con.billedShipping address.cost = some shipping ∧
          con.postedShipping checkout address = some shipping := by
  have hvalued : (∃ coupon, con.couponShare = some coupon) ↔
      ∀ coupon ∈ con.userCoupon, coupon.couponValue.isSome = true := by
    unfold CartController.couponShare
    cases con.userCoupon with
    | none => simp
    | some coupon => cases hv : coupon.couponValue <;> simp [hv]
  have hterm : (∃ shipping, con.billedShipping address.cost = some shipping ∧
      con.postedShipping checkout address = some shipping) ↔
      (con.freeShipping = true ∨ ∃ cost, address.cost = some cost ∧
        (checkout.isMultiVendor = true → con.vendorShipping.bind readNumber = some (cost : Rat))) := by
    unfold CartController.billedShipping CartController.postedShipping
    cases con.freeShipping with
    | true => simp
    | false =>
        cases address.cost with
        | none => simp
        | some cost => cases checkout.isMultiVendor <;> simp
  rw [hvalued, hterm]
  exact ⟨fun h => ⟨h.valued, h.shipping⟩, fun h => ⟨h.1, h.2⟩⟩

theorem wholeCents_billedShipping {con : CartController} {cost : Option Int} {shipping : Rat}
    (h : con.billedShipping cost = some shipping) : WholeCents shipping := by
  unfold CartController.billedShipping at h
  split at h
  · exact (Option.some.inj h) ▸ wholeCents_zero
  · obtain ⟨cost, -, rfl⟩ := Option.map_eq_some_iff.1 h
    exact wholeCents_int cost

theorem wholeCents_postedShipping {con : CartController} {checkout : Checkout}
    {address : AddressModel} {shipping : Rat}
    (hcents : ∀ n ∈ con.vendorShipping.bind readNumber, WholeCents n)
    (h : con.postedShipping checkout address = some shipping) : WholeCents shipping := by
  unfold CartController.postedShipping at h
  split at h
  · exact (Option.some.inj h) ▸ wholeCents_zero
  · split at h
    · exact hcents _ h
    · obtain ⟨cost, -, rfl⟩ := Option.map_eq_some_iff.1 h
      exact wholeCents_int cost

/-- The body posted after a refresh is built from the lines in the cart, and costs what they are worth. -/
theorem posted_products {app : App} {checkout : Checkout} {body : OrderBody} (hrefreshed : app.con.Refreshed)
    (hpost : ((App.placeOrderPost checkout).exec app).1 = .ok (some body)) :
    (∃ vendorId, OrderServices.placeOrderBody checkout app.con
      (app.con.cartProducts.map CartItem.orderProduct) app.con.userCoupon vendorId = .ok body) ∧
      body.productsAmount = some (linesWorth app.con.cartProducts) := by
  have hposted := toOption_join_eq_some.2 hpost
  rcases (App.placeOrderPost_cases checkout app).2 with hnone | ⟨body', vendorId, hsome, hbody⟩
  · simp [hposted] at hnone
  · obtain rfl : body = body' := Option.some.inj (hposted.symm.trans hsome)
    obtain ⟨-, -, hentries, -⟩ := OrderServices.placeOrderBody_fields hbody
    exact ⟨⟨vendorId, hbody⟩, productsAmount_eq hentries fun c hc =>
      amount_orderProduct (hrefreshed.lines c hc) (hrefreshed.prices c hc)⟩

/-- Two shippings in whole cents that give the same rounded amount are the same: a coupon may have
    fractions of a cent, but it is taken off both. -/
theorem shipping_inj {shipping posted total coupon : Rat} (hs : WholeCents shipping)
    (hp : WholeCents posted)
    (h : roundToCents (shipping + total - coupon) = roundToCents (total + posted - coupon)) :
    shipping = posted := by
  have hdiff : total + posted - coupon - (shipping + total - coupon) = posted - shipping := by ring
  have hsame := roundToCents_inj (hdiff ▸ hp.sub hs) h
  linarith

/-- An order posted after a successful refresh without a discount, the amounts being moderate and no half cent taken
    off, amounts to the bill if the coupon has a value and the shipping is the same number on both sides; and, as
    shipping is in whole cents, only then. -/
theorem amount_eq_bill {session : Session} {answer : Except DartError Json} {app app' : App}
    {checkout : Checkout} {body : OrderBody}
    (hknown : ∀ r ∈ CartServices.cartUpdate answer, ∀ c ∈ r.1, c.KnownType ∧ c.WholeCentPrices)
    (hrefresh : (App.updateCartData session answer).exec app = (.ok true, app'))
    (hdiscount : app'.con.hasDiscount = false)
    (hpost : ((App.placeOrderPost checkout).exec app').1 = .ok (some body)) :
    ∃ address, checkout.selectedAddress = some address ∧
      (app'.con.Moderate address.cost → ¬ app'.con.TakesHalfCent →
        (SameShipping app'.con checkout address → AmountIsBill app'.con address body) ∧
        ((∀ n ∈ app'.con.vendorShipping.bind readNumber, WholeCents n) →
          AmountIsBill app'.con address body → SameShipping app'.con checkout address)) := by
  have hrefreshed := refreshed hknown hrefresh
  obtain ⟨⟨vendorId, hbody⟩, hproducts⟩ := posted_products hrefreshed hpost
  obtain ⟨address, haddress, hamount⟩ := amount_eq hbody hproducts
  refine ⟨address, haddress, fun hmoderate hhalf => ?_⟩
  have hbill := billAmount_exact hrefreshed hdiscount hmoderate hhalf
  refine ⟨fun hsame => ?_, fun hcents hagree => ?_⟩
  · obtain ⟨⟨coupon, hcoupon⟩, shipping, hterm, hshipping⟩ := sameShipping_iff.1 hsame
    refine ⟨roundToCents (shipping + linesWorth app'.con.cartProducts - coupon), ?_, ?_⟩
    · rw [hbill, hterm, hcoupon]
      rfl
    · rw [hamount, hshipping, hcoupon, add_comm shipping]
      rfl
  · obtain ⟨total, htotal, hsum⟩ := hagree
    obtain ⟨shipping, hterm, hrest⟩ := Option.bind_eq_some_iff.1 (hbill.symm.trans htotal)
    obtain ⟨coupon, hcoupon, hround⟩ := Option.map_eq_some_iff.1 hrest
    obtain ⟨posted, hshipping, hrest⟩ := Option.bind_eq_some_iff.1 (hamount.symm.trans hsum)
    obtain ⟨coupon', hcoupon', hround'⟩ := Option.map_eq_some_iff.1 hrest
    obtain rfl : coupon = coupon' := Option.some.inj (hcoupon.symm.trans hcoupon')
    obtain rfl : shipping = posted := shipping_inj (wholeCents_billedShipping hterm)
      (wholeCents_postedShipping hcents hshipping) (hround.trans hround'.symm)
    exact sameShipping_iff.2 ⟨⟨coupon, hcoupon⟩, shipping, hterm, hshipping⟩

/-! ## A vendor's shipping that is not the address's, and half a cent -/

instance (x : Rat) : Decidable (HalfCent x) :=
  decidable_of_iff (WholeCents (x - 1 / 200)) (exists_congr fun n => by constructor <;> intro h <;> linarith)

instance (con : CartController) : Decidable con.TakesHalfCent :=
  decidable_of_iff (∃ coupon ∈ con.userCoupon.toList, coupon.couponType = some 1 ∧
    ∃ value ∈ coupon.couponValue.toList, HalfCent (linesWorth con.cartProducts * value / 100))
    (by simp [CartController.TakesHalfCent])

instance (con : CartController) (cost : Option Int) : Decidable (con.Moderate cost) :=
  inferInstanceAs (Decidable (_ ≤ _))

/-- A cart of two items whose vendor ships for 15, with a percentage coupon. -/
def sampleBilled (price : Num) (percent : Int) : App :=
  let app := ((App.addToCart (Sample.multiVendor [7]) (Sample.draft 1 7 price 2).item).exec {}).2
  { app with con := { app.con with
    userCoupon := some { couponValue := some percent, couponType := some 1 } } }

/-- Two paid items, and one as a gift. -/
def sampleBilledAnswer (price : Num) : Except DartError Json :=
  Sample.answer [Sample.line 1 7 price 2 false, Sample.line 1 7 price 1 true] (.int 0) (.int 10)

/-- The cart after the refresh. -/
def sampleRefreshed (price : Num) (percent : Int) : App :=
  ((App.updateCartData {} (sampleBilledAnswer price)).exec (sampleBilled price percent)).2

/-- Multi-vendor mode, with an address of the shipping cost. -/
def sampleCheckout (cost : Int) : Checkout :=
  { currentUser := some {}, selectedAddress := some { cost := some cost }
    isMultiVendor := true, orderComment := "" }

/-- The body that is posted. -/
def samplePosted (price : Num) (percent cost : Int) : Option OrderBody :=
  ((App.placeOrderPost (sampleCheckout cost)).exec (sampleRefreshed price percent)).1.toOption.join

/-- A posted order whose amount is not the number shown. -/
theorem amount_ne_of_shown {price : Num} {percent cost : Int} (posted shown : Rat)
    (hknown : ∀ r ∈ CartServices.cartUpdate (sampleBilledAnswer price), ∀ c ∈ r.1, c.KnownType ∧ c.WholeCentPrices)
    (hrefresh : ((App.updateCartData {} (sampleBilledAnswer price)).exec (sampleBilled price percent)).1 = .ok true)
    (hdiscount : (sampleRefreshed price percent).con.hasDiscount = false)
    (hposted : (samplePosted price percent cost).map OrderBody.amount = some (some posted))
    (hshown : ((sampleRefreshed price percent).con.billAmount (some cost)).toOption = some shown)
    (hne : shown ≠ posted) : ∃ app' body,
    (App.updateCartData {} (sampleBilledAnswer price)).exec (sampleBilled price percent) = (.ok true, app') ∧
    (∀ r ∈ CartServices.cartUpdate (sampleBilledAnswer price), ∀ c ∈ r.1, c.KnownType ∧ c.WholeCentPrices) ∧
    app'.con.hasDiscount = false ∧
    ((App.placeOrderPost (sampleCheckout cost)).exec app').1 = .ok (some body) ∧
    ∀ address ∈ (sampleCheckout cost).selectedAddress, ¬ AmountIsBill app'.con address body := by
  obtain ⟨body, hbody, hamount⟩ := Option.map_eq_some_iff.1 hposted
  refine ⟨_, body, Prod.ext hrefresh rfl, hknown, hdiscount, toOption_join_eq_some.1 hbody, ?_⟩
  rintro address haddress ⟨total, htotal, hsum⟩
  obtain rfl := Option.some.inj haddress
  obtain rfl : total = shown := Option.some.inj (htotal.symm.trans hshown)
  exact hne (Option.some.inj (hsum.symm.trans hamount))

/-- Two items for 5 and a coupon of ten per cent: the bill shows the address's shipping, 10 + 20 - 1, the order posts
    the vendor's, 10 + 15 - 1. Two for 9.95 and one of fifteen per cent: the order amounts to 19.90 + 15 - 2.985,
    which is 31.92 in cents, and the bill shows 31.91. -/
theorem amount_ne_bill :
    (∃ app' body,
      (App.updateCartData {} (sampleBilledAnswer (.int 5))).exec (sampleBilled (.int 5) 10) = (.ok true, app') ∧
      (∀ r ∈ CartServices.cartUpdate (sampleBilledAnswer (.int 5)), ∀ c ∈ r.1, c.KnownType ∧ c.WholeCentPrices) ∧
      app'.con.hasDiscount = false ∧
      ((App.placeOrderPost (sampleCheckout 20)).exec app').1 = .ok (some body) ∧
      ∀ address ∈ (sampleCheckout 20).selectedAddress, ¬ AmountIsBill app'.con address body) ∧
    ∃ app' body,
      (App.updateCartData {} (sampleBilledAnswer (.double (199 / 20)))).exec (sampleBilled (.double (199 / 20)) 15)
        = (.ok true, app') ∧
      (∀ r ∈ CartServices.cartUpdate (sampleBilledAnswer (.double (199 / 20))), ∀ c ∈ r.1,
        c.KnownType ∧ c.WholeCentPrices) ∧
      app'.con.hasDiscount = false ∧
      ((App.placeOrderPost (sampleCheckout 15)).exec app').1 = .ok (some body) ∧
      ∀ address ∈ (sampleCheckout 15).selectedAddress, ¬ AmountIsBill app'.con address body :=
  ⟨amount_ne_of_shown 24 29 (by decide +kernel) (by decide +kernel) (by decide +kernel) (by decide +kernel)
      (by decide +kernel) (by norm_num),
    amount_ne_of_shown (3192 / 100) (3191 / 100) (by decide +kernel) (by decide +kernel) (by decide +kernel)
      (by decide +kernel) (by decide +kernel) (by norm_num)⟩

theorem amount_eq_bill_of_sample : ∃ app' body,
    (App.updateCartData {} (sampleBilledAnswer (.int 5))).exec (sampleBilled (.int 5) 10) = (.ok true, app') ∧
    ((App.placeOrderPost (sampleCheckout 15)).exec app').1 = .ok (some body) ∧
    ∃ address, (sampleCheckout 15).selectedAddress = some address ∧
      AmountIsBill app'.con address body := by
  obtain ⟨body, hbody⟩ := Option.isSome_iff_exists.1 (show (samplePosted (.int 5) 10 15).isSome = true by decide +kernel)
  have hrefresh : (App.updateCartData {} (sampleBilledAnswer (.int 5))).exec (sampleBilled (.int 5) 10)
      = (.ok true, sampleRefreshed (.int 5) 10) := Prod.ext (by decide +kernel) rfl
  have hpost := toOption_join_eq_some.1 hbody
  obtain ⟨address, haddress, hbill⟩ := amount_eq_bill (by decide +kernel) hrefresh (by decide +kernel) hpost
  obtain rfl := Option.some.inj haddress
  exact ⟨_, body, hrefresh, hpost, _, haddress, (hbill (by decide +kernel) (by decide +kernel)).1
    ⟨by decide +kernel, Or.inr ⟨15, rfl, fun _ => by decide +kernel⟩⟩⟩

end Nourgomla
