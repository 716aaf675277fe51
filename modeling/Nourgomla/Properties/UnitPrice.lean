import Nourgomla.System
import Nourgomla.Widgets.Prices

set_option autoImplicit false

/-! # One unit price

`calculatePrice` multiplies the sale price if it is positive and the price of the package otherwise.
The cards print every sale price but the integer 0, also a missing one, the sheet and the tile every
sale price but a zero, and the line of the bill never prints one. All four agree with
`calculatePrice` exactly if the sale price is the integer 0, or the price itself
(`oneUnitPrice_iff`). -/

namespace Nourgomla

open Method CartController

/-- The place prints a number of this value. -/
def Prints (place : Option Num) (unit : Rat) : Prop := ∃ n, place = some n ∧ n.toRat = unit

theorem prints_some {n : Num} {unit : Rat} : Prints (some n) unit ↔ n.toRat = unit := by
  constructor
  · rintro ⟨_, ⟨⟩, h⟩
    exact h
  · intro h
    exact ⟨n, rfl, h⟩

/-- The four places print the unit price, for a line of the product in the package type. -/
structure OneUnitPrice (product : Product) (type : Int) (cart : CartItem) (unit : Rat) : Prop where
  card : Prints (cardPrice product type) unit
  sheet : Prints (sheetPrice product type) unit
  tile : Prints cart.tilePrice unit
  bill : Prints cart.billLine.unit unit

/-! ## What `calculatePrice` multiplies -/

/-- The unit price of a price and a sale price. -/
def unitOf (price : Num) (salePrice : Option Num) : Num :=
  (salePrice.filter fun sale => 0 < sale.toRat).getD price

theorem unitOf_some (price sale : Num) :
    unitOf price (some sale) = if 0 < sale.toRat then sale else price := by
  unfold unitOf
  by_cases hpos : 0 < sale.toRat <;> simp [Option.filter, hpos]

/-- The line `setValues` makes of a fresh one. -/
theorem exec_setValues [Doubles] (product : Product) (quantity : Int) {type : Int}
    (htype : type = 1 ∨ type = 2 ∨ type = 3) :
    ∃ price cart, product.packagePrice (some type) = some price ∧
      (setValues quantity type).exec { product } = (.ok (), cart) ∧
      cart.selectedPrice = some price ∧
      cart.selectedSalePrice = product.packageSale (some type) ∧
      (cart.totalPrice =
          some (parsedCents (Num.mul (.int quantity) (unitOf price (product.packageSale (some type))))) ∨
        cart.totalPrice = some (Num.mul (.int quantity) (unitOf price (product.packageSale (some type))))) := by
  -- the line `calculatePrice` is run on, with its price
  obtain ⟨d, price, hd, hprice, hselected, hsale, hquantity, hpackage⟩ :
      ∃ (d : CartItem) (price : Num),
      (setValues quantity type).exec { product } = calculatePrice.exec d ∧
      product.packagePrice (some type) = some price ∧ d.selectedPrice = some price ∧
      d.selectedSalePrice = product.packageSale (some type) ∧ d.quantity = some quantity ∧
      d.product.packagePrice d.type = some price := by
    rcases htype with rfl | rfl | rfl
    · exact ⟨_, _, rfl, rfl, rfl, rfl, rfl, rfl⟩
    · exact ⟨_, _, rfl, rfl, rfl, rfl, rfl, rfl⟩
    · exact ⟨_, _, rfl, rfl, rfl, rfl, rfl, rfl⟩
  have hquantity' : d.quantity.isSome = true := by rw [hquantity]; rfl
  have hcore : d.repriced.core = d.core := d.repriced_core
  have hunit : d.salePrice.getD price = unitOf price (product.packageSale (some type)) := hsale ▸ rfl
  have htotal := CartItem.newTotal_cases hquantity hpackage
  rw [hunit] at htotal
  refine ⟨price, d.repriced, hprice, hd.trans (CartItem.exec_calculatePrice hquantity'),
    (congrArg CartItem.selectedPrice hcore :).trans hselected,
    (congrArg CartItem.selectedSalePrice hcore :).trans hsale, ?_⟩
  rcases htotal with ht | ht
  · left
    rw [CartItem.repriced_eq ht]
    rfl
  · right
    rw [CartItem.repriced_eq ht]
    rfl

/-! ## The places -/

/-- All places agree on a line whose prices are the product's. -/
theorem oneUnitPrice_iff_of_line {product : Product} {type : Int} {cart : CartItem} {price : Num}
    (hprice : product.packagePrice (some type) = some price)
    (hselected : cart.selectedPrice = some price)
    (hsale : cart.selectedSalePrice = product.packageSale (some type)) :
    OneUnitPrice product type cart (unitOf price (product.packageSale (some type))).toRat ↔
      product.packageSale (some type) = some (.int 0) ∨
        ∃ sale, product.packageSale (some type) = some sale ∧ sale.toRat = price.toRat := by
  have hcard : cardPrice product type = if product.packageSale (some type) = some (.int 0)
      then some price else product.packageSale (some type) := by
    rw [cardPrice, packagingInfo_eq, hprice]
  have hsheet : sheetPrice product type = if noSale (product.packageSale (some type))
      then some price else product.packageSale (some type) := by
    rw [sheetPrice, hprice]
  have htile : cart.tilePrice = sheetPrice product type := by
    rw [CartItem.tilePrice, hsale, hselected, hsheet]
  have hbill : cart.billLine.unit = some price := hselected
  constructor
  · rintro ⟨hcard', -, -, hbill'⟩
    rw [hcard] at hcard'
    rw [hbill, prints_some] at hbill'
    by_cases hzero : product.packageSale (some type) = some (.int 0)
    · exact Or.inl hzero
    · -- the card prints the sale price and the bill the price, and they are the same number
      rw [if_neg hzero] at hcard'
      obtain ⟨sale, hsome, hvalue⟩ := hcard'
      exact Or.inr ⟨sale, hsome, hvalue.trans hbill'.symm⟩
  · intro hcases
    -- in both cases the unit price is the price
    have hunit : (unitOf price (product.packageSale (some type))).toRat = price.toRat := by
      rcases hcases with hzero | ⟨sale, hsome, hvalue⟩
      · rw [hzero]
        rfl
      · rw [hsome, unitOf_some]
        split
        · exact hvalue
        · rfl
    have hshown : ∀ c : Prop, ∀ _ : Decidable c, (product.packageSale (some type) = some (.int 0) → c) →
        Prints (if c then some price else product.packageSale (some type)) price.toRat := by
      intro c _ himp
      by_cases hc : c
      · rw [if_pos hc]
        exact prints_some.2 rfl
      · rw [if_neg hc]
        rcases hcases with hzero | ⟨sale, hsome, hvalue⟩
        · exact absurd (himp hzero) hc
        · rw [hsome]
          exact prints_some.2 hvalue
    have hsheet' : Prints (sheetPrice product type) price.toRat := by
      rw [hsheet]
      refine hshown _ _ fun hzero => ?_
      rw [hzero]
      rfl
    rw [hunit]
    refine ⟨?_, hsheet', htile ▸ hsheet', ?_⟩
    · rw [hcard]
      exact hshown _ _ id
    · rw [hbill]
      exact prints_some.2 rfl

/-- For every product, quantity and package type, the line's total is its quantity times a unit
    price, rounded to cents or as it is; and the cards, the sheet, the tile and the bill all print
    this unit price exactly if the sale price is the integer 0 or equals the price. -/
theorem oneUnitPrice_iff [Doubles] (product : Product) (quantity : Int) {type : Int}
    (htype : type = 1 ∨ type = 2 ∨ type = 3) :
    ∃ price cart, product.packagePrice (some type) = some price ∧
      (setValues quantity type).exec { product } = (.ok (), cart) ∧
      let unit := unitOf price (product.packageSale (some type))
      (cart.totalPrice = some (parsedCents (Num.mul (.int quantity) unit)) ∨
        cart.totalPrice = some (Num.mul (.int quantity) unit)) ∧
      (OneUnitPrice product type cart unit.toRat ↔
        product.packageSale (some type) = some (.int 0) ∨
          ∃ sale, product.packageSale (some type) = some sale ∧ sale.toRat = price.toRat) := by
  obtain ⟨price, cart, hprice, hexec, hselected, hsale, htotal⟩ :=
    exec_setValues product quantity htype
  exact ⟨price, cart, hprice, hexec, htotal, oneUnitPrice_iff_of_line hprice hselected hsale⟩

/-! ## Three kinds of sale price -/

instance (place : Option Num) (unit : Rat) : Decidable (Prints place unit) :=
  decidable_of_iff (place.map Num.toRat = some unit) (by
    cases place <;> simp [Prints])

/-- A product for 12 with a sale price. -/
def sampleOnSale (sale : Option Num) : Product :=
  { Sample.product 1 7 (.int 12) with price1Sale := sale }

/-- The line of one item of it. -/
def sampleOnSaleLine (sale : Option Num) : CartItem :=
  ((setValues 1 1).exec { product := sampleOnSale sale }).2

/-- On sale for 10 the bill prints `12 * 1 = 10`; a sale price of 0.0 or of null is printed by the
    cards, and one of -3 by the cards, the sheet and the tile, while the line costs 12. -/
theorem places_differ :
    ((sampleOnSaleLine (some (.int 10))).totalPrice = some 10 ∧
      ¬ Prints (sampleOnSaleLine (some (.int 10))).billLine.unit 10) ∧
    ((sampleOnSaleLine (some (.double 0))).totalPrice = some 12 ∧
      ¬ Prints (cardPrice (sampleOnSale (some (.double 0))) 1) 12) ∧
    ((sampleOnSaleLine none).totalPrice = some 12 ∧
      ¬ Prints (cardPrice (sampleOnSale none) 1) 12) ∧
    (sampleOnSaleLine (some (.int (-3)))).totalPrice = some 12 ∧
      ¬ Prints (sheetPrice (sampleOnSale (some (.int (-3)))) 1) 12 ∧
      ¬ Prints (sampleOnSaleLine (some (.int (-3)))).tilePrice 12 := by
  decide +kernel

/-- Without a sale all places print the price. -/
theorem oneUnitPrice_of_sample : ∃ price cart,
    (setValues 2 1).exec { product := sampleOnSale (some (.int 0)) } = (.ok (), cart) ∧
    OneUnitPrice (sampleOnSale (some (.int 0))) 1 cart
      (unitOf price (some (.int 0))).toRat := by
  obtain ⟨price, cart, -, hexec, -, hiff⟩ :=
    @oneUnitPrice_iff _ (sampleOnSale (some (.int 0))) 2 1 (Or.inl rfl)
  exact ⟨price, cart, hexec, hiff.2 (Or.inl rfl)⟩

end Nourgomla
