import Nourgomla.Library.Cents
import Nourgomla.Library.FirstMatch
import Nourgomla.Library.Method
import Nourgomla.Models.Cart

set_option autoImplicit false

/-! # The cart in memory (`controllers/cart_controller.dart`)

The fields of `CartController` and the methods that only touch them: pricing a line, the two cached
sums, looking lines up, and the bill. Lines are objects in a list: a method that gets hold of one
through `getCartById` writes to the first line with that product id. Amounts are doubles. -/

namespace Nourgomla

variable [Doubles]

structure CartController where
  cartProducts : List CartItem := []
  isLoading : Bool := false
  dataUpdated : Bool := false
  editMood : Bool := false
  cartTotalPrices : Rat := 0
  cartDetails : Option CartDetails := none
  userCoupon : Option Coupon := none
  totalPoints : Int := 0
  vendorShipping : Option String := none
deriving DecidableEq

/-! ## Pricing a line -/

/-- The sale price of a line on sale: `selectedSalePrice != null && selectedSalePrice > 0`. -/
def CartItem.salePrice (cart : CartItem) : Option Num :=
  cart.selectedSalePrice.filter fun p => 0 < p.toRat

/-- `cart.quantity * price` -/
def CartItem.times (cart : CartItem) (price : Num) : Except DartError Rat :=
  return Num.mul (.int (← notNull cart.quantity)) price

/-- `double.parse(amount.toStringAsFixed(2))` -/
def parsedCents (amount : Rat) : Rat := nearest (roundToCents amount)

/-- The total `calculatePrice` assigns, if its switch has a case for the line's type. -/
def CartItem.newTotal (cart : CartItem) : Except DartError (Option Rat) :=
  match cart.type with
  | some 1 =>
    match cart.salePrice with
    | some sale => return some (parsedCents (← cart.times sale))
    | none => return some (parsedCents (← cart.times cart.product.package1Price))
  | some 2 =>
    match cart.salePrice with
    | some sale => return some (parsedCents (← cart.times sale))
    | none => return some (← cart.times cart.product.package2Price)
  | some 3 =>
    match cart.salePrice with
    | some sale => return some (parsedCents (← cart.times sale))
    | none => return some (parsedCents (← cart.times cart.product.package3Price))
  | _ => return none

namespace CartController

def calculatePrice : Method DartError CartItem Unit := do
  let total ← Method.ofExcept (← get).newTotal
  modify fun cart => { cart with totalPrice := total.orElse fun _ => cart.totalPrice }

def setValues (selectedQuantity selectedType : Int) : Method DartError CartItem Unit := do
  modify fun cart => { cart with quantity := some selectedQuantity, type := some selectedType }
  match selectedType with
  | 1 => modify fun cart => { cart with
      selectedPackagingName := cart.product.package1Name
      selectedPrice := some cart.product.package1Price
      selectedSalePrice := cart.product.price1Sale
      selectedPackagingStock := cart.product.package1Stock }
  | 2 => modify fun cart => { cart with
      selectedPackagingName := cart.product.package2Name
      selectedPrice := some cart.product.package2Price
      selectedSalePrice := cart.product.price2Sale
      selectedPackagingStock := cart.product.package2Stock }
  | 3 => modify fun cart => { cart with
      selectedPackagingName := cart.product.package3Name
      selectedPrice := some cart.product.package3Price
      selectedSalePrice := cart.product.price3Sale
      selectedPackagingStock := cart.product.package3Stock }
  -- any other type keeps the package that was selected before
  | _ => pure ()
  calculatePrice

/-- The line the cart sheet builds: a fresh line of the product, after the spin controls' calls of
    `setValues`, each a quantity and a type. -/
def sheetItem (product : Product) (calls : List (Int × Int)) : CartItem :=
  calls.foldl (fun cart call => ((setValues call.1 call.2).exec cart).2) { product }

/-- Of the points of a line, and of the sum below, nothing is compared with anything; in the program both are of
    64 bits, which no count of a shop's points leaves. -/
def cartItemPoints (cart : CartItem) : Except DartError Int :=
  if cart.product.points > 0 then do
    let quantity ← notNull cart.quantity
    if quantity > 0 then
      match cart.type with
      | some 1 => return cart.product.package1Count * quantity * cart.product.points
      | some 2 =>
        return cart.product.package1Count * cart.product.package2Count * quantity
          * cart.product.points
      | some 3 =>
        return cart.product.package1Count * cart.product.package2Count
          * cart.product.package3Count * quantity * cart.product.points
      | _ => return 1
    else return 0
  else return 0

/-! ## The cached sums -/

/-- One turn of the points loop, on the line and the sum so far. -/
def addPoints : Method DartError (CartItem × Int) Unit := do
  let points ← Method.ofExcept (cartItemPoints (← get).1)
  modify fun t => ({ t.1 with cartItemPoints := points }, t.2 + points)

def calculateTotalPoints : Method DartError CartController Unit := do
  -- an empty list keeps the points it had
  if !(← get).cartProducts.isEmpty then
    modify fun con => { con with totalPoints := 0 }
    (Method.forEach addPoints).onPart (fun con => (con.cartProducts, con.totalPoints))
      fun t con => { con with cartProducts := t.1, totalPoints := t.2 }

/-- One turn of the totals loop: a line that is no gift adds its total. -/
def addTotal : Method DartError (CartItem × Rat) Unit := do
  let cart := (← get).1
  if cart.isPaid then
    let total ← Method.ofExcept (notNull cart.totalPrice)
    modify fun t => (t.1, nearest (t.2 + total))

def changeTotalPrice : Method DartError CartController Unit := do
  modify fun con => { con with cartTotalPrices := 0 }
  (Method.forEach addTotal).onPart (fun con => (con.cartProducts, con.cartTotalPrices))
    fun t con => { con with cartProducts := t.1, cartTotalPrices := t.2 }

/-! ## Looking lines up -/

/-- The test of `getCartById`. -/
def hasId (productId : Option Int) (cart : CartItem) : Bool := cart.product.id == productId

omit [Doubles] in
theorem hasId_iff {productId : Option Int} (cart : CartItem) :
    hasId productId cart = true ↔ cart.product.id = productId := beq_iff_eq

def getCartById (con : CartController) (productId : Option Int) : Option CartItem :=
  con.cartProducts.find? (hasId productId)

def isProductInCart (con : CartController) (productId : Option Int) : Bool :=
  !con.cartProducts.isEmpty && (con.getCartById productId).isSome

def isFromTheSameVendor (con : CartController) (vendorId : Int) : Bool :=
  con.cartProducts.isEmpty || con.cartProducts.any (·.product.vendorId == vendorId)

/-- Run a method on the line `getCartById` returns; a null line has no fields. -/
def onCartById (productId : Option Int) (m : Method DartError CartItem Unit) :
    Method DartError CartController Unit := do
  match (← get).getCartById productId with
  | some cart =>
    m.onPart (fun _ => cart) fun cart con =>
      { con with cartProducts := updateFirst (hasId productId) (fun _ => cart) con.cartProducts }
  | none => throw .noSuchMethod

/-! ## The edits in memory

Each is the part of a method of `CartApp` between its table writes and its awaits. -/

/-- `addToCart` after its `await`. -/
def appendLine (cart : CartItem) : Method DartError CartController Unit := do
  modify fun con => { con with cartProducts := con.cartProducts ++ [cart] }
  calculateTotalPoints
  changeTotalPrice

/-- `deleteFromCart` before its table write. -/
def removeLine (productId : Option Int) : Method DartError CartController Unit := do
  modify fun con => { con with cartProducts := con.cartProducts.eraseP (hasId productId) }
  modify fun con => if con.cartProducts.isEmpty then { con with editMood := false } else con
  calculateTotalPoints
  changeTotalPrice

/-- `changeQuantity` before its table write. -/
def writeQuantity (productId : Option Int) (quantity : Int) :
    Method DartError CartController Unit := do
  onCartById productId do
    modify fun cart => { cart with quantity := some quantity }
    calculatePrice
  calculateTotalPoints

/-- One turn of `updateCartData`'s loop: price the line, and add it unless it is a gift. -/
def addFreshTotal : Method DartError (CartItem × Rat) Unit := do
  calculatePrice.onPart Prod.fst fun cart t => (cart, t.2)
  addTotal

/-- `updateCartData` on the lines and details of an answer. -/
def assignAnswer (cartList : List CartItem) (details : CartDetails) :
    Method DartError CartController Unit := do
  modify fun con => { con with cartTotalPrices := 0 }
  modify fun con => { con with cartProducts := cartList }
  modify fun con => { con with cartDetails := some details }
  modify fun con => { con with isLoading := false }
  modify fun con => { con with editMood := false }
  modify fun con => { con with dataUpdated := true }
  -- a line that cannot be priced throws here, with the flag already set
  (Method.forEach addFreshTotal).onPart (fun con => (con.cartProducts, con.cartTotalPrices))
    fun t con => { con with cartProducts := t.1, cartTotalPrices := t.2 }
  calculateTotalPoints

/-- `getAllProducts` on the lines of its query. -/
def assignLines (cartList : List CartItem) : Method DartError CartController Unit := do
  modify fun con => { con with cartProducts := cartList }
  -- the shipping of the first line stands for the cart's; an empty table keeps the one captured
  modify fun con =>
    match con.cartProducts with
    | [] => con
    | first :: _ => { con with vendorShipping := first.vendorShipping }
  calculateTotalPoints
  modify fun con => { con with isLoading := false }
  changeTotalPrice

/-- `clearCart` in memory. -/
def emptyCart : Method DartError CartController Unit :=
  modify fun con => { con with
    cartProducts := []
    userCoupon := none
    dataUpdated := false
    cartDetails := none
    totalPoints := 0
    cartTotalPrices := 0 }

/-! ## The bill -/

def hasDiscount (con : CartController) : Bool :=
  match con.cartDetails with
  | some details => details.cartDiscount.any fun d => d.toRat ≠ 0
  | none => false

def freeShipping (con : CartController) : Bool :=
  con.userCoupon.any fun coupon => coupon.freeShipping == some 1

def couponVal (con : CartController) : Except DartError Rat :=
  match con.userCoupon with
  | some coupon =>
    if coupon.couponType = some 1 then
      return nearest (nearest (con.cartTotalPrices * Num.toDouble (.int (← notNull coupon.couponValue))) / 100)
    else return Num.toDouble (.int (← notNull coupon.couponValue))
  | none => return 0

/-- `freeShipping ? 0 : shippingCost`, as an operand -/
def shippingTerm (con : CartController) (shippingCost : Option Int) : Except DartError Rat :=
  if con.freeShipping then return 0 else return Num.toDouble (.int (← notNull shippingCost))

/-- The number that `billAmount` formats. -/
def billedAmount (con : CartController) (shippingCost : Option Int) : Except DartError Rat := do
  let shipping ← con.shippingTerm shippingCost
  if con.hasDiscount then
    let details ← notNull con.cartDetails
    let total ← notNull details.totalPriceWithDiscount
    return nearest (nearest (shipping + total.toDouble) - (← con.couponVal))
  else
    return nearest (nearest (shipping + con.cartTotalPrices) - (← con.couponVal))

/-- The number `billAmount` prints with two decimals. -/
def billAmount (con : CartController) (shippingCost : Option Int) : Except DartError Rat :=
  (con.billedAmount shippingCost).map roundToCents

end CartController
end Nourgomla
