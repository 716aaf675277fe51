import Nourgomla.Controllers.CartController
import Nourgomla.Services.CartDb
import Nourgomla.Services.CartServices

set_option autoImplicit false

/-! # The cart and its table (`controllers/cart_controller.dart`)

The methods of `CartController` that also write the cart table or wait for an answer. A method is
cut where it awaits something that other events can overtake: `addToCart` at its insert,
`updateCartData` at its post, `getAllProducts` at its query. Table writes take effect in call
order. -/

namespace Nourgomla

variable [Doubles]

/-- The cart controller and the cart table. -/
structure App where
  con : CartController := {}
  cartTable : List CartRow := []
deriving DecidableEq

/-- What `addToCart` reads of other controllers: the vendor mode, and the vendors listed by the
    `VendorController`, when one is registered. -/
structure Config where
  isMultiVendor : Bool
  vendorData : Option (List VendorCategory)
deriving DecidableEq

namespace App

/-- A method of the controller alone. -/
def inCon {α : Type} (m : Method DartError CartController α) : Method DartError App α :=
  m.onPart App.con fun con app => { app with con := con }

/-- A call of the database helper. -/
def inDb {α : Type} (m : Method DartError (List CartRow) α) : Method DartError App α :=
  m.onPart App.cartTable fun table app => { app with cartTable := table }

/-! ## addToCart -/

/-- `getVendorShipping`: a vendor that is not listed has the empty shipping. -/
def getVendorShipping (config : Config) (product : Product) : String :=
  match config.vendorData.bind (·.find? (·.id == some product.vendorId)) with
  | some vendor => nullableText vendor.shipping
  | none => ""

/-- Whether `addToCart` passes its two checks. -/
def accepts (app : App) (cart : CartItem) : Bool :=
  !app.con.isProductInCart cart.product.id && app.con.isFromTheSameVendor cart.product.vendorId

/-- The line as `addToCart` inserts it. -/
def withShipping (config : Config) (cart : CartItem) : CartItem :=
  if config.isMultiVendor then
    { cart with vendorShipping := some (getVendorShipping config cart.product) }
  else cart

/-- `addToCart` up to its `await`: the line to append, if it was accepted. -/
def addToCartInsert (config : Config) (cart : CartItem) :
    Method DartError App (Option CartItem) := do
  if (← get).accepts cart then
    let cart := withShipping config cart
    -- captured before the insert, which may still be refused
    if config.isMultiVendor then
      inCon (modify fun con => { con with vendorShipping := cart.vendorShipping })
    inDb (CartDbHelper.insertProduct cart)
    return some cart
  else return none

/-- `addToCart` after its `await`. -/
def addToCartAppend (cart : CartItem) : Method DartError App Unit :=
  inCon (CartController.appendLine cart)

def addToCart (config : Config) (cart : CartItem) : Method DartError App Unit := do
  match ← addToCartInsert config cart with
  | some cart => addToCartAppend cart
  | none => pure ()

/-! ## Edits -/

def deleteFromCart (productId : Option Int) : Method DartError App Unit := do
  let cart := (← get).con.getCartById productId
  inCon (CartController.removeLine productId)
  inDb (CartDbHelper.deleteProduct cart)

def changeQuantity (productId : Option Int) (quantity : Int) : Method DartError App Unit := do
  inCon (CartController.writeQuantity productId quantity)
  -- the row keeps the total it had
  inDb (CartDbHelper.updateProductQuantity quantity productId)
  inCon CartController.changeTotalPrice

def clearCart : Method DartError App Unit := do
  inDb CartDbHelper.clearCart
  inCon CartController.emptyCart

/-- The delete button of a line's tile (`CartItemWidget`). -/
def tileDelete (cart : CartItem) : Method DartError App Unit := deleteFromCart cart.product.id

/-- `onChanged` of the spin control of a line's tile. -/
def tileChanged (cart : CartItem) (value : Int) : Method DartError App Unit :=
  changeQuantity cart.product.id value

/-! ## updateCartData -/

/-- `updateCartData` up to its `await`: the body it posts, if the cart is not empty. -/
def updateCartDataPost (session : Session) :
    Method DartError App (Option CartUpdateBody) := do
  match (← get).con.cartProducts with
  | [] => return none
  | first :: _ =>
    inCon (modify fun con => { con with isLoading := true })
    -- gifts are not posted, but the vendor is the first line's even if it is one
    let body ← Method.ofExcept (CartServices.cartUpdateBody session
      (paidJson (← get).con.cartProducts) first.product.vendorId)
    return some body

/-- `updateCartData` after its `await`, on the map `cartUpdate` returned. -/
def updateCartDataAssign (cartData : Option (List CartItem × CartDetails)) :
    Method DartError App Bool := do
  match cartData with
  | some (cartList, cartDetails) =>
    inCon (CartController.assignAnswer cartList cartDetails)
    return true
  | none => return false

def updateCartData (session : Session) (answer : Except DartError Json) :
    Method DartError App Bool := do
  match ← updateCartDataPost session with
  | some _ => updateCartDataAssign (CartServices.cartUpdate answer)
  | none => return false

/-! ## getAllProducts -/

/-- `getAllProducts` up to its `await`: the lines its query reads. -/
def getAllProductsQuery : Method DartError App (List CartItem) := do
  inCon (modify fun con => { con with isLoading := true })
  return CartDbHelper.getAllProducts (← get).cartTable

/-- `getAllProducts` after its `await`. -/
def getAllProductsAssign (cartList : List CartItem) : Method DartError App Unit :=
  inCon (CartController.assignLines cartList)

def getAllProducts : Method DartError App Unit := do
  getAllProductsAssign (← getAllProductsQuery)

/-- The app is started again: a fresh controller loads the table. -/
def restart : Method DartError App Unit := do
  inCon (modify fun _ => {})
  getAllProducts

/-! ## activateCoupon -/

/-- What `activateCoupon` posts and captures. -/
structure CouponRequest where
  coupon : String
  amount : Int
  hasDiscount : Bool
  vendorId : Int
deriving DecidableEq

/-- `activateCoupon` up to its `await`, as the checkout screen calls it. -/
def activateCouponPost (coupon : String) : Method DartError App CouponRequest := do
  let con := (← get).con
  match con.cartProducts with
  | [] => throw .rangeError
  | first :: _ =>
    return {
      coupon := coupon
      amount := truncate con.cartTotalPrices
      hasDiscount := con.hasDiscount
      vendorId := first.product.vendorId }

/-- `activateCoupon` after its `await`. -/
def activateCouponAssign (activatedCoupon : Option Coupon) : Method DartError App Unit :=
  inCon (modify fun con => { con with userCoupon := activatedCoupon })

end App
end Nourgomla
