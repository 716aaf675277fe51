import Nourgomla.Controllers.AppSpec
import Nourgomla.Controllers.OrdersController
import Nourgomla.Library.Machine

set_option autoImplicit false

/-! # The shop: the app, what is on its way, and the server's orders

One machine for everything the user, the local database and the server can do, in any order. A
method that awaits something is an event up to its `await` and an event after it; what it carries
across is on the system's lists. A method that is run to completion before anything else happens is
a single event. Answers are arbitrary: what a property assumes of the server, it says. -/

namespace Nourgomla

variable [Doubles]

/-- A line as the cart sheet hands it to `addToCart`: a product and the calls of `setValues` its
    spin controls made, each a quantity and one of the three package types. -/
structure Draft where
  product : Product
  calls : List (Int × Int)
  types : ∀ call ∈ calls, call.2 = 1 ∨ call.2 = 2 ∨ call.2 = 3

def Draft.item (draft : Draft) : CartItem :=
  CartController.sheetItem draft.product draft.calls

/-- An order request that was not answered yet, and whether the server inserted its order. -/
structure OrderRequest where
  body : OrderBody
  inserted : Bool := false

/-- The app, the calls that wait (lines for their insert; cart updates, coupons and orders for their
    answers; loads for their rows), and the orders the server inserted. -/
structure System where
  app : App := {}
  adds : List CartItem := []
  updates : List CartUpdateBody := []
  queries : List (List CartItem) := []
  coupons : List App.CouponRequest := []
  orders : List OrderRequest := []
  placed : List OrderBody := []

inductive Event
  /-- `addToCart`, run to completion -/
  | addToCart (config : Config) (draft : Draft)
  /-- `addToCart` up to its `await` -/
  | tapAdd (config : Config) (draft : Draft)
  /-- the rest of the `k`-th waiting `addToCart` -/
  | resumeAdd (k : Nat)
  | changeQuantity (productId : Option Int) (quantity : Int)
  | deleteFromCart (productId : Option Int)
  | clearCart
  /-- `updateCartData` up to its `await` -/
  | postUpdate (session : Session)
  /-- the rest of the `k`-th waiting `updateCartData` -/
  | answerUpdate (k : Nat) (answer : Except DartError Json)
  /-- `updateCartData`, run to completion -/
  | refresh (session : Session) (answer : Except DartError Json)
  /-- `getAllProducts` up to its query, which reads the table of this moment -/
  | startLoad
  /-- the rest of the `k`-th waiting `getAllProducts` -/
  | finishLoad (k : Nat)
  /-- `activateCoupon` up to its `await` -/
  | postCoupon (coupon : String)
  /-- the rest of the `k`-th waiting `activateCoupon` -/
  | answerCoupon (k : Nat) (answer : Except DartError Json)
  /-- the order button, up to the post -/
  | tapOrder (checkout : Checkout)
  /-- the server inserts the order of the `k`-th waiting request -/
  | insertOrder (k : Nat)
  /-- the rest of the `k`-th waiting `placeOrder` -/
  | answerOrder (k : Nat) (answer : Except DartError Json)
  /-- the app is closed and opened again; calls that wait are gone -/
  | restart

namespace System

/-- Run a method to its end, or to where it throws. -/
def perform {α : Type} (s : System) (m : Method DartError App α) : System :=
  { s with app := (m.exec s.app).2 }

/-- What a method returned, if it did not throw. -/
def returned {α : Type} (s : System) (m : Method DartError App α) : Option α :=
  (m.exec s.app).1.toOption

def step (s : System) : Event → Option System
  | .addToCart config draft => some (s.perform (App.addToCart config draft.item))
  | .tapAdd config draft =>
    let m := App.addToCartInsert config draft.item
    -- a call that is refused or throws does not wait
    some { s.perform m with adds := s.adds ++ (s.returned m).join.toList }
  | .resumeAdd k => s.adds[k]?.map fun cart =>
    { s.perform (App.addToCartAppend cart) with adds := s.adds.eraseIdx k }
  | .changeQuantity productId quantity => some (s.perform (App.changeQuantity productId quantity))
  | .deleteFromCart productId => some (s.perform (App.deleteFromCart productId))
  | .clearCart => some (s.perform App.clearCart)
  | .postUpdate session =>
    let m := App.updateCartDataPost session
    some { s.perform m with updates := s.updates ++ (s.returned m).join.toList }
  | .answerUpdate k answer => s.updates[k]?.map fun _ =>
    { s.perform (App.updateCartDataAssign (CartServices.cartUpdate answer)) with
      updates := s.updates.eraseIdx k }
  | .refresh session answer => some (s.perform (App.updateCartData session answer))
  | .startLoad =>
    some { s.perform App.getAllProductsQuery with
      queries := s.queries ++ (s.returned App.getAllProductsQuery).toList }
  | .finishLoad k => s.queries[k]?.map fun cartList =>
    { s.perform (App.getAllProductsAssign cartList) with queries := s.queries.eraseIdx k }
  | .postCoupon coupon =>
    let m := App.activateCouponPost coupon
    some { s.perform m with coupons := s.coupons ++ (s.returned m).toList }
  | .answerCoupon k answer => s.coupons[k]?.map fun request =>
    { s.perform (App.activateCouponAssign
        (CartServices.activateCoupon request.hasDiscount answer)) with
      coupons := s.coupons.eraseIdx k }
  | .tapOrder checkout =>
    let m := App.placeOrderPost checkout
    some { s.perform m with
      orders := s.orders ++ (s.returned m).join.toList.map fun body => { body } }
  | .insertOrder k => s.orders[k]?.bind fun request =>
    -- one request, one order
    if request.inserted then none
    else some { s with
      orders := s.orders.set k { request with inserted := true }
      placed := s.placed ++ [request.body] }
  | .answerOrder k answer => s.orders[k]?.map fun _ =>
    { s.perform (App.placeOrderAssign answer) with orders := s.orders.eraseIdx k }
  | .restart =>
    some { app := (App.restart.exec s.app).2, placed := s.placed, orders := [] }

end System

/-- The app just opened on a cart table. -/
def System.opened (table : List CartRow) : System :=
  { app := (App.restart.exec { cartTable := table }).2 }

/-- The shop as a machine. -/
def shop : Machine System Event where
  step := System.step

/-! ## Sample data

A small catalogue and a server that answers with it, for the runs on fixed inputs that stand beside
the properties. -/

namespace Sample

/-- A product of vendor `vendorId` sold for `price`, with four points to an item. -/
def product (id vendorId : Int) (price : Num) : Product :=
  { id := some id, vendorId := vendorId, points := 4, maxOrder := 9
    package1Count := 1, package1Stock := some 20, package1Price := price, price1Sale := some (.int 0)
    package2Count := 6, package2Stock := some 5, package2Price := .int 50, price2Sale := none
    package3Price := .int 0, price3Sale := some (.int 0)
    package1Name := some "piece", package2Name := some "box" }

/-- A draft of `quantity` single items. -/
def draft (id vendorId : Int) (price : Num) (quantity : Int) : Draft :=
  { product := { product id vendorId price with price2Sale := some (.int 0) }
    calls := [(1, 1), (quantity, 1)]
    types := by simp }

def singleVendor : Config := { isMultiVendor := false, vendorData := none }

/-- Multi-vendor mode with the listed vendors, all with shipping 15. -/
def multiVendor (listed : List Int) : Config :=
  { isMultiVendor := true
    vendorData := some (listed.map fun id => { id := some id, shipping := some (.int 15) }) }

/-- A line of an answer: a paid one, or a gift. -/
def line (id vendorId : Int) (price : Num) (quantity : Int) (gift : Bool) : Json :=
  .obj [("id", .num (.int id)), ("vendor_id", .num (.int vendorId)),
    ("cart_package_type", .num (.int 1)), ("cart_product_count", .num (.int quantity)),
    ("cart_is_gift", .num (.int (if gift then 1 else 0))), ("package_1_count", .num (.int 1)),
    ("package_1_price", .num price), ("points", .num (.int 4))]

/-- An answer to a cart update: its lines, the discount and the total. -/
def answer (lines : List Json) (discount total : Num) : Except DartError Json :=
  .ok (.obj [("data", .arr lines), ("cart_discount", .num discount),
    ("subtotal_price", .num total), ("total_price", .num total)])

/-- An accepted coupon of ten per cent for carts from 10 to 20, with its `with_offer`. -/
def couponAnswer (withOffer : Int) : Except DartError Json :=
  .ok (.obj [("success", .bool true), ("message", .str "ok"), ("data", .arr [.obj [
    ("cart_minimum", .num (.int 10)), ("cart_maximum", .num (.int 20)),
    ("with_offer", .num (.int withOffer)), ("free_shipping", .num (.int 0)),
    ("coupon_value", .num (.int 10)), ("coupon_type", .num (.int 1))]])])

end Sample
end Nourgomla
