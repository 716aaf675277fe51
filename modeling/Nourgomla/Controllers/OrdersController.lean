import Nourgomla.Controllers.CartApp
import Nourgomla.Services.OrderServices

set_option autoImplicit false

/-! # Placing an order (`controllers/orders_controller.dart`)

`placeOrder` is cut where it waits for the server: `placeOrderPost` builds the body from the cart of
that moment, `placeOrderAssign` clears the cart if the order succeeded. -/

namespace Nourgomla

/-- The entry `placeOrder` posts for a line. -/
def CartItem.orderProduct (cart : CartItem) : OrderProduct :=
  { productId := cart.product.id
    localId := cart.product.id
    nameAr := cart.product.nameAr
    nameEn := cart.product.nameEn
    packageName := cart.selectedPackagingName
    packagePrice := cart.selectedPrice
    packageCount := cart.selectedPackagingCount
    packageType := cart.type
    productCount := cart.quantity
    priceDiscount := cart.selectedSalePrice
    points := cart.cartItemPoints
    imageId := cart.product.imageId
    imagePath := cart.product.imagesPath
    barcode := cart.selectedBarcode
    isGift := cart.cartIsGift }

namespace App

/-- The tap on the order button up to its `await`: the body posted, or nothing when building it
    fails (which is caught). An empty cart has no first line, which is not. -/
def placeOrderPost (checkout : Checkout) : Method DartError App (Option OrderBody) := do
  let con := (← get).con
  match con.cartProducts with
  | [] => throw .rangeError
  | first :: _ =>
    return (OrderServices.placeOrderBody checkout con (con.cartProducts.map CartItem.orderProduct)
      con.userCoupon (if checkout.isMultiVendor then toString first.product.vendorId else "")).toOption

/-- `OrderServices.placeOrder` after its `await`. -/
def placeOrderAssign (answer : Except DartError Json) : Method DartError App Unit :=
  if OrderServices.succeeds answer then clearCart else pure ()

end App
end Nourgomla
