import Nourgomla.Controllers.CartController

set_option autoImplicit false

/-! # Order requests (`services/api_calls/order_services.dart`)

The body `placeOrder` posts, and whether it takes an answer as a success. -/

namespace Nourgomla

/-- An entry of `orders_products_json`. -/
structure OrderProduct where
  productId : Option Int
  localId : Option Int
  nameAr : String
  nameEn : String
  packageName : Option String
  packagePrice : Option Num
  packageCount : Option Int
  packageType : Option Int
  productCount : Option Int
  priceDiscount : Option Num
  points : Int
  imageId : Option Int
  imagePath : String
  barcode : Option String
  isGift : Option Int
deriving DecidableEq

/-- `is_gift` is not 1. -/
def OrderProduct.isPaid (entry : OrderProduct) : Bool := entry.isGift != some 1

/-- The posted form of a nullable integer. -/
def jsonInt (n : Option Int) : Json := n.elim .null fun n => .num (.int n)

/-- The posted form is read back. -/
theorem asInt_jsonInt (n : Option Int) : (jsonInt n).asInt = .ok n := by
  cases n <;> rfl

theorem equalsInt_jsonInt (k : Int) (n : Option Int) :
    (jsonInt n).equalsInt k = (n == some k) := by
  cases n with
  | none => rfl
  | some n => simp [jsonInt, Json.equalsInt, Num.toRat, Bool.beq_eq_decide_eq]

/-- The posted form of a nullable text. -/
def jsonText (s : Option String) : Json := s.elim .null .str

/-- `record != null ? record.field : ''` -/
def fieldOrEmpty {α : Type} (record : Option α) (field : α → Json) : Json :=
  record.elim (.str "") field

/-- The body of an order. -/
structure OrderBody where
  userId : Option Int
  userFirstName : Option String
  userLastName : Option String
  userPhone : Option String
  userEmail : Option String
  userGender : Option Int
  addressId : Option Int
  addressLongitude : Option String
  addressLatitude : Option String
  addressAddress : Option String
  areaId : Option Int
  areaNameAr : Option String
  areaNameEn : Option String
  areaShipping : Json
  areaLatitude : Option String
  areaLongitude : Option String
  couponId : Json
  couponCode : Json
  couponType : Json
  couponValue : Json
  couponWithOffer : Json
  couponFreeShipping : Json
  couponCartMaximum : Json
  couponCartMinimum : Json
  offerCartMinimum : Json
  offerCartMaximum : Json
  offerCartDiscount : Json
  offerDiscountType : Json
  createdBy : Option Int
  userRoleId : Option Int
  orderComment : String
  vendorId : String
  ordersProductsJson : List OrderProduct

/-- What an order reads beside the cart: the user, the selected address, the vendor mode and the
    comment field of the checkout screen. -/
structure Checkout where
  currentUser : Option User
  selectedAddress : Option AddressModel
  isMultiVendor : Bool
  orderComment : String
deriving DecidableEq

namespace OrderServices

/-- The body `placeOrder` posts. -/
def placeOrderBody (checkout : Checkout) (con : CartController) (ordersList : List OrderProduct)
    (coupon : Option Coupon) (vendorId : String) : Except DartError OrderBody := do
  let user ← notNull checkout.currentUser
  let address ← notNull checkout.selectedAddress
  return {
    userId := user.id
    userFirstName := user.firstName
    userLastName := user.lastName
    userPhone := user.phone
    userEmail := user.email
    userGender := user.gender
    addressId := address.id
    addressLongitude := address.areaLng
    addressLatitude := address.areaLat
    addressAddress := address.address
    areaId := address.areaId
    areaNameAr := address.areaNameAr
    areaNameEn := address.areaNameEn
    areaShipping :=
      if checkout.isMultiVendor then jsonText con.vendorShipping else jsonInt address.cost
    areaLatitude := address.areaLat
    areaLongitude := address.areaLng
    couponId := fieldOrEmpty coupon fun c => jsonInt c.id
    couponCode := fieldOrEmpty coupon fun c => jsonText c.couponCode
    couponType := fieldOrEmpty coupon fun c => jsonInt c.couponType
    couponValue := fieldOrEmpty coupon fun c => jsonInt c.couponValue
    couponWithOffer := fieldOrEmpty coupon fun c => jsonInt c.withOffer
    couponFreeShipping := fieldOrEmpty coupon fun c => jsonInt c.freeShipping
    couponCartMaximum := fieldOrEmpty coupon fun c => jsonInt c.cartMaximum
    couponCartMinimum := fieldOrEmpty coupon fun c => jsonInt c.cartMinimum
    offerCartMinimum := fieldOrEmpty con.cartDetails fun d => jsonInt d.offerCartMinimum
    offerCartMaximum := fieldOrEmpty con.cartDetails fun d => jsonInt d.offerCartMaximum
    offerCartDiscount := fieldOrEmpty con.cartDetails fun d => jsonInt d.offerCartDiscount
    offerDiscountType := fieldOrEmpty con.cartDetails fun d => jsonInt d.offerDiscountType
    createdBy := user.id
    userRoleId := user.role
    orderComment := checkout.orderComment
    vendorId := vendorId
    ordersProductsJson := ordersList }

/-- Where the body takes its entries and its amounts of money from. -/
theorem placeOrderBody_fields {checkout : Checkout} {con : CartController}
    {ordersList : List OrderProduct} {coupon : Option Coupon} {vendorId : String} {body : OrderBody}
    (h : placeOrderBody checkout con ordersList coupon vendorId = .ok body) :
    ∃ address, checkout.selectedAddress = some address ∧ body.ordersProductsJson = ordersList ∧
      body.areaShipping =
        (if checkout.isMultiVendor then jsonText con.vendorShipping else jsonInt address.cost) ∧
      body.couponType = (fieldOrEmpty coupon fun c => jsonInt c.couponType) ∧
      body.couponValue = (fieldOrEmpty coupon fun c => jsonInt c.couponValue) ∧
      body.couponFreeShipping = (fieldOrEmpty coupon fun c => jsonInt c.freeShipping) := by
  obtain ⟨user, -, h⟩ := bind_eq_ok.1 h
  obtain ⟨address, haddress, h⟩ := bind_eq_ok.1 h
  simp only [pure, Except.pure, Except.ok.injEq] at h
  subst h
  refine ⟨address, ?_, rfl, rfl, rfl, rfl, rfl⟩
  cases hsel : checkout.selectedAddress with
  | none => simp [hsel, notNull] at haddress
  | some a => simpa [hsel, notNull] using haddress

/-- An order goes to the address that is selected. -/
theorem placeOrderBody_address {checkout : Checkout} {con : CartController}
    {ordersList : List OrderProduct} {coupon : Option Coupon} {vendorId : String} {body : OrderBody}
    (h : placeOrderBody checkout con ordersList coupon vendorId = .ok body) :
    ∃ address, checkout.selectedAddress = some address ∧ body.addressId = address.id ∧
      body.addressAddress = address.address := by
  obtain ⟨user, -, h⟩ := bind_eq_ok.1 h
  obtain ⟨address, haddress, h⟩ := bind_eq_ok.1 h
  simp only [pure, Except.pure, Except.ok.injEq] at h
  subst h
  cases hsel : checkout.selectedAddress with
  | none => simp [hsel, notNull] at haddress
  | some a =>
      obtain rfl : a = address := by simpa [hsel, notNull] using haddress
      exact ⟨a, rfl, rfl, rfl⟩

/-- `response != null` and `response['success'] == true`; every failure is caught. -/
def succeeds (answer : Except DartError Json) : Bool :=
  match answer.bind (Json.field "success") with
  | .ok (.bool true) => true
  | _ => false

end OrderServices
end Nourgomla
