import Nourgomla.Models.Product

set_option autoImplicit false

/-! # The cart, coupons and the records around an order

`models/cart.dart`, `models/coupon.dart`, and of `models/user.dart`, `models/address_model.dart` and
`models/vendor_category.dart` the fields that the cart and the order read. -/

namespace Nourgomla

/-- A cart line; a draft has only its product until `setValues` is called. -/
structure CartItem where
  product : Product
  quantity : Option Int := none
  type : Option Int := none
  totalPrice : Option Rat := none
  selectedPackagingName : Option String := none
  selectedBarcode : Option String := none
  selectedPrice : Option Num := none
  selectedSalePrice : Option Num := none
  cartItemPoints : Int := 0
  selectedPackagingCount : Option Int := none
  selectedPackagingStock : Option Int := none
  cartIsGift : Option Int := none
  vendorShipping : Option String := none
deriving DecidableEq

/-- What `CartItem.toJson` posts of a line: product id, type (twice) and quantity. -/
structure PostedLine where
  productId : Option Int
  packageType : Option Int
  priceType : Option Int
  productCount : Option Int
deriving DecidableEq

def CartItem.toJson (cart : CartItem) : PostedLine :=
  { productId := cart.product.id
    packageType := cart.type
    priceType := cart.type
    productCount := cart.quantity }

/-- `cart.cartIsGift != 1` -/
def CartItem.isPaid (cart : CartItem) : Bool := cart.cartIsGift != some 1

/-- The paid lines of a cart as they are posted. -/
def paidJson (lines : List CartItem) : List PostedLine :=
  (lines.filter CartItem.isPaid).map CartItem.toJson

structure CartDetails where
  offerCartMinimum : Option Int := none
  offerCartMaximum : Option Int := none
  offerCartDiscount : Option Int := none
  offerDiscountType : Option Int := none
  cartDiscount : Option Num := none
  totalPrice : Option Num := none
  totalPriceWithDiscount : Option Num := none
deriving DecidableEq

def CartDetails.fromJson (json : Json) : Except DartError CartDetails :=
  return {
    offerCartMinimum := ← json.intField "offer_cart_minimum"
    offerCartMaximum := ← json.intField "offer_cart_maximum"
    offerCartDiscount := ← json.intField "offer_cart_discount"
    offerDiscountType := ← json.intField "offer_discount_type"
    cartDiscount := ← json.numField "cart_discount"
    totalPrice := ← json.numField "subtotal_price"
    totalPriceWithDiscount := ← json.numField "total_price" }

structure Coupon where
  id : Option Int := none
  couponCode : Option String := none
  couponDescription : Option String := none
  cartMinimum : Option Int := none
  cartMaximum : Option Int := none
  endDate : Option String := none
  withOffer : Option Int := none
  freeShipping : Option Int := none
  useMaximum : Option Int := none
  userUse : Option Int := none
  createdBy : Option Int := none
  createdAt : Option String := none
  updatedBy : Option Int := none
  updatedAt : Option String := none
  couponValue : Option Int := none
  couponType : Option Int := none
deriving DecidableEq

def Coupon.fromJson (json : Json) : Except DartError Coupon :=
  return {
    id := ← json.intField "id"
    couponCode := ← json.stringField "coupon_code"
    couponDescription := ← json.stringField "coupon_description"
    cartMinimum := ← json.intField "cart_minimum"
    cartMaximum := ← json.intField "cart_maximum"
    endDate := ← json.stringField "end_date"
    withOffer := ← json.intField "with_offer"
    freeShipping := ← json.intField "free_shipping"
    useMaximum := ← json.intField "use_maximum"
    userUse := ← json.intField "user_use"
    createdBy := ← json.intField "created_by"
    createdAt := ← json.stringField "created_at"
    updatedBy := ← json.intField "updated_by"
    updatedAt := ← json.stringField "updated_at"
    couponValue := ← json.intField "coupon_value"
    couponType := ← json.intField "coupon_type" }

structure User where
  id : Option Int := none
  role : Option Int := none
  firstName : Option String := none
  lastName : Option String := none
  phone : Option String := none
  email : Option String := none
  gender : Option Int := none
deriving DecidableEq

structure AddressModel where
  id : Option Int := none
  address : Option String := none
  areaNameAr : Option String := none
  areaNameEn : Option String := none
  areaLat : Option String := none
  areaLng : Option String := none
  cost : Option Int := none
  areaId : Option Int := none
deriving DecidableEq

structure VendorCategory where
  id : Option Int := none
  shipping : Option Num := none
deriving DecidableEq

/-! ## Posted lines -/

@[simp] theorem paidJson_nil : paidJson [] = [] := rfl

theorem mem_paidJson {lines : List CartItem} {posted : PostedLine} :
    posted ∈ paidJson lines ↔ ∃ c ∈ lines, c.isPaid = true ∧ c.toJson = posted := by
  simp [paidJson, and_assoc]

theorem paidJson_append (xs ys : List CartItem) :
    paidJson (xs ++ ys) = paidJson xs ++ paidJson ys := by
  simp [paidJson]

theorem paidJson_cons_paid {c : CartItem} (h : c.isPaid = true) (cs : List CartItem) :
    paidJson (c :: cs) = c.toJson :: paidJson cs := by
  simp [paidJson, h]

theorem paidJson_cons_gift {c : CartItem} (h : c.isPaid = false) (cs : List CartItem) :
    paidJson (c :: cs) = paidJson cs := by
  simp [paidJson, h]

/-- A line without the two values the controller caches in it. -/
def CartItem.core (cart : CartItem) : CartItem :=
  { cart with totalPrice := none, cartItemPoints := 0 }

@[simp] theorem CartItem.core_toJson (c : CartItem) : c.core.toJson = c.toJson := rfl
@[simp] theorem CartItem.core_isPaid (c : CartItem) : c.core.isPaid = c.isPaid := rfl
@[simp] theorem CartItem.core_product (c : CartItem) : c.core.product = c.product := rfl
@[simp] theorem CartItem.core_vendorShipping (c : CartItem) :
    c.core.vendorShipping = c.vendorShipping := rfl

/-- Posted lines do not read the cached values. -/
theorem paidJson_core (lines : List CartItem) :
    paidJson (lines.map CartItem.core) = paidJson lines := by
  unfold paidJson
  rw [List.filter_map, List.map_map]
  rfl

end Nourgomla
