import Nourgomla.Models.Cart

set_option autoImplicit false

/-! # Cart requests (`services/api_calls/cart_services.dart`)

The body of a cart update, and what the two calls make of the server's answer. An answer is the
decoded response, or the failure `postData` throws; every failure while decoding is caught and
leaves nothing to assign. -/

namespace Nourgomla

/-- The user and the language the requests are posted for. -/
structure Session where
  currentUser : Option User := some {}
  langId : String := "2"
deriving DecidableEq

/-- The body `cartUpdate` posts. -/
structure CartUpdateBody where
  userId : Option Int
  createdBy : Option Int
  source : Int
  userRoleId : Option Int
  languageId : String
  vendorId : Int
  productsJson : List PostedLine
deriving DecidableEq

namespace CartServices

def cartUpdateBody (session : Session) (cartJson : List PostedLine) (vendorId : Int) :
    Except DartError CartUpdateBody := do
  let user ← notNull session.currentUser
  return {
    userId := user.id
    createdBy := user.id
    source := 1
    userRoleId := user.role
    languageId := session.langId
    vendorId := vendorId
    productsJson := cartJson }

/-- `'$pre${type}$post'` -/
def typeKey (pre : String) (type : Option Int) (post : String) : String :=
  pre ++ type.elim "null" toString ++ post

variable [Doubles]

/-- One line of the answer. -/
def cartLine (cartProduct : Json) : Except DartError CartItem := do
  let type ← cartProduct.intField "cart_package_type"
  let selectedProductQuantity ← cartProduct.intField (typeKey "package_" type "_count")
  let selectedProductPrice ← cartProduct.numField (typeKey "package_" type "_price")
  let cartTotalPrice : Rat :=
    Num.mul (.int (← notNull selectedProductQuantity)) (← notNull selectedProductPrice)
  return {
    cartIsGift := ← cartProduct.intField "cart_is_gift"
    type := type
    quantity := ← cartProduct.intField "cart_product_count"
    totalPrice :=
      some (if (← cartProduct.field "cart_is_gift").equalsInt 1 then cartTotalPrice else 0)
    selectedPackagingName := ← cartProduct.stringField (typeKey "package_" type "_name")
    selectedPrice := ← cartProduct.numField (typeKey "package_" type "_price")
    selectedSalePrice := ← cartProduct.numField (typeKey "price_" type "_sale")
    selectedPackagingCount := ← cartProduct.intField (typeKey "package_" type "_count")
    selectedBarcode := ← cartProduct.stringField (typeKey "package_" type "_barcode")
    selectedPackagingStock := ← cartProduct.intField (typeKey "package_" type "_stock")
    product := ← Product.fromJson cartProduct }

/-- The lines and the details of an answer. -/
def decodeCart (answer : Except DartError Json) :
    Except DartError (List CartItem × CartDetails) := do
  let json ← answer
  let data ← json.listField "data"
  let cartDetails ← CartDetails.fromJson json
  let cartList ← (← notNull data).mapM cartLine
  return (cartList, cartDetails)

/-- `cartUpdate`'s map: `cart_list` and `cart_details`, or empty after a failure. -/
def cartUpdate (answer : Except DartError Json) : Option (List CartItem × CartDetails) :=
  (decodeCart answer).toOption

/-- The coupon of an answer, if it is accepted. -/
def decodeCoupon (hasDiscount : Bool) (answer : Except DartError Json) :
    Except DartError (Option Coupon) := do
  match ← answer with
  | .null => return none
  | response =>
    let _msg ← response.stringField "message"
    let success ← response.boolField "success"
    let data ← response.listField "data"
    if ← notNull success then
      match ← notNull data with
      | [] => return none
      | couponData :: _ =>
        -- `hasDiscount` as it was when the request was sent
        if hasDiscount then
          if (← couponData.field "with_offer").equalsInt 0 then return none
          else return some (← Coupon.fromJson couponData)
        else return some (← Coupon.fromJson couponData)
    else return none

/-- `activateCoupon`: every failure is caught and grants nothing. -/
def activateCoupon (hasDiscount : Bool) (answer : Except DartError Json) : Option Coupon :=
  caught (decodeCoupon hasDiscount answer)

/-! ## What an answer decodes to -/

/-- An answer that decodes has a list of lines, decoded one by one. -/
theorem exists_data {answer : Except DartError Json} {cartList : List CartItem}
    {details : CartDetails} (h : cartUpdate answer = some (cartList, details)) :
    ∃ json data, answer = .ok json ∧ json.listField "data" = .ok (some data) ∧
      List.Forall₂ (fun line c => cartLine line = .ok c) data cartList := by
  have hdecode : decodeCart answer = .ok (cartList, details) := by
    unfold cartUpdate at h
    cases hd : decodeCart answer with
    | error e => simp [hd, Except.toOption] at h
    | ok r => simpa [hd, Except.toOption] using h
  obtain ⟨json, hjson, hdecode⟩ := bind_eq_ok.1 hdecode
  obtain ⟨data, hdata, hdecode⟩ := bind_eq_ok.1 hdecode
  obtain ⟨d, -, hdecode⟩ := bind_eq_ok.1 hdecode
  obtain ⟨values, hvalues, hdecode⟩ := bind_eq_ok.1 hdecode
  obtain ⟨lines, hlines, hdecode⟩ := bind_eq_ok.1 hdecode
  simp only [pure, Except.pure, Except.ok.injEq, Prod.mk.injEq] at hdecode
  have hsome : data = some values := by
    cases data with
    | none => simp [notNull] at hvalues
    | some v => simpa [notNull] using hvalues
  exact ⟨json, values, hjson, hsome ▸ hdata, hdecode.1 ▸ mapM_eq_ok hlines⟩

theorem exists_cartLine {answer : Except DartError Json} {cartList : List CartItem}
    {details : CartDetails} (h : cartUpdate answer = some (cartList, details)) {c : CartItem}
    (hc : c ∈ cartList) : ∃ json, cartLine json = .ok c := by
  obtain ⟨-, data, -, -, hlines⟩ := exists_data h
  obtain ⟨i, hi, rfl⟩ := List.getElem_of_mem hc
  exact ⟨_, hlines.get (by simpa [hlines.length_eq] using hi) hi⟩

/-- A decoded line has a total, and a price under the key of its package type. -/
theorem cartLine_fields {json : Json} {c : CartItem} (h : cartLine json = .ok c) :
    c.totalPrice.isSome = true ∧ Product.fromJson json = .ok c.product ∧
      ∃ price, c.selectedPrice = some price ∧
        json.numField (typeKey "package_" c.type "_price") = .ok (some price) := by
  simp only [cartLine, bind_eq_ok] at h
  obtain ⟨type, -, count, -, price, hprice, n, -, p, hp, h⟩ := h
  obtain ⟨gift, -, quantity, -, isGift, -, name, -, price', hprice', h⟩ := h
  obtain ⟨sale, -, count', -, barcode, -, stock, -, product, hproduct, h⟩ := h
  obtain rfl : price = price' := by simpa [hprice] using hprice'
  obtain rfl : price = some p := by
    cases price with
    | none => simp [notNull] at hp
    | some p' => simpa [notNull] using hp
  simp only [pure, Except.pure, Except.ok.injEq] at h
  subst h
  exact ⟨rfl, hproduct, p, rfl, hprice⟩

/-- A decoded line has the type, the quantity and the gift mark of its fields. -/
theorem cartLine_posted {json : Json} {c : CartItem} (h : cartLine json = .ok c) :
    json.intField "cart_package_type" = .ok c.type ∧
      json.intField "cart_product_count" = .ok c.quantity ∧
      json.intField "cart_is_gift" = .ok c.cartIsGift := by
  simp only [cartLine, bind_eq_ok] at h
  obtain ⟨type, htype, _, -, _, -, _, -, _, -, gift, hgift, quantity, hquantity, h⟩ := h
  obtain ⟨_, -, _, -, _, -, _, -, _, -, _, -, _, -, _, -, h⟩ := h
  simp only [pure, Except.pure, Except.ok.injEq] at h
  subst h
  exact ⟨htype, hquantity, hgift⟩

omit [Doubles] in
theorem withOffer_of_fromJson {json : Json} {coupon : Coupon}
    (h : Coupon.fromJson json = .ok coupon) : json.intField "with_offer" = .ok coupon.withOffer := by
  simp only [Coupon.fromJson, bind_eq_ok] at h
  obtain ⟨_, -, _, -, _, -, _, -, _, -, _, -, offer, hoffer, h⟩ := h
  obtain ⟨_, -, _, -, _, -, _, -, _, -, _, -, _, -, _, -, _, -, h⟩ := h
  simp only [pure, Except.pure, Except.ok.injEq] at h
  subst h
  exact hoffer

/-- The coupon an accepted answer carries. -/
def couponOf (answer : Except DartError Json) : Option Coupon := activateCoupon false answer

omit [Doubles] in
/-- The client's own check: with a discount, the coupon of an answer is dropped if its `withOffer`
    is 0. -/
theorem activateCoupon_true (answer : Except DartError Json) :
    activateCoupon true answer = (couponOf answer).filter fun c => c.withOffer ≠ some 0 := by
  refine caught_bind rfl fun json => ?_
  split
  · rfl
  · refine caught_bind rfl fun _ => caught_bind rfl fun _ => caught_bind rfl fun _ => ?_
    refine caught_bind rfl fun success => ?_
    cases success with
    | false => rfl
    | true =>
        refine caught_bind rfl fun values => ?_
        cases values with
        | nil => rfl
        | cons couponData rest =>
            simp only [if_true, Bool.false_eq_true, if_false]
            cases hcoupon : Coupon.fromJson couponData with
            | error e =>
                -- a coupon that cannot be read is dropped either way
                cases couponData.field "with_offer" with
                | error e' => rfl
                | ok offer =>
                    simp only [bind, Except.bind]
                    split <;> rfl
            | ok coupon =>
                obtain ⟨offer, hfield, hint⟩ := bind_eq_ok.1 (withOffer_of_fromJson hcoupon)
                have hzero := Json.equalsInt_of_asInt hint
                cases hoffer : offer.equalsInt 0 with
                | true =>
                    simp [hfield, hoffer, hzero.1 hoffer, caught, bind, Except.bind, pure,
                      Except.pure, Except.toOption, Option.filter]
                | false =>
                    have hne : coupon.withOffer ≠ some 0 := fun h => by simp [hzero.2 h] at hoffer
                    simp [hfield, hoffer, hne, caught, bind, Except.bind, pure, Except.pure,
                      Except.toOption, Option.filter]

end CartServices
end Nourgomla
