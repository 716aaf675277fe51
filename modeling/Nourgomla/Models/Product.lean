import Nourgomla.Library.Dart

set_option autoImplicit false

/-! # Products (`models/product.dart`, `models/product.g.dart`)

Fields that `fromJson` and the cart table always fill are plain; the others may be null. -/

namespace Nourgomla

structure Product where
  id : Option Int := none
  minimumOrder : Int := 0
  maxOrder : Int := 0
  special : Option Int := none
  points : Int := 0
  package1Count : Int := 0
  package1Stock : Option Int := none
  package1Price : Num := .int 0
  price1Sale : Option Num := none
  package2Count : Int := 0
  package2Stock : Option Int := none
  package2Price : Num := .int 0
  price2Sale : Option Num := none
  package3Count : Int := 0
  package3Stock : Option Int := none
  package3Price : Num := .int 0
  price3Sale : Option Num := none
  likeProduct : Option Int := none
  nameAr : String := ""
  nameEn : String := ""
  descriptionAr : Option String := none
  descriptionEn : Option String := none
  package1Name : Option String := none
  package2Name : Option String := none
  package3Name : Option String := none
  imagesPath : String := ""
  imageId : Option Int := none
  package1Barcode : Option String := none
  package2Barcode : Option String := none
  package3Barcode : Option String := none
  rate : Option String := none
  ratersCount : Option Int := none
  vendorId : Int := 0
deriving DecidableEq

/-- `json[key] as int ?? 0` -/
def Json.intOrZero (key : String) (j : Json) : Except DartError Int :=
  return (← j.intField key).getD 0

/-- `json[key] as num ?? 0` -/
def Json.numOrZero (key : String) (j : Json) : Except DartError Num :=
  return (← j.numField key).getD (.int 0)

/-- `json[key] as String ?? ''` -/
def Json.stringOrEmpty (key : String) (j : Json) : Except DartError String :=
  return (← j.stringField key).getD ""

/-- `_$ProductFromJson` -/
def Product.fromJson (json : Json) : Except DartError Product :=
  return {
    id := ← json.intField "id"
    imageId := ← json.intField "images_id"
    minimumOrder := ← json.intOrZero "minimum_order"
    maxOrder := ← json.intOrZero "max_order"
    special := some (← json.intOrZero "special")
    points := ← json.intOrZero "points"
    package1Count := ← json.intOrZero "package_1_count"
    package1Stock := some (← json.intOrZero "package_1_stock")
    package1Price := ← json.numOrZero "package_1_price"
    price1Sale := some (← json.numOrZero "price_1_sale")
    package2Count := ← json.intOrZero "package_2_count"
    package2Stock := some (← json.intOrZero "package_2_stock")
    package2Price := ← json.numOrZero "package_2_price"
    price2Sale := some (← json.numOrZero "price_2_sale")
    package3Count := ← json.intOrZero "package_3_count"
    package3Stock := some (← json.intOrZero "package_3_stock")
    package3Price := ← json.numOrZero "package_3_price"
    price3Sale := some (← json.numOrZero "price_3_sale")
    likeProduct := some (← json.intOrZero "like_product")
    nameAr := ← json.stringOrEmpty "name_ar"
    nameEn := ← json.stringOrEmpty "name_en"
    descriptionAr := some (← json.stringOrEmpty "description_ar")
    descriptionEn := some (← json.stringOrEmpty "description_en")
    package1Name := some (← json.stringOrEmpty "package_1_name")
    package2Name := some (← json.stringOrEmpty "package_2_name")
    package3Name := some (← json.stringOrEmpty "package_3_name")
    imagesPath := ← json.stringOrEmpty "images_path"
    package1Barcode := some (← json.stringOrEmpty "package_1_barcode")
    package2Barcode := some (← json.stringOrEmpty "package_2_barcode")
    package3Barcode := some (← json.stringOrEmpty "package_3_barcode")
    rate := some (← json.stringOrEmpty "rate")
    ratersCount := some (← json.intOrZero "rate_count")
    vendorId := ← json.intOrZero "vendor_id" }

/-- The id and the vendor a product is decoded with. -/
theorem Product.fromJson_ids {json : Json} {p : Product} (h : Product.fromJson json = .ok p) :
    json.intField "id" = .ok p.id ∧ json.intOrZero "vendor_id" = .ok p.vendorId := by
  simp only [Product.fromJson, bind_eq_ok] at h
  obtain ⟨id, hid, _, -, _, -, _, -, _, -, _, -, _, -, _, -, _, -, _, -, _, -, _, -, _, -, h⟩ := h
  obtain ⟨_, -, _, -, _, -, _, -, _, -, _, -, _, -, _, -, _, -, _, -, _, -, _, -, _, -, h⟩ := h
  obtain ⟨_, -, _, -, _, -, _, -, _, -, _, -, vendor, hvendor, h⟩ := h
  simp only [pure, Except.pure, Except.ok.injEq] at h
  subst h
  exact ⟨hid, hvendor⟩

/-- The three package prices a product is decoded with. -/
theorem Product.fromJson_prices {json : Json} {p : Product} (h : Product.fromJson json = .ok p) :
    json.numOrZero "package_1_price" = .ok p.package1Price ∧
      json.numOrZero "package_2_price" = .ok p.package2Price ∧
      json.numOrZero "package_3_price" = .ok p.package3Price := by
  simp only [Product.fromJson, bind_eq_ok] at h
  obtain ⟨_, -, _, -, _, -, _, -, _, -, _, -, _, -, _, -, p1, h1, _, -, _, -, _, -, p2, h2, h⟩ := h
  obtain ⟨_, -, _, -, _, -, p3, h3, _, -, _, -, _, -, _, -, _, -, _, -, _, -, _, -, _, -, h⟩ := h
  obtain ⟨_, -, _, -, _, -, _, -, _, -, _, -, _, -, h⟩ := h
  simp only [pure, Except.pure, Except.ok.injEq] at h
  subst h
  exact ⟨h1, h2, h3⟩

end Nourgomla
