import Nourgomla.Library.Method
import Nourgomla.Models.Cart

set_option autoImplicit false

/-! # The cart table (`services/local_storage/cart_db.dart`)

One row per inserted line; the table has no key, so `ConflictAlgorithm.replace` never replaces. Rows
come back in insertion order. A column declared INTEGER turns a double without a fraction into an
integer; the value stays the same. -/

namespace Nourgomla

/-- A row of `cart_db_table`. -/
structure CartRow where
  id : Int
  vendorId : Int
  nameAr : String
  nameEn : String
  packagingName : String
  image : String
  imageId : Option Int
  itemPrice : Num
  itemSale : Num
  totalPrice : Rat
  packagingType : Int
  quantity : Int
  price1 : Num
  price2 : Num
  price3 : Num
  sale1 : Num
  sale2 : Num
  sale3 : Num
  count1 : Int
  count2 : Int
  count3 : Int
  stock : Int
  maxOrder : Int
  minOrder : Int
  vendorShipping : Option String
  points : Int
deriving DecidableEq

/-- What an INTEGER column keeps of a number. -/
def Num.inIntegerColumn : Num → Num
  | .int n => .int n
  | .double q => if q.den = 1 then .int q.num else .double q

@[simp] theorem Num.toRat_inIntegerColumn (n : Num) : n.inIntegerColumn.toRat = n.toRat := by
  cases n with
  | int n => rfl
  | double q =>
      by_cases h : q.den = 1
      · simpa [Num.inIntegerColumn, Num.toRat, h] using (Rat.den_eq_one_iff q).1 h
      · simp [Num.inIntegerColumn, h]

/-- The row `insertProduct` writes, or nothing when a NOT NULL column has no value. -/
def CartItem.toRow (cart : CartItem) : Option CartRow :=
  return {
    id := ← cart.product.id
    nameEn := cart.product.nameEn
    vendorId := cart.product.vendorId
    nameAr := cart.product.nameAr
    image := cart.product.imagesPath
    imageId := cart.product.imageId
    itemPrice := (← cart.selectedPrice).inIntegerColumn
    itemSale := (cart.selectedSalePrice.getD (.int 0)).inIntegerColumn
    totalPrice := ← cart.totalPrice
    quantity := ← cart.quantity
    packagingType := ← cart.type
    packagingName := ← cart.selectedPackagingName
    price1 := cart.product.package1Price.inIntegerColumn
    sale1 := (← cart.product.price1Sale).inIntegerColumn
    price2 := cart.product.package2Price.inIntegerColumn
    sale2 := (← cart.product.price2Sale).inIntegerColumn
    price3 := cart.product.package3Price.inIntegerColumn
    sale3 := (← cart.product.price3Sale).inIntegerColumn
    count1 := cart.product.package1Count
    count2 := cart.product.package2Count
    count3 := cart.product.package3Count
    stock := ← cart.selectedPackagingStock
    points := cart.product.points
    maxOrder := cart.product.maxOrder
    minOrder := cart.product.minimumOrder
    vendorShipping := cart.vendorShipping }

/-- The line `getAllProducts` builds from a row. -/
def CartRow.toItem (row : CartRow) : CartItem :=
  { product := {
      id := some row.id
      imagesPath := row.image
      imageId := row.imageId
      nameAr := row.nameAr
      nameEn := row.nameEn
      package1Price := row.price1
      package2Price := row.price2
      package3Price := row.price3
      price1Sale := some row.sale1
      price2Sale := some row.sale2
      price3Sale := some row.sale3
      package1Count := row.count1
      package2Count := row.count2
      package3Count := row.count3
      points := row.points
      minimumOrder := row.minOrder
      maxOrder := row.maxOrder
      vendorId := row.vendorId }
    selectedPrice := some row.itemPrice
    selectedSalePrice := some row.itemSale
    selectedPackagingName := some row.packagingName
    quantity := some row.quantity
    totalPrice := some row.totalPrice
    type := some row.packagingType
    selectedPackagingStock := some row.stock
    vendorShipping := row.vendorShipping }

/-- What the table keeps of a line. -/
def CartItem.stored (cart : CartItem) : CartItem :=
  { product := {
      id := cart.product.id
      imagesPath := cart.product.imagesPath
      imageId := cart.product.imageId
      nameAr := cart.product.nameAr
      nameEn := cart.product.nameEn
      package1Price := cart.product.package1Price.inIntegerColumn
      package2Price := cart.product.package2Price.inIntegerColumn
      package3Price := cart.product.package3Price.inIntegerColumn
      price1Sale := cart.product.price1Sale.map Num.inIntegerColumn
      price2Sale := cart.product.price2Sale.map Num.inIntegerColumn
      price3Sale := cart.product.price3Sale.map Num.inIntegerColumn
      package1Count := cart.product.package1Count
      package2Count := cart.product.package2Count
      package3Count := cart.product.package3Count
      points := cart.product.points
      minimumOrder := cart.product.minimumOrder
      maxOrder := cart.product.maxOrder
      vendorId := cart.product.vendorId }
    selectedPrice := cart.selectedPrice.map Num.inIntegerColumn
    selectedSalePrice := some (cart.selectedSalePrice.getD (.int 0)).inIntegerColumn
    selectedPackagingName := cart.selectedPackagingName
    quantity := cart.quantity
    totalPrice := cart.totalPrice
    type := cart.type
    selectedPackagingStock := cart.selectedPackagingStock
    vendorShipping := cart.vendorShipping }

/-- A row that was written comes back as what the table keeps of its line; and the quantity column
    is written on its own. -/
theorem CartItem.toItem_of_toRow {cart : CartItem} {row : CartRow} (h : cart.toRow = some row) :
    row.toItem = cart.stored ∧ ∀ quantity, { cart with quantity := some quantity }.toRow
      = some { row with quantity := quantity } := by
  simp only [toRow, Option.pure_def, Option.bind_eq_bind, Option.bind_eq_some_iff,
    Option.some.injEq] at h
  obtain ⟨id, hid, price, hprice, total, htotal, quantity, hquantity, type, htype, h⟩ := h
  obtain ⟨name, hname, sale1, h1, sale2, h2, sale3, h3, stock, hstock, h⟩ := h
  subst h
  simp [stored, CartRow.toItem, toRow, hid, hprice, htotal, hquantity, htype, hname, h1, h2, h3,
    hstock]

/-- Where the columns of a row come from, the NOT NULL ones being there. -/
theorem CartItem.toRow_eq_some {cart : CartItem} {row : CartRow} (h : cart.toRow = some row) :
    cart.product.id = some row.id ∧ row.vendorId = cart.product.vendorId ∧
      cart.quantity = some row.quantity ∧ cart.type = some row.packagingType ∧
      cart.totalPrice = some row.totalPrice ∧ row.vendorShipping = cart.vendorShipping := by
  have hstored := (toItem_of_toRow h).1.symm
  exact ⟨(congrArg (·.product.id) hstored :), (congrArg (·.product.vendorId) hstored.symm :),
    (congrArg CartItem.quantity hstored :), (congrArg CartItem.type hstored :),
    (congrArg CartItem.totalPrice hstored :), (congrArg CartItem.vendorShipping hstored.symm :)⟩

namespace CartDbHelper

def insertProduct (cart : CartItem) : Method DartError (List CartRow) Unit :=
  match cart.toRow with
  | some row => modify (· ++ [row])
  | none => throw .databaseException

def updateProductQuantity (quantity : Int) (cartId : Option Int) :
    Method DartError (List CartRow) Unit :=
  modify fun table =>
    table.map fun row => if some row.id = cartId then { row with quantity := quantity } else row

/-- A null `cart` only fails in the background. -/
def deleteProduct (cart : Option CartItem) : Method DartError (List CartRow) Unit :=
  modify fun table =>
    match cart with
    | some cart => table.filter fun row => some row.id ≠ cart.product.id
    | none => table

def getAllProducts (table : List CartRow) : List CartItem := table.map CartRow.toItem

def clearCart : Method DartError (List CartRow) Unit := modify fun _ => []

end CartDbHelper
end Nourgomla
