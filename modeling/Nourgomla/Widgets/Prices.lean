import Nourgomla.Controllers.CartSpec

set_option autoImplicit false

/-! # The places that show a unit price

The product cards (`packaging_info_widget_2_lines.dart`), the cart sheet (`product_cart_sheet.dart`),
the line's tile in the cart (`cart_tile_widget.dart`) and the line of the bill
(`bill_mini_product_widget.dart`). Each has a test of its own for whether there is a sale. A place is
the number it prints, `none` where it prints the word `null`. -/

namespace Nourgomla

/-- The sale price of a product in a package type. -/
def Product.packageSale (product : Product) (type : Option Int) : Option Num :=
  match type with
  | some 1 => product.price1Sale
  | some 2 => product.price2Sale
  | some 3 => product.price3Sale
  | _ => none

/-! ## Product cards -/

/-- `PackagingInfoWidget2Lines`: the price in green. It compares the texts the cards build it with, and a missing sale
    price is a text too. -/
def packagingInfo (price salePrice : Option Num) : Option Num :=
  if nullableText salePrice = "0" then price else salePrice

theorem packagingInfo_eq (price salePrice : Option Num) :
    packagingInfo price salePrice = if salePrice = some (.int 0) then price else salePrice := by
  unfold packagingInfo
  cases salePrice with
  | none => rfl
  | some sale => simp [nullableText, Num.text_eq_zero_iff]

/-- The price of a package on the cards. -/
def cardPrice (product : Product) (type : Int) : Option Num :=
  packagingInfo (product.packagePrice (some type)) (product.packageSale (some type))

/-! ## The cart -/

/-- `sale == 0 || sale == null` -/
def noSale (salePrice : Option Num) : Bool :=
  match salePrice with
  | none => true
  | some sale => sale.toRat = 0

/-- The price of a package in the cart sheet. -/
def sheetPrice (product : Product) (type : Int) : Option Num :=
  if noSale (product.packageSale (some type)) then product.packagePrice (some type)
  else product.packageSale (some type)

/-- The unit price on the line's tile. -/
def CartItem.tilePrice (cart : CartItem) : Option Num :=
  if noSale cart.selectedSalePrice then cart.selectedPrice else cart.selectedSalePrice

/-- A line of the bill: `unit * quantity = total`. -/
structure BillLine where
  unit : Option Num
  quantity : Option Int
  total : Option Rat

/-- `BillMiniProductWidget` -/
def CartItem.billLine (cart : CartItem) : BillLine :=
  { unit := cart.selectedPrice, quantity := cart.quantity, total := cart.totalPrice }

end Nourgomla
