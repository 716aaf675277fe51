import Nourgomla.Controllers.CartApp
import Nourgomla.Library.Machine

set_option autoImplicit false

/-! # The quantity controls

`common_widgets/spin_widget.dart` and three of the screens that build one: the cart sheet
(`product_cart_sheet.dart`), a line's tile in the cart (`cart_tile_widget.dart`) and the product
details (`product_details_screen.dart`). A control keeps a value of its own beside the one it is built
with, and every screen passes bounds of its own. -/

namespace Nourgomla

/-- A `SpinWidget` without its looks. -/
structure SpinWidget where
  value : Option Int
  min : Int := 1
  max : Int := 9999
  step : Int := 1
  enabled : Bool := true
  stock : Option Int := some 900
deriving DecidableEq

/-- `_SpinWidgetState` with the widget it was built with last. -/
structure SpinState where
  widget : SpinWidget
  value : Option Int
  minValue : Int := 0
deriving DecidableEq

inductive SpinButton
  | minus
  | add
deriving DecidableEq

namespace SpinState

def initState (widget : SpinWidget) : SpinState := { widget := widget, value := widget.value }

def didUpdateWidget (widget : SpinWidget) (spin : SpinState) : SpinState :=
  { spin with
    widget := widget
    value := if widget.value ≠ spin.widget.value then widget.value else spin.value }

def minusBtnDisabled (spin : SpinState) (value : Int) : Bool :=
  value ≤ spin.widget.min || value = 1 || value ≤ spin.minValue ||
    value - spin.widget.step < spin.minValue || !spin.widget.enabled

def addBtnDisabled (spin : SpinState) (value stock : Int) : Bool :=
  value ≥ stock || value ≥ spin.widget.max || value + spin.widget.step > spin.widget.max ||
    !spin.widget.enabled

/-- `_adjustValue` up to `onChanged`: an empty control jumps to the least amount. -/
def adjustValue (spin : SpinState) (value stock adjustment : Int) : SpinState :=
  if value = 0 then
    { spin with
      value := some (if stock < spin.widget.min then value + stock else value + spin.widget.min)
      minValue := if stock < spin.widget.min then stock else spin.widget.min }
  else { spin with value := some (value + adjustment) }

/-- A tap on a button that is not disabled. Without a value or a stock `build` throws, and there are no
    buttons. -/
def tap (button : SpinButton) (spin : SpinState) : Option SpinState := do
  let value ← spin.value
  let stock ← spin.widget.stock
  match button with
  | .minus =>
    if spin.minusBtnDisabled value then none
    else some (spin.adjustValue value stock (-spin.widget.step))
  | .add =>
    if spin.addBtnDisabled value stock then none
    else some (spin.adjustValue value stock spin.widget.step)

end SpinState

/-! ## The cart sheet -/

/-- The package types of a product. -/
inductive Package
  | first
  | second
  | third
deriving DecidableEq

namespace Package

def type : Package → Int
  | .first => 1
  | .second => 2
  | .third => 3

def stock (product : Product) : Package → Option Int
  | .first => product.package1Stock
  | .second => product.package2Stock
  | .third => product.package3Stock

/-- Whether the sheet has a control for the package. -/
def isShown (availablePackaging : Int) (product : Product) : Package → Bool
  | .first => true
  | .second => product.package2Name ≠ none && product.package2Name ≠ some "" &&
      availablePackaging > 1
  | .third => product.package3Name ≠ none && product.package3Name ≠ some "" &&
      availablePackaging > 2

end Package

/-- `ProductCartSheet`: the line it builds and its controls. -/
structure CartSheet where
  cart : CartItem
  spins : Package → SpinState

namespace CartSheet

def isSelected (cart : CartItem) (package : Package) : Bool := cart.type = some package.type

/-- The control for a package. -/
def spinWidget (cart : CartItem) (package : Package) : SpinWidget :=
  { value := if isSelected cart package then cart.quantity else some 0
    max := cart.product.maxOrder
    min := cart.product.minimumOrder
    stock := package.stock cart.product }

def initState (product : Product) : CartSheet :=
  let cart : CartItem := { product := product }
  { cart := cart, spins := fun package => .initState (spinWidget cart package) }

/-- `setValue`, after which all controls are built again. -/
def setValue (value : Int) (package : Package) (sheet : CartSheet) : CartSheet :=
  let cart := ((CartController.setValues value package.type).exec sheet.cart).2
  { cart := cart
    spins := fun other => (sheet.spins other).didUpdateWidget (spinWidget cart other) }

def tap (availablePackaging : Int) (package : Package) (button : SpinButton) (sheet : CartSheet) :
    Option CartSheet := do
  if package.isShown availablePackaging sheet.cart.product then
    let spin ← (sheet.spins package).tap button
    let value ← spin.value
    return setValue value package
      { sheet with spins := fun other => if other = package then spin else sheet.spins other }
  else none

end CartSheet

/-! ## The tile and the details -/

inductive ControlPlace
  /-- the tile of the line with this index -/
  | tile (index : Nat)
  /-- the details of a product, which may be another copy than the line's -/
  | details (product : Product)

namespace ControlPlace

/-- The line a control shows. The tile of a gift has none. -/
def line (con : CartController) : ControlPlace → Option CartItem
  | .tile index => con.cartProducts[index]?.filter CartItem.isPaid
  | .details product => con.getCartById product.id

/-- The product id that `onChanged` passes on. -/
def productId (cart : CartItem) : ControlPlace → Option Int
  | .tile _ => cart.product.id
  | .details product => product.id

def spinWidget (cart : CartItem) : ControlPlace → SpinWidget
  | .tile _ =>
    { value := cart.quantity
      max := cart.product.maxOrder
      min := cart.product.minimumOrder
      stock := cart.selectedPackagingStock }
  -- without a stock
  | .details product =>
    { value := cart.quantity, min := product.minimumOrder, max := product.maxOrder }

end ControlPlace

/-- A control on a screen that is open. -/
structure QuantityControl where
  place : ControlPlace
  productId : Option Int
  spin : SpinState

def QuantityControl.initState (place : ControlPlace) (cart : CartItem) : QuantityControl :=
  { place := place
    productId := place.productId cart
    spin := .initState (place.spinWidget cart) }

/-- The control is built again. -/
def QuantityControl.rebuild (cart : CartItem) (control : QuantityControl) : QuantityControl :=
  { control with
    productId := control.place.productId cart
    spin := control.spin.didUpdateWidget (control.place.spinWidget cart) }

/-! ## Taps as a machine -/

/-- The app with the cart sheet, if it is open, and the other controls there are. -/
structure TapState where
  app : App := {}
  sheet : Option CartSheet := none
  controls : List QuantityControl := []

inductive TapEvent
  | openSheet (product : Product)
  | tapSheet (package : Package) (button : SpinButton)
  /-- the button of the sheet -/
  | addToCart
  | closeSheet
  | openControl (place : ControlPlace)
  /-- the framework builds a control again -/
  | rebuild (k : Nat)
  | closeControl (k : Nat)
  | tapControl (k : Nat) (button : SpinButton)

/-- Taps, and what the framework builds, in any order. -/
def tapping (config : Config) (availablePackaging : Int) : Machine TapState TapEvent where
  step s
    | .openSheet product => some { s with sheet := some (.initState product) }
    | .tapSheet package button => do
      let sheet ← (← s.sheet).tap availablePackaging package button
      return { s with sheet := some sheet }
    | .addToCart => do
      let sheet ← s.sheet
      -- the button ignores taps until a type is selected
      let _type ← sheet.cart.type
      match (App.addToCart config sheet.cart).exec s.app with
      | (.ok (), app) =>
        return { s with app := app, sheet := if s.app.accepts sheet.cart then none else s.sheet }
      | (.error _, app) => return { s with app := app }
    | .closeSheet => some { s with sheet := none }
    | .openControl place => do
      let cart ← place.line s.app.con
      return { s with controls := s.controls ++ [.initState place cart] }
    | .rebuild k => do
      let control ← s.controls[k]?
      let cart ← control.place.line s.app.con
      return { s with controls := s.controls.set k (control.rebuild cart) }
    | .closeControl k => some { s with controls := s.controls.eraseIdx k }
    | .tapControl k button => do
      let control ← s.controls[k]?
      let spin ← control.spin.tap button
      let value ← spin.value
      return { s with
        app := ((App.changeQuantity control.productId value).exec s.app).2
        controls := s.controls.set k { control with spin := spin } }

end Nourgomla
