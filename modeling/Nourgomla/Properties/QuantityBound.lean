import Nourgomla.Controllers.AppSpec
import Nourgomla.Widgets.SpinWidget

set_option autoImplicit false

/-! # Quantities within stock and limit

A line that the sheet adds has a quantity within the stock of its package and the limit of its product.
The controls of the sheet and of the tiles keep that. The details screen builds its control without a
stock, and with the limit of its own copy of the product, so its plus button is the one that goes
beyond: the bound holds exactly as long as that button is tapped below both (`bounded_iff_inStock`). -/

namespace Nourgomla

open Method CartController

/-- What bounds the quantity of a line. -/
structure LineLimit where
  productId : Option Int
  stock : Option Int
  maxOrder : Int
deriving DecidableEq

def CartItem.limit (cart : CartItem) : LineLimit :=
  { productId := cart.product.id
    stock := cart.selectedPackagingStock
    maxOrder := cart.product.maxOrder }

/-- A quantity is within the limit. -/
def LineLimit.Permits (limit : LineLimit) (quantity : Int) : Prop :=
  (limit.stock.any fun stock => quantity ≤ stock) = true ∧ quantity ≤ limit.maxOrder

instance (limit : LineLimit) (quantity : Int) : Decidable (limit.Permits quantity) :=
  inferInstanceAs (Decidable (_ ∧ _))

theorem LineLimit.permits_iff {limit : LineLimit} {quantity : Int} : limit.Permits quantity ↔
    (∃ stock, limit.stock = some stock ∧ quantity ≤ stock) ∧ quantity ≤ limit.maxOrder := by
  simp [Permits, Option.any_eq_true]

/-- Every line's quantity is at most its package's stock and its product's limit. -/
def QuantitiesBounded (s : TapState) : Prop :=
  ∀ cart ∈ s.app.con.cartProducts, (cart.quantity.any fun quantity =>
    decide (cart.limit.Permits quantity)) = true

instance (s : TapState) : Decidable (QuantitiesBounded s) :=
  inferInstanceAs (Decidable (∀ cart ∈ s.app.con.cartProducts, _))

/-- The sheet is opened for products whose limits make sense. -/
@[reducible] def ProperProduct : TapEvent → Prop
  | .openSheet product => 1 ≤ product.minimumOrder ∧ product.minimumOrder ≤ product.maxOrder
  | _ => True

def ControlPlace.isDetails : ControlPlace → Bool
  | .tile _ => false
  | .details _ => true

/-- On a details screen the plus button is tapped only while the shown quantity is below the stock and
    the limit of the line. -/
def InStock (s : TapState) : TapEvent → Prop
  | .tapControl k .add => ∀ control ∈ s.controls[k]?, control.place.isDetails = true →
    ∀ value ∈ control.spin.value, ∀ cart ∈ s.app.con.getCartById control.productId,
      cart.limit.Permits (value + 1)
  | _ => True

/-! ## A control -/

namespace SpinState

/-- A tap on the plus button: the value was below the stock and the limit. -/
theorem tap_add {spin spin' : SpinState} {value : Int} (hvalue : spin.value = some value)
    (hstep : spin.widget.step = 1) (h : spin.tap .add = some spin') :
    ∃ stock, spin.widget.stock = some stock ∧ value < stock ∧ value < spin.widget.max ∧
      spin'.widget = spin.widget ∧ spin'.value = some (if value = 0 then
        if stock < spin.widget.min then stock else spin.widget.min else value + 1) := by
  cases hstock : spin.widget.stock with
  | none => simp [tap, hvalue, hstock] at h
  | some stock =>
      have hadd : spin.addBtnDisabled value stock = false ∧
          spin.adjustValue value stock spin.widget.step = spin' := by
        simpa [tap, hvalue, hstock] using h
      obtain ⟨henabled, rfl⟩ := hadd
      have hbelow : value < stock ∧ value < spin.widget.max := by
        simp only [addBtnDisabled, Bool.or_eq_false_iff, decide_eq_false_iff_not] at henabled
        omega
      refine ⟨stock, rfl, hbelow.1, hbelow.2, ?_, ?_⟩
      · unfold adjustValue
        split <;> rfl
      · by_cases hzero : value = 0
        · simp [adjustValue, hzero]
        · simp [adjustValue, hzero, hstep]

/-- A tap on the minus button: the value was above the least amount, and above 1. -/
theorem tap_minus {spin spin' : SpinState} {value : Int} (hvalue : spin.value = some value)
    (hstep : spin.widget.step = 1) (hmin : 0 ≤ value) (hleast : value = 0 → 0 ≤ spin.widget.min)
    (h : spin.tap .minus = some spin') :
    1 < value ∧ spin'.widget = spin.widget ∧ spin'.value = some (value - 1) := by
  cases hstock : spin.widget.stock with
  | none => simp [tap, hvalue, hstock] at h
  | some stock =>
      have hminus : spin.minusBtnDisabled value = false ∧
          spin.adjustValue value stock (-spin.widget.step) = spin' := by
        simpa [tap, hvalue, hstock] using h
      obtain ⟨henabled, rfl⟩ := hminus
      have habove : spin.widget.min < value ∧ value ≠ 1 := by
        simp only [minusBtnDisabled, Bool.or_eq_false_iff, decide_eq_false_iff_not] at henabled
        omega
      have hpositive : value ≠ 0 := fun hzero => by
        have := hleast hzero
        omega
      refine ⟨by omega, ?_, ?_⟩
      · simp [adjustValue, hpositive]
      · simp [adjustValue, hpositive, hstep]
        rfl

end SpinState

/-! ## The lines -/

/-- A line as far as the bound is concerned. -/
def CartItem.amount (cart : CartItem) : LineLimit × Option Int := (cart.limit, cart.quantity)

@[simp] theorem CartItem.amount_core (cart : CartItem) : cart.core.amount = cart.amount := rfl

def amounts (con : CartController) : List (LineLimit × Option Int) :=
  con.cartProducts.map CartItem.amount

theorem amounts_of_core {a b : CartController} (h : a.core = b.core) : amounts a = amounts b := by
  have hlines : a.cartProducts.map CartItem.core = b.cartProducts.map CartItem.core :=
    congrArg CartController.cartProducts h
  have hviews := congrArg (List.map CartItem.amount) hlines
  simpa [amounts, Function.comp_def] using hviews

/-- Each product has one line, whose quantity is positive and within its limit. -/
structure AmountsBounded (lines : List (LineLimit × Option Int)) : Prop where
  ids : (lines.map fun line => line.1.productId).Nodup
  bounded : ∀ line ∈ lines, ∃ quantity, line.2 = some quantity ∧ 1 ≤ quantity ∧
    line.1.Permits quantity

/-- The lines after a product was given a quantity. -/
def withAmount (productId : Option Int) (quantity : Int) (lines : List (LineLimit × Option Int)) :
    List (LineLimit × Option Int) :=
  lines.map fun line => if line.1.productId = productId then (line.1, some quantity) else line

/-- Limits stay when quantities change. -/
theorem limits_withAmount (productId : Option Int) (quantity : Int)
    (lines : List (LineLimit × Option Int)) :
    (withAmount productId quantity lines).map Prod.fst = lines.map Prod.fst := by
  rw [withAmount, List.map_map]
  refine List.map_congr_left fun line _ => ?_
  show (if _ then _ else _ : LineLimit × Option Int).1 = line.1
  split <;> rfl

theorem AmountsBounded.withAmount {lines : List (LineLimit × Option Int)}
    (h : AmountsBounded lines) {productId : Option Int} {quantity : Int} (hpositive : 1 ≤ quantity)
    (hlimit : ∀ line ∈ lines, line.1.productId = productId → line.1.Permits quantity) :
    AmountsBounded (withAmount productId quantity lines) := by
  constructor
  · have hids := congrArg (List.map LineLimit.productId) (limits_withAmount productId quantity lines)
    rw [List.map_map, List.map_map] at hids
    exact hids ▸ h.ids
  · intro line hline
    obtain ⟨old, hold, rfl⟩ := List.mem_map.1 hline
    by_cases hid : old.1.productId = productId
    · simp only [hid, if_true]
      exact ⟨quantity, rfl, hpositive, hlimit old hold hid⟩
    · simp only [hid, if_false]
      exact h.bounded old hold

/-- A line for a product that has none is added. -/
theorem AmountsBounded.append {lines : List (LineLimit × Option Int)} (h : AmountsBounded lines)
    {line : LineLimit × Option Int} (hnew : ∀ old ∈ lines, old.1.productId ≠ line.1.productId)
    (hline : ∃ quantity, line.2 = some quantity ∧ 1 ≤ quantity ∧ line.1.Permits quantity) :
    AmountsBounded (lines ++ [line]) := by
  constructor
  · rw [List.map_append, List.nodup_append']
    refine ⟨h.ids, by simp, fun id hid hid' => ?_⟩
    obtain ⟨old, hold, rfl⟩ := List.mem_map.1 hid
    exact hnew old hold (by simpa using hid')
  · intro other hother
    rcases List.mem_append.1 hother with hother | hother
    · exact h.bounded other hother
    · exact List.mem_singleton.1 hother ▸ hline

theorem AmountsBounded.quantitiesBounded {s : TapState} (h : AmountsBounded (amounts s.app.con)) :
    QuantitiesBounded s := by
  intro cart hcart
  obtain ⟨quantity, hquantity, -, hpermits⟩ := h.bounded cart.amount (List.mem_map_of_mem hcart)
  have hsome : cart.quantity = some quantity := hquantity
  rw [hsome]
  exact decide_eq_true hpermits

/-- What `changeQuantity` does to the lines, each product having one. -/
theorem amounts_changeQuantity {app : App} {productId : Option Int} {quantity : Int}
    (hids : ((amounts app.con).map fun line => line.1.productId).Nodup)
    (hin : ∃ line ∈ amounts app.con, line.1.productId = productId) :
    amounts ((App.changeQuantity productId quantity).exec app).2.con
      = withAmount productId quantity (amounts app.con) := by
  obtain ⟨cart, hcart⟩ : ∃ cart, app.con.getCartById productId = some cart := by
    obtain ⟨line, hline, hid⟩ := hin
    obtain ⟨cart, hcart, rfl⟩ := List.mem_map.1 hline
    exact Option.isSome_iff_exists.1 (List.find?_isSome.2 ⟨cart, hcart, (hasId_iff cart).2 hid⟩)
  have hnodup : (app.con.cartProducts.map fun cart => cart.product.id).Nodup := by
    rw [amounts, List.map_map] at hids
    exact hids
  rw [amounts_of_core (App.core_changeQuantity quantity hcart)]
  show (updateFirst (hasId productId) (requantified quantity) app.con.cartProducts).map _ = _
  rw [updateFirst_eq_map (fun c => hasId_iff c) hnodup, amounts, withAmount, List.map_map,
    List.map_map]
  refine List.map_congr_left fun c _ => ?_
  show CartItem.amount (if _ then _ else _) = if _ then _ else _
  by_cases hid : c.product.id = productId
  · have hcore := congrArg CartItem.amount (requantified_core quantity c)
    have hamount : c.amount.1.productId = productId := hid
    rw [if_pos hid, if_pos hamount]
    exact hcore
  · have hamount : ¬ c.amount.1.productId = productId := hid
    rw [if_neg hid, if_neg hamount]

/-- `addToCart` adds at most the line it is given, and only for a product that has none. -/
theorem amounts_addToCart (config : Config) (cart : CartItem) (app : App) :
    amounts ((App.addToCart config cart).exec app).2.con = amounts app.con ∨
    (∀ line ∈ amounts app.con, line.1.productId ≠ cart.product.id) ∧
      amounts ((App.addToCart config cart).exec app).2.con = amounts app.con ++ [cart.amount] := by
  have hcaptured : amounts (App.captured config cart app.con) = amounts app.con := by
    simp [amounts]
  rcases App.addToCart_cases config cart app with ⟨-, he⟩ | ⟨-, -, he⟩ | ⟨haccepts, row, -, he⟩
  · exact .inl (by rw [he])
  · exact .inl (by rw [he]; exact hcaptured)
  · right
    refine ⟨fun line hline => ?_, ?_⟩
    · obtain ⟨c, hc, rfl⟩ := List.mem_map.1 hline
      exact (App.accepts_iff.1 haccepts).1 c hc
    · have hshipped : (App.withShipping config cart).amount = cart.amount := by
        unfold App.withShipping
        split <;> rfl
      rw [he, amounts_of_core (App.core_addToCartAppend _ _)]
      show ((App.captured config cart app.con).cartProducts ++ _).map _ = _
      rw [List.map_append, ← hshipped]
      exact congrArg (· ++ _) hcaptured

/-! ## The sheet -/

/-- The limit of a package of a product. -/
def Package.limit (product : Product) (package : Package) : LineLimit :=
  { productId := product.id
    stock := package.stock product
    maxOrder := product.maxOrder }

/-- The line of a sheet, once a type is selected, is within its limit, and its controls are empty or
    within theirs. -/
structure SheetInv (sheet : CartSheet) : Prop where
  proper : 1 ≤ sheet.cart.product.minimumOrder ∧
    sheet.cart.product.minimumOrder ≤ sheet.cart.product.maxOrder
  line : sheet.cart.type = none ∨ ∃ quantity, sheet.cart.quantity = some quantity ∧ 1 ≤ quantity ∧
    sheet.cart.limit.Permits quantity
  widgets : ∀ package, (sheet.spins package).widget = CartSheet.spinWidget sheet.cart package
  values : ∀ package, ∃ value, (sheet.spins package).value = some value ∧
    (value = 0 ∨ 1 ≤ value ∧ (package.limit sheet.cart.product).Permits value)

theorem sheetInv_initState {product : Product}
    (h : 1 ≤ product.minimumOrder ∧ product.minimumOrder ≤ product.maxOrder) :
    SheetInv (.initState product) :=
  ⟨h, .inl rfl, fun _ => rfl, fun _ => ⟨0, rfl, .inl rfl⟩⟩

theorem calculatePrice_fields (cart : CartItem) :
    let cart' := (calculatePrice.exec cart).2
    cart'.product = cart.product ∧ cart'.type = cart.type ∧ cart'.quantity = cart.quantity ∧
      cart'.limit = cart.limit := by
  have hcore := CartItem.keeps_core_calculatePrice cart
  exact ⟨(congrArg CartItem.product hcore :), (congrArg CartItem.type hcore :),
    (congrArg CartItem.quantity hcore :), (congrArg CartItem.limit hcore :)⟩

/-- What `setValues` leaves in a line. -/
theorem setValues_fields (cart : CartItem) (value : Int) (package : Package) :
    let cart' := ((setValues value package.type).exec cart).2
    cart'.product = cart.product ∧ cart'.type = some package.type ∧ cart'.quantity = some value ∧
      cart'.limit = package.limit cart.product := by
  cases package with
  | first =>
      exact calculatePrice_fields { cart with
        quantity := some value, type := some 1
        selectedPackagingName := cart.product.package1Name
        selectedPrice := some cart.product.package1Price
        selectedSalePrice := cart.product.price1Sale
        selectedPackagingStock := cart.product.package1Stock }
  | second =>
      exact calculatePrice_fields { cart with
        quantity := some value, type := some 2
        selectedPackagingName := cart.product.package2Name
        selectedPrice := some cart.product.package2Price
        selectedSalePrice := cart.product.price2Sale
        selectedPackagingStock := cart.product.package2Stock }
  | third =>
      exact calculatePrice_fields { cart with
        quantity := some value, type := some 3
        selectedPackagingName := cart.product.package3Name
        selectedPrice := some cart.product.package3Price
        selectedSalePrice := cart.product.price3Sale
        selectedPackagingStock := cart.product.package3Stock }

theorem Package.type_injective {a b : Package} (h : a.type = b.type) : a = b := by
  cases a <;> cases b <;> first | rfl | exact absurd h (by decide)

/-- The value a control of the sheet has after a tap is within the limit of its package. -/
theorem SheetInv.tapped {sheet : CartSheet} (h : SheetInv sheet) {package : Package}
    {button : SpinButton} {spin : SpinState} (htap : (sheet.spins package).tap button = some spin) :
    ∃ value, spin.value = some value ∧ 1 ≤ value ∧
      (package.limit sheet.cart.product).Permits value := by
  obtain ⟨hleast, hmost⟩ := h.proper
  obtain ⟨value, hvalue, hwithin⟩ := h.values package
  have hwidget := h.widgets package
  have hstep : (sheet.spins package).widget.step = 1 := by rw [hwidget]; rfl
  cases button with
  | add =>
      obtain ⟨stock, hstock, hbelow, hmax, -, hspin⟩ := SpinState.tap_add hvalue hstep htap
      rw [hwidget] at hstock hmax hspin
      have hstock : package.stock sheet.cart.product = some stock := hstock
      have hmax : value < sheet.cart.product.maxOrder := hmax
      refine ⟨_, hspin, ?_, LineLimit.permits_iff.2 ⟨⟨stock, hstock, ?_⟩, ?_⟩⟩
      · show 1 ≤ if value = 0 then if stock < sheet.cart.product.minimumOrder then stock
          else sheet.cart.product.minimumOrder else value + 1
        rcases hwithin with hzero | ⟨hpositive, -⟩ <;> split_ifs <;> omega
      · show (if value = 0 then if stock < sheet.cart.product.minimumOrder then stock
          else sheet.cart.product.minimumOrder else value + 1) ≤ stock
        split_ifs <;> omega
      · show (if value = 0 then if stock < sheet.cart.product.minimumOrder then stock
          else sheet.cart.product.minimumOrder else value + 1) ≤ sheet.cart.product.maxOrder
        split_ifs <;> omega
  | minus =>
      have hnonneg : 0 ≤ value := by rcases hwithin with hzero | ⟨hpositive, -⟩ <;> omega
      have hmin : (sheet.spins package).widget.min = sheet.cart.product.minimumOrder := by
        rw [hwidget]
        rfl
      obtain ⟨habove, -, hspin⟩ := SpinState.tap_minus hvalue hstep hnonneg
        (fun _ => by omega) htap
      obtain ⟨-, hpermits⟩ := hwithin.resolve_left (by omega)
      obtain ⟨⟨stock, hstock, hle⟩, hmax⟩ := LineLimit.permits_iff.1 hpermits
      exact ⟨value - 1, hspin, by omega,
        LineLimit.permits_iff.2 ⟨⟨stock, hstock, by omega⟩, by omega⟩⟩

theorem SheetInv.tap {sheet sheet' : CartSheet} (h : SheetInv sheet) {availablePackaging : Int}
    {package : Package} {button : SpinButton}
    (htap : sheet.tap availablePackaging package button = some sheet') : SheetInv sheet' := by
  obtain ⟨-, htap⟩ := Option.ite_none_right_eq_some.1 htap
  obtain ⟨spin, hspin, htap⟩ := Option.bind_eq_some_iff.1 htap
  obtain ⟨value, hvalue, hpositive, hpermits⟩ := h.tapped hspin
  obtain ⟨value', hvalue', hsheet⟩ := Option.bind_eq_some_iff.1 htap
  obtain rfl : value = value' := Option.some.inj (hvalue.symm.trans hvalue')
  obtain rfl := Option.some.inj hsheet
  obtain ⟨hproduct, htype, hquantity, hlimit⟩ := setValues_fields sheet.cart value package
  constructor
  · have hproper := h.proper
    rw [← hproduct] at hproper
    exact hproper
  · exact .inr ⟨value, hquantity, hpositive, hlimit ▸ hpermits⟩
  · exact fun _ => rfl
  · intro other
    show ∃ shown, (SpinState.didUpdateWidget _ (if other = package then spin
      else sheet.spins other)).value = some shown ∧ (shown = 0 ∨ 1 ≤ shown ∧ (Package.limit
        ((setValues value package.type).exec sheet.cart).2.product other).Permits shown)
    rw [hproduct]
    by_cases hother : other = package
    · subst hother
      refine ⟨value, ?_, .inr ⟨hpositive, hpermits⟩⟩
      simp [SpinState.didUpdateWidget, CartSheet.spinWidget, CartSheet.isSelected, htype, hquantity,
        hvalue]
    · -- the other packages are not selected any more
      have hunselected : ¬ some package.type = some other.type :=
        fun htypes => hother (Package.type_injective (Option.some.inj htypes)).symm
      obtain ⟨shown, hshown, hwithin⟩ := h.values other
      rw [if_neg hother]
      by_cases hsame : some (0 : Int) = (sheet.spins other).widget.value
      · refine ⟨shown, ?_, hwithin⟩
        simp [SpinState.didUpdateWidget, CartSheet.spinWidget, CartSheet.isSelected, htype,
          hunselected, ← hsame, hshown]
      · refine ⟨0, ?_, .inl rfl⟩
        simp [SpinState.didUpdateWidget, CartSheet.spinWidget, CartSheet.isSelected, htype,
          hunselected, hsame]

/-! ## The controls of tiles and details -/

/-- The line of a place has this limit. -/
def ControlPlace.Shows (limits : List LineLimit) (limit : LineLimit) : ControlPlace → Prop
  | .tile index => limits[index]? = some limit
  | .details product => product.id = limit.productId

/-- A control shows a value within the limit of its product's line; a tile has that limit's bounds. -/
structure ControlInv (limits : List LineLimit) (control : QuantityControl) (limit : LineLimit) :
    Prop where
  there : limit ∈ limits
  id : limit.productId = control.productId
  value : ∃ value, control.spin.value = some value ∧ 1 ≤ value ∧ limit.Permits value
  step : control.spin.widget.step = 1
  place : control.place.Shows limits limit
  tile : ∀ index, control.place = .tile index →
    control.spin.widget.stock = limit.stock ∧ control.spin.widget.max = limit.maxOrder

/-- Lines that are added behind change nothing. -/
theorem ControlInv.append {limits more : List LineLimit} {control : QuantityControl}
    {limit : LineLimit} (h : ControlInv limits control limit) :
    ControlInv (limits ++ more) control limit := by
  refine ⟨List.mem_append_left _ h.there, h.id, h.value, h.step, ?_, h.tile⟩
  have hplace := h.place
  cases hp : control.place with
  | details product =>
      rw [hp] at hplace
      exact hplace
  | tile index =>
      rw [hp] at hplace
      have hindex : limits[index]? = some limit := hplace
      obtain ⟨hlt, -⟩ := List.getElem?_eq_some_iff.1 hindex
      exact (List.getElem?_append_left hlt).trans hindex

def limits (con : CartController) : List LineLimit := (amounts con).map Prod.fst

theorem limits_eq (con : CartController) : limits con = con.cartProducts.map CartItem.limit := by
  rw [limits, amounts, List.map_map]
  rfl

/-- The line a control is built for has this limit and quantity. -/
theorem limit_of_line {con : CartController} (h : AmountsBounded (amounts con))
    {place : ControlPlace} {cart : CartItem} (hline : place.line con = some cart) :
    cart.limit ∈ limits con ∧ place.productId cart = cart.limit.productId ∧
      (∃ quantity, cart.quantity = some quantity ∧ 1 ≤ quantity ∧ cart.limit.Permits quantity) ∧
      place.Shows (limits con) cart.limit := by
  rw [limits_eq]
  have hbounded : ∀ c ∈ con.cartProducts, ∃ quantity, c.quantity = some quantity ∧
      1 ≤ quantity ∧ c.limit.Permits quantity :=
    fun c hc => h.bounded c.amount (List.mem_map_of_mem hc)
  cases place with
  | tile index =>
      obtain ⟨hindex, -⟩ := Option.filter_eq_some_iff.1 hline
      have hmem := List.mem_of_getElem? hindex
      exact ⟨List.mem_map_of_mem hmem, rfl, hbounded cart hmem,
        by simp [ControlPlace.Shows, hindex]⟩
  | details product =>
      have hmem := List.mem_of_find?_eq_some hline
      have hid : cart.product.id = product.id := (hasId_iff cart).1 (List.find?_some hline)
      exact ⟨List.mem_map_of_mem hmem, hid.symm, hbounded cart hmem, hid.symm⟩

/-- Lines with one id are one line. -/
theorem limit_unique {con : CartController} (h : AmountsBounded (amounts con)) {a b : LineLimit}
    (ha : a ∈ limits con) (hb : b ∈ limits con) (hid : a.productId = b.productId) : a = b := by
  have hnodup : ((limits con).map LineLimit.productId).Nodup := by
    rw [limits, List.map_map]
    exact h.ids
  exact List.inj_on_of_nodup_map hnodup ha hb hid

theorem controlInv_initState {con : CartController} (h : AmountsBounded (amounts con))
    {place : ControlPlace} {cart : CartItem} (hline : place.line con = some cart) :
    ControlInv (limits con) (.initState place cart) cart.limit := by
  obtain ⟨hthere, hid, hvalue, hplace⟩ := limit_of_line h hline
  refine ⟨hthere, hid.symm, ?_, ?_, hplace, fun index hindex => ?_⟩
  · cases place <;> exact hvalue
  · cases place <;> rfl
  · obtain rfl : place = .tile index := hindex
    exact ⟨rfl, rfl⟩

theorem ControlInv.rebuild {con : CartController} (hlines : AmountsBounded (amounts con))
    {control : QuantityControl} {limit : LineLimit} (h : ControlInv (limits con) control limit)
    {cart : CartItem} (hline : control.place.line con = some cart) :
    ControlInv (limits con) (control.rebuild cart) cart.limit := by
  obtain ⟨hthere, hid, ⟨quantity, hquantity, hpositive, hpermits⟩, hplace⟩ :=
    limit_of_line hlines hline
  -- it is the line the control was built for before
  have hsame : limit = cart.limit := by
    refine limit_unique hlines h.there hthere ?_
    have hold := h.place
    cases hp : control.place with
    | tile index =>
        rw [hp] at hold hplace
        rw [Option.some.inj (Eq.trans (Eq.symm hold) hplace)]
    | details product =>
        rw [hp] at hold hplace
        exact Eq.trans (Eq.symm hold) hplace
  obtain ⟨value, hvalue, hvalues⟩ := h.value
  have hshown : ∃ value, (control.rebuild cart).spin.value = some value ∧ 1 ≤ value ∧
      cart.limit.Permits value := by
    by_cases hchanged : (control.place.spinWidget cart).value ≠ control.spin.widget.value
    · have hnew : (control.place.spinWidget cart).value = some quantity := by
        cases control.place <;> exact hquantity
      refine ⟨quantity, ?_, hpositive, hpermits⟩
      show (if _ then _ else _ : Option Int) = _
      rw [if_pos hchanged, hnew]
    · refine ⟨value, ?_, hsame ▸ hvalues⟩
      show (if _ then _ else _ : Option Int) = _
      rw [if_neg hchanged, hvalue]
  have hwidget : (control.rebuild cart).spin.widget = control.place.spinWidget cart := rfl
  refine ⟨hthere, hid.symm, hshown, ?_, hplace, fun index hindex => ?_⟩
  · rw [hwidget]
    cases control.place <;> rfl
  · have hp : control.place = .tile index := hindex
    rw [hwidget, hp]
    exact ⟨rfl, rfl⟩

/-- The line that a tap on a control writes to has the control's limit. -/
theorem ControlInv.cart {con : CartController} (hlines : AmountsBounded (amounts con))
    {control : QuantityControl} {limit : LineLimit} (h : ControlInv (limits con) control limit) :
    ∃ cart, con.getCartById control.productId = some cart ∧ cart.limit = limit := by
  have hthere := h.there
  rw [limits_eq] at hthere
  obtain ⟨line, hline, hlimit⟩ := List.mem_map.1 hthere
  have hline' : hasId control.productId line = true :=
    (hasId_iff line).2 ((congrArg LineLimit.productId hlimit).trans h.id)
  obtain ⟨cart, hcart⟩ := Option.isSome_iff_exists.1 (List.find?_isSome.2 ⟨line, hline, hline'⟩)
  refine ⟨cart, hcart, limit_unique hlines ?_ h.there ?_⟩
  · rw [limits_eq]
    exact List.mem_map_of_mem (List.mem_of_find?_eq_some hcart)
  · exact ((hasId_iff cart).1 (List.find?_some hcart)).trans h.id.symm

/-! ## One event -/

structure TapInv (s : TapState) : Prop where
  lines : AmountsBounded (amounts s.app.con)
  sheet : ∀ sheet ∈ s.sheet, SheetInv sheet
  controls : ∀ control ∈ s.controls, ∃ limit, ControlInv (limits s.app.con) control limit

/-- The value a control has after a tap is within the limit of its line. -/
theorem ControlInv.tapped {s : TapState} (h : TapInv s) {k : Nat} {button : SpinButton}
    {control : QuantityControl} {limit : LineLimit} {spin : SpinState}
    (hk : s.controls[k]? = some control) (hcontrol : ControlInv (limits s.app.con) control limit)
    (hstock : InStock s (.tapControl k button)) (htap : control.spin.tap button = some spin) :
    ∃ value, spin.value = some value ∧ 1 ≤ value ∧ limit.Permits value ∧
      spin.widget = control.spin.widget := by
  obtain ⟨value, hvalue, hpositive, hpermits⟩ := hcontrol.value
  obtain ⟨⟨stock, hlimit, hle⟩, hmax⟩ := LineLimit.permits_iff.1 hpermits
  cases button with
  | minus =>
      obtain ⟨habove, hwidget, hspin⟩ := SpinState.tap_minus hvalue hcontrol.step (by omega)
        (fun hzero => by omega) htap
      exact ⟨value - 1, hspin, by omega,
        LineLimit.permits_iff.2 ⟨⟨stock, hlimit, by omega⟩, by omega⟩, hwidget⟩
  | add =>
      obtain ⟨shown, hshown, hbelow, hmost, hwidget, hspin⟩ :=
        SpinState.tap_add hvalue hcontrol.step htap
      have hspin : spin.value = some (value + 1) := by
        rw [hspin, if_neg (by omega)]
      refine ⟨value + 1, hspin, by omega, ?_, hwidget⟩
      cases hp : control.place with
      | tile index =>
          obtain ⟨hsame, hsameMax⟩ := hcontrol.tile index hp
          rw [hsame, hlimit] at hshown
          obtain rfl := Option.some.inj hshown
          exact LineLimit.permits_iff.2 ⟨⟨stock, hlimit, by omega⟩, by omega⟩
      | details product =>
          -- here only the guard keeps the value within the limit
          obtain ⟨cart, hcart, hsame⟩ := hcontrol.cart h.lines
          rw [← hsame]
          exact hstock control hk (by rw [hp]; rfl) value hvalue cart hcart

/-- A tap on a control that has an effect. -/
theorem step_tapControl {s s' : TapState} {config : Config} {availablePackaging : Int} {k : Nat}
    {button : SpinButton}
    (h : (tapping config availablePackaging).step s (.tapControl k button) = some s') :
    ∃ control spin value, s.controls[k]? = some control ∧ control.spin.tap button = some spin ∧
      spin.value = some value ∧ s' = { s with
        app := ((App.changeQuantity control.productId value).exec s.app).2
        controls := s.controls.set k { control with spin := spin } } := by
  obtain ⟨control, hk, h⟩ := Option.bind_eq_some_iff.1 h
  obtain ⟨spin, hspin, h⟩ := Option.bind_eq_some_iff.1 h
  obtain ⟨value, hvalue, h⟩ := Option.bind_eq_some_iff.1 h
  exact ⟨control, spin, value, hk, hspin, hvalue, (Option.some.inj h).symm⟩

theorem tapInv_tapControl {s s' : TapState} (h : TapInv s) {config : Config}
    {availablePackaging : Int} {k : Nat} {button : SpinButton}
    (hstock : InStock s (.tapControl k button))
    (hstep : (tapping config availablePackaging).step s (.tapControl k button) = some s') :
    TapInv s' := by
  obtain ⟨control, spin, value, hk, hspin, hvalue, rfl⟩ := step_tapControl hstep
  obtain ⟨limit, hcontrol⟩ := h.controls control (List.mem_of_getElem? hk)
  obtain ⟨value', hvalue', hpositive, hpermits, hwidget⟩ := hcontrol.tapped h hk hstock hspin
  obtain rfl : value = value' := Option.some.inj (hvalue.symm.trans hvalue')
  have hin : ∃ line ∈ amounts s.app.con, line.1.productId = control.productId := by
    obtain ⟨line, hline, rfl⟩ := List.mem_map.1 hcontrol.there
    exact ⟨line, hline, hcontrol.id⟩
  have hamounts : amounts ((App.changeQuantity control.productId value).exec s.app).2.con
      = withAmount control.productId value (amounts s.app.con) :=
    amounts_changeQuantity h.lines.ids hin
  have hlimits : limits ((App.changeQuantity control.productId value).exec s.app).2.con
      = limits s.app.con := by
    rw [limits, hamounts, limits_withAmount]
    rfl
  constructor
  · show AmountsBounded (amounts ((App.changeQuantity control.productId value).exec s.app).2.con)
    rw [hamounts]
    refine h.lines.withAmount hpositive fun line hline hid => ?_
    have hsame : line.1 = limit := limit_unique h.lines (List.mem_map_of_mem hline)
      hcontrol.there (hid.trans hcontrol.id.symm)
    exact hsame ▸ hpermits
  · exact h.sheet
  · intro other hother
    show ∃ limit, ControlInv
      (limits ((App.changeQuantity control.productId value).exec s.app).2.con) other limit
    rw [hlimits]
    rcases List.mem_or_eq_of_mem_set hother with hother | rfl
    · exact h.controls other hother
    · refine ⟨limit, hcontrol.there, hcontrol.id, ⟨value, hvalue, hpositive, hpermits⟩, ?_,
        hcontrol.place, ?_⟩
      · show spin.widget.step = 1
        rw [hwidget]
        exact hcontrol.step
      · show ∀ index, control.place = .tile index →
          spin.widget.stock = limit.stock ∧ spin.widget.max = limit.maxOrder
        rw [hwidget]
        exact hcontrol.tile

theorem tapInv_addToCart {s s' : TapState} (h : TapInv s) {config : Config}
    {availablePackaging : Int}
    (hstep : (tapping config availablePackaging).step s .addToCart = some s') : TapInv s' := by
  obtain ⟨sheet, hsheet, hstep⟩ := Option.bind_eq_some_iff.1 hstep
  obtain ⟨type, htype, hstep⟩ := Option.bind_eq_some_iff.1 hstep
  have hinv := h.sheet sheet hsheet
  -- the step assigns the app that `addToCart` leaves, and at most closes the sheet
  have hs' : s'.app = ((App.addToCart config sheet.cart).exec s.app).2 ∧
      (s'.sheet = none ∨ s'.sheet = s.sheet) ∧ s'.controls = s.controls := by
    cases hexec : (App.addToCart config sheet.cart).exec s.app with
    | mk result app =>
        cases result with
        | ok _ =>
            obtain rfl : _ = s' := by simpa [hexec] using hstep
            refine ⟨rfl, ?_, rfl⟩
            by_cases haccepts : s.app.accepts sheet.cart
            · exact .inl (if_pos haccepts)
            · exact .inr (if_neg haccepts)
        | error _ =>
            obtain rfl : _ = s' := by simpa [hexec] using hstep
            exact ⟨rfl, .inr rfl, rfl⟩
  obtain ⟨happ, hsheets, hcontrols⟩ := hs'
  have hquantity := hinv.line.resolve_left (by simp [htype])
  have hadded := amounts_addToCart config sheet.cart s.app
  rw [← happ] at hadded
  constructor
  · rcases hadded with hsame | ⟨hnew, hmore⟩
    · rw [hsame]
      exact h.lines
    · rw [hmore]
      exact h.lines.append hnew hquantity
  · rcases hsheets with hclosed | hsame
    · simp [hclosed]
    · rw [hsame]
      exact h.sheet
  · rw [hcontrols]
    intro control hcontrol
    obtain ⟨limit, hlimit⟩ := h.controls control hcontrol
    refine ⟨limit, ?_⟩
    rcases hadded with hsame | ⟨-, hmore⟩
    · rw [limits, hsame]
      exact hlimit
    · rw [limits, hmore, List.map_append]
      exact hlimit.append

theorem tapInv_step {s s' : TapState} {config : Config} {availablePackaging : Int} {e : TapEvent}
    (h : TapInv s) (hproper : ProperProduct e) (hstock : InStock s e)
    (hstep : (tapping config availablePackaging).step s e = some s') : TapInv s' := by
  cases e with
  | openSheet product =>
      obtain rfl := Option.some.inj hstep
      refine ⟨h.lines, fun sheet hsheet => ?_, h.controls⟩
      obtain rfl := Option.some.inj hsheet
      exact sheetInv_initState hproper
  | tapSheet package button =>
      obtain ⟨sheet, hsheet, hstep⟩ := Option.bind_eq_some_iff.1 hstep
      obtain ⟨sheet', htap, hstep⟩ := Option.bind_eq_some_iff.1 hstep
      obtain rfl := Option.some.inj hstep
      refine ⟨h.lines, fun tapped htapped => ?_, h.controls⟩
      obtain rfl := Option.some.inj htapped
      exact (h.sheet sheet hsheet).tap htap
  | addToCart => exact tapInv_addToCart h hstep
  | closeSheet =>
      obtain rfl := Option.some.inj hstep
      exact ⟨h.lines, by simp, h.controls⟩
  | openControl place =>
      obtain ⟨cart, hline, hstep⟩ := Option.bind_eq_some_iff.1 hstep
      obtain rfl := Option.some.inj hstep
      refine ⟨h.lines, h.sheet, fun control hcontrol => ?_⟩
      rcases List.mem_append.1 hcontrol with hcontrol | hcontrol
      · exact h.controls control hcontrol
      · obtain rfl := List.mem_singleton.1 hcontrol
        exact ⟨cart.limit, controlInv_initState h.lines hline⟩
  | rebuild k =>
      obtain ⟨control, hk, hstep⟩ := Option.bind_eq_some_iff.1 hstep
      obtain ⟨cart, hline, hstep⟩ := Option.bind_eq_some_iff.1 hstep
      obtain rfl := Option.some.inj hstep
      refine ⟨h.lines, h.sheet, fun other hother => ?_⟩
      rcases List.mem_or_eq_of_mem_set hother with hother | rfl
      · exact h.controls other hother
      · obtain ⟨limit, hlimit⟩ := h.controls control (List.mem_of_getElem? hk)
        exact ⟨cart.limit, hlimit.rebuild h.lines hline⟩
  | closeControl k =>
      obtain rfl := Option.some.inj hstep
      exact ⟨h.lines, h.sheet, fun control hcontrol =>
        h.controls control (List.mem_of_mem_eraseIdx hcontrol)⟩
  | tapControl k button => exact tapInv_tapControl h hstock hstep

/-- A tap that leaves all quantities within their limits was one within the stock. -/
theorem inStock_step {s s' : TapState} {config : Config} {availablePackaging : Int} {e : TapEvent}
    (h : TapInv s) (hstep : (tapping config availablePackaging).step s e = some s')
    (hbounded : QuantitiesBounded s') : InStock s e := by
  cases e with
  | tapControl k button =>
      cases button with
      | minus => exact trivial
      | add =>
          intro control hk _ value hvalue cart hcart
          obtain ⟨control', spin, next, hk', hspin, hnext', rfl⟩ := step_tapControl hstep
          obtain rfl : control = control' := Option.some.inj (Eq.trans (Eq.symm hk) hk')
          obtain ⟨limit, hcontrol⟩ := h.controls control (List.mem_of_getElem? hk)
          obtain ⟨positive, hpositive, hone, -⟩ := hcontrol.value
          obtain rfl : value = positive := Option.some.inj (Eq.trans (Eq.symm hvalue) hpositive)
          obtain ⟨stock, -, -, -, -, hnext⟩ := SpinState.tap_add hvalue hcontrol.step hspin
          rw [if_neg (by omega)] at hnext
          obtain rfl : value + 1 = next := Option.some.inj (hnext.symm.trans hnext')
          -- the line has the tapped value afterwards
          have hmem := List.mem_of_find?_eq_some hcart
          have hid : cart.product.id = control.productId :=
            (hasId_iff cart).1 (List.find?_some hcart)
          have hamounts : amounts
              ((App.changeQuantity control.productId (value + 1)).exec s.app).2.con
              = withAmount control.productId (value + 1) (amounts s.app.con) :=
            amounts_changeQuantity h.lines.ids ⟨cart.amount, List.mem_map_of_mem hmem, hid⟩
          have hafter : (cart.limit, some (value + 1)) ∈ amounts
              ((App.changeQuantity control.productId (value + 1)).exec s.app).2.con := by
            rw [hamounts]
            refine List.mem_map.2 ⟨cart.amount, List.mem_map_of_mem hmem, ?_⟩
            exact if_pos hid
          obtain ⟨line, hline, hamount⟩ := List.mem_map.1 hafter
          obtain ⟨hlimit, hquantity⟩ := Prod.mk.inj hamount
          have hwithin := hbounded line hline
          rw [hquantity] at hwithin
          rw [← hlimit]
          exact of_decide_eq_true hwithin
  | _ => exact trivial

/-! ## Every sequence of taps -/

/-- From an empty cart, whatever products the sheet is opened for and whatever is tapped: every
    quantity stays within stock and limit exactly if on details screens the plus button is tapped only
    below both. -/
theorem bounded_iff_inStock {config : Config} {availablePackaging : Int} {events : List TapEvent}
    (hproper : (tapping config availablePackaging).Meets (fun _ e => ProperProduct e) {} events) :
    (tapping config availablePackaging).Throughout QuantitiesBounded {} events ↔
      (tapping config availablePackaging).Meets InStock {} events := by
  have hstart : TapInv {} := by
    refine ⟨⟨List.nodup_nil, ?_⟩, ?_, ?_⟩
    · intro line hline
      exact absurd hline List.not_mem_nil
    · intro sheet hsheet
      cases hsheet
    · intro control hcontrol
      exact absurd hcontrol List.not_mem_nil
  exact Machine.throughout_iff_meets TapInv (fun _ h => h.lines.quantitiesBounded)
    (fun _ _ _ h hproper hstock hstep => tapInv_step h hproper hstock hstep)
    (fun _ _ _ h _ hstep hbounded => inStock_step h hstep hbounded) events hstart hproper

/-! ## The plus button of a details screen -/

/-- A product with three pieces in stock, of which ten may be ordered. -/
def sampleStocked (id : Int) : Product :=
  { id := some id, minimumOrder := 2, maxOrder := 10, package1Count := 1, package1Stock := some 3
    package1Price := .int 5, package1Name := some "piece"
    price1Sale := some (.int 0), price2Sale := some (.int 0), price3Sale := some (.int 0) }

def sampleNoVendors : Config := { isMultiVendor := false, vendorData := none }

/-- The sheet adds two pieces, and the details screen goes on to four. -/
theorem not_bounded_of_details :
    ∃ s, (tapping sampleNoVendors 3).run {}
        [.openSheet (sampleStocked 1), .tapSheet .first .add, .addToCart,
          .openControl (.details (sampleStocked 1)), .tapControl 0 .add, .tapControl 0 .add]
        = some s ∧
      (s.app.con.cartProducts.map fun cart => (cart.quantity, cart.selectedPackagingStock))
        = [(some 4, some 3)] ∧ ¬ QuantitiesBounded s := by
  refine Machine.reaches ?_
  decide +kernel

/-- The details screen goes to three, is built again and back to two; the tile goes to three again. -/
def sampleTaps : List TapEvent :=
  [.openSheet (sampleStocked 1), .tapSheet .first .add, .addToCart,
    .openControl (.details (sampleStocked 1)), .tapControl 0 .add, .rebuild 0, .closeControl 0,
    .openControl (.tile 0), .tapControl 0 .minus, .openSheet (sampleStocked 2),
    .tapSheet .first .add, .tapSheet .first .add, .addToCart, .tapControl 0 .add]

instance (e : TapEvent) : Decidable (ProperProduct e) := by
  apply @TapEvent.casesOn (fun e => Decidable (ProperProduct e)) e <;> intros <;> infer_instance

instance (s : TapState) : (e : TapEvent) → Decidable (InStock s e)
  | .tapControl k .add => inferInstanceAs (Decidable (∀ control ∈ s.controls[k]?, _ → _))
  | .tapControl _ .minus | .openSheet _ | .tapSheet _ _ | .addToCart | .closeSheet
  | .openControl _ | .rebuild _ | .closeControl _ => isTrue trivial

theorem bounded_of_sampleTaps :
    (tapping sampleNoVendors 3).Throughout QuantitiesBounded {} sampleTaps :=
  (@bounded_iff_inStock sampleNoVendors 3 sampleTaps (by decide +kernel)).2 (by decide +kernel)

end Nourgomla
