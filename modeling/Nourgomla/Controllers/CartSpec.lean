import Nourgomla.Controllers.CartApp
import Mathlib.Algebra.BigOperators.Group.List.Basic
import Mathlib.Tactic.Ring

set_option autoImplicit false

/-! # What each cart method does

One group of lemmas per method, in two strengths. The `core` lemmas hold in **every** state, also
when a method throws halfway: they forget the cached values and say what happens to the lines and to
the other fields. The `exec` lemmas hold when every line is `Sound` (it has a quantity and a total):
then nothing throws, and the state a method leaves is given in closed form, the two cached sums being
`recount`ed. Later modules use these and do not unfold the methods. -/

namespace Nourgomla

open Method CartController

/-! ## Lines -/

/-- The price of a product in a package type. -/
def Product.packagePrice (product : Product) (type : Option Int) : Option Num :=
  match type with
  | some 1 => some product.package1Price
  | some 2 => some product.package2Price
  | some 3 => some product.package3Price
  | _ => none

namespace CartItem

/-- A line whose cached values can be computed. -/
def Sound (c : CartItem) : Prop := c.quantity.isSome = true ∧ c.totalPrice.isSome = true

instance (c : CartItem) : Decidable c.Sound := inferInstanceAs (Decidable (_ ∧ _))

/-- The effective unit price of a line: its sale price if it is on sale, else the price of the
    package it is sold in. A line of an unknown type has none. -/
def unitPrice (c : CartItem) : Option Rat :=
  (c.product.packagePrice c.type).map fun price => (c.salePrice.getD price).toRat

/-- The line's points, 0 where `cartItemPoints` throws. -/
def points (c : CartItem) : Int := (CartController.cartItemPoints c).toOption.getD 0

/-- The line after a turn of the points loop. -/
def withPoints (c : CartItem) : CartItem := { c with cartItemPoints := c.points }

@[simp] theorem withPoints_core (c : CartItem) : c.withPoints.core = c.core := rfl
@[simp] theorem withPoints_product (c : CartItem) : c.withPoints.product = c.product := rfl
@[simp] theorem withPoints_totalPrice (c : CartItem) : c.withPoints.totalPrice = c.totalPrice := rfl
@[simp] theorem withPoints_isPaid (c : CartItem) : c.withPoints.isPaid = c.isPaid := rfl

theorem withPoints_sound {c : CartItem} (h : c.Sound) : c.withPoints.Sound := h

theorem cartItemPoints_ok {c : CartItem} (h : c.quantity.isSome = true) :
    CartController.cartItemPoints c = .ok c.points := by
  obtain ⟨q, hq⟩ := Option.isSome_iff_exists.1 h
  have hok : ∃ n, CartController.cartItemPoints c = .ok n := by
    unfold CartController.cartItemPoints
    rw [hq]
    split
    · simp only [notNull]
      show ∃ n, (if q > 0 then _ else _) = _
      split
      · split <;> exact ⟨_, rfl⟩
      · exact ⟨_, rfl⟩
    · exact ⟨_, rfl⟩
  obtain ⟨n, hn⟩ := hok
  simp [points, hn, Except.toOption]

section

variable [Doubles]

theorem keeps_core_calculatePrice : Keeps CartItem.core calculatePrice :=
  keeps_bind (keeps_get _) fun _ => keeps_bind (keeps_ofExcept _ _) fun _ =>
    keeps_modify fun _ => rfl

/-- The line after `calculatePrice`. -/
def repriced (c : CartItem) : CartItem := (calculatePrice.exec c).2

@[simp] theorem repriced_core (c : CartItem) : c.repriced.core = c.core :=
  keeps_core_calculatePrice c

@[simp] theorem repriced_product (c : CartItem) : c.repriced.product = c.product :=
  (congrArg CartItem.product c.repriced_core :)

theorem times_eq {c : CartItem} {q : Int} (hq : c.quantity = some q) (price : Num) :
    c.times price = .ok (Num.mul (.int q) price) := by
  simp [times, hq, notNull]

/-- The total of a line is its quantity times its unit price, rounded to cents or as it is. -/
theorem newTotal_cases {c : CartItem} {q : Int} {price : Num} (hq : c.quantity = some q)
    (hprice : c.product.packagePrice c.type = some price) :
    c.newTotal = .ok (some (parsedCents (Num.mul (.int q) (c.salePrice.getD price)))) ∨
      c.newTotal = .ok (some (Num.mul (.int q) (c.salePrice.getD price))) := by
  have htimes : ∀ p, c.times p = .ok (Num.mul (.int q) p) := fun p => times_eq hq p
  unfold Product.packagePrice at hprice
  split at hprice
  case h_4 => cases hprice
  all_goals
    rename_i htype
    obtain rfl := Option.some.inj hprice
    simp only [newTotal, htype]
    cases c.salePrice <;> simp [htimes]

theorem newTotal_ok {c : CartItem} (h : c.quantity.isSome = true) : ∃ t, c.newTotal = .ok t := by
  obtain ⟨q, hq⟩ := Option.isSome_iff_exists.1 h
  have htimes : ∀ p, c.times p = .ok (Num.mul (.int q) p) := fun p => times_eq hq p
  unfold newTotal
  split
  · split <;> exact ⟨_, by rw [htimes]; rfl⟩
  · split <;> exact ⟨_, by rw [htimes]; rfl⟩
  · split <;> exact ⟨_, by rw [htimes]; rfl⟩
  · exact ⟨_, rfl⟩

theorem exec_calculatePrice {c : CartItem} (h : c.quantity.isSome = true) :
    calculatePrice.exec c = (.ok (), c.repriced) := by
  obtain ⟨t, ht⟩ := newTotal_ok h
  simp [repriced, calculatePrice, exec_bind, ht]

/-- What `calculatePrice` writes, and that it writes nothing else. -/
theorem repriced_eq {c : CartItem} {t : Option Rat} (h : c.newTotal = .ok t) :
    c.repriced = { c with totalPrice := t.orElse fun _ => c.totalPrice } := by
  simp [repriced, calculatePrice, exec_bind, h]

theorem repriced_sound {c : CartItem} (h : c.Sound) : c.repriced.Sound := by
  obtain ⟨t, ht⟩ := newTotal_ok h.1
  rw [repriced_eq ht]
  cases t with
  | none => exact h
  | some x => exact ⟨h.1, rfl⟩

end

end CartItem

/-- The sum with the total of a line, unless it is a gift. -/
def CartItem.addedTo [Doubles] (c : CartItem) (x : Rat) : Rat :=
  if c.isPaid then nearest (x + c.totalPrice.getD 0) else x

/-- What a list of lines adds up to, from the first line on. -/
def paidTotal [Doubles] (lines : List CartItem) : Rat := lines.foldl (fun x c => c.addedTo x) 0

/-- Lines with the same totals, paid or not alike, add up to the same. -/
theorem paidTotal_map [Doubles] {f : CartItem → CartItem} {lines : List CartItem}
    (h : ∀ c ∈ lines, (f c).isPaid = c.isPaid ∧ (f c).totalPrice = c.totalPrice) :
    paidTotal (lines.map f) = paidTotal lines := by
  rw [paidTotal, List.foldl_map]
  refine List.foldl_ext _ _ _ fun x c hc => ?_
  rw [CartItem.addedTo, CartItem.addedTo, (h c hc).1, (h c hc).2]

theorem paidTotal_withPoints [Doubles] (lines : List CartItem) :
    paidTotal (lines.map CartItem.withPoints) = paidTotal lines :=
  paidTotal_map fun _ _ => ⟨rfl, rfl⟩

/-- The points of a list of lines. -/
def linesPoints (lines : List CartItem) : Int := (lines.map CartItem.points).sum

/-- Every line has a quantity and a total. -/
def SoundLines (lines : List CartItem) : Prop := ∀ c ∈ lines, c.Sound

instance (lines : List CartItem) : Decidable (SoundLines lines) :=
  inferInstanceAs (Decidable (∀ c ∈ lines, c.Sound))

@[simp] theorem soundLines_nil : SoundLines [] := fun _ hc => absurd hc List.not_mem_nil

theorem SoundLines.withPoints {lines : List CartItem} (h : SoundLines lines) :
    SoundLines (lines.map CartItem.withPoints) := by
  intro c hc
  obtain ⟨d, hd, rfl⟩ := List.mem_map.1 hc
  exact CartItem.withPoints_sound (h d hd)

/-! ## The cached sums -/

namespace CartController

/-- The controller without the values it caches. -/
def core (con : CartController) : CartController :=
  { con with
    cartProducts := con.cartProducts.map CartItem.core
    totalPoints := 0
    cartTotalPrices := 0 }

theorem keeps_core_addPoints : Keeps (fun t : CartItem × Int => t.1.core) addPoints :=
  keeps_bind (keeps_get _) fun _ => keeps_bind (keeps_ofExcept _ _) fun _ =>
    keeps_modify fun _ => rfl

theorem keeps_core_calculateTotalPoints : Keeps core calculateTotalPoints := by
  refine keeps_bind (keeps_get _) fun _ => keeps_ite ?_ (keeps_pure _ _)
  refine keeps_bind (keeps_modify fun _ => rfl) fun _ => keeps_onPart fun con => ?_
  simp [core, map_forEachItem keeps_core_addPoints]

theorem exec_addPoints {c : CartItem} (h : c.Sound) (n : Int) :
    addPoints.exec (c, n) = (.ok (), c.withPoints, n + c.points) := by
  simp [addPoints, exec_bind, CartItem.cartItemPoints_ok h.1, CartItem.withPoints]

theorem foldl_points (lines : List CartItem) (n : Int) :
    lines.foldl (fun n c => n + c.points) n = n + linesPoints lines := by
  induction lines generalizing n with
  | nil => simp [linesPoints]
  | cons c cs ih =>
      simp only [List.foldl_cons, ih, linesPoints, List.map_cons, List.sum_cons]
      ring

/-- The controller after the points loop over sound lines. -/
def pointed (con : CartController) : CartController :=
  { con with
    cartProducts := con.cartProducts.map CartItem.withPoints
    totalPoints := if con.cartProducts = [] then con.totalPoints else linesPoints con.cartProducts }

theorem exec_calculateTotalPoints {con : CartController} (h : SoundLines con.cartProducts) :
    calculateTotalPoints.exec con = (.ok (), con.pointed) := by
  by_cases hnil : con.cartProducts = []
  · have hsame : con.pointed = con := by cases con; simp_all [pointed]
    simp [calculateTotalPoints, exec_bind, hnil, hsame]
  · have hloop := forEachItem_eq con.cartProducts (fun c hc n => exec_addPoints (h c hc) n) 0
    rw [foldl_points, zero_add] at hloop
    simp [calculateTotalPoints, exec_bind, pointed, hnil, hloop]

variable [Doubles]

theorem keeps_line_addTotal : Keeps (fun t : CartItem × Rat => t.1) addTotal :=
  keeps_bind (keeps_get _) fun _ => keeps_ite
    (keeps_bind (keeps_ofExcept _ _) fun _ => keeps_modify fun _ => rfl) (keeps_pure _ _)

theorem keeps_core_changeTotalPrice : Keeps core changeTotalPrice := by
  refine keeps_bind (keeps_modify fun _ => rfl) fun _ => keeps_onPart fun con => ?_
  have hlines := map_forEachItem (v := id) keeps_line_addTotal con.cartProducts con.cartTotalPrices
  rw [List.map_id, List.map_id] at hlines
  simp [core, hlines]

theorem exec_addTotal {c : CartItem} (h : c.Sound) (x : Rat) :
    addTotal.exec (c, x) = (.ok (), c, c.addedTo x) := by
  obtain ⟨t, ht⟩ := Option.isSome_iff_exists.1 h.2
  cases hp : c.isPaid <;> simp [addTotal, CartItem.addedTo, exec_bind, hp, ht, notNull]

theorem exec_changeTotalPrice {con : CartController} (h : SoundLines con.cartProducts) :
    changeTotalPrice.exec con
      = (.ok (), { con with cartTotalPrices := paidTotal con.cartProducts }) := by
  have hloop := forEachItem_eq con.cartProducts (fun c hc x => exec_addTotal (h c hc) x) 0
  rw [List.map_id_fun', id_eq] at hloop
  simp [changeTotalPrice, exec_bind, hloop, paidTotal]

/-- The controller after both cached sums are computed again. -/
def recount (con : CartController) : CartController :=
  { con.pointed with cartTotalPrices := paidTotal con.cartProducts }

@[simp] theorem recount_cartProducts (con : CartController) :
    con.recount.cartProducts = con.cartProducts.map CartItem.withPoints := rfl
@[simp] theorem recount_cartTotalPrices (con : CartController) :
    con.recount.cartTotalPrices = paidTotal con.cartProducts := rfl
@[simp] theorem recount_vendorShipping (con : CartController) :
    con.recount.vendorShipping = con.vendorShipping := rfl

@[simp] theorem recount_core (con : CartController) : con.recount.core = con.core := by
  simp [core, recount, pointed]

theorem recount_sound {con : CartController} (h : SoundLines con.cartProducts) :
    SoundLines con.recount.cartProducts := h.withPoints

/-- Points and totals, one after the other. -/
theorem exec_recount {con : CartController} (h : SoundLines con.cartProducts) :
    (do calculateTotalPoints; changeTotalPrice : Method DartError CartController Unit).exec con
      = (.ok (), con.recount) := by
  have hpointed : SoundLines con.pointed.cartProducts := recount_sound h
  have htotal : paidTotal con.pointed.cartProducts = paidTotal con.cartProducts :=
    paidTotal_withPoints con.cartProducts
  rw [exec_bind_ok (exec_calculateTotalPoints h), exec_changeTotalPrice hpointed, htotal]
  rfl

theorem keeps_core_recount :
    Keeps core (do calculateTotalPoints; changeTotalPrice : Method DartError CartController Unit) :=
  keeps_bind keeps_core_calculateTotalPoints fun _ => keeps_core_changeTotalPrice

/-! ## The edits in memory -/

/-- The controller with the line in its list. -/
def appended (con : CartController) (cart : CartItem) : CartController :=
  { con with cartProducts := con.cartProducts ++ [cart] }

/-- The controller without the line `deleteFromCart` removes. -/
def without (con : CartController) (productId : Option Int) : CartController :=
  let rest := con.cartProducts.eraseP (hasId productId)
  if rest.isEmpty then { con with cartProducts := rest, editMood := false }
  else { con with cartProducts := rest }

/-- A line given a quantity and priced again. -/
def requantified (quantity : Int) (c : CartItem) : CartItem :=
  { c with quantity := some quantity }.repriced

/-- The controller with the quantity `changeQuantity` writes. -/
def withQuantity (con : CartController) (productId : Option Int) (quantity : Int) :
    CartController :=
  { con with
    cartProducts := updateFirst (hasId productId) (requantified quantity) con.cartProducts }

/-- The controller with the lines and details of an answer. -/
def answered (con : CartController) (cartList : List CartItem) (details : CartDetails) :
    CartController :=
  { con with
    cartTotalPrices := 0
    cartProducts := cartList
    cartDetails := some details
    isLoading := false
    editMood := false
    dataUpdated := true }

/-- The controller with the lines of the table. -/
def loaded (con : CartController) (cartList : List CartItem) : CartController :=
  { con with
    cartProducts := cartList
    vendorShipping := match cartList with
      | [] => con.vendorShipping
      | first :: _ => first.vendorShipping
    isLoading := false }

/-- The controller `clearCart` leaves. -/
def cleared (con : CartController) : CartController :=
  { con with
    cartProducts := []
    userCoupon := none
    dataUpdated := false
    cartDetails := none
    totalPoints := 0
    cartTotalPrices := 0 }

omit [Doubles] in
@[simp] theorem loaded_cartProducts (con : CartController) (cartList : List CartItem) :
    (con.loaded cartList).cartProducts = cartList := rfl

omit [Doubles] in
@[simp] theorem without_cartProducts (con : CartController) (productId : Option Int) :
    (con.without productId).cartProducts = con.cartProducts.eraseP (hasId productId) := by
  simp only [without]
  split <;> rfl

omit [Doubles] in
theorem without_fields (con : CartController) (productId : Option Int) :
    (con.without productId).dataUpdated = con.dataUpdated ∧
      (con.without productId).cartDetails = con.cartDetails ∧
      (con.without productId).userCoupon = con.userCoupon ∧
      (con.without productId).vendorShipping = con.vendorShipping ∧
      (con.without productId).totalPoints = con.totalPoints := by
  simp only [without]
  split <;> exact ⟨rfl, rfl, rfl, rfl, rfl⟩

omit [Doubles] in
theorem without_sound {con : CartController} {productId : Option Int}
    (h : SoundLines con.cartProducts) : SoundLines (con.without productId).cartProducts := by
  rw [without_cartProducts]
  exact fun c hc => h c (List.mem_of_mem_eraseP hc)

theorem exec_appendLine {cart : CartItem} {con : CartController}
    (h : SoundLines (con.appended cart).cartProducts) :
    (appendLine cart).exec con = (.ok (), (con.appended cart).recount) :=
  exec_recount h

theorem core_appendLine (cart : CartItem) (con : CartController) :
    ((appendLine cart).exec con).2.core = (con.appended cart).core :=
  keeps_core_recount (con.appended cart)

theorem exec_removeLine {productId : Option Int} {con : CartController}
    (h : SoundLines con.cartProducts) :
    (removeLine productId).exec con = (.ok (), (con.without productId).recount) := by
  have hrest : SoundLines (con.without productId).cartProducts := without_sound h
  exact exec_recount hrest

theorem core_removeLine (productId : Option Int) (con : CartController) :
    ((removeLine productId).exec con).2.core = (con.without productId).core :=
  keeps_core_recount (con.without productId)

theorem requantified_core (quantity : Int) (c : CartItem) :
    (requantified quantity c).core = { c.core with quantity := some quantity } :=
  CartItem.repriced_core _

/-- Writing a quantity keeps every total. -/
theorem requantified_sound {c : CartItem} (quantity : Int) (h : c.Sound) :
    (requantified quantity c).Sound :=
  CartItem.repriced_sound ⟨rfl, h.2⟩

theorem withQuantity_sound {con : CartController} {productId : Option Int} {quantity : Int}
    (h : SoundLines con.cartProducts) :
    SoundLines (con.withQuantity productId quantity).cartProducts := by
  have hfirst : ∀ c, con.cartProducts.find? (hasId productId) = some c →
      (requantified quantity c).Sound :=
    fun c hc => requantified_sound quantity (h c (List.mem_of_find?_eq_some hc))
  exact forall_mem_updateFirst h hfirst

theorem exec_onCartById {productId : Option Int} {con : CartController} {cart : CartItem}
    (quantity : Int) (h : con.getCartById productId = some cart) :
    (onCartById productId do
        modify fun cart => { cart with quantity := some quantity }
        calculatePrice).exec con = (.ok (), con.withQuantity productId quantity) := by
  have hline : (do
      modify fun cart : CartItem => { cart with quantity := some quantity }
      calculatePrice : Method DartError CartItem Unit).exec cart
        = (.ok (), requantified quantity cart) :=
    CartItem.exec_calculatePrice rfl
  have hlines : updateFirst (hasId productId) (fun _ => requantified quantity cart)
      con.cartProducts = updateFirst (hasId productId) (requantified quantity) con.cartProducts := by
    obtain ⟨pre, post, -, -, -, hup, -⟩ := find?_split h
    rw [hup, hup]
  simp only [onCartById, exec_get_bind, h, exec_onPart, hline]
  rw [hlines]
  rfl

/-- A line that is not there has no quantity to write: the method throws at once. -/
theorem exec_writeQuantity_none {productId : Option Int} {con : CartController} (quantity : Int)
    (h : con.getCartById productId = none) :
    (writeQuantity productId quantity).exec con = (.error .noSuchMethod, con) := by
  refine exec_bind_error ?_
  simp [onCartById, h]

theorem exec_writeQuantity {productId : Option Int} {con : CartController} {cart : CartItem}
    {quantity : Int} (hcart : con.getCartById productId = some cart)
    (h : SoundLines (con.withQuantity productId quantity).cartProducts) :
    (writeQuantity productId quantity).exec con
      = (.ok (), (con.withQuantity productId quantity).pointed) :=
  (exec_bind_ok (exec_onCartById quantity hcart)).trans (exec_calculateTotalPoints h)

theorem core_writeQuantity {productId : Option Int} {con : CartController} {cart : CartItem}
    (quantity : Int) (hcart : con.getCartById productId = some cart) :
    ((writeQuantity productId quantity).exec con).2.core
      = (con.withQuantity productId quantity).core := by
  rw [writeQuantity, exec_bind_ok (exec_onCartById quantity hcart)]
  exact keeps_core_calculateTotalPoints _

theorem keeps_core_addFreshTotal : Keeps (fun t : CartItem × Rat => t.1.core) addFreshTotal :=
  keeps_bind (keeps_onPart fun t => CartItem.keeps_core_calculatePrice t.1) fun _ =>
    fun t => congrArg CartItem.core (keeps_line_addTotal t)

theorem core_assignAnswer (cartList : List CartItem) (details : CartDetails)
    (con : CartController) :
    ((assignAnswer cartList details).exec con).2.core = (con.answered cartList details).core := by
  simp only [assignAnswer, exec_modify_bind]
  rw [view_bind fun _ => keeps_core_calculateTotalPoints, exec_onPart]
  simp [core, answered, map_forEachItem keeps_core_addFreshTotal]

theorem exec_assignAnswer {cartList : List CartItem} {details : CartDetails}
    {con : CartController} (hq : ∀ c ∈ cartList, c.quantity.isSome = true)
    (h : SoundLines (cartList.map CartItem.repriced)) :
    (assignAnswer cartList details).exec con
      = (.ok (), (con.answered (cartList.map CartItem.repriced) details).recount) := by
  have hbody : ∀ c ∈ cartList, ∀ x,
      addFreshTotal.exec (c, x) = (.ok (), c.repriced, c.repriced.addedTo x) := by
    intro c hc x
    rw [addFreshTotal, exec_bind, exec_onPart, CartItem.exec_calculatePrice (hq c hc)]
    exact exec_addTotal (h _ (List.mem_map_of_mem hc)) x
  have hloop := forEachItem_eq cartList hbody 0
  rw [show cartList.foldl (fun x c => c.repriced.addedTo x) 0 = paidTotal (cartList.map CartItem.repriced) by
    rw [paidTotal, List.foldl_map]] at hloop
  simp only [assignAnswer, exec_modify_bind]
  rw [exec_bind, exec_onPart, exec_forEach]
  simp only [hloop]
  exact exec_calculateTotalPoints h

/-- If the answer could be assigned, every line of it could be priced. -/
theorem ok_of_assignAnswer {cartList : List CartItem} {details : CartDetails}
    {con : CartController} (h : ((assignAnswer cartList details).exec con).1 = .ok ()) :
    ∀ c ∈ cartList, (calculatePrice.exec c).1 = .ok () := by
  intro c hc
  simp only [assignAnswer, exec_modify_bind] at h
  obtain ⟨_, _, hloop, -⟩ := ok_of_exec_bind h
  have hbodies := ok_of_forEachItem (congrArg Prod.fst hloop)
  obtain ⟨x, hx⟩ := hbodies c hc
  obtain ⟨_, _, hprice, -⟩ := ok_of_exec_bind hx
  exact congrArg Prod.fst hprice

theorem exec_assignLines {cartList : List CartItem} {con : CartController}
    (h : SoundLines cartList) :
    (assignLines cartList).exec con = (.ok (), (con.loaded cartList).recount) := by
  have hpointed : SoundLines (cartList.map CartItem.withPoints) :=
    h.withPoints
  have htotal : paidTotal (cartList.map CartItem.withPoints) = paidTotal cartList :=
    paidTotal_withPoints cartList
  cases cartList with
  | nil =>
      simp only [assignLines, exec_modify_bind]
      rw [exec_bind_ok (exec_calculateTotalPoints h), exec_modify_bind,
        exec_changeTotalPrice hpointed]
      rfl
  | cons c cs =>
      simp only [assignLines, exec_modify_bind]
      rw [exec_bind_ok (exec_calculateTotalPoints h), exec_modify_bind,
        exec_changeTotalPrice hpointed]
      simp only [pointed, htotal]
      rfl

/-! ## Posted lines after an edit -/

@[simp] theorem requantified_product (quantity : Int) (c : CartItem) :
    (requantified quantity c).product = c.product :=
  (congrArg CartItem.product (requantified_core quantity c) :)

@[simp] theorem requantified_toJson (quantity : Int) (c : CartItem) :
    (requantified quantity c).toJson = { c.toJson with productCount := some quantity } :=
  (congrArg CartItem.toJson (requantified_core quantity c) :)

@[simp] theorem requantified_isPaid (quantity : Int) (c : CartItem) :
    (requantified quantity c).isPaid = c.isPaid :=
  (congrArg CartItem.isPaid (requantified_core quantity c) :)

omit [Doubles] in
@[simp] theorem paidJson_withPoints (lines : List CartItem) :
    paidJson (lines.map CartItem.withPoints) = paidJson lines := by
  simp only [paidJson, List.filter_map, List.map_map]
  rfl

@[simp] theorem paidJson_repriced (lines : List CartItem) :
    paidJson (lines.map CartItem.repriced) = paidJson lines := by
  rw [← paidJson_core, ← paidJson_core lines, List.map_map]
  congr 2
  funext c
  exact c.repriced_core

/-- Writing a quantity changes what is posted unless it hits a gift or the quantity is the same. -/
theorem paidJson_requantified_iff {lines : List CartItem} {productId : Option Int}
    {quantity : Int} :
    paidJson (updateFirst (hasId productId) (requantified quantity) lines) = paidJson lines ↔
      ∀ c, lines.find? (hasId productId) = some c → c.isPaid = true →
        c.quantity = some quantity := by
  cases hfind : lines.find? (hasId productId) with
  | none => simp [updateFirst_of_find?_none hfind]
  | some c =>
      obtain ⟨pre, post, hl, -, -, hup, -⟩ := find?_split hfind
      rw [hup, hl, paidJson_append, paidJson_append]
      cases hp : c.isPaid with
      | false =>
          rw [paidJson_cons_gift hp, paidJson_cons_gift (by simp [hp])]
          simp [hp]
      | true =>
          rw [paidJson_cons_paid hp, paidJson_cons_paid (by simp [hp])]
          have hsame : { c.toJson with productCount := some quantity } = c.toJson ↔
              c.quantity = some quantity := by
            rw [eq_comm (a := c.quantity)]
            simp [CartItem.toJson]
          simp [hp, hsame]

omit [Doubles] in
/-- Removing a line changes what is posted unless it was a gift. -/
theorem paidJson_eraseP_iff {lines : List CartItem} {productId : Option Int} :
    paidJson (lines.eraseP (hasId productId)) = paidJson lines ↔
      ∀ c, lines.find? (hasId productId) = some c → c.isPaid = false := by
  cases hfind : lines.find? (hasId productId) with
  | none => simp [eraseP_of_find?_none hfind]
  | some c =>
      obtain ⟨pre, post, hl, -, -, -, her⟩ := find?_split hfind
      rw [her, hl, paidJson_append, paidJson_append]
      cases hp : c.isPaid with
      | false => simp [paidJson_cons_gift hp, hp]
      | true => simp [paidJson_cons_paid hp, hp]

omit [Doubles] in
/-- What two controllers with the same core agree on. -/
theorem fields_of_core {a b : CartController} (h : a.core = b.core) :
    paidJson a.cartProducts = paidJson b.cartProducts ∧ a.dataUpdated = b.dataUpdated ∧
      a.cartDetails = b.cartDetails ∧ a.userCoupon = b.userCoupon := by
  refine ⟨?_, (congrArg CartController.dataUpdated h :), (congrArg CartController.cartDetails h :),
    (congrArg CartController.userCoupon h :)⟩
  rw [← paidJson_core, ← paidJson_core b.cartProducts]
  exact congrArg paidJson (congrArg CartController.cartProducts h :)

end CartController
end Nourgomla
