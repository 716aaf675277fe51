import Nourgomla.Controllers.CartSpec
import Nourgomla.Controllers.OrdersController

set_option autoImplicit false

/-! # What each method does to the cart and its table

The lemmas of `CartSpec` carried over to `App`. Where a method has several outcomes, one `cases`
lemma lists them all; the `core` lemmas hold in every state and the `exec` lemmas when every line is
`Sound`, as there. -/

namespace Nourgomla

open Method CartController

/-- A line that has a row has a quantity and a total. -/
theorem CartItem.sound_of_toRow {c : CartItem} {row : CartRow} (h : c.toRow = some row) :
    c.Sound := by
  obtain ⟨-, -, hquantity, -, htotal, -⟩ := CartItem.toRow_eq_some h
  exact ⟨by simp [hquantity], by simp [htotal]⟩

namespace App

theorem exec_inCon {α : Type} (m : Method DartError CartController α) (app : App) :
    (inCon m).exec app = ((m.exec app.con).1, { app with con := (m.exec app.con).2 }) := rfl

theorem exec_inDb {α : Type} (m : Method DartError (List CartRow) α) (app : App) :
    (inDb m).exec app
      = ((m.exec app.cartTable).1, { app with cartTable := (m.exec app.cartTable).2 }) := rfl

/-- The controller without the values it caches. -/
def conCore (app : App) : CartController := app.con.core

theorem keeps_conCore_inDb {α : Type} (m : Method DartError (List CartRow) α) :
    Keeps conCore (inDb m) := fun _ => rfl

/-! ## addToCart -/

/-- The controller after `addToCart` has looked the shipping up. -/
def captured (config : Config) (cart : CartItem) (con : CartController) : CartController :=
  if config.isMultiVendor then
    { con with vendorShipping := some (getVendorShipping config cart.product) }
  else con

/-- Only the shipping changes. -/
theorem captured_eq (config : Config) (cart : CartItem) (con : CartController) :
    ∃ shipping, captured config cart con = { con with vendorShipping := shipping } := by
  unfold captured
  split
  · exact ⟨_, rfl⟩
  · exact ⟨con.vendorShipping, rfl⟩

@[simp] theorem captured_cartProducts (config : Config) (cart : CartItem) (con : CartController) :
    (captured config cart con).cartProducts = con.cartProducts := by
  unfold captured
  split <;> rfl

@[simp] theorem withShipping_product (config : Config) (cart : CartItem) :
    (withShipping config cart).product = cart.product := by
  unfold withShipping
  split <;> rfl

@[simp] theorem withShipping_quantity (config : Config) (cart : CartItem) :
    (withShipping config cart).quantity = cart.quantity := by
  unfold withShipping
  split <;> rfl

@[simp] theorem withShipping_toJson (config : Config) (cart : CartItem) :
    (withShipping config cart).toJson = cart.toJson := by
  unfold withShipping
  split <;> rfl

@[simp] theorem withShipping_isPaid (config : Config) (cart : CartItem) :
    (withShipping config cart).isPaid = cart.isPaid := by
  unfold withShipping
  split <;> rfl

theorem withShipping_vendorShipping {config : Config} (cart : CartItem)
    (h : config.isMultiVendor = true) :
    (withShipping config cart).vendorShipping = some (getVendorShipping config cart.product) := by
  simp [withShipping, h]

/-- The two checks of `addToCart`: no line has the product's id, and unless there are no lines one of
    them has its vendor. -/
theorem accepts_iff {app : App} {cart : CartItem} :
    app.accepts cart = true ↔
      (∀ c ∈ app.con.cartProducts, c.product.id ≠ cart.product.id) ∧
      (app.con.cartProducts = [] ∨
        ∃ c ∈ app.con.cartProducts, c.product.vendorId = cart.product.vendorId) := by
  cases hlines : app.con.cartProducts with
  | nil => simp [accepts, isProductInCart, isFromTheSameVendor, hlines]
  | cons first rest =>
      simp [accepts, isProductInCart, isFromTheSameVendor, getCartById, hlines, hasId,
        List.find?_eq_none]

variable [Doubles]

omit [Doubles] in
/-- The three outcomes of `addToCart` up to its `await`: refused, the insert fails, the line is in
    the table. -/
theorem addToCartInsert_cases (config : Config) (cart : CartItem) (app : App) :
    app.accepts cart = false ∧ (addToCartInsert config cart).exec app = (.ok none, app) ∨
    app.accepts cart = true ∧ (withShipping config cart).toRow = none ∧
      (addToCartInsert config cart).exec app
        = (.error .databaseException, { app with con := captured config cart app.con }) ∨
    app.accepts cart = true ∧ ∃ row, (withShipping config cart).toRow = some row ∧
      (addToCartInsert config cart).exec app = (.ok (some (withShipping config cart)),
        { con := captured config cart app.con, cartTable := app.cartTable ++ [row] }) := by
  cases h : app.accepts cart with
  | false => exact Or.inl ⟨rfl, by simp [addToCartInsert, h]⟩
  | true =>
      cases hrow : (withShipping config cart).toRow with
      | none =>
          refine Or.inr (Or.inl ⟨rfl, rfl, ?_⟩)
          cases hm : config.isMultiVendor <;>
            simp [addToCartInsert, exec_bind, h, hm, hrow, exec_inCon, exec_inDb, captured,
              CartDbHelper.insertProduct, Except.map, withShipping_vendorShipping]
      | some row =>
          refine Or.inr (Or.inr ⟨rfl, row, rfl, ?_⟩)
          cases hm : config.isMultiVendor <;>
            simp [addToCartInsert, exec_bind, h, hm, hrow, exec_inCon, exec_inDb, captured,
              CartDbHelper.insertProduct, Except.map, withShipping_vendorShipping]

/-- The outcomes of `addToCart`; after a successful insert the rest runs. -/
theorem addToCart_cases (config : Config) (cart : CartItem) (app : App) :
    app.accepts cart = false ∧ (addToCart config cart).exec app = (.ok (), app) ∨
    app.accepts cart = true ∧ (withShipping config cart).toRow = none ∧
      (addToCart config cart).exec app
        = (.error .databaseException, { app with con := captured config cart app.con }) ∨
    app.accepts cart = true ∧ ∃ row, (withShipping config cart).toRow = some row ∧
      (addToCart config cart).exec app = (addToCartAppend (withShipping config cart)).exec
        { con := captured config cart app.con, cartTable := app.cartTable ++ [row] } := by
  rcases addToCartInsert_cases config cart app with ⟨h, he⟩ | ⟨h, hrow, he⟩ | ⟨h, row, hrow, he⟩
  · exact Or.inl ⟨h, by rw [addToCart, exec_bind_ok he]; rfl⟩
  · exact Or.inr (Or.inl ⟨h, hrow, by rw [addToCart, exec_bind_error he]⟩)
  · exact Or.inr (Or.inr ⟨h, row, hrow, by rw [addToCart, exec_bind_ok he]⟩)

theorem exec_addToCartAppend {cart : CartItem} {app : App} (h : SoundLines app.con.cartProducts)
    (hcart : cart.Sound) :
    (addToCartAppend cart).exec app
      = (.ok (), { app with con := (app.con.appended cart).recount }) := by
  have hlines : SoundLines (app.con.appended cart).cartProducts := by
    intro c hc
    rcases List.mem_append.1 hc with hc | hc
    · exact h c hc
    · exact List.mem_singleton.1 hc ▸ hcart
  rw [addToCartAppend, exec_inCon, exec_appendLine hlines]

theorem core_addToCartAppend (cart : CartItem) (app : App) :
    ((addToCartAppend cart).exec app).2.con.core = (app.con.appended cart).core :=
  core_appendLine cart app.con

/-! ## Edits -/

/-- The rows `deleteFromCart` leaves: it deletes by product id, once a line was found. -/
def rowsWithout (app : App) (productId : Option Int) : List CartRow :=
  if app.con.getCartById productId = none then app.cartTable
  else app.cartTable.filter fun row => some row.id ≠ productId

omit [Doubles] in
/-- A row that is left belongs to no line that was removed. -/
theorem mem_rowsWithout {app : App} {productId : Option Int} {row : CartRow}
    (h : row ∈ app.rowsWithout productId) :
    row ∈ app.cartTable ∧ ∀ c ∈ app.con.cartProducts, c.product.id = some row.id →
      c ∈ (app.con.without productId).cartProducts := by
  rw [without_cartProducts]
  unfold rowsWithout at h
  split at h
  · rename_i hfind
    exact ⟨h, fun c hc _ => by rwa [eraseP_of_find?_none hfind]⟩
  · obtain ⟨hrow, hne⟩ := List.mem_filter.1 h
    refine ⟨hrow, fun c hc hid => (List.mem_eraseP_of_neg ?_).2 hc⟩
    rw [hasId_iff, hid]
    simpa using hne

omit [Doubles] in
theorem rowsWithout_sublist (app : App) (productId : Option Int) :
    (app.rowsWithout productId).Sublist app.cartTable := by
  unfold rowsWithout
  split
  · exact List.Sublist.refl _
  · exact List.filter_sublist

/-- A row after `changeQuantity`, which finds it by product id. -/
def rowWithQuantity (productId : Option Int) (quantity : Int) (row : CartRow) : CartRow :=
  if some row.id = productId then { row with quantity := quantity } else row

/-- The rows `changeQuantity` leaves. -/
def rowsWithQuantity (table : List CartRow) (productId : Option Int) (quantity : Int) :
    List CartRow := table.map (rowWithQuantity productId quantity)

theorem exec_deleteFromCart {productId : Option Int} {app : App}
    (h : SoundLines app.con.cartProducts) :
    (deleteFromCart productId).exec app = (.ok (),
      { con := (app.con.without productId).recount, cartTable := app.rowsWithout productId }) := by
  simp only [deleteFromCart, exec_get_bind]
  rw [exec_bind, exec_inCon, exec_removeLine h]
  cases hfind : app.con.getCartById productId with
  | none => simp [exec_inDb, CartDbHelper.deleteProduct, rowsWithout, hfind]
  | some cart =>
      have hid : cart.product.id = productId := by simpa [hasId] using List.find?_some hfind
      simp [exec_inDb, CartDbHelper.deleteProduct, rowsWithout, hfind, hid]

/-- The table write of `deleteFromCart` leaves the controller alone. -/
theorem con_deleteFromCart (productId : Option Int) (app : App) :
    ((deleteFromCart productId).exec app).2.con = ((removeLine productId).exec app.con).2 := by
  simp only [deleteFromCart, exec_get_bind]
  exact view_bind (f := App.con) (fun _ _ => rfl) app

theorem ok_of_deleteFromCart {productId : Option Int} {app : App}
    (h : ((deleteFromCart productId).exec app).1 = .ok ()) :
    ((removeLine productId).exec app.con).1 = .ok () := by
  simp only [deleteFromCart, exec_get_bind] at h
  obtain ⟨_, _, hremove, -⟩ := ok_of_exec_bind h
  exact congrArg Prod.fst hremove

theorem core_deleteFromCart (productId : Option Int) (app : App) :
    ((deleteFromCart productId).exec app).2.con.core = (app.con.without productId).core := by
  rw [con_deleteFromCart, core_removeLine]

/-- A line that is not there: `changeQuantity` throws before it writes anything. -/
theorem exec_changeQuantity_none {productId : Option Int} {app : App} (quantity : Int)
    (h : app.con.getCartById productId = none) :
    (changeQuantity productId quantity).exec app = (.error .noSuchMethod, app) := by
  refine exec_bind_error ?_
  rw [exec_inCon, exec_writeQuantity_none quantity h]

theorem exec_changeQuantity {productId : Option Int} {app : App} {cart : CartItem}
    (quantity : Int) (hcart : app.con.getCartById productId = some cart)
    (h : SoundLines app.con.cartProducts) :
    (changeQuantity productId quantity).exec app = (.ok (),
      { con := (app.con.withQuantity productId quantity).recount
        cartTable := rowsWithQuantity app.cartTable productId quantity }) := by
  have hlines : SoundLines (app.con.withQuantity productId quantity).cartProducts :=
    withQuantity_sound h
  have hpointed : SoundLines (app.con.withQuantity productId quantity).pointed.cartProducts :=
    recount_sound hlines
  rw [changeQuantity, exec_bind, exec_inCon, exec_writeQuantity hcart hlines]
  simp only [exec_bind, exec_inDb, CartDbHelper.updateProductQuantity, exec_modify]
  rw [exec_inCon, exec_changeTotalPrice hpointed]
  simp only [pointed, paidTotal_withPoints]
  rfl

theorem core_changeQuantity {productId : Option Int} {app : App} {cart : CartItem}
    (quantity : Int) (hcart : app.con.getCartById productId = some cart) :
    ((changeQuantity productId quantity).exec app).2.con.core
      = (app.con.withQuantity productId quantity).core := by
  have hrest : Keeps conCore (do
      inDb (CartDbHelper.updateProductQuantity quantity productId)
      inCon changeTotalPrice) :=
    keeps_bind (keeps_conCore_inDb _) fun _ app => keeps_core_changeTotalPrice app.con
  exact (view_bind (fun _ => hrest) app).trans (core_writeQuantity quantity hcart)

omit [Doubles] in
theorem exec_clearCart (app : App) :
    clearCart.exec app = (.ok (), { con := app.con.cleared, cartTable := [] }) := rfl

/-! ## updateCartData -/

/-- The app with its spinner on. -/
def loading (app : App) : App := { app with con := { app.con with isLoading := true } }

omit [Doubles] in
@[simp] theorem loading_cartProducts (app : App) :
    app.loading.con.cartProducts = app.con.cartProducts := rfl
omit [Doubles] in
@[simp] theorem loading_cartTable (app : App) : app.loading.cartTable = app.cartTable := rfl

omit [Doubles] in
/-- The body `updateCartData` posts, when there is a user and the cart is not empty. -/
theorem updateCartDataPost_cases (session : Session) (app : App) :
    app.con.cartProducts = [] ∧ (updateCartDataPost session).exec app = (.ok none, app) ∨
    app.con.cartProducts ≠ [] ∧ session.currentUser = none ∧
      (updateCartDataPost session).exec app
        = (.error .noSuchMethod, app.loading) ∨
    ∃ first rest body, app.con.cartProducts = first :: rest ∧
      body.vendorId = first.product.vendorId ∧ body.productsJson = paidJson app.con.cartProducts ∧
      (updateCartDataPost session).exec app = (.ok (some body), app.loading) := by
  cases hlines : app.con.cartProducts with
  | nil => exact Or.inl ⟨rfl, by simp [updateCartDataPost, hlines]⟩
  | cons first rest =>
      cases huser : session.currentUser with
      | none =>
          refine Or.inr (Or.inl ⟨by simp, rfl, ?_⟩)
          simp [updateCartDataPost, hlines, huser, exec_bind, exec_inCon, Except.map,
            CartServices.cartUpdateBody, notNull, loading]
      | some user =>
          let body : CartUpdateBody := {
            userId := user.id, createdBy := user.id, source := 1, userRoleId := user.role
            languageId := session.langId, vendorId := first.product.vendorId
            productsJson := paidJson (first :: rest) }
          refine Or.inr (Or.inr ⟨first, rest, body, rfl, rfl, rfl, ?_⟩)
          simp [updateCartDataPost, hlines, huser, exec_bind, exec_inCon, Except.map,
            CartServices.cartUpdateBody, notNull, loading, body]

/-- A failed answer assigns nothing. -/
theorem exec_updateCartDataAssign_none (app : App) :
    (updateCartDataAssign none).exec app = (.ok false, app) := rfl

theorem exec_updateCartDataAssign {cartList : List CartItem} {details : CartDetails} {app : App}
    (hq : ∀ c ∈ cartList, c.quantity.isSome = true)
    (h : SoundLines (cartList.map CartItem.repriced)) :
    (updateCartDataAssign (some (cartList, details))).exec app = (.ok true,
      { app with
        con := (app.con.answered (cartList.map CartItem.repriced) details).recount }) := by
  simp only [updateCartDataAssign]
  rw [exec_bind, exec_inCon, exec_assignAnswer hq h]
  rfl

theorem core_updateCartDataAssign (cartList : List CartItem) (details : CartDetails) (app : App) :
    ((updateCartDataAssign (some (cartList, details))).exec app).2.con.core
      = (app.con.answered cartList details).core := by
  exact (view_bind (f := conCore) (fun _ => keeps_pure _ _) app).trans
    (core_assignAnswer cartList details app.con)

/-- The outcomes of `updateCartData`; where a body is posted the answer is assigned. -/
theorem updateCartData_cases (session : Session) (answer : Except DartError Json) (app : App) :
    app.con.cartProducts = [] ∧ (updateCartData session answer).exec app = (.ok false, app) ∨
    app.con.cartProducts ≠ [] ∧ session.currentUser = none ∧
      (updateCartData session answer).exec app = (.error .noSuchMethod, app.loading) ∨
    app.con.cartProducts ≠ [] ∧
      (updateCartData session answer).exec app
        = (updateCartDataAssign (CartServices.cartUpdate answer)).exec app.loading := by
  rcases updateCartDataPost_cases session app with
    ⟨hnil, he⟩ | ⟨hne, huser, he⟩ | ⟨first, rest, body, hlines, -, -, he⟩
  · exact Or.inl ⟨hnil, by rw [updateCartData, exec_bind_ok he]; rfl⟩
  · exact Or.inr (Or.inl ⟨hne, huser, by rw [updateCartData, exec_bind_error he]⟩)
  · exact Or.inr (Or.inr ⟨by simp [hlines], by rw [updateCartData, exec_bind_ok he]⟩)

/-- With nothing in the cart nothing is posted. -/
theorem exec_updateCartData_empty (session : Session) (answer : Except DartError Json) {app : App}
    (hlines : app.con.cartProducts = []) :
    (updateCartData session answer).exec app = (.ok false, app) := by
  rcases updateCartData_cases session answer app with ⟨-, he⟩ | ⟨hne, -⟩ | ⟨hne, -⟩
  · exact he
  · exact absurd hlines hne
  · exact absurd hlines hne

/-- Without a user the posted body cannot be built. -/
theorem exec_updateCartData_noUser {session : Session} (answer : Except DartError Json) {app : App}
    (hlines : app.con.cartProducts ≠ []) (huser : session.currentUser = none) :
    (updateCartData session answer).exec app = (.error .noSuchMethod, app.loading) := by
  obtain ⟨first, rest, hcons⟩ := List.exists_cons_of_ne_nil hlines
  refine exec_bind_error ?_
  simp [updateCartDataPost, hcons, huser, exec_bind, exec_inCon, Except.map,
    CartServices.cartUpdateBody, notNull, loading]

/-- Where there is something to post and a user to post it for, the answer is assigned. -/
theorem exec_updateCartData {session : Session} (answer : Except DartError Json) {app : App}
    (hlines : app.con.cartProducts ≠ []) (huser : session.currentUser ≠ none) :
    (updateCartData session answer).exec app
      = (updateCartDataAssign (CartServices.cartUpdate answer)).exec app.loading := by
  rcases updateCartData_cases session answer app with ⟨hnil, -⟩ | ⟨-, hnone, -⟩ | ⟨-, he⟩
  · exact absurd hnil hlines
  · exact absurd hnone huser
  · exact he

/-- What stands behind a refresh that returned true: an answer that decoded and was assigned. -/
theorem updateCartData_true {session : Session} {answer : Except DartError Json} {app app' : App}
    (h : (updateCartData session answer).exec app = (.ok true, app')) :
    app.con.cartProducts ≠ [] ∧ session.currentUser ≠ none ∧ ∃ cartList details,
      CartServices.cartUpdate answer = some (cartList, details) ∧
      (assignAnswer cartList details).exec app.loading.con = (.ok (), app'.con) ∧
      app'.cartTable = app.cartTable := by
  by_cases hlines : app.con.cartProducts = []
  · simp [exec_updateCartData_empty session answer hlines] at h
  · by_cases huser : session.currentUser = none
    · simp [exec_updateCartData_noUser answer hlines huser] at h
    · rw [exec_updateCartData answer hlines huser] at h
      cases hanswer : CartServices.cartUpdate answer with
      | none => simp [hanswer, exec_updateCartDataAssign_none] at h
      | some r =>
          obtain ⟨cartList, details⟩ := r
          rw [hanswer, updateCartDataAssign, exec_bind, exec_inCon] at h
          rcases hassign : (assignAnswer cartList details).exec app.loading.con with ⟨_ | _, con⟩
          · simp [hassign] at h
          · rw [hassign] at h
            obtain rfl := (Prod.ext_iff.1 h).2
            exact ⟨hlines, huser, cartList, details, rfl, hassign, rfl⟩

/-- If `updateCartData` returned true, every line of the answer could be priced. -/
theorem ok_of_updateCartData {session : Session} {answer : Except DartError Json} {app : App}
    (h : ((updateCartData session answer).exec app).1 = .ok true) :
    ∀ r ∈ CartServices.cartUpdate answer, ∀ c ∈ r.1, (calculatePrice.exec c).1 = .ok () := by
  intro r hr
  have hrefresh : (updateCartData session answer).exec app
      = (.ok true, ((updateCartData session answer).exec app).2) := Prod.ext h rfl
  obtain ⟨-, -, cartList, details, hanswer, hassign, -⟩ := updateCartData_true hrefresh
  obtain rfl : (cartList, details) = r := Option.some.inj (hanswer.symm.trans hr)
  exact ok_of_assignAnswer (congrArg Prod.fst hassign)

/-! ## placeOrder -/

omit [Doubles] in
/-- A tap on the order button posts a body built from the cart, or nothing; the app stays as it
    is. -/
theorem placeOrderPost_cases (checkout : Checkout) (app : App) :
    ((placeOrderPost checkout).exec app).2 = app ∧
      (((placeOrderPost checkout).exec app).1.toOption.join = none ∨
      ∃ body vendorId, ((placeOrderPost checkout).exec app).1.toOption.join = some body ∧
        OrderServices.placeOrderBody checkout app.con
          (app.con.cartProducts.map CartItem.orderProduct) app.con.userCoupon vendorId
            = .ok body) := by
  cases hlines : app.con.cartProducts with
  | nil => simp [placeOrderPost, hlines, Except.toOption]
  | cons first rest =>
      simp only [placeOrderPost, exec_get_bind, hlines, exec_pure]
      refine ⟨trivial, ?_⟩
      generalize hvendor : (if checkout.isMultiVendor then toString first.product.vendorId else "")
        = vendorId
      cases hbody : OrderServices.placeOrderBody checkout app.con
          ((first :: rest).map CartItem.orderProduct) app.con.userCoupon vendorId with
      | error e => exact Or.inl rfl
      | ok body => exact Or.inr ⟨body, vendorId, rfl, hbody⟩

/-! ## getAllProducts -/

omit [Doubles] in
theorem soundLines_getAllProducts (table : List CartRow) :
    SoundLines (CartDbHelper.getAllProducts table) := by
  intro c hc
  obtain ⟨row, -, rfl⟩ := List.mem_map.1 hc
  exact ⟨rfl, rfl⟩

theorem exec_getAllProductsAssign {cartList : List CartItem} {app : App}
    (h : SoundLines cartList) :
    (getAllProductsAssign cartList).exec app
      = (.ok (), { app with con := (app.con.loaded cartList).recount }) := by
  rw [getAllProductsAssign, exec_inCon, exec_assignLines h]

/-- A restart rebuilds the controller from the table. -/
theorem exec_restart (app : App) :
    restart.exec app = (.ok (), { app with
      con := (loading {}).con.loaded (CartDbHelper.getAllProducts app.cartTable) |>.recount }) :=
  exec_getAllProductsAssign (soundLines_getAllProducts app.cartTable)

end App
end Nourgomla
