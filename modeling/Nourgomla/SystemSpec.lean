import Nourgomla.System

set_option autoImplicit false

/-! # What each event does

One lemma per event, with every outcome it has. They hold in a `Sound` system, one whose lines all
have a quantity and a total, and the events keep it sound as long as the server's answers give every
line a quantity (`Event.Complete`). -/

namespace Nourgomla

variable [Doubles]

open Method CartController

/-- Every line in memory, waiting for its insert or read from the table can be counted. -/
structure System.Sound (s : System) : Prop where
  lines : SoundLines s.app.con.cartProducts
  adds : ∀ cart ∈ s.adds, cart.Sound
  queries : ∀ cartList ∈ s.queries, SoundLines cartList

/-- The answer, if it can be decoded, gives every line a quantity. -/
def CompleteAnswer (answer : Except DartError Json) : Prop :=
  ∀ r ∈ CartServices.cartUpdate answer, ∀ c ∈ r.1, c.quantity.isSome = true

instance (answer : Except DartError Json) : Decidable (CompleteAnswer answer) :=
  inferInstanceAs (Decidable (∀ r ∈ CartServices.cartUpdate answer, ∀ c ∈ r.1, _ = true))

/-- What the server promises of its cart answers: every line has a quantity. -/
def Event.Complete : Event → Prop
  | .answerUpdate _ answer | .refresh _ answer => CompleteAnswer answer
  | _ => True

/-- The events that change or send the cart without an answer or a reset. -/
def Event.IsEdit : Event → Prop
  | .addToCart _ _ | .tapAdd _ _ | .resumeAdd _ | .changeQuantity _ _ | .deleteFromCart _
  | .postUpdate _ | .postCoupon _ => True
  | _ => False

theorem sound_answered {answer : Except DartError Json} {cartList : List CartItem}
    {details : CartDetails} (ha : CompleteAnswer answer)
    (h : CartServices.cartUpdate answer = some (cartList, details)) :
    (∀ c ∈ cartList, c.quantity.isSome = true) ∧ SoundLines (cartList.map CartItem.repriced) := by
  have hq : ∀ c ∈ cartList, c.quantity.isSome = true := ha _ h
  refine ⟨hq, fun c hc => ?_⟩
  obtain ⟨d, hd, rfl⟩ := List.mem_map.1 hc
  obtain ⟨json, hline⟩ := CartServices.exists_cartLine h hd
  exact CartItem.repriced_sound ⟨hq d hd, (CartServices.cartLine_fields hline).1⟩

/-! ## Drafts -/

/-- What `setValues` leaves of a line. -/
theorem keeps_setValues (quantity type : Int) :
    Keeps (fun c : CartItem => (c.product, c.cartIsGift, c.vendorShipping))
      (setValues quantity type) := by
  have hprice : Keeps (fun c : CartItem => (c.product, c.cartIsGift, c.vendorShipping))
      calculatePrice :=
    keeps_bind (keeps_get _) fun _ => keeps_bind (keeps_ofExcept _ _) fun _ =>
      keeps_modify fun _ => rfl
  refine keeps_bind (keeps_modify fun _ => rfl) fun _ => ?_
  split
  · exact keeps_bind (keeps_modify fun _ => rfl) fun _ => hprice
  · exact keeps_bind (keeps_modify fun _ => rfl) fun _ => hprice
  · exact keeps_bind (keeps_modify fun _ => rfl) fun _ => hprice
  · exact hprice

/-- A draft is a paid line of its product, with no shipping yet. -/
theorem Draft.item_fields (draft : Draft) :
    draft.item.product = draft.product ∧ draft.item.isPaid = true ∧
      draft.item.vendorShipping = none := by
  have hcalls : ∀ (calls : List (Int × Int)) (c : CartItem),
      let d := calls.foldl (fun c call => ((setValues call.1 call.2).exec c).2) c
      (d.product, d.cartIsGift, d.vendorShipping) = (c.product, c.cartIsGift, c.vendorShipping) := by
    intro calls
    induction calls with
    | nil => exact fun _ => rfl
    | cons call calls ih => exact fun c => (ih _).trans (keeps_setValues call.1 call.2 c)
  have hitem := hcalls draft.calls { product := draft.product }
  simp only [Prod.mk.injEq] at hitem
  obtain ⟨hproduct, hgift, hshipping⟩ := hitem
  refine ⟨hproduct, ?_, hshipping⟩
  rw [CartItem.isPaid, Draft.item, sheetItem, hgift]
  rfl

@[simp] theorem Draft.item_product (draft : Draft) : draft.item.product = draft.product :=
  draft.item_fields.1

@[simp] theorem Draft.item_isPaid (draft : Draft) : draft.item.isPaid = true :=
  draft.item_fields.2.1

namespace System

variable {s s' : System}

omit [Doubles] in
theorem returned_eq_some {α : Type} {m : Method DartError App α} {a : α} :
    s.returned m = some a ↔ (m.exec s.app).1 = .ok a := by
  unfold returned
  cases (m.exec s.app).1 <;> simp [Except.toOption]

/-! ## Adding a line -/

/-- The app once `cart` is in the table: the shipping is looked up, the row is written. -/
def inserting (s : System) (config : Config) (cart : CartItem) (row : CartRow) : App :=
  { con := App.captured config cart s.app.con, cartTable := s.app.cartTable ++ [row] }

/-- The app after `addToCart`: the row is written and the line is counted. -/
def adding (s : System) (config : Config) (cart : CartItem) (row : CartRow) : App :=
  { s.inserting config cart row with
    con := ((App.captured config cart s.app.con).appended (App.withShipping config cart)).recount }

theorem step_addToCart (hs : s.Sound) {config : Config} {draft : Draft}
    (h : shop.step s (.addToCart config draft) = some s') :
    s.app.accepts draft.item = false ∧ s' = s ∨
    s.app.accepts draft.item = true ∧ (App.withShipping config draft.item).toRow = none ∧
      s' = { s with app := { s.app with con := App.captured config draft.item s.app.con } } ∨
    s.app.accepts draft.item = true ∧ ∃ row, (App.withShipping config draft.item).toRow = some row ∧
      s' = { s with app := s.adding config draft.item row } := by
  obtain rfl : s.perform _ = s' := by simpa [shop, step] using h
  rcases App.addToCart_cases config draft.item s.app with
    ⟨ha, he⟩ | ⟨ha, hrow, he⟩ | ⟨ha, row, hrow, he⟩
  · exact Or.inl ⟨ha, by rw [perform, he]⟩
  · exact Or.inr (Or.inl ⟨ha, hrow, by rw [perform, he]⟩)
  · refine Or.inr (Or.inr ⟨ha, row, hrow, ?_⟩)
    have hlines : SoundLines (s.inserting config draft.item row).con.cartProducts := by
      simpa [inserting] using hs.lines
    rw [perform, he]
    rw [inserting] at hlines
    rw [App.exec_addToCartAppend hlines (CartItem.sound_of_toRow hrow)]
    rfl

theorem step_tapAdd {config : Config} {draft : Draft}
    (h : shop.step s (.tapAdd config draft) = some s') :
    s.app.accepts draft.item = false ∧ s' = s ∨
    s.app.accepts draft.item = true ∧ (App.withShipping config draft.item).toRow = none ∧
      s' = { s with app := { s.app with con := App.captured config draft.item s.app.con } } ∨
    s.app.accepts draft.item = true ∧ ∃ row, (App.withShipping config draft.item).toRow = some row ∧
      s' = { s with
        app := s.inserting config draft.item row
        adds := s.adds ++ [App.withShipping config draft.item] } := by
  obtain rfl := (Option.some.inj h).symm
  rcases App.addToCartInsert_cases config draft.item s.app with
    ⟨ha, he⟩ | ⟨ha, hrow, he⟩ | ⟨ha, row, hrow, he⟩
  · exact Or.inl ⟨ha, by simp [perform, returned, he, Except.toOption]⟩
  · exact Or.inr (Or.inl ⟨ha, hrow, by simp [perform, returned, he, Except.toOption]⟩)
  · exact Or.inr (Or.inr ⟨ha, row, hrow, by
      simp [perform, returned, he, Except.toOption, inserting]⟩)

theorem step_resumeAdd (hs : s.Sound) {k : Nat} (h : shop.step s (.resumeAdd k) = some s') :
    ∃ cart, s.adds[k]? = some cart ∧
      s' = { s with
        app := { s.app with con := (s.app.con.appended cart).recount }
        adds := s.adds.eraseIdx k } := by
  obtain ⟨cart, hcart, rfl⟩ := Option.map_eq_some_iff.1 h
  refine ⟨cart, hcart, ?_⟩
  have hsound := hs.adds cart (List.mem_of_getElem? hcart)
  rw [perform, App.exec_addToCartAppend hs.lines hsound]

/-! ## Edits -/

theorem step_deleteFromCart (hs : s.Sound) {productId : Option Int}
    (h : shop.step s (.deleteFromCart productId) = some s') :
    s' = { s with app := {
      con := (s.app.con.without productId).recount
      cartTable := s.app.rowsWithout productId } } := by
  obtain rfl := (Option.some.inj h).symm
  rw [perform, App.exec_deleteFromCart hs.lines]

theorem step_changeQuantity (hs : s.Sound) {productId : Option Int} {quantity : Int}
    (h : shop.step s (.changeQuantity productId quantity) = some s') :
    s.app.con.getCartById productId = none ∧ s' = s ∨
    ∃ cart, s.app.con.getCartById productId = some cart ∧ s' = { s with app := {
      con := (s.app.con.withQuantity productId quantity).recount
      cartTable := App.rowsWithQuantity s.app.cartTable productId quantity } } := by
  obtain rfl := (Option.some.inj h).symm
  cases hfind : s.app.con.getCartById productId with
  | none => exact Or.inl ⟨rfl, by rw [perform, App.exec_changeQuantity_none quantity hfind]⟩
  | some cart =>
      exact Or.inr ⟨cart, rfl, by rw [perform, App.exec_changeQuantity quantity hfind hs.lines]⟩

theorem step_clearCart (h : shop.step s .clearCart = some s') :
    s' = { s with app := { con := s.app.con.cleared, cartTable := [] } } :=
  (Option.some.inj h).symm

/-! ## Answers and rows -/

/-- The app after an answer. -/
def answering (s : System) (cartList : List CartItem) (details : CartDetails) : App :=
  { s.app with con := (s.app.con.answered (cartList.map CartItem.repriced) details).recount }

theorem step_postUpdate {session : Session} (h : shop.step s (.postUpdate session) = some s') :
    s' = s ∨ s' = { s with app := s.app.loading } ∨
    ∃ first rest body, s.app.con.cartProducts = first :: rest ∧
      body.vendorId = first.product.vendorId ∧ body.productsJson = paidJson s.app.con.cartProducts ∧
      s' = { s with app := s.app.loading, updates := s.updates ++ [body] } := by
  obtain rfl := (Option.some.inj h).symm
  rcases App.updateCartDataPost_cases session s.app with
    ⟨-, he⟩ | ⟨-, -, he⟩ | ⟨first, rest, body, hlines, hvendor, hjson, he⟩
  · exact Or.inl (by simp [perform, returned, he, Except.toOption])
  · exact Or.inr (Or.inl (by simp [perform, returned, he, Except.toOption]))
  · refine Or.inr (Or.inr ⟨first, rest, body, hlines, hvendor, hjson, ?_⟩)
    simp [perform, returned, he, Except.toOption]

theorem step_answerUpdate {k : Nat} {answer : Except DartError Json}
    (ha : CompleteAnswer answer) (h : shop.step s (.answerUpdate k answer) = some s') :
    ∃ body, s.updates[k]? = some body ∧
      (CartServices.cartUpdate answer = none ∧ s' = { s with updates := s.updates.eraseIdx k } ∨
      ∃ cartList details, CartServices.cartUpdate answer = some (cartList, details) ∧
        s' = { s with
          app := s.answering cartList details
          updates := s.updates.eraseIdx k }) := by
  obtain ⟨body, hbody, rfl⟩ := Option.map_eq_some_iff.1 h
  refine ⟨body, hbody, ?_⟩
  cases hupdate : CartServices.cartUpdate answer with
  | none => exact Or.inl ⟨rfl, rfl⟩
  | some r =>
      obtain ⟨hq, hlines⟩ := sound_answered ha hupdate
      refine Or.inr ⟨r.1, r.2, rfl, ?_⟩
      rw [perform, App.exec_updateCartDataAssign hq hlines]
      rfl

theorem step_refresh {session : Session} {answer : Except DartError Json}
    (ha : CompleteAnswer answer) (h : shop.step s (.refresh session answer) = some s') :
    s' = s ∨ s' = { s with app := s.app.loading } ∨
    s.app.con.cartProducts ≠ [] ∧ ∃ cartList details,
      CartServices.cartUpdate answer = some (cartList, details) ∧
      s' = { s with app := s.answering cartList details } := by
  obtain rfl := (Option.some.inj h).symm
  rcases App.updateCartData_cases session answer s.app with
    ⟨-, he⟩ | ⟨-, -, he⟩ | ⟨hne, he⟩
  · exact Or.inl (by rw [perform, he])
  · exact Or.inr (Or.inl (by rw [perform, he]))
  · cases hupdate : CartServices.cartUpdate answer with
    | none =>
        rw [hupdate] at he
        exact Or.inr (Or.inl (by rw [perform, he, App.exec_updateCartDataAssign_none]))
    | some r =>
        obtain ⟨hq, hlines⟩ := sound_answered ha hupdate
        refine Or.inr (Or.inr ⟨hne, r.1, r.2, rfl, ?_⟩)
        rw [perform, he, hupdate, App.exec_updateCartDataAssign hq hlines]
        rfl

theorem step_startLoad (h : shop.step s .startLoad = some s') :
    s' = { s with
      app := s.app.loading
      queries := s.queries ++ [CartDbHelper.getAllProducts s.app.cartTable] } :=
  (Option.some.inj h).symm

theorem step_finishLoad (hs : s.Sound) {k : Nat} (h : shop.step s (.finishLoad k) = some s') :
    ∃ cartList, s.queries[k]? = some cartList ∧
      s' = { s with
        app := { s.app with con := (s.app.con.loaded cartList).recount }
        queries := s.queries.eraseIdx k } := by
  obtain ⟨cartList, hquery, rfl⟩ := Option.map_eq_some_iff.1 h
  refine ⟨cartList, hquery, ?_⟩
  rw [perform, App.exec_getAllProductsAssign (hs.queries _ (List.mem_of_getElem? hquery))]

theorem step_restart (h : shop.step s .restart = some s') :
    s' = {
      app := { s.app with con := (({} : App).loading.con.loaded
        (CartDbHelper.getAllProducts s.app.cartTable)).recount }
      placed := s.placed } := by
  obtain rfl := (Option.some.inj h).symm
  rw [App.exec_restart]

/-! ## Coupons -/

theorem step_postCoupon {coupon : String} (h : shop.step s (.postCoupon coupon) = some s') :
    s.app.con.cartProducts = [] ∧ s' = s ∨
    ∃ first rest, s.app.con.cartProducts = first :: rest ∧
      s' = { s with coupons := s.coupons ++ [{
        coupon := coupon
        amount := truncate s.app.con.cartTotalPrices
        hasDiscount := s.app.con.hasDiscount
        vendorId := first.product.vendorId }] } := by
  obtain rfl := (Option.some.inj h).symm
  cases hlines : s.app.con.cartProducts with
  | nil =>
      refine Or.inl ⟨rfl, ?_⟩
      simp [perform, returned, App.activateCouponPost, hlines, Except.toOption]
  | cons first rest =>
      refine Or.inr ⟨first, rest, rfl, ?_⟩
      simp [perform, returned, App.activateCouponPost, hlines, Except.toOption]

theorem step_answerCoupon {k : Nat} {answer : Except DartError Json}
    (h : shop.step s (.answerCoupon k answer) = some s') :
    ∃ request, s.coupons[k]? = some request ∧
      s' = { s with
        app := { s.app with con := { s.app.con with
          userCoupon := CartServices.activateCoupon request.hasDiscount answer } }
        coupons := s.coupons.eraseIdx k } := by
  obtain ⟨request, hrequest, rfl⟩ := Option.map_eq_some_iff.1 h
  exact ⟨request, hrequest, rfl⟩

/-! ## Orders -/

theorem step_tapOrder {checkout : Checkout} (h : shop.step s (.tapOrder checkout) = some s') :
    s' = s ∨ ∃ body, body.ordersProductsJson = s.app.con.cartProducts.map CartItem.orderProduct ∧
      s' = { s with orders := s.orders ++ [{ body }] } := by
  obtain rfl := (Option.some.inj h).symm
  obtain ⟨happ, hposted⟩ := App.placeOrderPost_cases checkout s.app
  rcases hposted with hnone | ⟨body, vendorId, hsome, hbody⟩
  · exact Or.inl (by simp [perform, returned, happ, hnone])
  · obtain ⟨_, -, hentries, -⟩ := OrderServices.placeOrderBody_fields hbody
    exact Or.inr ⟨body, hentries, by simp [perform, returned, happ, hsome]⟩

theorem step_insertOrder {k : Nat} (h : shop.step s (.insertOrder k) = some s') :
    ∃ request, s.orders[k]? = some request ∧ request.inserted = false ∧
      s' = { s with
        orders := s.orders.set k { request with inserted := true }
        placed := s.placed ++ [request.body] } := by
  obtain ⟨request, hrequest, h⟩ := Option.bind_eq_some_iff.1 h
  cases hinserted : request.inserted with
  | true => simp [hinserted] at h
  | false =>
      simp only [hinserted, Bool.false_eq_true, if_false, Option.some.injEq] at h
      exact ⟨request, hrequest, hinserted, h.symm⟩

theorem step_answerOrder {k : Nat} {answer : Except DartError Json}
    (h : shop.step s (.answerOrder k answer) = some s') :
    ∃ request, s.orders[k]? = some request ∧
      (OrderServices.succeeds answer = false ∧ s' = { s with orders := s.orders.eraseIdx k } ∨
      OrderServices.succeeds answer = true ∧
        s' = { s with
          app := { con := s.app.con.cleared, cartTable := [] }
          orders := s.orders.eraseIdx k }) := by
  obtain ⟨request, hrequest, rfl⟩ := Option.map_eq_some_iff.1 h
  refine ⟨request, hrequest, ?_⟩
  cases hok : OrderServices.succeeds answer with
  | false => exact Or.inl ⟨rfl, by simp [perform, App.placeOrderAssign, hok]⟩
  | true => exact Or.inr ⟨rfl, by simp [perform, App.placeOrderAssign, hok, App.exec_clearCart]⟩

/-! ## What edits and posts leave alone -/

/-- An edit keeps the flag, the details and the coupon, in any state and however it ends. -/
theorem fields_of_edit {e : Event} (h : shop.step s e = some s') (he : e.IsEdit) :
    s'.app.con.dataUpdated = s.app.con.dataUpdated ∧
      s'.app.con.cartDetails = s.app.con.cartDetails ∧
      s'.app.con.userCoupon = s.app.con.userCoupon := by
  cases e with
  | addToCart config draft =>
      obtain rfl := (Option.some.inj h).symm
      obtain ⟨shipping, hcaptured⟩ := App.captured_eq config draft.item s.app.con
      rcases App.addToCart_cases config draft.item s.app with
        ⟨-, he⟩ | ⟨-, -, he⟩ | ⟨-, row, -, he⟩
      · simp [perform, he]
      · simp [perform, he, hcaptured]
      · obtain ⟨-, hfields⟩ := fields_of_core (App.core_addToCartAppend
          (App.withShipping config draft.item) (s.inserting config draft.item row))
        rw [inserting, hcaptured] at hfields
        rw [perform, he, hcaptured]
        exact hfields
  | tapAdd config draft =>
      obtain ⟨shipping, hcaptured⟩ := App.captured_eq config draft.item s.app.con
      rcases step_tapAdd h with ⟨-, rfl⟩ | ⟨-, -, rfl⟩ | ⟨-, row, -, rfl⟩
      · exact ⟨rfl, rfl, rfl⟩
      · simp [hcaptured]
      · simp [inserting, hcaptured]
  | resumeAdd k =>
      obtain ⟨cart, -, rfl⟩ := Option.map_eq_some_iff.1 h
      exact (fields_of_core (App.core_addToCartAppend cart s.app)).2
  | changeQuantity productId quantity =>
      obtain rfl := (Option.some.inj h).symm
      cases hfind : s.app.con.getCartById productId with
      | none => simp [perform, App.exec_changeQuantity_none quantity hfind]
      | some cart => exact (fields_of_core (App.core_changeQuantity quantity hfind)).2
  | deleteFromCart productId =>
      obtain rfl := (Option.some.inj h).symm
      obtain ⟨-, hflag, hdetails, hcoupon⟩ :=
        fields_of_core (App.core_deleteFromCart productId s.app)
      obtain ⟨hflag', hdetails', hcoupon', -⟩ := without_fields s.app.con productId
      exact ⟨hflag.trans hflag', hdetails.trans hdetails', hcoupon.trans hcoupon'⟩
  | postUpdate session =>
      rcases step_postUpdate h with rfl | rfl | ⟨_, _, _, -, -, -, rfl⟩ <;>
        exact ⟨rfl, rfl, rfl⟩
  | postCoupon coupon =>
      rcases step_postCoupon h with ⟨-, rfl⟩ | ⟨_, _, -, rfl⟩ <;> exact ⟨rfl, rfl, rfl⟩
  | _ => exact he.elim

/-- An answer sets the details and keeps the coupon; a failed one keeps both. -/
theorem fields_of_answerUpdate {k : Nat} {answer : Except DartError Json}
    (h : shop.step s (.answerUpdate k answer) = some s') :
    s'.app.con.userCoupon = s.app.con.userCoupon ∧
      (CartServices.cartUpdate answer = none ∧ s'.app = s.app ∨
      ∃ cartList details, CartServices.cartUpdate answer = some (cartList, details) ∧
        s'.app.con.cartDetails = some details ∧
        paidJson s'.app.con.cartProducts = paidJson cartList) := by
  obtain ⟨_, -, rfl⟩ := Option.map_eq_some_iff.1 h
  cases hupdate : CartServices.cartUpdate answer with
  | none => exact ⟨rfl, Or.inl ⟨rfl, rfl⟩⟩
  | some r =>
      obtain ⟨hjson, -, hdetails, hcoupon⟩ :=
        fields_of_core (App.core_updateCartDataAssign r.1 r.2 s.app)
      exact ⟨hcoupon, Or.inr ⟨r.1, r.2, rfl, hdetails, hjson⟩⟩

/-! ## Soundness -/

theorem sound_appended {con : CartController} {cart : CartItem} (h : SoundLines con.cartProducts)
    (hcart : cart.Sound) : SoundLines (con.appended cart).recount.cartProducts := by
  refine recount_sound fun c hc => ?_
  rcases List.mem_append.1 hc with hc | hc
  · exact h c hc
  · exact List.mem_singleton.1 hc ▸ hcart

omit [Doubles] in
theorem sound_of_idle (hlines : SoundLines s.app.con.cartProducts) (hadds : s.adds = [])
    (hqueries : s.queries = []) : s.Sound :=
  ⟨hlines, by simp [hadds], by simp [hqueries]⟩

theorem opened_app (table : List CartRow) :
    (opened table).app = {
      con := (({} : App).loading.con.loaded (CartDbHelper.getAllProducts table)).recount
      cartTable := table } := by
  rw [opened, App.exec_restart]

theorem sound_opened (table : List CartRow) : (opened table).Sound := by
  refine sound_of_idle ?_ rfl rfl
  rw [opened_app]
  exact recount_sound (App.soundLines_getAllProducts table)

/-- Every event keeps the system sound. -/
theorem Sound.step {e : Event} (hs : s.Sound) (he : e.Complete) (h : shop.step s e = some s') :
    s'.Sound := by
  cases e with
  | addToCart config draft =>
      rcases step_addToCart hs h with ⟨-, rfl⟩ | ⟨-, -, rfl⟩ | ⟨-, row, hrow, rfl⟩
      · exact hs
      · exact ⟨by simpa using hs.lines, hs.adds, hs.queries⟩
      · refine ⟨sound_appended ?_ (CartItem.sound_of_toRow hrow), hs.adds, hs.queries⟩
        simpa using hs.lines
  | tapAdd config draft =>
      rcases step_tapAdd h with ⟨-, rfl⟩ | ⟨-, -, rfl⟩ | ⟨-, row, hrow, rfl⟩
      · exact hs
      · exact ⟨by simpa using hs.lines, hs.adds, hs.queries⟩
      · refine ⟨by simpa [inserting] using hs.lines, fun cart hcart => ?_, hs.queries⟩
        rcases List.mem_append.1 hcart with hcart | hcart
        · exact hs.adds cart hcart
        · exact List.mem_singleton.1 hcart ▸ CartItem.sound_of_toRow hrow
  | resumeAdd k =>
      obtain ⟨cart, hcart, rfl⟩ := step_resumeAdd hs h
      exact ⟨sound_appended hs.lines (hs.adds cart (List.mem_of_getElem? hcart)),
        fun c hc => hs.adds c (List.mem_of_mem_eraseIdx hc), hs.queries⟩
  | changeQuantity productId quantity =>
      rcases step_changeQuantity hs h with ⟨-, rfl⟩ | ⟨cart, -, rfl⟩
      · exact hs
      · exact ⟨recount_sound (withQuantity_sound hs.lines), hs.adds, hs.queries⟩
  | deleteFromCart productId =>
      obtain rfl := step_deleteFromCart hs h
      exact ⟨recount_sound (without_sound hs.lines), hs.adds, hs.queries⟩
  | clearCart =>
      obtain rfl := step_clearCart h
      exact ⟨fun c hc => absurd hc List.not_mem_nil, hs.adds, hs.queries⟩
  | postUpdate session =>
      rcases step_postUpdate h with rfl | rfl | ⟨_, _, _, -, -, -, rfl⟩
      · exact hs
      · exact ⟨hs.lines, hs.adds, hs.queries⟩
      · exact ⟨hs.lines, hs.adds, hs.queries⟩
  | answerUpdate k answer =>
      obtain ⟨_, -, ⟨-, rfl⟩ | ⟨cartList, details, hupdate, rfl⟩⟩ := step_answerUpdate he h
      · exact ⟨hs.lines, hs.adds, hs.queries⟩
      · exact ⟨recount_sound (sound_answered he hupdate).2, hs.adds, hs.queries⟩
  | refresh session answer =>
      rcases step_refresh he h with rfl | rfl | ⟨-, cartList, details, hupdate, rfl⟩
      · exact hs
      · exact ⟨hs.lines, hs.adds, hs.queries⟩
      · exact ⟨recount_sound (sound_answered he hupdate).2, hs.adds, hs.queries⟩
  | startLoad =>
      obtain rfl := step_startLoad h
      refine ⟨hs.lines, hs.adds, fun cartList hc => ?_⟩
      rcases List.mem_append.1 hc with hc | hc
      · exact hs.queries cartList hc
      · exact List.mem_singleton.1 hc ▸ App.soundLines_getAllProducts s.app.cartTable
  | finishLoad k =>
      obtain ⟨cartList, hquery, rfl⟩ := step_finishLoad hs h
      have hlines : SoundLines cartList := hs.queries cartList (List.mem_of_getElem? hquery)
      exact ⟨recount_sound hlines, hs.adds,
        fun c hc => hs.queries c (List.mem_of_mem_eraseIdx hc)⟩
  | postCoupon coupon =>
      rcases step_postCoupon h with ⟨-, rfl⟩ | ⟨_, _, -, rfl⟩
      · exact hs
      · exact ⟨hs.lines, hs.adds, hs.queries⟩
  | answerCoupon k answer =>
      obtain ⟨_, -, rfl⟩ := step_answerCoupon h
      exact ⟨hs.lines, hs.adds, hs.queries⟩
  | tapOrder checkout =>
      rcases step_tapOrder h with rfl | ⟨_, -, rfl⟩
      · exact hs
      · exact ⟨hs.lines, hs.adds, hs.queries⟩
  | insertOrder k =>
      obtain ⟨_, -, -, rfl⟩ := step_insertOrder h
      exact ⟨hs.lines, hs.adds, hs.queries⟩
  | answerOrder k answer =>
      obtain ⟨_, -, ⟨-, rfl⟩ | ⟨-, rfl⟩⟩ := step_answerOrder h
      · exact ⟨hs.lines, hs.adds, hs.queries⟩
      · exact ⟨fun c hc => absurd hc List.not_mem_nil, hs.adds, hs.queries⟩
  | restart =>
      obtain rfl := step_restart h
      exact ⟨recount_sound (App.soundLines_getAllProducts s.app.cartTable), by simp, by simp⟩

end System
end Nourgomla
