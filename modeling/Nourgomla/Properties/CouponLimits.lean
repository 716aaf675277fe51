import Nourgomla.SystemSpec

set_option autoImplicit false

/-! # A held coupon and its limits

The server grants a coupon for the vendor and the amount that were posted with the code. The coupon
stays while the cart changes, and only `clearCart` drops it; nothing compares the cart with it again.
So it fits the cart as long as nothing that it was granted for moves: no line is added, none is given
another total, no paid one is removed unless it is the last, and what the server sends has the same
vendor in front and comes to the same amount (`couponFits_of_kept`). -/

namespace Nourgomla

open CartController

/-- The amount is within the limits of the coupon. -/
def Coupon.Allows (coupon : Coupon) (amount : Int) : Prop :=
  (∃ minimum ∈ coupon.cartMinimum, minimum ≤ amount) ∧
    ∃ maximum ∈ coupon.cartMaximum, amount ≤ maximum

/-- The vendor the last coupon was asked for. -/
def noteVendor (s : System) (e : Event) (vendorId : Int) : Int :=
  match e with
  | .answerCoupon k _ => (s.coupons[k]?).elim vendorId App.CouponRequest.vendorId
  | _ => vendorId

/-- The coupon, if one is held, goes with the vendor of the first line and with the total. -/
def Fits (held : Option Coupon) (vendorId : Int) (lines : List CartItem) (total : Rat) : Prop :=
  ∀ first ∈ lines.head?, ∀ coupon ∈ held,
    first.product.vendorId = vendorId ∧ coupon.Allows (truncate total)

/-- A held coupon was granted for the vendor of the cart, and `cartTotalPrices` is within its
    limits, unless the cart is empty. -/
def CouponFits (sv : System × Int) : Prop :=
  Fits sv.1.app.con.userCoupon sv.2 sv.1.app.con.cartProducts sv.1.app.con.cartTotalPrices

/-- The operations on the cart and the coupon. The server grants a coupon only for an amount within
    its limits, and gives every line of a cart a quantity. -/
@[reducible] def CouponSession (s : System) : Event → Prop
  | .addToCart _ _ | .changeQuantity _ _ | .deleteFromCart _ | .clearCart | .postUpdate _
  | .postCoupon _ => True
  | .answerUpdate _ answer => CompleteAnswer answer
  | .answerCoupon k answer => ∀ request ∈ s.coupons[k]?,
      ∀ coupon ∈ CartServices.activateCoupon request.hasDiscount answer, coupon.Allows request.amount
  | _ => False

/-- The vendor of the line in front. -/
def frontVendor (lines : List CartItem) : Option Int := lines.head?.map (·.product.vendorId)

/-- What a coupon is granted for, the vendor in front and the amount, stays as it is while one is held; and one that
    is granted finds in the cart what it was asked for. -/
@[reducible] def Kept (s : System) : Event → Prop
  | .addToCart config draft => s.app.con.userCoupon = none ∨ s.app.accepts draft.item = false ∨
      (App.withShipping config draft.item).toRow = none
  | .changeQuantity productId quantity => s.app.con.userCoupon = none ∨
      ∀ c ∈ s.app.con.getCartById productId,
        c.isPaid = false ∨ (requantified quantity c).totalPrice = c.totalPrice
  | .deleteFromCart productId => s.app.con.userCoupon = none ∨
      ∀ c ∈ s.app.con.getCartById productId, s.app.con.cartProducts.eraseP (hasId productId) = [] ∨
        c.isPaid = false ∧ frontVendor (s.app.con.cartProducts.eraseP (hasId productId))
          = frontVendor s.app.con.cartProducts
  | .answerUpdate _ answer => s.app.con.userCoupon = none ∨ ∀ r ∈ CartServices.cartUpdate answer, r.1 = [] ∨
      frontVendor r.1 = frontVendor s.app.con.cartProducts ∧
        truncate (paidTotal (r.1.map CartItem.repriced)) = truncate s.app.con.cartTotalPrices
  | .answerCoupon k answer => ∀ request ∈ s.coupons[k]?,
      CartServices.activateCoupon request.hasDiscount answer = none ∨ s.app.con.cartProducts = [] ∨
        frontVendor s.app.con.cartProducts = some request.vendorId ∧
          truncate s.app.con.cartTotalPrices = request.amount
  | _ => True

/-! ## Steps -/

theorem fits_none {vendorId : Int} {lines : List CartItem} {total : Rat} : Fits none vendorId lines total := by
  rintro first - coupon hcoupon
  cases hcoupon

theorem fits_nil {held : Option Coupon} {vendorId : Int} {total : Rat} : Fits held vendorId [] total := by
  rintro first hfirst
  cases hfirst

/-- Only the vendor in front and the amount matter. -/
theorem Fits.congr {held : Option Coupon} {vendorId : Int} {lines lines' : List CartItem}
    {total total' : Rat} (h : Fits held vendorId lines total) (hfront : frontVendor lines' = frontVendor lines)
    (hamount : truncate total' = truncate total) : Fits held vendorId lines' total' := by
  intro first' hfirst' coupon hcoupon
  rw [frontVendor, hfirst', eq_comm, frontVendor, Option.map_some, Option.map_eq_some_iff] at hfront
  obtain ⟨first, hfirst, hvendor⟩ := hfront
  obtain ⟨hgranted, hallows⟩ := h first hfirst coupon hcoupon
  exact ⟨hvendor ▸ hgranted, hamount ▸ hallows⟩

/-- A line that is not there, or a gift, adds nothing. -/
theorem paidTotal_eraseP_gift {p : CartItem → Bool} {lines : List CartItem}
    (h : ∀ c ∈ lines.find? p, c.isPaid = false) : paidTotal (lines.eraseP p) = paidTotal lines := by
  cases hfind : lines.find? p with
  | none => rw [eraseP_of_find?_none hfind]
  | some c =>
      obtain ⟨pre, post, hl, -, -, -, her⟩ := find?_split hfind
      have hgift : ∀ x, c.addedTo x = x := fun x => by simp [CartItem.addedTo, h c hfind]
      rw [her, hl, paidTotal, paidTotal, List.foldl_append, List.foldl_append, List.foldl_cons, hgift]

/-- A line that is a gift, or costs what it did, adds what it did. -/
theorem paidTotal_requantified {productId : Option Int} {quantity : Int} {lines : List CartItem}
    (h : ∀ c ∈ lines.find? (hasId productId),
      c.isPaid = false ∨ (requantified quantity c).totalPrice = c.totalPrice) :
    paidTotal (updateFirst (hasId productId) (requantified quantity) lines) = paidTotal lines := by
  cases hfind : lines.find? (hasId productId) with
  | none => rw [updateFirst_of_find?_none hfind]
  | some c =>
      obtain ⟨pre, post, hl, -, -, hup, -⟩ := find?_split hfind
      have hsame : ∀ x, (requantified quantity c).addedTo x = c.addedTo x := by
        intro x
        rcases h c hfind with hgift | htotal
        · simp [CartItem.addedTo, hgift]
        · simp [CartItem.addedTo, htotal]
      rw [hup, hl, paidTotal, paidTotal, List.foldl_append, List.foldl_append, List.foldl_cons, List.foldl_cons, hsame]

theorem frontVendor_map {f : CartItem → CartItem} (hf : ∀ c, (f c).product = c.product) (lines : List CartItem) :
    frontVendor (lines.map f) = frontVendor lines := by
  cases lines with
  | nil => rfl
  | cons c cs => simp [frontVendor, hf]

theorem frontVendor_requantified (productId : Option Int) (quantity : Int) (lines : List CartItem) :
    frontVendor (updateFirst (hasId productId) (requantified quantity) lines) = frontVendor lines := by
  have hvendors : (updateFirst (hasId productId) (requantified quantity) lines).map (·.product.vendorId)
      = lines.map (·.product.vendorId) := map_updateFirst fun c _ => by simp
  rw [frontVendor, frontVendor, ← List.head?_map, ← List.head?_map, hvendors]

/-- After the sums are computed again it is the lines that are to fit. -/
theorem couponFits_recount {s : System} (con : CartController) {table : List CartRow} {vendorId : Int}
    (h : Fits con.userCoupon vendorId con.cartProducts (paidTotal con.cartProducts)) :
    CouponFits ({ s with app := { con := con.recount, cartTable := table } }, vendorId) :=
  h.congr (frontVendor_map (fun c => c.withPoints_product) con.cartProducts) rfl

/-- `cartTotalPrices` is what the paid lines add up to. -/
def Counted (con : CartController) : Prop := con.cartTotalPrices = paidTotal con.cartProducts

theorem counted_recount (con : CartController) : Counted con.recount :=
  (paidTotal_withPoints con.cartProducts).symm

theorem counted_step {s s' : System} {e : Event} (hs : s.Sound) (hcounted : Counted s.app.con)
    (he : CouponSession s e) (h : shop.step s e = some s') : Counted s'.app.con := by
  cases e with
  | addToCart config draft =>
      rcases System.step_addToCart hs h with ⟨-, rfl⟩ | ⟨-, -, rfl⟩ | ⟨-, row, -, rfl⟩
      · exact hcounted
      · obtain ⟨shipping, hcaptured⟩ := App.captured_eq config draft.item s.app.con
        simpa [Counted, hcaptured] using hcounted
      · exact counted_recount _
  | changeQuantity productId quantity =>
      rcases System.step_changeQuantity hs h with ⟨-, rfl⟩ | ⟨_, -, rfl⟩
      · exact hcounted
      · exact counted_recount _
  | deleteFromCart productId =>
      obtain rfl := System.step_deleteFromCart hs h
      exact counted_recount _
  | clearCart =>
      obtain rfl := System.step_clearCart h
      rfl
  | postUpdate session =>
      rcases System.step_postUpdate h with rfl | rfl | ⟨_, _, _, -, -, -, rfl⟩ <;> exact hcounted
  | answerUpdate k answer =>
      obtain ⟨_, -, ⟨-, rfl⟩ | ⟨cartList, details, -, rfl⟩⟩ := System.step_answerUpdate he h
      · exact hcounted
      · exact counted_recount _
  | postCoupon coupon =>
      rcases System.step_postCoupon h with ⟨-, rfl⟩ | ⟨_, _, -, rfl⟩ <;> exact hcounted
  | answerCoupon k answer =>
      obtain ⟨_, -, rfl⟩ := System.step_answerCoupon h
      exact hcounted
  | _ => exact he.elim

theorem couponFits_addToCart {s s' : System} {vendorId : Int} {config : Config} {draft : Draft}
    (hs : s.Sound) (hfits : CouponFits (s, vendorId)) (hkept : Kept s (.addToCart config draft))
    (h : shop.step s (.addToCart config draft) = some s') : CouponFits (s', vendorId) := by
  obtain ⟨shipping, hcaptured⟩ := App.captured_eq config draft.item s.app.con
  rcases System.step_addToCart hs h with
    ⟨-, rfl⟩ | ⟨-, -, rfl⟩ | ⟨haccepted, row, hrow, rfl⟩
  · exact hfits
  · simpa [CouponFits, hcaptured] using hfits
  · -- the line is in the cart, so no coupon is held
    have hnone : s.app.con.userCoupon = none := by
      rcases hkept with hnone | hrefused | hfails
      · exact hnone
      · rw [haccepted] at hrefused
        cases hrefused
      · rw [hrow] at hfails
        cases hfails
    refine couponFits_recount ((App.captured config draft.item s.app.con).appended
      (App.withShipping config draft.item)) ?_
    simp only [appended, hcaptured, hnone]
    exact fits_none

theorem couponFits_changeQuantity {s s' : System} {vendorId : Int} {productId : Option Int}
    {quantity : Int} (hs : s.Sound) (hcounted : Counted s.app.con) (hfits : CouponFits (s, vendorId))
    (hkept : Kept s (.changeQuantity productId quantity))
    (h : shop.step s (.changeQuantity productId quantity) = some s') : CouponFits (s', vendorId) := by
  rcases System.step_changeQuantity hs h with ⟨-, rfl⟩ | ⟨cart, -, rfl⟩
  · exact hfits
  · refine couponFits_recount (s.app.con.withQuantity productId quantity) ?_
    rcases hkept with hnone | hsame
    · simp only [withQuantity, hnone]
      exact fits_none
    · have htotal : paidTotal (s.app.con.withQuantity productId quantity).cartProducts = s.app.con.cartTotalPrices :=
        (paidTotal_requantified hsame).trans hcounted.symm
      exact hfits.congr (frontVendor_requantified productId quantity _) (by rw [htotal])

theorem couponFits_deleteFromCart {s s' : System} {vendorId : Int} {productId : Option Int}
    (hs : s.Sound) (hcounted : Counted s.app.con) (hfits : CouponFits (s, vendorId))
    (hkept : Kept s (.deleteFromCart productId))
    (h : shop.step s (.deleteFromCart productId) = some s') : CouponFits (s', vendorId) := by
  obtain rfl := System.step_deleteFromCart hs h
  refine couponFits_recount (s.app.con.without productId) ?_
  obtain ⟨-, -, hcoupon, -⟩ := without_fields s.app.con productId
  rw [hcoupon, without_cartProducts]
  rcases hkept with hnone | hline
  · rw [hnone]
    exact fits_none
  · cases hfind : s.app.con.cartProducts.find? (hasId productId) with
    | none =>
        rw [eraseP_of_find?_none hfind, ← hcounted]
        exact hfits
    | some cart =>
        rcases hline cart hfind with hempty | ⟨hgift, hfront⟩
        · rw [hempty]
          exact fits_nil
        · have htotal : paidTotal (s.app.con.cartProducts.eraseP (hasId productId)) = s.app.con.cartTotalPrices := by
            rw [paidTotal_eraseP_gift fun c hc => ?_, ← hcounted]
            rw [hfind, Option.mem_some_iff] at hc
            exact hc ▸ hgift
          exact hfits.congr hfront (by rw [htotal])

theorem couponFits_answerUpdate {s s' : System} {vendorId : Int} {k : Nat} {answer : Except DartError Json}
    (hfits : CouponFits (s, vendorId)) (he : CompleteAnswer answer) (hkept : Kept s (.answerUpdate k answer))
    (h : shop.step s (.answerUpdate k answer) = some s') : CouponFits (s', vendorId) := by
  obtain ⟨_, -, ⟨-, rfl⟩ | ⟨cartList, details, hupdate, rfl⟩⟩ := System.step_answerUpdate he h
  · exact hfits
  · have hlines : Fits s.app.con.userCoupon vendorId (cartList.map CartItem.repriced)
        (paidTotal (cartList.map CartItem.repriced)) := by
      rcases hkept with hnone | hsame
      · rw [hnone]
        exact fits_none
      · rcases hsame _ hupdate with hempty | ⟨hfront, hamount⟩
        · obtain rfl : cartList = [] := hempty
          exact fits_nil
        · exact hfits.congr ((frontVendor_map (fun c => c.repriced_product) cartList).trans hfront) hamount
    exact couponFits_recount (s := { s with updates := s.updates.eraseIdx k })
      (s.app.con.answered (cartList.map CartItem.repriced) details) hlines

/-- The coupon that arrives was granted for what the cart still is. -/
theorem couponFits_answerCoupon {s s' : System} {vendorId : Int} {k : Nat} {answer : Except DartError Json}
    (he : CouponSession s (.answerCoupon k answer)) (hkept : Kept s (.answerCoupon k answer))
    (h : shop.step s (.answerCoupon k answer) = some s') :
    CouponFits (s', noteVendor s (.answerCoupon k answer) vendorId) := by
  obtain ⟨request, hrequest, rfl⟩ := System.step_answerCoupon h
  simp only [CouponFits, noteVendor, hrequest, Option.elim_some]
  rcases hkept request hrequest with hnone | hempty | ⟨hfront, hamount⟩
  · rw [hnone]
    exact fits_none
  · rw [hempty]
    exact fits_nil
  · intro first hfirst coupon hcoupon
    rw [frontVendor, hfirst, Option.map_some] at hfront
    rw [hamount]
    exact ⟨Option.some.inj hfront, he request hrequest coupon hcoupon⟩

/-- An event that keeps what the coupon was granted for leaves a coupon that fits. -/
theorem couponFits_step {s s' : System} {vendorId : Int} {e : Event} (hs : s.Sound)
    (hcounted : Counted s.app.con) (hfits : CouponFits (s, vendorId)) (he : CouponSession s e)
    (hkept : Kept s e) (h : shop.step s e = some s') : CouponFits (s', noteVendor s e vendorId) := by
  cases e with
  | addToCart config draft => exact couponFits_addToCart hs hfits hkept h
  | changeQuantity productId quantity => exact couponFits_changeQuantity hs hcounted hfits hkept h
  | deleteFromCart productId => exact couponFits_deleteFromCart hs hcounted hfits hkept h
  | clearCart =>
      obtain rfl := System.step_clearCart h
      exact fits_nil
  | postUpdate session =>
      rcases System.step_postUpdate h with rfl | rfl | ⟨_, _, _, -, -, -, rfl⟩ <;> exact hfits
  | answerUpdate k answer => exact couponFits_answerUpdate hfits he hkept h
  | postCoupon coupon =>
      rcases System.step_postCoupon h with ⟨-, rfl⟩ | ⟨_, _, -, rfl⟩ <;> exact hfits
  | answerCoupon k answer => exact couponFits_answerCoupon he hkept h
  | _ => exact he.elim

theorem CouponSession.complete {s : System} {e : Event} (h : CouponSession s e) : e.Complete := by
  cases e with
  | answerUpdate _ _ => exact h
  | refresh _ _ => exact h.elim
  | _ => trivial

/-- From an app just opened on any table: in every run that keeps what a coupon was granted for while it is held, a
    held coupon fits the vendor and the total of the cart at every moment. -/
theorem couponFits_of_kept {table : List CartRow} {vendorId : Int} {events : List Event}
    (henv : (shop.track noteVendor).Meets (fun sv e => CouponSession sv.1 e)
      (System.opened table, vendorId) events)
    (hkept : (shop.track noteVendor).Meets (fun sv e => Kept sv.1 e) (System.opened table, vendorId) events) :
    (shop.track noteVendor).Throughout CouponFits (System.opened table, vendorId) events := by
  refine Machine.throughout_of_meets (fun sv => (sv.1.Sound ∧ Counted sv.1.app.con) ∧ CouponFits sv)
    (fun _ h => h.2) ?_ events ⟨⟨System.sound_opened table, ?_⟩, ?_⟩ (henv.and hkept)
  · rintro ⟨s, v⟩ e ⟨s', v'⟩ ⟨⟨hs, hcounted⟩, hfits⟩ ⟨he, hk⟩ h
    obtain ⟨hstep, rfl⟩ := Machine.track_step.1 h
    exact ⟨⟨hs.step he.complete hstep, counted_step hs hcounted he hstep⟩,
      couponFits_step hs hcounted hfits he hk hstep⟩
  · rw [System.opened_app]
    exact counted_recount _
  · rw [CouponFits, System.opened_app]
    exact fits_none

/-! ## A coupon that outlives its cart -/

instance (coupon : Coupon) (amount : Int) : Decidable (coupon.Allows amount) :=
  inferInstanceAs (Decidable (_ ∧ _))

instance (held : Option Coupon) (vendorId : Int) (lines : List CartItem) (total : Rat) :
    Decidable (Fits held vendorId lines total) :=
  inferInstanceAs (Decidable (∀ first ∈ lines.head?, ∀ coupon ∈ held, _ ∧ _))

instance (sv : System × Int) : Decidable (CouponFits sv) := inferInstanceAs (Decidable (Fits ..))

instance (s : System) (e : Event) : Decidable (CouponSession s e) := by
  apply @Event.casesOn (fun e => Decidable (CouponSession s e)) e <;> intros <;> infer_instance

instance (s : System) (e : Event) : Decidable (Kept s e) := by
  apply @Event.casesOn (fun e => Decidable (Kept s e)) e <;> intros <;> infer_instance

/-- A coupon for carts from 10 to 20 is granted for twelve, of vendor 7. -/
def sampleGranted : List Event :=
  [.addToCart Sample.singleVendor (Sample.draft 1 7 (.int 12) 1), .postCoupon "TEN",
    .answerCoupon 0 (Sample.couponAnswer 1)]

/-- The cart is emptied line by line and filled again, for three, from another vendor; the coupon is
    still held. -/
theorem not_couponFits_after_delete : ∃ sv,
    (shop.track noteVendor).Meets (fun sv e => CouponSession sv.1 e) (System.opened [], 0)
      (sampleGranted ++ [.deleteFromCart (some 1),
        .addToCart Sample.singleVendor (Sample.draft 2 8 (.int 3) 1)]) ∧
    (shop.track noteVendor).run (System.opened [], 0) (sampleGranted ++ [.deleteFromCart (some 1),
      .addToCart Sample.singleVendor (Sample.draft 2 8 (.int 3) 1)]) = some sv ∧
    ¬ CouponFits sv := by
  have hrun : ((shop.track noteVendor).run (System.opened [], 0) (sampleGranted ++
      [.deleteFromCart (some 1), .addToCart Sample.singleVendor (Sample.draft 2 8 (.int 3) 1)])).any
      (fun sv => decide (¬ CouponFits sv)) = true := by decide +kernel
  obtain ⟨sv, hsv, hheld⟩ := Machine.reaches hrun
  exact ⟨sv, by decide +kernel, hsv, hheld⟩

/-- With the coupon held an item is tapped again, its quantity is written again, the server adds a gift in front, which
    is deleted; the cart is cleared and filled from another vendor. -/
theorem couponFits_of_sampleGranted :
    (shop.track noteVendor).Throughout CouponFits (System.opened [], 0) (sampleGranted ++
      [.addToCart Sample.singleVendor (Sample.draft 1 7 (.int 12) 1), .changeQuantity (some 1) 1,
        .postUpdate {}, .answerUpdate 0 (Sample.answer [Sample.line 2 7 (.int 3) 1 true,
          Sample.line 1 7 (.int 12) 1 false] (.int 0) (.int 12)),
        .deleteFromCart (some 2), .clearCart, .addToCart Sample.singleVendor (Sample.draft 2 8 (.int 3) 1)]) :=
  couponFits_of_kept (by decide +kernel) (by decide +kernel)

end Nourgomla
