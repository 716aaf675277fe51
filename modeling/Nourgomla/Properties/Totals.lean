import Nourgomla.SystemSpec

set_option autoImplicit false

/-! # The cached totals

Every line's total is its quantity times the effective unit price of its package type, and
`cartTotalPrices` is the sum of the totals of the lines that are no gifts, after any sequence of
completed additions, edits and refreshes from an empty cart. Prices are whole cents and amounts are
exact: then the rounding in `calculatePrice` changes nothing. -/

namespace Nourgomla

open Method CartController

/-! ## Priced lines -/

/-- All prices of the product are whole cents. -/
def Product.WholeCentPrices (p : Product) : Prop :=
  (WholeCents p.package1Price.toRat ∧ WholeCents p.package2Price.toRat ∧
    WholeCents p.package3Price.toRat) ∧
  ∀ sale ∈ [p.price1Sale, p.price2Sale, p.price3Sale], ∀ n ∈ sale, WholeCents n.toRat

instance (p : Product) : Decidable p.WholeCentPrices := inferInstanceAs (Decidable (_ ∧ _))

namespace CartItem

/-- All prices of the line are whole cents. -/
def WholeCentPrices (c : CartItem) : Prop :=
  c.product.WholeCentPrices ∧ ∀ n ∈ c.selectedSalePrice, WholeCents n.toRat

instance (c : CartItem) : Decidable c.WholeCentPrices := inferInstanceAs (Decidable (_ ∧ _))

/-- The line is sold in one of the three package types. -/
def KnownType (c : CartItem) : Prop := c.type = some 1 ∨ c.type = some 2 ∨ c.type = some 3

instance (c : CartItem) : Decidable c.KnownType := inferInstanceAs (Decidable (_ ∨ _))

theorem unitPrice_of_knownType {c : CartItem} (htype : c.KnownType) (h : c.WholeCentPrices) :
    ∃ u, c.unitPrice = some u ∧ WholeCents u := by
  obtain ⟨⟨⟨h1, h2, h3⟩, -⟩, hsale⟩ := h
  have hprice : ∀ price, WholeCents price.toRat → WholeCents (c.salePrice.getD price).toRat := by
    intro price hp
    cases hs : c.salePrice with
    | none => exact hp
    | some n => exact hsale n (Option.filter_eq_some_iff.1 hs).1
  rcases htype with ht | ht | ht
  · exact ⟨_, by rw [unitPrice, ht]; rfl, hprice _ h1⟩
  · exact ⟨_, by rw [unitPrice, ht]; rfl, hprice _ h2⟩
  · exact ⟨_, by rw [unitPrice, ht]; rfl, hprice _ h3⟩

/-- A line of a known type can only be priced with a quantity. -/
theorem quantity_of_calculatePrice [Doubles] {c : CartItem} (htype : c.KnownType)
    (h : (calculatePrice.exec c).1 = .ok ()) : c.quantity.isSome = true := by
  cases hq : c.quantity with
  | some q => rfl
  | none =>
      have htimes : ∀ p, c.times p = .error .noSuchMethod := fun p => by
        simp [CartItem.times, hq, notNull, bind, Except.bind]
      have hthrow : c.newTotal = .error .noSuchMethod := by
        unfold CartItem.newTotal
        rcases htype with ht | ht | ht <;> rw [ht] <;> cases c.salePrice <;>
          simp [htimes, bind, Except.bind]
      simp [calculatePrice, exec_bind, hthrow] at h

end CartItem

/-! ## Exact amounts -/

local instance exactAmounts : Doubles := Doubles.exact

/-- Without rounding the total is a sum. -/
theorem paidTotal_eq_sum (lines : List CartItem) :
    paidTotal lines = ((lines.filter CartItem.isPaid).map fun c => c.totalPrice.getD 0).sum := by
  have hfold : ∀ (lines : List CartItem) (x : Rat), lines.foldl (fun x c => c.addedTo x) x
      = x + ((lines.filter CartItem.isPaid).map fun c => c.totalPrice.getD 0).sum := by
    intro lines
    induction lines with
    | nil => simp
    | cons c cs ih =>
        intro x
        rw [List.foldl_cons, ih]
        cases h : c.isPaid
        · simp [CartItem.addedTo, h]
        · have hadd : c.addedTo x = x + c.totalPrice.getD 0 := if_pos h
          simp [hadd, h, add_assoc]
  rw [paidTotal, hfold, zero_add]

namespace CartItem

/-- On prices of whole cents `calculatePrice` multiplies, and its rounding changes nothing. -/
theorem newTotal_eq {c : CartItem} {q : Int} {u : Rat} (hq : c.quantity = some q)
    (hu : c.unitPrice = some u) (hcents : WholeCents u) : c.newTotal = .ok (some (q * u)) := by
  obtain ⟨price, hprice, rfl⟩ := Option.map_eq_some_iff.1 hu
  have hparsed : parsedCents (Num.mul (.int q) (c.salePrice.getD price)) = q * (c.salePrice.getD price).toRat :=
    roundToCents_of_wholeCents (hcents.int_mul q)
  rcases newTotal_cases hq hprice with ht | ht
  · rw [ht, hparsed]
  · exact ht

/-- The line's total is its quantity times its unit price, an amount of whole cents. -/
def Priced (c : CartItem) : Prop :=
  ∃ (q : Int) (u : Rat), c.quantity = some q ∧ c.unitPrice = some u ∧ WholeCents u ∧
    c.totalPrice = some (q * u)

theorem Priced.sound {c : CartItem} (h : c.Priced) : c.Sound := by
  obtain ⟨q, u, hq, -, -, ht⟩ := h
  exact ⟨by simp [hq], by simp [ht]⟩

theorem Priced.withPoints {c : CartItem} (h : c.Priced) : c.withPoints.Priced := h

theorem Priced.withShipping {c : CartItem} (config : Config) (h : c.Priced) :
    (App.withShipping config c).Priced := by
  unfold App.withShipping
  split
  · exact h
  · exact h

/-- Pricing a line with a quantity gives it its total. -/
theorem priced_repriced {c : CartItem} {q : Int} {u : Rat} (hq : c.quantity = some q)
    (hu : c.unitPrice = some u) (hcents : WholeCents u) : c.repriced.Priced := by
  rw [repriced_eq (newTotal_eq hq hu hcents)]
  exact ⟨q, u, hq, hu, hcents, rfl⟩

theorem priced_of_knownType {c : CartItem} (hq : c.quantity.isSome = true) (htype : c.KnownType)
    (h : c.WholeCentPrices) : c.repriced.Priced := by
  obtain ⟨q, hq⟩ := Option.isSome_iff_exists.1 hq
  obtain ⟨u, hu, hcents⟩ := unitPrice_of_knownType htype h
  exact priced_repriced hq hu hcents

theorem Priced.requantified {c : CartItem} (quantity : Int) (h : c.Priced) :
    (requantified quantity c).Priced := by
  obtain ⟨q, u, -, hu, hcents, -⟩ := h
  exact priced_repriced rfl hu hcents

end CartItem

/-! ## The cart sheet -/

/-- A call of `setValues` prices the line from scratch. -/
theorem setValues_priced {c : CartItem} (quantity : Int) {type : Int}
    (htype : type = 1 ∨ type = 2 ∨ type = 3) (h : c.product.WholeCentPrices) :
    ((setValues quantity type).exec c).2.Priced ∧
      ((setValues quantity type).exec c).2.product = c.product := by
  -- the line `calculatePrice` is run on
  obtain ⟨d, hd, hproduct, hquantity, hknown, hsale⟩ : ∃ d : CartItem,
      ((setValues quantity type).exec c).2 = d.repriced ∧ d.product = c.product ∧
      d.quantity.isSome = true ∧ d.KnownType ∧
      d.selectedSalePrice ∈ [c.product.price1Sale, c.product.price2Sale, c.product.price3Sale] := by
    rcases htype with rfl | rfl | rfl
    · exact ⟨_, rfl, rfl, rfl, Or.inl rfl, by simp⟩
    · exact ⟨_, rfl, rfl, rfl, Or.inr (Or.inl rfl), by simp⟩
    · exact ⟨_, rfl, rfl, rfl, Or.inr (Or.inr rfl), by simp⟩
  have hcents : d.WholeCentPrices := ⟨hproduct ▸ h, fun n hn => h.2 _ hsale n hn⟩
  rw [hd]
  exact ⟨CartItem.priced_of_knownType hquantity hknown hcents, by simp [hproduct]⟩

/-- A draft is a line without a quantity, or a priced one. -/
theorem Draft.item_priced (draft : Draft) (h : draft.product.WholeCentPrices) :
    draft.item.quantity = none ∨ draft.item.Priced := by
  have hcalls : ∀ (calls : List (Int × Int)) (c : CartItem),
      (∀ call ∈ calls, call.2 = 1 ∨ call.2 = 2 ∨ call.2 = 3) → c.product.WholeCentPrices →
      (c.quantity = none ∨ c.Priced) →
      let d := calls.foldl (fun c call => ((setValues call.1 call.2).exec c).2) c
      d.quantity = none ∨ d.Priced := by
    intro calls
    induction calls with
    | nil => exact fun _ _ _ hc => hc
    | cons call calls ih =>
        intro c htypes hproduct _
        obtain ⟨hpriced, hsame⟩ :=
          setValues_priced call.1 (htypes call List.mem_cons_self) hproduct
        exact ih _ (fun x hx => htypes x (List.mem_cons_of_mem call hx)) (hsame ▸ hproduct)
          (Or.inr hpriced)
  exact hcalls draft.calls _ draft.types h (Or.inl rfl)

/-! ## The invariant -/

/-- Both cached quantities are right: each line's total and the cart's. -/
structure CartController.Totals (con : CartController) : Prop where
  lines : ∀ c ∈ con.cartProducts, c.Priced
  total : con.cartTotalPrices = paidTotal con.cartProducts

theorem totals_recount {con : CartController} (h : ∀ c ∈ con.cartProducts, c.Priced) :
    con.recount.Totals where
  lines c hc := by
    obtain ⟨d, hd, rfl⟩ := List.mem_map.1 hc
    exact (h d hd).withPoints
  total := (paidTotal_withPoints con.cartProducts).symm

/-- The events of one session, each completed before the next. Prices are whole cents, the server
    knows only the three package types, and its answers are the ones `updateCartData` succeeds
    with. -/
@[reducible] def InSession (s : System) : Event → Prop
  | .addToCart _ draft => draft.product.WholeCentPrices
  | .changeQuantity _ _ | .deleteFromCart _ | .clearCart => True
  | .refresh session answer => s.returned (App.updateCartData session answer) = some true ∧
      ∀ r ∈ CartServices.cartUpdate answer, ∀ c ∈ r.1, c.KnownType ∧ c.WholeCentPrices
  | _ => False

/-- An answer `updateCartData` succeeds with gives every line a quantity. -/
theorem InSession.complete {s : System} {e : Event} (h : InSession s e) : e.Complete := by
  cases e with
  | refresh session answer =>
      obtain ⟨hok, hlines⟩ := h
      have hpriced := App.ok_of_updateCartData (System.returned_eq_some.1 hok)
      exact fun r hr c hc => CartItem.quantity_of_calculatePrice (hlines r hr c hc).1 (hpriced r hr c hc)
  | _ => trivial

/-- Each event of a session leaves both cached quantities right. -/
theorem totals_step {s s' : System} {e : Event} (hs : s.Sound) (ht : s.app.con.Totals)
    (he : InSession s e) (h : shop.step s e = some s') : s'.app.con.Totals := by
  cases e with
  | addToCart config draft =>
      rcases System.step_addToCart hs h with ⟨-, rfl⟩ | ⟨-, -, rfl⟩ | ⟨-, row, hrow, rfl⟩
      · exact ht
      · unfold App.captured
        split <;> exact ⟨ht.lines, ht.total⟩
      · refine totals_recount fun c hc => ?_
        rcases List.mem_append.1 hc with hc | hc
        · exact ht.lines c (by simpa using hc)
        · obtain rfl := List.mem_singleton.1 hc
          have hquantity : draft.item.quantity.isSome = true :=
            App.withShipping_quantity config draft.item ▸ (CartItem.sound_of_toRow hrow).1
          rcases draft.item_priced he with hnone | hpriced
          · simp [hnone] at hquantity
          · exact hpriced.withShipping config
  | changeQuantity productId quantity =>
      rcases System.step_changeQuantity hs h with ⟨-, rfl⟩ | ⟨cart, -, rfl⟩
      · exact ht
      · refine totals_recount (forall_mem_updateFirst ht.lines fun c hc => ?_)
        exact (ht.lines c (List.mem_of_find?_eq_some hc)).requantified quantity
  | deleteFromCart productId =>
      obtain rfl := System.step_deleteFromCart hs h
      refine totals_recount fun c hc => ?_
      rw [without_cartProducts] at hc
      exact ht.lines c (List.mem_of_mem_eraseP hc)
  | clearCart =>
      obtain rfl := System.step_clearCart h
      exact ⟨fun c hc => absurd hc List.not_mem_nil, rfl⟩
  | refresh session answer =>
      rcases System.step_refresh he.complete h with rfl | rfl | ⟨-, cartList, details, hupdate, rfl⟩
      · exact ht
      · exact ⟨ht.lines, ht.total⟩
      · refine totals_recount fun c hc => ?_
        obtain ⟨d, hd, rfl⟩ := List.mem_map.1 hc
        obtain ⟨htype, hcents⟩ := he.2 _ hupdate d hd
        exact CartItem.priced_of_knownType (he.complete _ hupdate d hd) htype hcents
  | _ => exact he.elim

/-- After any sequence of completed events of a session that starts with an empty cart, each line's
    total is its quantity times its effective unit price, and `cartTotalPrices` is the sum of the
    totals of the lines that are no gifts. -/
theorem totals_of_session {events : List Event} {s : System}
    (henv : shop.Meets InSession {} events) (hrun : shop.run {} events = some s) :
    (∀ c ∈ s.app.con.cartProducts, ∃ (q : Int) (u : Rat), c.quantity = some q ∧
      c.unitPrice = some u ∧ c.totalPrice = some (q * u)) ∧
    s.app.con.cartTotalPrices =
      ((s.app.con.cartProducts.filter CartItem.isPaid).map fun c => c.totalPrice.getD 0).sum := by
  have hstep : ∀ s e s', s.Sound ∧ s.app.con.Totals → InSession s e → shop.step s e = some s' →
      s'.Sound ∧ s'.app.con.Totals :=
    fun s e s' hs he h => ⟨hs.1.step he.complete h, totals_step hs.1 hs.2 he h⟩
  have hempty : ({} : System).Sound ∧ ({} : System).app.con.Totals :=
    ⟨System.sound_of_idle (by simp) rfl rfl, by simp, rfl⟩
  obtain ⟨-, htotals⟩ := Machine.inv_of_meets hstep hempty henv hrun
  refine ⟨fun c hc => ?_, htotals.total.trans (paidTotal_eq_sum _)⟩
  obtain ⟨q, u, hq, hu, -, ht⟩ := htotals.lines c hc
  exact ⟨q, u, hq, hu, ht⟩

/-- A session with a sale, a box, and an answer with a gift of a product that is also paid for. -/
def sampleSession : List Event :=
  [.addToCart Sample.singleVendor (Sample.draft 1 7 (.double (25 / 2)) 2),
    .addToCart Sample.singleVendor (Sample.draft 2 7 (.int 3) 1),
    .refresh {} (Sample.answer [Sample.line 1 7 (.int 5) 1 true,
      Sample.line 1 7 (.double (25 / 2)) 2 false, Sample.line 2 7 (.int 3) 1 false] (.int 0) (.int 28)),
    .changeQuantity (some 2) 4, .deleteFromCart (some 1)]

instance (s : System) (e : Event) : Decidable (InSession s e) := by
  apply @Event.casesOn (fun e => Decidable (InSession s e)) e <;> intros <;> infer_instance

theorem totals_of_sampleSession : ∃ s, shop.run {} sampleSession = some s ∧
    s.app.con.cartTotalPrices =
      ((s.app.con.cartProducts.filter CartItem.isPaid).map fun c => c.totalPrice.getD 0).sum ∧
    s.app.con.cartTotalPrices = 37 := by
  have hany : (shop.run {} sampleSession).any
      (fun s => decide (s.app.con.cartTotalPrices = 37)) = true := by decide +kernel
  obtain ⟨s, hrun, htotal⟩ := Machine.reaches hany
  exact ⟨s, hrun, (totals_of_session (by decide +kernel) hrun).2, htotal⟩

end Nourgomla
