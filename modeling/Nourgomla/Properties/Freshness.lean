import Nourgomla.SystemSpec

set_option autoImplicit false

/-! # The order button and the prices the server confirmed

While `dataUpdated` is set the cart screen offers to order at `cartDetails.totalPrice`. The details
should then be those of an answer for exactly the paid lines in the cart. The answer sets all three
together, but of the edits only `clearCart` resets the flag: the runs in which the property holds
throughout are exactly those in which no other edit touches the paid lines while the flag is set
(`fresh_iff_untouched`). -/

namespace Nourgomla

open Method CartController

/-- The last answer that was assigned: its details, and the paid lines the server computed them
    for. -/
abbrev Confirmation := Option (CartDetails × List PostedLine)

/-- The history of confirmations: an answer that can be decoded is the last one. -/
def confirm (_ : System) (e : Event) (last : Confirmation) : Confirmation :=
  match e with
  | .answerUpdate _ answer =>
    match CartServices.cartUpdate answer with
    | some (cartList, details) => some (details, paidJson cartList)
    | none => last
  | _ => last

/-- If the flag is set, the cart holds details, and they were computed for its paid lines. -/
def Fresh (sh : System × Confirmation) : Prop :=
  sh.1.app.con.dataUpdated = true →
    ∃ details, sh.1.app.con.cartDetails = some details ∧
      sh.2 = some (details, paidJson sh.1.app.con.cartProducts)

/-- The cart operations; `addToCart` may be overtaken at its `await`. -/
@[reducible] def CartOperation : Event → Prop
  | .addToCart _ _ | .tapAdd _ _ | .resumeAdd _ | .changeQuantity _ _ | .deleteFromCart _
  | .clearCart | .postUpdate _ | .answerUpdate _ _ => True
  | _ => False

/-- The edit leaves the paid lines as they are: the addition is refused or cannot be stored, the
    line whose quantity is written or that is removed is a gift or not there, the quantity is the
    one the line already has. The rest of a waiting addition always adds a line. -/
@[reducible] def Untouched (s : System) : Event → Prop
  | .addToCart config draft =>
    s.app.accepts draft.item = false ∨ (App.withShipping config draft.item).toRow = none
  | .resumeAdd _ => False
  | .changeQuantity productId quantity => ∀ c, s.app.con.getCartById productId = some c →
      c.isPaid = true → c.quantity = some quantity
  | .deleteFromCart productId => ∀ c, s.app.con.getCartById productId = some c → c.isPaid = false
  | _ => True

/-- An edit is untouching exactly if the paid lines are the same after it. -/
theorem untouched_iff {s s' : System} {e : Event} (hadds : ∀ cart ∈ s.adds, cart.isPaid = true)
    (he : CartOperation e) (hedit : e.IsEdit) (h : shop.step s e = some s') :
    Untouched s e ↔ paidJson s'.app.con.cartProducts = paidJson s.app.con.cartProducts := by
  -- a paid line more is never the same list
  have happend : ∀ (cart : CartItem) (app : App), cart.isPaid = true →
      paidJson ((App.addToCartAppend cart).exec app).2.con.cartProducts
        ≠ paidJson app.con.cartProducts := by
    intro cart app hpaid
    rw [(fields_of_core (App.core_addToCartAppend cart app)).1, appended, paidJson_append,
      paidJson_cons_paid hpaid]
    simp
  cases e with
  | addToCart config draft =>
      obtain rfl := (Option.some.inj h).symm
      rcases App.addToCart_cases config draft.item s.app with
        ⟨ha, he⟩ | ⟨-, hrow, he⟩ | ⟨ha, row, hrow, he⟩
      · simp [System.perform, he, Untouched, ha]
      · simp [System.perform, he, Untouched, hrow]
      · -- the insert and the captured shipping leave the lines alone
        have hjson := happend (App.withShipping config draft.item)
          (s.inserting config draft.item row) (by simp)
        have hlines : (s.inserting config draft.item row).con.cartProducts
            = s.app.con.cartProducts := by simp [System.inserting]
        rw [hlines] at hjson
        simp only [Untouched, ha, hrow, reduceCtorEq, or_self, false_iff, System.perform, he]
        exact hjson
  | tapAdd config draft =>
      rcases System.step_tapAdd h with ⟨-, rfl⟩ | ⟨-, -, rfl⟩ | ⟨-, row, -, rfl⟩
      · simp [Untouched]
      · simp [Untouched]
      · simp [Untouched, System.inserting]
  | resumeAdd k =>
      obtain ⟨cart, hcart, rfl⟩ := Option.map_eq_some_iff.1 h
      exact iff_of_false id (happend cart s.app (hadds cart (List.mem_of_getElem? hcart)))
  | changeQuantity productId quantity =>
      obtain rfl := (Option.some.inj h).symm
      cases hfind : s.app.con.getCartById productId with
      | none =>
          simp [System.perform, App.exec_changeQuantity_none quantity hfind, Untouched, hfind]
      | some cart =>
          rw [System.perform, (fields_of_core (App.core_changeQuantity quantity hfind)).1]
          exact paidJson_requantified_iff.symm
  | deleteFromCart productId =>
      obtain rfl := (Option.some.inj h).symm
      rw [System.perform, (fields_of_core (App.core_deleteFromCart productId s.app)).1,
        without_cartProducts]
      exact paidJson_eraseP_iff.symm
  | postUpdate session =>
      rcases System.step_postUpdate h with rfl | rfl | ⟨_, _, _, -, -, -, rfl⟩ <;>
        exact iff_of_true trivial rfl
  | postCoupon _ => exact he.elim
  | _ => exact hedit.elim

/-- What an operation does to the flag, the details and the paid lines: an answer sets them
    together, `clearCart` resets the flag, and an edit keeps flag and details whatever it does to
    the paid lines. -/
theorem step_confirmation {s s' : System} {e : Event} (last : Confirmation)
    (hadds : ∀ cart ∈ s.adds, cart.isPaid = true) (he : CartOperation e)
    (h : shop.step s e = some s') :
    Untouched s e ∧ (∃ details, s'.app.con.cartDetails = some details ∧
      confirm s e last = some (details, paidJson s'.app.con.cartProducts)) ∨
    Untouched s e ∧ s'.app.con.dataUpdated = false ∨
    s'.app.con.dataUpdated = s.app.con.dataUpdated ∧
      s'.app.con.cartDetails = s.app.con.cartDetails ∧ confirm s e last = last ∧
      (Untouched s e ↔ paidJson s'.app.con.cartProducts = paidJson s.app.con.cartProducts) := by
  cases e with
  | clearCart =>
      obtain rfl := System.step_clearCart h
      exact Or.inr (Or.inl ⟨trivial, rfl⟩)
  | answerUpdate k answer =>
      rcases (System.fields_of_answerUpdate h).2 with
        ⟨hupdate, happ⟩ | ⟨cartList, details, hupdate, hdetails, hjson⟩
      · refine Or.inr (Or.inr ⟨by rw [happ], by rw [happ], ?_, iff_of_true trivial (by rw [happ])⟩)
        simp [confirm, hupdate]
      · exact Or.inl ⟨trivial, details, hdetails, by simp [confirm, hupdate, hjson]⟩
  | addToCart _ _ | tapAdd _ _ | resumeAdd _ | changeQuantity _ _ | deleteFromCart _
  | postUpdate _ =>
      obtain ⟨hflag, hdetails, -⟩ := System.fields_of_edit h trivial
      exact Or.inr (Or.inr ⟨hflag, hdetails, rfl, untouched_iff hadds he trivial h⟩)
  | _ => exact he.elim

/-! ## Runs -/

/-- No edit touches the paid lines while the flag is set. -/
def UntouchedWhileSet (sh : System × Confirmation) (e : Event) : Prop :=
  sh.1.app.con.dataUpdated = true → Untouched sh.1 e

theorem adds_paid_step {s s' : System} {e : Event} (hadds : ∀ cart ∈ s.adds, cart.isPaid = true)
    (he : CartOperation e) (h : shop.step s e = some s') :
    ∀ cart ∈ s'.adds, cart.isPaid = true := by
  cases e with
  | tapAdd config draft =>
      rcases System.step_tapAdd h with ⟨-, rfl⟩ | ⟨-, -, rfl⟩ | ⟨-, row, -, rfl⟩
      · exact hadds
      · exact hadds
      · intro cart hcart
        rcases List.mem_append.1 hcart with hcart | hcart
        · exact hadds cart hcart
        · simp [List.mem_singleton.1 hcart]
  | resumeAdd k =>
      obtain ⟨_, -, rfl⟩ := Option.map_eq_some_iff.1 h
      exact fun cart hcart => hadds cart (List.mem_of_mem_eraseIdx hcart)
  | answerUpdate k answer =>
      obtain ⟨_, -, rfl⟩ := Option.map_eq_some_iff.1 h
      exact hadds
  | addToCart _ _ | changeQuantity _ _ | deleteFromCart _ | clearCart | postUpdate _ =>
      obtain rfl := (Option.some.inj h).symm
      exact hadds
  | _ => exact he.elim

/-- The prices stay the server's if no edit touches the paid lines. -/
theorem fresh_step {s s' : System} {e : Event} {last : Confirmation}
    (hadds : ∀ cart ∈ s.adds, cart.isPaid = true) (he : CartOperation e)
    (h : shop.step s e = some s') (hfresh : Fresh (s, last))
    (hguard : UntouchedWhileSet (s, last) e) : Fresh (s', confirm s e last) := by
  intro hset
  rcases step_confirmation last hadds he h with ⟨-, hconfirmed⟩ | ⟨-, hreset⟩ |
    ⟨hflag, hdetails, hlast, hjson⟩
  · exact hconfirmed
  · simp [hreset] at hset
  · have hset' : s.app.con.dataUpdated = true := hflag ▸ hset
    obtain ⟨details, hd, hl⟩ := hfresh hset'
    refine ⟨details, hdetails.trans hd, ?_⟩
    show confirm s e last = some (details, paidJson s'.app.con.cartProducts)
    rw [hlast, hjson.1 (hguard hset')]
    exact hl

/-- An edit keeps the flag and the details, so if the prices are still the server's after it, it did
    not touch the paid lines. -/
theorem untouched_of_fresh {s s' : System} {e : Event} {last : Confirmation}
    (hadds : ∀ cart ∈ s.adds, cart.isPaid = true) (he : CartOperation e)
    (h : shop.step s e = some s') (hfresh : Fresh (s, last))
    (hfresh' : Fresh (s', confirm s e last)) : UntouchedWhileSet (s, last) e := by
  intro hset
  rcases step_confirmation last hadds he h with ⟨hu, -⟩ | ⟨hu, -⟩ |
    ⟨hflag, hdetails, hlast, hjson⟩
  · exact hu
  · exact hu
  · obtain ⟨details, hd, hl⟩ := hfresh hset
    obtain ⟨details', -, hl'⟩ := hfresh' (hflag.trans hset)
    simp only at hl hl'
    rw [hlast, hl] at hl'
    simp only [Option.some.injEq, Prod.mk.injEq] at hl'
    exact hjson.2 hl'.2.symm

/-- From a state in which the flag is not set and no addition waits, the prices the cart screen
    offers to order at are the server's for the paid lines in the cart, at every moment of a run,
    exactly if no edit touches the paid lines while the flag is set. -/
theorem fresh_iff_untouched {s : System} {last : Confirmation} {events : List Event}
    (hflag : s.app.con.dataUpdated = false) (hadds : s.adds = [])
    (henv : (shop.track confirm).Meets (fun _ e => CartOperation e) (s, last) events) :
    (shop.track confirm).Throughout Fresh (s, last) events ↔
      (shop.track confirm).Meets UntouchedWhileSet (s, last) events := by
  refine Machine.throughout_iff_meets
    (fun sh => Fresh sh ∧ ∀ cart ∈ sh.1.adds, cart.isPaid = true) (fun _ hs => hs.1) ?_ ?_ events
    ⟨fun hset => by simp [hflag] at hset, by simp [hadds]⟩ henv
  · rintro ⟨s, last⟩ e ⟨s', last'⟩ ⟨hfresh, hadds⟩ he hguard h
    obtain ⟨hstep, rfl⟩ := Machine.track_step.1 h
    exact ⟨fresh_step hadds he hstep hfresh hguard, adds_paid_step hadds he hstep⟩
  · rintro ⟨s, last⟩ e ⟨s', last'⟩ ⟨hfresh, hadds⟩ he h hfresh'
    obtain ⟨hstep, rfl⟩ := Machine.track_step.1 h
    exact untouched_of_fresh hadds he hstep hfresh hfresh'

/-! ## A changed quantity after the confirmation -/

instance (sh : System × Confirmation) : Decidable (Fresh sh) :=
  have : Decidable (∃ details ∈ sh.1.app.con.cartDetails,
      sh.2 = some (details, paidJson sh.1.app.con.cartProducts)) := inferInstance
  inferInstanceAs (Decidable (_ → _))

instance (e : Event) : Decidable (CartOperation e) := by
  apply @Event.casesOn (fun e => Decidable (CartOperation e)) e <;> intros <;> infer_instance

instance (s : System) (e : Event) : Decidable (Untouched s e) := by
  apply @Event.casesOn (fun e => Decidable (Untouched s e)) e <;> intros <;> infer_instance

instance (sh : System × Confirmation) (e : Event) : Decidable (UntouchedWhileSet sh e) :=
  inferInstanceAs (Decidable (_ → _))

/-- One item is added and confirmed by the server. -/
def sampleConfirmed : List Event :=
  [.addToCart Sample.singleVendor (Sample.draft 1 7 (.int 5) 1), .postUpdate {},
    .answerUpdate 0 (Sample.answer [Sample.line 1 7 (.int 5) 1 false] (.int 0) (.int 5))]

/-- A fourth event, a change of the quantity, leaves the flag set over a cart the server never
    saw. -/
theorem not_fresh_after_changeQuantity : ∃ sh,
    (shop.track confirm).Meets (fun _ e => CartOperation e) ({}, none)
      (sampleConfirmed ++ [.changeQuantity (some 1) 3]) ∧
    (shop.track confirm).run ({}, none) (sampleConfirmed ++ [.changeQuantity (some 1) 3])
      = some sh ∧ ¬ Fresh sh := by
  have hrun : ((shop.track confirm).run ({}, none)
      (sampleConfirmed ++ [.changeQuantity (some 1) 3])).any (fun sh => decide (¬ Fresh sh))
        = true := by decide +kernel
  obtain ⟨sh, hsh, hstale⟩ := Machine.reaches hrun
  exact ⟨sh, by decide +kernel, hsh, hstale⟩

theorem fresh_of_sampleConfirmed :
    (shop.track confirm).Throughout Fresh ({}, none) (sampleConfirmed ++ [.clearCart]) :=
  (fresh_iff_untouched rfl rfl (by decide +kernel)).2 (by decide +kernel)

end Nourgomla
