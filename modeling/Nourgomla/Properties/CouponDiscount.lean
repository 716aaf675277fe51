import Nourgomla.SystemSpec

set_option autoImplicit false

/-! # Coupons that do not go with a discount

A coupon whose `withOffer` is 0 does not go with a discount on the bill. `activateCoupon` says so to
the user, but it looks at the discount there was when the code was sent, and a discount that arrives
later is never held against the coupon. The two exclude each other throughout exactly the runs in
which a discount arrives only while no such coupon is held, and such a coupon only while there is no
discount (`exclusive_iff_arrivals`). -/

namespace Nourgomla

/-- The details have a discount. -/
def CartDetails.discounted (details : CartDetails) : Bool :=
  details.cartDiscount.any fun d => d.toRat ≠ 0

/-- The coupon goes with a discount. -/
def Coupon.goesWithOffer (coupon : Coupon) : Bool := coupon.withOffer ≠ some 0

theorem hasDiscount_eq (con : CartController) :
    con.hasDiscount = con.cartDetails.any CartDetails.discounted := by
  unfold CartController.hasDiscount
  cases con.cartDetails <;> rfl

/-! ## The invariant -/

/-- No discount together with a coupon that does not go with one. -/
def Exclusive (s : System) : Prop :=
  s.app.con.hasDiscount = true → ∀ c ∈ s.app.con.userCoupon, c.goesWithOffer = true

/-- The cart operations and the coupon's. -/
@[reducible] def CouponOperation : Event → Prop
  | .addToCart _ _ | .tapAdd _ _ | .resumeAdd _ | .changeQuantity _ _ | .deleteFromCart _
  | .clearCart | .postUpdate _ | .answerUpdate _ _ | .postCoupon _ | .answerCoupon _ _ => True
  | _ => False

/-- A discount arrives only while no coupon is held that does not go with it, and such a coupon is
    accepted only while there is no discount, unless the client's own check drops it. -/
@[reducible] def ArrivesAlone (s : System) : Event → Prop
  | .answerUpdate _ answer => ∀ r ∈ CartServices.cartUpdate answer, r.2.discounted = true →
      ∀ c ∈ s.app.con.userCoupon, c.goesWithOffer = true
  | .answerCoupon k answer => ∀ request ∈ s.coupons[k]?, request.hasDiscount = false →
      s.app.con.hasDiscount = true →
      ∀ c ∈ CartServices.couponOf answer, c.goesWithOffer = true
  | _ => True

/-- What an operation does to the discount and the coupon. -/
theorem exclusive_step {s s' : System} {e : Event} (hs : Exclusive s) (he : CouponOperation e)
    (h : shop.step s e = some s') : Exclusive s' ↔ ArrivesAlone s e := by
  cases e with
  | answerUpdate k answer =>
      obtain ⟨hcoupon, ⟨hupdate, happ⟩ | ⟨cartList, details, hupdate, hdetails, -⟩⟩ :=
        System.fields_of_answerUpdate h
      · rw [Exclusive, happ]
        exact iff_of_true hs (by simp [ArrivesAlone, hupdate])
      · simp [Exclusive, ArrivesAlone, hasDiscount_eq, hcoupon, hdetails, hupdate]
  | answerCoupon k answer =>
      obtain ⟨request, hrequest, rfl⟩ := System.step_answerCoupon h
      cases hdiscount : request.hasDiscount with
      | true =>
          -- the client's own check drops the coupon
          refine iff_of_true (fun _ c hc => ?_) fun r hr hfalse => ?_
          · simp only [CartServices.activateCoupon_true] at hc
            simpa [Coupon.goesWithOffer] using (Option.filter_eq_some_iff.1 hc).2
          · obtain rfl : request = r := by simpa [hrequest] using hr
            simp [hdiscount] at hfalse
      | false =>
          -- no check was made, whatever the details are by now
          simp only [Exclusive, ArrivesAlone, hrequest, hdiscount, Option.mem_some_iff, forall_eq',
            forall_const]
          rfl
  | clearCart =>
      obtain rfl := System.step_clearCart h
      have hnone : s.app.con.cleared.hasDiscount = false := rfl
      exact iff_of_true (fun hdiscount => by simp [hnone] at hdiscount) trivial
  | addToCart _ _ | tapAdd _ _ | resumeAdd _ | changeQuantity _ _ | deleteFromCart _
  | postUpdate _ | postCoupon _ =>
      obtain ⟨-, hdetails, hcoupon⟩ := System.fields_of_edit h trivial
      have hsame : Exclusive s' ↔ Exclusive s := by
        rw [Exclusive, Exclusive, hasDiscount_eq, hasDiscount_eq, hdetails, hcoupon]
      exact iff_of_true (hsame.2 hs) trivial
  | _ => exact he.elim

/-- In a run that starts without the two together, they are never together exactly if each arrives
    only while the other is not there. -/
theorem exclusive_iff_arrivals {s : System} {events : List Event} (hs : Exclusive s)
    (henv : shop.Meets (fun _ e => CouponOperation e) s events) :
    shop.Throughout Exclusive s events ↔ shop.Meets ArrivesAlone s events :=
  Machine.throughout_iff_of_good_step (fun _ _ _ hs he h => exclusive_step hs he h) events hs henv

/-! ## A discount after the coupon -/

instance (s : System) : Decidable (Exclusive s) := inferInstanceAs (Decidable (_ → _))

instance (e : Event) : Decidable (CouponOperation e) := by
  apply @Event.casesOn (fun e => Decidable (CouponOperation e)) e <;> intros <;> infer_instance

instance (s : System) (e : Event) : Decidable (ArrivesAlone s e) := by
  apply @Event.casesOn (fun e => Decidable (ArrivesAlone s e)) e <;> intros <;> infer_instance

/-- A coupon that does not go with a discount is accepted for one item. -/
def sampleCoupon : List Event :=
  [.addToCart Sample.singleVendor (Sample.draft 1 7 (.int 12) 1), .postCoupon "TEN",
    .answerCoupon 0 (Sample.couponAnswer 0), .postUpdate {}]

/-- The refresh that follows brings a discount, and the coupon stays. -/
theorem not_exclusive_after_refresh : ∃ s,
    shop.Meets (fun _ e => CouponOperation e) {} (sampleCoupon ++ [.answerUpdate 0
      (Sample.answer [Sample.line 1 7 (.int 12) 1 false] (.int 2) (.int 12))]) ∧
    shop.run {} (sampleCoupon ++ [.answerUpdate 0
      (Sample.answer [Sample.line 1 7 (.int 12) 1 false] (.int 2) (.int 12))]) = some s ∧
    ¬ Exclusive s := by
  have hrun : (shop.run {} (sampleCoupon ++ [.answerUpdate 0
      (Sample.answer [Sample.line 1 7 (.int 12) 1 false] (.int 2) (.int 12))])).any
      (fun s => decide (¬ Exclusive s)) = true := by decide +kernel
  obtain ⟨s, hs, hboth⟩ := Machine.reaches hrun
  exact ⟨s, by decide +kernel, hs, hboth⟩

theorem exclusive_of_sampleCoupon : shop.Throughout Exclusive {} (sampleCoupon ++ [.answerUpdate 0
    (Sample.answer [Sample.line 1 7 (.int 12) 1 false] (.int 0) (.int 12))]) :=
  (exclusive_iff_arrivals (by decide +kernel) (by decide +kernel)).2 (by decide +kernel)

end Nourgomla
