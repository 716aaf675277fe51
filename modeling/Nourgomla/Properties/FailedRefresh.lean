import Nourgomla.System

set_option autoImplicit false

/-! # A refresh that fails

A failed `updateCartData` should report false, leave the cart as it was and turn the spinner off.
It turns the spinner on before the post and off only in the branch that assigns an answer, so it
fails cleanly just when it has nothing to post (`failsCleanly_iff`). The cart itself survives an
answer that does not decode; one that decodes is assigned before its lines are priced, whether or
not they can be (`core_updateCartData_decoded`). -/

namespace Nourgomla

open Method CartController

/-- The cart, its details and what is cached of it are as they were. -/
structure CartController.SameCart (before after : CartController) : Prop where
  cartProducts : after.cartProducts = before.cartProducts
  cartDetails : after.cartDetails = before.cartDetails
  cartTotalPrices : after.cartTotalPrices = before.cartTotalPrices
  totalPoints : after.totalPoints = before.totalPoints
  dataUpdated : after.dataUpdated = before.dataUpdated
  editMood : after.editMood = before.editMood

namespace App

/-- `updateCartData` returns false and leaves the cart as it was. -/
def KeepsCart (session : Session) (answer : Except DartError Json) (app : App) : Prop :=
  ((updateCartData session answer).exec app).1 = .ok false ∧
    app.con.SameCart ((updateCartData session answer).exec app).2.con

/-- Besides, nothing is loading any more. -/
def FailsCleanly (session : Session) (answer : Except DartError Json) (app : App) : Prop :=
  KeepsCart session answer app ∧
    ((updateCartData session answer).exec app).2.con.isLoading = false

/-- Assigning an answer that decoded never reports false: it returns true or throws. -/
theorem updateCartDataAssign_ne_false (r : List CartItem × CartDetails) (app : App) :
    ((updateCartDataAssign (some r)).exec app).1 ≠ .ok false := by
  intro h
  obtain ⟨_, _, _, hreturn⟩ := ok_of_exec_bind h
  simp at hreturn

/-- What was posted and answered with nothing that decodes leaves the spinner on. -/
theorem exec_updateCartData_undecoded {session : Session} {answer : Except DartError Json}
    {app : App} (hlines : app.con.cartProducts ≠ []) (huser : session.currentUser ≠ none)
    (hanswer : CartServices.cartUpdate answer = none) :
    (updateCartData session answer).exec app = (.ok false, app.loading) := by
  rw [exec_updateCartData answer hlines huser, hanswer, exec_updateCartDataAssign_none]

/-- An answer that decodes replaces the cart, also when pricing its lines throws. -/
theorem core_updateCartData_decoded {session : Session} {answer : Except DartError Json}
    {app : App} {cartList : List CartItem} {details : CartDetails}
    (hlines : app.con.cartProducts ≠ []) (huser : session.currentUser ≠ none)
    (hanswer : CartServices.cartUpdate answer = some (cartList, details)) :
    ((updateCartData session answer).exec app).2.con.core
      = (app.con.answered cartList details).core := by
  rw [exec_updateCartData answer hlines huser, hanswer]
  exact core_updateCartDataAssign cartList details app.loading

/-- A refresh reports false in two ways: with nothing to post, which changes nothing, or with an
    answer that does not decode, which leaves the spinner on. -/
theorem updateCartData_false_iff {session : Session} {answer : Except DartError Json} {app : App} :
    ((updateCartData session answer).exec app).1 = .ok false ↔ app.con.cartProducts = [] ∨
      session.currentUser ≠ none ∧ CartServices.cartUpdate answer = none := by
  by_cases hlines : app.con.cartProducts = []
  · simp [exec_updateCartData_empty session answer hlines, hlines]
  · by_cases huser : session.currentUser = none
    · simp [exec_updateCartData_noUser answer hlines huser, hlines, huser]
    · cases hanswer : CartServices.cartUpdate answer with
      | none => simp [exec_updateCartData_undecoded hlines huser hanswer, huser]
      | some r =>
          rw [exec_updateCartData answer hlines huser, hanswer]
          simp [updateCartDataAssign_ne_false r, hlines]

/-- The cart is kept whenever false is reported. -/
theorem keepsCart_of_false {session : Session} {answer : Except DartError Json} {app : App}
    (h : ((updateCartData session answer).exec app).1 = .ok false) :
    KeepsCart session answer app := by
  refine ⟨h, ?_⟩
  rcases updateCartData_false_iff.1 h with hlines | ⟨huser, hanswer⟩
  · rw [exec_updateCartData_empty session answer hlines]
    exact ⟨rfl, rfl, rfl, rfl, rfl, rfl⟩
  · by_cases hlines : app.con.cartProducts = []
    · rw [exec_updateCartData_empty session answer hlines]
      exact ⟨rfl, rfl, rfl, rfl, rfl, rfl⟩
    · rw [exec_updateCartData_undecoded hlines huser hanswer]
      exact ⟨rfl, rfl, rfl, rfl, rfl, rfl⟩

/-- **Failing cleanly.** Whatever the answer, a refresh reports false with the cart as it was and
    the spinner off exactly if the cart is empty and nothing was loading. Apart from the spinner it
    does so exactly if there is nothing to post, or there is a user and the answer does not
    decode. -/
theorem failsCleanly_iff (session : Session) (answer : Except DartError Json) (app : App) :
    (FailsCleanly session answer app ↔
      app.con.cartProducts = [] ∧ app.con.isLoading = false) ∧
    (KeepsCart session answer app ↔ app.con.cartProducts = [] ∨
      session.currentUser ≠ none ∧ CartServices.cartUpdate answer = none) := by
  have hkeeps : KeepsCart session answer app ↔
      ((updateCartData session answer).exec app).1 = .ok false :=
    ⟨And.left, keepsCart_of_false⟩
  refine ⟨?_, hkeeps.trans updateCartData_false_iff⟩
  rw [FailsCleanly, hkeeps, updateCartData_false_iff]
  by_cases hlines : app.con.cartProducts = []
  · simp [exec_updateCartData_empty session answer hlines, hlines]
  · constructor
    · rintro ⟨hnil | ⟨huser, hanswer⟩, hloading⟩
      · exact absurd hnil hlines
      · -- the spinner that was turned on before the post
        rw [exec_updateCartData_undecoded hlines huser hanswer] at hloading
        simp [loading] at hloading
    · exact fun h => absurd h.1 hlines

/-! ## Answers a refresh does not fail on cleanly -/

/-- A cart with one item. -/
def sampleFilled : App :=
  ((addToCart Sample.singleVendor (Sample.draft 1 7 (.int 5) 2).item).exec {}).2

/-- A line of a package type with its price, and a quantity if it has one. -/
def sampleTyped (type : String) (typeId : Int) (quantity : List (String × Json)) : Json :=
  .obj ([("id", .num (.int 1)), ("cart_package_type", .num (.int typeId)),
    ("package_" ++ type ++ "_count", .num (.int 1)),
    ("package_" ++ type ++ "_price", .num (.int 5))] ++ quantity)

/-- A line without `cart_product_count`. -/
def sampleUncounted : Except DartError Json :=
  Sample.answer [sampleTyped "1" 1 []] (.int 0) (.int 5)

/-- A line of package type 4. -/
def sampleUnknownType : Except DartError Json :=
  Sample.answer [sampleTyped "4" 4 [("cart_product_count", .num (.int 3))]] (.int 0) (.int 5)

/-- A failed request leaves the spinner on; a line without a quantity throws, with the lines of the
    answer in the cart; a line of an unknown type is taken over. -/
theorem not_failsCleanly_of_sample :
    (¬ FailsCleanly {} (.error .httpFailure) sampleFilled ∧
      ((updateCartData {} (.error .httpFailure)).exec sampleFilled).2.con.isLoading = true) ∧
    (¬ FailsCleanly {} sampleUncounted sampleFilled ∧
      ((updateCartData {} sampleUncounted).exec sampleFilled).1 = .error .noSuchMethod ∧
      ((updateCartData {} sampleUncounted).exec sampleFilled).2.con.cartProducts.map
        CartItem.quantity = [none]) ∧
    (¬ FailsCleanly {} sampleUnknownType sampleFilled ∧
      ((updateCartData {} sampleUnknownType).exec sampleFilled).1 = .ok true ∧
      ((updateCartData {} sampleUnknownType).exec sampleFilled).2.con.cartProducts.map
        CartItem.type = [some 4]) := by
  refine ⟨⟨fun h => ?_, by decide +kernel⟩, ⟨fun h => ?_, by decide +kernel, by decide +kernel⟩,
    fun h => ?_, by decide +kernel, by decide +kernel⟩
  · exact absurd h.2 (by decide +kernel)
  · exact absurd h.1.1 (by decide +kernel)
  · exact absurd h.1.1 (by decide +kernel)

end App
end Nourgomla
