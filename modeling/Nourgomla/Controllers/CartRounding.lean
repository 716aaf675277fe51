import Nourgomla.Controllers.CartSpec

set_option autoImplicit false

/-! # How far the amounts of the cart are off

What a line, the total and the bill would be without rounding, and by how many units the doubles of
the cart differ from that, prices being whole cents. -/

namespace Nourgomla

open CartController

/-! ## Lines -/

/-- A product of an integer and a price in whole cents. -/
theorem off_mul {q : Int} {price : Num} {M : Rat} (hcents : WholeCents price.toRat) (hM : 1 ≤ M)
    (hle : |q * price.toRat| ≤ M) : Off M 3 (q * price.toRat) (Num.mul (.int q) price) := by
  have hinteger := abs_nearestDouble_sub_le_of_large (wholeCents_int q).eq_zero_or_le
  have hprice := abs_nearestDouble_sub_le_of_large hcents.eq_zero_or_le
  have hdouble := abs_nearestDouble_le_of_large hcents.eq_zero_or_le
  have hfactors : Off M 2 (q * price.toRat) (Num.toDouble (.int q) * price.toDouble) := by
    have hleft : |nearestDouble q - q| * |nearestDouble price.toRat| ≤ |(q : Rat)| / 2 ^ 52 * (2 * |price.toRat|) :=
      mul_le_mul hinteger hdouble (abs_nonneg _) (by positivity)
    have hright : |(q : Rat)| * |nearestDouble price.toRat - price.toRat| ≤ |(q : Rat)| * (|price.toRat| / 2 ^ 52) :=
      mul_le_mul_of_nonneg_left hprice (abs_nonneg _)
    calc |nearestDouble q * nearestDouble price.toRat - q * price.toRat| ≤ _ := abs_mul_sub_mul_le _ _ _ _
      _ ≤ |(q : Rat)| / 2 ^ 52 * (2 * |price.toRat|) + |(q : Rat)| * (|price.toRat| / 2 ^ 52) := add_le_add hleft hright
      _ = 3 * |q * price.toRat| / 2 ^ 52 := by
          rw [abs_mul]
          ring
      _ ≤ (2 : Nat) * (M / 2 ^ 51) := by
          push_cast
          linarith
  exact hfactors.nearest hM hle (by norm_num)

/-- Parsed from its two decimals an amount is off by its own rounding only. -/
theorem off_parsedCents {x y M : Rat} (hcents : WholeCents x) (hM : 1 ≤ M) (hcap : M ≤ 10 ^ 10) (hx : |x| ≤ M)
    (h : Off M 3 x y) : Off M 3 x (parsedCents y) := by
  have hnear : |y - x| < 1 / 10000 := by
    have herror : |y - x| ≤ 3 * (M / 2 ^ 51) := h
    linarith
  have hround : roundToCents y = x := by
    obtain ⟨n, hn⟩ := hcents
    exact (roundToCents_eq_of_near ⟨n * 100, by push_cast; linarith⟩ (WholeCents.not_halfCent ⟨n, hn⟩) hnear).trans
      (roundToCents_of_wholeCents ⟨n, hn⟩)
  rw [parsedCents, hround]
  exact (off_nearestDouble hM (by linarith)).mono (by linarith) (by norm_num)

/-- A line of a price in whole cents that has the total `calculatePrice` gives it. -/
def CartItem.Calculated (c : CartItem) : Prop :=
  ∃ (q : Int) (u t : Rat), c.quantity = some q ∧ c.unitPrice = some u ∧ WholeCents u ∧
    c.newTotal = .ok (some t) ∧ c.totalPrice = some t

/-- What a line costs. -/
def CartItem.worth (c : CartItem) : Rat := c.quantity.getD 0 * c.unitPrice.getD 0

/-- What the paid lines cost together. -/
def linesWorth (lines : List CartItem) : Rat := ((lines.filter CartItem.isPaid).map CartItem.worth).sum

/-- The same, each amount taken as positive. -/
def linesWeight (lines : List CartItem) : Rat :=
  ((lines.filter CartItem.isPaid).map fun c => |c.worth|).sum

theorem linesWeight_nonneg (lines : List CartItem) : 0 ≤ linesWeight lines :=
  List.sum_nonneg fun x hx => by
    obtain ⟨c, -, rfl⟩ := List.mem_map.1 hx
    exact abs_nonneg _

theorem abs_linesWorth_le (lines : List CartItem) : |linesWorth lines| ≤ linesWeight lines := by
  induction lines with
  | nil => simp [linesWorth, linesWeight]
  | cons c cs ih =>
      cases hc : c.isPaid with
      | false => simpa [linesWorth, linesWeight, hc] using ih
      | true =>
          have hsum := abs_add_le c.worth (linesWorth cs)
          simp only [linesWorth, linesWeight, List.filter_cons, hc, if_true, List.map_cons, List.sum_cons] at *
          linarith

namespace CartItem

theorem Calculated.wholeCents {c : CartItem} (h : c.Calculated) : WholeCents c.worth := by
  obtain ⟨q, u, -, hq, hu, hcents, -⟩ := h
  rw [worth, hq, hu]
  exact hcents.int_mul q

theorem Calculated.off {c : CartItem} (h : c.Calculated) {M : Rat} (hM : 1 ≤ M) (hcap : M ≤ 10 ^ 10)
    (hle : |c.worth| ≤ M) : Off M 3 c.worth (c.totalPrice.getD 0) := by
  obtain ⟨q, u, t, hq, hu, hcents, hnew, ht⟩ := h
  obtain ⟨price, hprice, rfl⟩ := Option.map_eq_some_iff.1 hu
  have hworth : c.worth = q * (c.salePrice.getD price).toRat := by rw [worth, hq, hu]; rfl
  rw [hworth] at hle ⊢
  have hmul := off_mul hcents hM hle
  rw [ht, Option.getD_some]
  rcases newTotal_cases hq hprice with hround | hasis
  · obtain rfl : t = _ := Option.some.inj (Except.ok.inj (hnew.symm.trans hround))
    exact off_parsedCents (hcents.int_mul q) hM hcap hle hmul
  · obtain rfl : t = _ := Option.some.inj (Except.ok.inj (hnew.symm.trans hasis))
    exact hmul

end CartItem

/-! ## The total -/

/-- Each line costs four units more. -/
theorem off_foldl {M : Rat} (hM : 1 ≤ M) (hcap : M ≤ 10 ^ 10) (lines : List CartItem) :
    ∀ {s x : Rat} {k : Nat}, (∀ c ∈ lines, c.Calculated) → Off M (4 * k) s x → |s| + linesWeight lines ≤ M →
      k + lines.length ≤ 2 ^ 48 →
      Off M (4 * (k + lines.length)) (s + linesWorth lines) (lines.foldl (fun x c => c.addedTo x) x) := by
  induction lines with
  | nil =>
      intro s x k _ hoff _ _
      simpa [linesWorth] using hoff
  | cons c cs ih =>
      intro s x k hlines hoff hweight hcount
      rw [List.length_cons] at hcount
      have hrest : ∀ d ∈ cs, d.Calculated := fun d hd => hlines d (List.mem_cons_of_mem c hd)
      have hcounted : 4 * (k + 1 + cs.length) = 4 * (k + (c :: cs).length) := by
        rw [List.length_cons]
        omega
      rw [List.foldl_cons, ← hcounted]
      cases hc : c.isPaid with
      | false =>
          have hworth : linesWorth (c :: cs) = linesWorth cs := by simp [linesWorth, hc]
          have hsame : linesWeight (c :: cs) = linesWeight cs := by simp [linesWeight, hc]
          have hadded : c.addedTo x = x := by simp [CartItem.addedTo, hc]
          rw [hworth, hadded]
          exact ih hrest (hoff.mono (by linarith) (by omega)) (hsame ▸ hweight) (by omega)
      | true =>
          have hworth : linesWorth (c :: cs) = c.worth + linesWorth cs := by simp [linesWorth, hc]
          have hsame : linesWeight (c :: cs) = |c.worth| + linesWeight cs := by simp [linesWeight, hc]
          have hadded : c.addedTo x = nearestDouble (x + c.totalPrice.getD 0) := if_pos hc
          have hnonneg := linesWeight_nonneg cs
          have hs := abs_nonneg s
          have hw := abs_nonneg c.worth
          rw [hsame] at hweight
          have hsum := abs_add_le s c.worth
          have hline := (hlines c List.mem_cons_self).off hM hcap (by linarith)
          have hstep := (hoff.add hline).nearest hM (by linarith) (by omega)
          rw [hworth, hadded, ← add_assoc]
          exact ih hrest hstep (by linarith) (by omega)

theorem off_paidTotal {M : Rat} {lines : List CartItem} (hlines : ∀ c ∈ lines, c.Calculated)
    (hM : 1 + linesWeight lines ≤ M) (hcap : M ≤ 10 ^ 10) (hcount : lines.length ≤ 2 ^ 48) :
    Off M (4 * lines.length) (linesWorth lines) (paidTotal lines) := by
  have hnonneg := linesWeight_nonneg lines
  have hstart : Off M (4 * 0) 0 0 := Off.refl (by linarith)
  have hfold := off_foldl (by linarith) hcap lines hlines hstart (by rw [abs_zero]; linarith) (by omega)
  rwa [zero_add, zero_add] at hfold

end Nourgomla
