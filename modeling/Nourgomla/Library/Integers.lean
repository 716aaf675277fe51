import Nourgomla.Library.Dart

set_option autoImplicit false

/-! # Reading integers off texts

`int.parse` on 64-bit integers: white space around the numeral is dropped, a sign may stand before it,
and the digits are decimal, or hexadecimal after `0x`. A decimal numeral has to fit; a hexadecimal one
without a minus sign may fill all 64 bits. What an integer prints is read back as that integer. -/

namespace Nourgomla

/-! ## White space -/

def isSpace (c : Char) : Bool :=
  let n := c.toNat
  decide (0x09 ≤ n ∧ n ≤ 0x0D ∨ n = 0x20 ∨ n = 0x85 ∨ n = 0xA0 ∨ n = 0x1680 ∨ 0x2000 ≤ n ∧ n ≤ 0x200A
    ∨ n = 0x2028 ∨ n = 0x2029 ∨ n = 0x202F ∨ n = 0x205F ∨ n = 0x3000 ∨ n = 0xFEFF)

def trimSpace (cs : List Char) : List Char :=
  ((cs.dropWhile isSpace).reverse.dropWhile isSpace).reverse

/-- A text whose characters are all written has nothing to trim. -/
theorem trimSpace_eq_self {cs : List Char} (h : ∀ c ∈ cs, isSpace c = false) :
    trimSpace cs = cs := by
  have hdrop : ∀ l : List Char, (∀ c ∈ l, isSpace c = false) → l.dropWhile isSpace = l := by
    intro l hl
    cases l with
    | nil => rfl
    | cons c l => exact List.dropWhile_cons_of_neg (by simp [hl c List.mem_cons_self])
  rw [trimSpace, hdrop cs h, hdrop cs.reverse fun c hc => h c (List.mem_reverse.1 hc),
    List.reverse_reverse]

/-! ## Numerals -/

def hexDigit (c : Char) : Option Nat :=
  if c.isDigit then some (c.toNat - 0x30)
  else if 'a' ≤ c ∧ c ≤ 'f' then some (c.toNat - 0x61 + 10)
  else if 'A' ≤ c ∧ c ≤ 'F' then some (c.toNat - 0x41 + 10)
  else none

def hexDigitsValue (cs : List Char) : Option Nat :=
  if cs = [] then none else cs.foldlM (fun n c => (hexDigit c).map (16 * n + ·)) 0

/-- The integers of the source language. -/
def FitsInt64 (n : Int) : Prop := -2 ^ 63 ≤ n ∧ n < 2 ^ 63

instance (n : Int) : Decidable (FitsInt64 n) := inferInstanceAs (Decidable (_ ∧ _))

def ranged (n : Int) : Option Int := if FitsInt64 n then some n else none

/-- The numeral after the sign. -/
def readMagnitude (negative : Bool) (cs : List Char) : Option Int :=
  match cs with
  | '0' :: 'x' :: digits | '0' :: 'X' :: digits =>
    (hexDigitsValue digits).bind fun n =>
      if negative then ranged (-n)
      -- all 64 bits, the first of which is the sign
      else if n < 2 ^ 64 then some (if n < 2 ^ 63 then n else n - 2 ^ 64) else none
  | digits => (digitsValue digits).bind fun n => ranged (if negative then -n else n)

/-- `int.parse`; nothing where it throws. -/
def parseInt (text : String) : Option Int :=
  match trimSpace text.toList with
  | '-' :: cs => readMagnitude true cs
  | '+' :: cs => readMagnitude false cs
  | cs => readMagnitude false cs

example : parseInt " -12\n" = some (-12) := by decide +kernel
example : parseInt "0xFFFFFFFFFFFFFFFF" = some (-1) := by decide +kernel
example : parseInt "9223372036854775808" = none := by decide +kernel

/-! ## What an integer prints -/

theorem digitsValue_toDigits (n : Nat) : digitsValue (Nat.toDigits 10 n) = some n := by
  have hdigits : (Nat.toDigits 10 n).all Char.isDigit = true :=
    List.all_eq_true.2 fun c hc => Nat.isDigit_of_mem_toDigits (by decide) (by decide) hc
  rw [digitsValue, if_pos ⟨Nat.toDigits_ne_nil, hdigits⟩, Nat.ofDigitChars_ten_toDigits]

theorem toNat_of_isDigit {c : Char} (h : c.isDigit = true) : 48 ≤ c.toNat ∧ c.toNat ≤ 57 := by
  simp only [Char.isDigit, Bool.and_eq_true, decide_eq_true_eq, ge_iff_le,
    UInt32.le_iff_toNat_le] at h
  exact h

theorem isSpace_of_isDigit {c : Char} (h : c.isDigit = true) : isSpace c = false := by
  have hrange := toNat_of_isDigit h
  exact decide_eq_false (by omega)

/-- A decimal numeral does not begin as a hexadecimal one. -/
theorem readMagnitude_toDigits (negative : Bool) (n : Nat) :
    readMagnitude negative (Nat.toDigits 10 n) = ranged (if negative then -n else n) := by
  have hdigit : ∀ c ∈ Nat.toDigits 10 n, c.isDigit = true :=
    fun c hc => Nat.isDigit_of_mem_toDigits (by decide) (by decide) hc
  unfold readMagnitude
  split
  · next digits hcs => exact absurd (hdigit 'x' (by simp [hcs])) (by decide)
  · next digits hcs => exact absurd (hdigit 'X' (by simp [hcs])) (by decide)
  · rw [digitsValue_toDigits]
    rfl

/-- **Round trip.** An integer is read back from what it prints. -/
theorem parseInt_toString {n : Int} (h : FitsInt64 n) : parseInt (toString n) = some n := by
  have hdigit : ∀ k : Nat, ∀ c ∈ Nat.toDigits 10 k, c.isDigit = true :=
    fun k c hc => Nat.isDigit_of_mem_toDigits (by decide) (by decide) hc
  have hspace : ∀ k : Nat, ∀ c ∈ Nat.toDigits 10 k, isSpace c = false :=
    fun k c hc => isSpace_of_isDigit (hdigit k c hc)
  rw [Int.toString_eq_repr, Int.repr_eq_if]
  by_cases hn : 0 ≤ n
  · have htrim : trimSpace (n.toNat.repr).toList = Nat.toDigits 10 n.toNat := by
      rw [Nat.toList_repr, trimSpace_eq_self (hspace _)]
    rw [if_pos hn, parseInt, htrim]
    split
    · next cs hcs => exact absurd (hdigit n.toNat '-' (by simp [hcs])) (by decide)
    · next cs hcs => exact absurd (hdigit n.toNat '+' (by simp [hcs])) (by decide)
    · rw [readMagnitude_toDigits]
      simp [ranged, Int.toNat_of_nonneg hn, h]
  · have htrim : trimSpace ("-" ++ (-n).toNat.repr).toList = '-' :: Nat.toDigits 10 (-n).toNat := by
      rw [String.toList_append, Nat.toList_repr]
      exact trimSpace_eq_self (List.forall_mem_cons.2 ⟨by decide, hspace _⟩)
    have hneg : -((-n).toNat : Int) = n := by omega
    rw [if_neg hn, parseInt, htrim]
    simp only [readMagnitude_toDigits, if_true, ranged, hneg, if_pos h]

end Nourgomla
