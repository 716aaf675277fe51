import Mathlib.Algebra.Order.Floor.Ring
import Mathlib.Data.Int.Log
import Mathlib.Data.Rat.Floor
import Mathlib.Tactic.Linarith
import Mathlib.Tactic.NormNum
import Mathlib.Tactic.Positivity
import Mathlib.Tactic.Ring

set_option autoImplicit false

/-! # Doubles

A finite double is the rational number it stands for. An operation on doubles gives the double nearest to the exact
result, of two equally near ones the one whose last bit is 0 (`nearestDouble`). A number from `2 ^ 1024` on has no
double: there the operations of the program give infinities, which are not values here.

The operations of a program are written over the class `Doubles`, so that what holds for every arithmetic is proved
once. Where nothing else is said they are those of `binary64`; a specification that speaks of exact amounts takes
`exact`. -/

namespace Nourgomla

/-! ## Rounding -/

/-- Nearest integer of a number that is not negative, ties to even. -/
def roundHalfEven (x : Rat) : Int :=
  let n := ⌊x⌋
  if x - n < 1 / 2 then n else if 1 / 2 < x - n then n + 1 else if n % 2 = 0 then n else n + 1

/-- The smallest double above 0. -/
def leastDouble : Rat := 2 ^ (-1074 : Int)

/-- The exponent of the last bit of the double nearest to `x`: 53 bits, but none below the one of the smallest
    double. -/
def lastBit (x : Rat) : Int := max (Int.log 2 x - 52) (-1074)

/-- The double nearest to a number that is not negative. -/
def nearestMagnitude (x : Rat) : Rat := roundHalfEven (x / 2 ^ lastBit x) * 2 ^ lastBit x

/-- The double nearest to `x`. -/
def nearestDouble (x : Rat) : Rat := if 0 ≤ x then nearestMagnitude x else -nearestMagnitude (-x)

example : nearestDouble (1 / 10) = 3602879701896397 / 2 ^ 55 := by decide +kernel
example : nearestDouble (2 ^ 53 + 1) = 2 ^ 53 := by decide +kernel

theorem roundHalfEven_cases (x : Rat) :
    roundHalfEven x = ⌊x⌋ ∧ x - ⌊x⌋ ≤ 1 / 2 ∨ roundHalfEven x = ⌊x⌋ + 1 ∧ 1 / 2 ≤ x - ⌊x⌋ := by
  simp only [roundHalfEven]
  split_ifs with hbelow habove heven
  · exact Or.inl ⟨rfl, hbelow.le⟩
  · exact Or.inr ⟨rfl, habove.le⟩
  · exact Or.inl ⟨rfl, not_lt.1 habove⟩
  · exact Or.inr ⟨rfl, not_lt.1 hbelow⟩

theorem abs_roundHalfEven_sub_le (x : Rat) : |(roundHalfEven x : Rat) - x| ≤ 1 / 2 := by
  have hfloor := Int.floor_le x
  have hnext := Int.lt_floor_add_one x
  rw [abs_le]
  rcases roundHalfEven_cases x with ⟨hround, hhalf⟩ | ⟨hround, hhalf⟩
  · rw [hround]
    constructor <;> linarith
  · rw [hround]
    push_cast
    constructor <;> linarith

theorem roundHalfEven_mono {x y : Rat} (h : x ≤ y) : roundHalfEven x ≤ roundHalfEven y := by
  have hfloor : ⌊x⌋ ≤ ⌊y⌋ := Int.floor_le_floor h
  rcases hfloor.eq_or_lt with heq | hlt
  · -- in one unit only the fractions differ
    unfold roundHalfEven
    rw [← heq]
    have hfraction : x - ⌊x⌋ ≤ y - ⌊x⌋ := by linarith
    simp only
    split_ifs <;> first | omega | linarith
  · have hx : roundHalfEven x ≤ ⌊x⌋ + 1 := by
      rcases roundHalfEven_cases x with ⟨hround, -⟩ | ⟨hround, -⟩ <;> omega
    have hy : ⌊y⌋ ≤ roundHalfEven y := by
      rcases roundHalfEven_cases y with ⟨hround, -⟩ | ⟨hround, -⟩ <;> omega
    omega

@[simp] theorem roundHalfEven_intCast (n : Int) : roundHalfEven n = n := by
  simp [roundHalfEven]

theorem le_roundHalfEven {n : Int} {x : Rat} (h : n ≤ x) : n ≤ roundHalfEven x := by
  simpa using roundHalfEven_mono h

theorem roundHalfEven_le {n : Int} {x : Rat} (h : x ≤ n) : roundHalfEven x ≤ n := by
  simpa using roundHalfEven_mono h

/-! ## Magnitudes -/

theorem two_zpow_pos (n : Int) : (0 : Rat) < 2 ^ n := zpow_pos (by norm_num) n

theorem two_zpow_le {m n : Int} (h : m ≤ n) : (2 : Rat) ^ m ≤ 2 ^ n := zpow_le_zpow_right₀ (by norm_num) h

theorem leastDouble_pos : 0 < leastDouble := two_zpow_pos _

theorem two_zpow_add (m n : Int) : (2 : Rat) ^ (m + n) = 2 ^ m * 2 ^ n := zpow_add₀ (by norm_num) m n

/-- Half a unit in the last place. -/
theorem abs_nearestMagnitude_sub_le (x : Rat) : |nearestMagnitude x - x| ≤ 2 ^ lastBit x / 2 := by
  have hunit := two_zpow_pos (lastBit x)
  have hround := abs_roundHalfEven_sub_le (x / 2 ^ lastBit x)
  have hscaled : nearestMagnitude x - x
      = (roundHalfEven (x / 2 ^ lastBit x) - x / 2 ^ lastBit x) * 2 ^ lastBit x := by
    rw [nearestMagnitude, sub_mul, div_mul_cancel₀ _ hunit.ne']
  rw [hscaled, abs_mul, abs_of_pos hunit]
  nlinarith

/-- The last bit of a number is worth at most the 2^52nd part of it, or it is the last bit of all. -/
theorem two_zpow_lastBit_le {x : Rat} (hx : 0 < x) : (2 : Rat) ^ lastBit x ≤ x / 2 ^ 52 + leastDouble := by
  have hleast := leastDouble_pos
  rcases max_choice (Int.log 2 x - 52) (-1074) with hnormal | hsub
  · have hlead : (2 : Rat) ^ Int.log 2 x ≤ x := by exact_mod_cast Int.zpow_log_le_self (b := 2) (by norm_num) hx
    have hshift : (2 : Rat) ^ (-52 : Int) = 1 / 2 ^ 52 := by norm_num
    have hpart : (2 : Rat) ^ Int.log 2 x * (1 / 2 ^ 52) ≤ x / 2 ^ 52 := by
      rw [mul_one_div]
      gcongr
    rw [lastBit, hnormal, sub_eq_add_neg, two_zpow_add, hshift]
    linarith
  · have hpart : 0 ≤ x / 2 ^ 52 := by positivity
    rw [lastBit, hsub, ← leastDouble]
    linarith

@[simp] theorem nearestMagnitude_zero : nearestMagnitude 0 = 0 := by
  have hround : roundHalfEven 0 = 0 := by exact_mod_cast roundHalfEven_intCast 0
  simp [nearestMagnitude, hround]

theorem nearestMagnitude_nonneg {x : Rat} (hx : 0 ≤ x) : 0 ≤ nearestMagnitude x := by
  have hscaled : ((0 : Int) : Rat) ≤ x / 2 ^ lastBit x := by
    have := two_zpow_pos (lastBit x)
    push_cast
    positivity
  have hround : (0 : Rat) ≤ roundHalfEven (x / 2 ^ lastBit x) := by exact_mod_cast le_roundHalfEven hscaled
  exact mul_nonneg hround (two_zpow_pos _).le

/-- A number has at most 53 bits from its last one up. -/
theorem roundHalfEven_lastBit_le (x : Rat) : roundHalfEven (x / 2 ^ lastBit x) ≤ (2 ^ 53 : Int) := by
  have hunit := two_zpow_pos (lastBit x)
  have hnormal : Int.log 2 x - 52 ≤ lastBit x := le_max_left _ _
  have hupper : x < 2 ^ (lastBit x + 53) := by
    have hlead : x < 2 ^ (Int.log 2 x + 1) := by
      exact_mod_cast Int.lt_zpow_succ_log_self (b := 2) (by norm_num) x
    exact hlead.trans_le (two_zpow_le (by omega))
  refine roundHalfEven_le ?_
  rw [div_le_iff₀ hunit]
  have hsplit := two_zpow_add (lastBit x) 53
  push_cast
  norm_num at hsplit ⊢
  linarith

/-- And as many, if that is not the last bit of all. -/
theorem le_roundHalfEven_lastBit {x : Rat} (hx : 0 < x) (hnormal : lastBit x = Int.log 2 x - 52) :
    (2 ^ 52 : Int) ≤ roundHalfEven (x / 2 ^ lastBit x) := by
  have hlower : (2 : Rat) ^ (lastBit x + 52) ≤ x := by
    have hlead : (2 : Rat) ^ Int.log 2 x ≤ x := by exact_mod_cast Int.zpow_log_le_self (b := 2) (by norm_num) hx
    exact (two_zpow_le (by omega)).trans hlead
  refine le_roundHalfEven ?_
  rw [le_div_iff₀ (two_zpow_pos _)]
  have hsplit := two_zpow_add (lastBit x) 52
  push_cast
  norm_num at hsplit ⊢
  linarith

theorem lastBit_mono {x y : Rat} (hx : 0 < x) (h : x ≤ y) : lastBit x ≤ lastBit y := by
  have hlog : Int.log 2 x ≤ Int.log 2 y := Int.log_mono_right hx h
  unfold lastBit
  omega

/-- A larger number never has a smaller double: within the range of one last bit that is so for the integers, and
    between two ranges lies a power of two. -/
theorem nearestMagnitude_mono {x y : Rat} (hx : 0 ≤ x) (h : x ≤ y) : nearestMagnitude x ≤ nearestMagnitude y := by
  rcases hx.eq_or_lt with rfl | hpos
  · rw [nearestMagnitude_zero]
    exact nearestMagnitude_nonneg h
  · have hunitx := two_zpow_pos (lastBit x)
    have hunity := two_zpow_pos (lastBit y)
    rcases (lastBit_mono hpos h).eq_or_lt with heq | hlt
    · have hround : roundHalfEven (x / 2 ^ lastBit x) ≤ roundHalfEven (y / 2 ^ lastBit x) :=
        roundHalfEven_mono (by gcongr)
      rw [nearestMagnitude, nearestMagnitude, ← heq]
      have : (roundHalfEven (x / 2 ^ lastBit x) : Rat) ≤ roundHalfEven (y / 2 ^ lastBit x) := by exact_mod_cast hround
      gcongr
    · have hnormal : lastBit y = Int.log 2 y - 52 := by
        have hleast : (-1074 : Int) ≤ lastBit x := le_max_right _ _
        unfold lastBit at *
        omega
      -- `x` has at most 53 bits in its range, `y` has 53
      have hroundx := roundHalfEven_lastBit_le x
      have hroundy := le_roundHalfEven_lastBit (hpos.trans_le h) hnormal
      calc nearestMagnitude x ≤ (2 ^ 53 : Rat) * 2 ^ lastBit x := by
            have : (roundHalfEven (x / 2 ^ lastBit x) : Rat) ≤ 2 ^ 53 := by exact_mod_cast hroundx
            exact mul_le_mul_of_nonneg_right this hunitx.le
        _ = (2 ^ 52 : Rat) * 2 ^ (lastBit x + 1) := by
            rw [two_zpow_add]
            norm_num
            ring
        _ ≤ (2 ^ 52 : Rat) * 2 ^ lastBit y := by
            have := two_zpow_le (show lastBit x + 1 ≤ lastBit y by omega)
            gcongr
        _ ≤ nearestMagnitude y := by
            have : (2 ^ 52 : Rat) ≤ roundHalfEven (y / 2 ^ lastBit y) := by exact_mod_cast hroundy
            exact mul_le_mul_of_nonneg_right this hunity.le

theorem nearestMagnitude_leastDouble : nearestMagnitude leastDouble = leastDouble := by
  have hlog : Int.log 2 leastDouble = -1074 := Int.log_zpow (by norm_num) (-1074)
  have hone : roundHalfEven 1 = 1 := by exact_mod_cast roundHalfEven_intCast 1
  have hbit : lastBit leastDouble = -1074 := by
    rw [lastBit, hlog]
    norm_num
  rw [nearestMagnitude, hbit, ← leastDouble, div_self leastDouble_pos.ne', hone, Int.cast_one, one_mul]

theorem exists_nearestMagnitude_eq (x : Rat) : ∃ n : Int, nearestMagnitude x = n * leastDouble := by
  have hleast : (-1074 : Int) ≤ lastBit x := le_max_right _ _
  obtain ⟨k, hk⟩ := Int.eq_ofNat_of_zero_le (show 0 ≤ lastBit x + 1074 by omega)
  refine ⟨roundHalfEven (x / 2 ^ lastBit x) * 2 ^ k, ?_⟩
  rw [nearestMagnitude, show lastBit x = k + -1074 by omega, two_zpow_add, ← leastDouble, zpow_natCast, ← mul_assoc,
    Int.cast_mul, Int.cast_pow, Int.cast_ofNat]

/-- 53 bits are kept as they are. -/
theorem nearestMagnitude_of_bits {n e : Int} (hn : 0 ≤ n) (hbits : n < 2 ^ 53) (he : -1074 ≤ e) :
    nearestMagnitude (n * 2 ^ e) = n * 2 ^ e := by
  rcases hn.eq_or_lt with rfl | hpos
  · simp
  · have hpos' : (0 : Rat) < n := by exact_mod_cast hpos
    have hx : (0 : Rat) < n * 2 ^ e := mul_pos hpos' (two_zpow_pos e)
    have hlog : Int.log 2 ((n : Rat) * 2 ^ e) < e + 53 := by
      refine (Int.lt_zpow_iff_log_lt (by norm_num) hx).1 ?_
      have hbits' : (n : Rat) < 2 ^ (53 : Int) := by
        norm_num
        exact_mod_cast hbits
      have hscaled := mul_lt_mul_of_pos_right hbits' (two_zpow_pos e)
      rw [add_comm, Nat.cast_ofNat, two_zpow_add]
      exact hscaled
    have hlast : lastBit (n * 2 ^ e) ≤ e := max_le (by omega) he
    obtain ⟨k, hk⟩ := Int.eq_ofNat_of_zero_le (show 0 ≤ e - lastBit (n * 2 ^ e) by omega)
    have hscale : (n : Rat) * 2 ^ e = (n * 2 ^ k : Int) * 2 ^ lastBit (n * 2 ^ e) := by
      rw [Int.cast_mul, Int.cast_pow, Int.cast_ofNat, mul_assoc, ← zpow_natCast, ← two_zpow_add,
        show (k : Int) + lastBit (n * 2 ^ e) = e by omega]
    have hquotient : (n : Rat) * 2 ^ e / 2 ^ lastBit (n * 2 ^ e) = (n * 2 ^ k : Int) := by
      rw [div_eq_iff (two_zpow_pos _).ne']
      exact hscale
    rw [nearestMagnitude, hquotient, roundHalfEven_intCast]
    exact hscale.symm

/-- A double has at most 53 bits. -/
theorem nearestMagnitude_idem {x : Rat} (hx : 0 ≤ x) : nearestMagnitude (nearestMagnitude x) = nearestMagnitude x := by
  have hleast : (-1074 : Int) ≤ lastBit x := le_max_right _ _
  have hunit := two_zpow_pos (lastBit x)
  have hnonneg : 0 ≤ roundHalfEven (x / 2 ^ lastBit x) := by
    have hquotient : ((0 : Int) : Rat) ≤ x / 2 ^ lastBit x := by
      push_cast
      positivity
    exact le_roundHalfEven hquotient
  have hbits : roundHalfEven (x / 2 ^ lastBit x) ≤ 2 ^ 53 := roundHalfEven_lastBit_le x
  rcases hbits.eq_or_lt with hfull | hlt
  · -- rounded up to the next power of two, which has one bit
    have hnext : nearestMagnitude x = (2 ^ 52 : Int) * 2 ^ (lastBit x + 1) := by
      rw [nearestMagnitude, hfull, two_zpow_add]
      norm_num
      ring
    rw [hnext]
    exact nearestMagnitude_of_bits (by norm_num) (by norm_num) (by omega)
  · exact nearestMagnitude_of_bits hnonneg hlt hleast

/-! ## Both signs -/

theorem nearestDouble_of_nonneg {x : Rat} (hx : 0 ≤ x) : nearestDouble x = nearestMagnitude x := if_pos hx

theorem nearestDouble_neg (x : Rat) : nearestDouble (-x) = -nearestDouble x := by
  rcases lt_trichotomy x 0 with hneg | rfl | hpos
  · rw [nearestDouble, if_pos (by linarith), nearestDouble, if_neg (by linarith), neg_neg]
  · simp [nearestDouble]
  · rw [nearestDouble, if_neg (by linarith), nearestDouble, if_pos hpos.le, neg_neg]

@[simp] theorem nearestDouble_zero : nearestDouble 0 = 0 := by simp [nearestDouble]

theorem nearestDouble_nonneg {x : Rat} (hx : 0 ≤ x) : 0 ≤ nearestDouble x := by
  rw [nearestDouble_of_nonneg hx]
  exact nearestMagnitude_nonneg hx

theorem nearestDouble_mono {x y : Rat} (h : x ≤ y) : nearestDouble x ≤ nearestDouble y := by
  rcases le_or_gt 0 x with hx | hx
  · rw [nearestDouble_of_nonneg hx, nearestDouble_of_nonneg (hx.trans h)]
    exact nearestMagnitude_mono hx h
  · have hnegx : nearestDouble x = -nearestMagnitude (-x) := if_neg (not_le.2 hx)
    rcases le_or_gt 0 y with hy | hy
    · have hmagnitude : 0 ≤ nearestMagnitude (-x) := nearestMagnitude_nonneg (by linarith)
      have hnonneg := nearestDouble_nonneg hy
      linarith
    · have hnegy : nearestDouble y = -nearestMagnitude (-y) := if_neg (not_le.2 hy)
      have hmono := nearestMagnitude_mono (show 0 ≤ -y by linarith) (show -y ≤ -x by linarith)
      linarith

/-- Half a unit in the last place, which is a 2^53rd part or half the smallest double. -/
theorem abs_nearestDouble_sub_le (x : Rat) : |nearestDouble x - x| ≤ |x| / 2 ^ 53 + leastDouble / 2 := by
  have hmagnitude : ∀ y : Rat, 0 ≤ y → |nearestMagnitude y - y| ≤ y / 2 ^ 53 + leastDouble / 2 := by
    intro y hy
    rcases hy.eq_or_lt with rfl | hpos
    · simp only [nearestMagnitude_zero, sub_self, abs_zero, zero_div, zero_add]
      exact (half_pos leastDouble_pos).le
    · calc |nearestMagnitude y - y| ≤ 2 ^ lastBit y / 2 := abs_nearestMagnitude_sub_le y
        _ ≤ (y / 2 ^ 52 + leastDouble) / 2 := by
            have := two_zpow_lastBit_le hpos
            gcongr
        _ = y / 2 ^ 53 + leastDouble / 2 := by ring
  rcases le_or_gt 0 x with hx | hx
  · rw [nearestDouble_of_nonneg hx, abs_of_nonneg hx]
    exact hmagnitude x hx
  · have hneg : nearestDouble x - x = -(nearestMagnitude (-x) - -x) := by
      rw [nearestDouble, if_neg (not_le.2 hx)]
      ring
    rw [hneg, abs_neg, abs_of_neg hx]
    exact hmagnitude (-x) (by linarith)

/-- Every double is a multiple of the smallest one. -/
theorem exists_nearestDouble_eq (x : Rat) : ∃ n : Int, nearestDouble x = n * leastDouble := by
  unfold nearestDouble
  split
  · exact exists_nearestMagnitude_eq x
  · obtain ⟨n, hn⟩ := exists_nearestMagnitude_eq (-x)
    refine ⟨-n, ?_⟩
    rw [hn]
    push_cast
    ring

/-! ## Doubles -/

/-- The numbers that are doubles. -/
def IsDouble (x : Rat) : Prop := ∃ y, nearestDouble y = x

theorem isDouble_nearestDouble (x : Rat) : IsDouble (nearestDouble x) := ⟨x, rfl⟩

theorem isDouble_zero : IsDouble 0 := ⟨0, nearestDouble_zero⟩

/-- A double is rounded to itself. -/
theorem IsDouble.nearest_eq {x : Rat} (h : IsDouble x) : nearestDouble x = x := by
  have hmagnitude : ∀ y : Rat, 0 ≤ y → nearestDouble (nearestMagnitude y) = nearestMagnitude y := by
    intro y hy
    rw [nearestDouble_of_nonneg (nearestMagnitude_nonneg hy)]
    exact nearestMagnitude_idem hy
  obtain ⟨y, rfl⟩ := h
  rcases le_or_gt 0 y with hy | hy
  · rw [nearestDouble_of_nonneg hy]
    exact hmagnitude y hy
  · have hneg : nearestDouble y = -nearestMagnitude (-y) := if_neg (not_le.2 hy)
    rw [hneg, nearestDouble_neg, hmagnitude (-y) (by linarith)]

/-- An integer of at most 53 bits is a double. -/
theorem nearestDouble_intCast {n : Int} (hn : 0 ≤ n) (hbits : n < 2 ^ 53) : nearestDouble n = n := by
  have hexact := nearestMagnitude_of_bits hn hbits (show (-1074 : Int) ≤ 0 by norm_num)
  rw [zpow_zero, mul_one] at hexact
  rw [nearestDouble_of_nonneg (by exact_mod_cast hn)]
  exact hexact

theorem IsDouble.nearest_le {x y : Rat} (hy : IsDouble y) (h : x ≤ y) : nearestDouble x ≤ y := by
  have hmono := nearestDouble_mono h
  rwa [hy.nearest_eq] at hmono

theorem IsDouble.eq_zero_or_leastDouble_le {x : Rat} (h : IsDouble x) (hx : 0 ≤ x) : x = 0 ∨ leastDouble ≤ x := by
  obtain ⟨y, rfl⟩ := h
  obtain ⟨n, hn⟩ := exists_nearestDouble_eq y
  rw [hn] at hx ⊢
  have hleast := leastDouble_pos
  have hn0 : 0 ≤ n := by
    have : (0 : Rat) ≤ n := nonneg_of_mul_nonneg_left hx hleast
    exact_mod_cast this
  rcases hn0.eq_or_lt with rfl | hpos
  · left
    simp
  · right
    have hone : (1 : Rat) ≤ n := by exact_mod_cast hpos
    nlinarith

/-- A difference of doubles has the sign of the exact one: it never vanishes below the smallest double. -/
theorem IsDouble.nearest_sub_nonneg_iff {x y : Rat} (hx : IsDouble x) (hy : IsDouble y) :
    0 ≤ nearestDouble (x - y) ↔ y ≤ x := by
  constructor
  · intro h
    by_contra hlt
    obtain ⟨m, hm⟩ := exists_nearestDouble_eq x
    obtain ⟨n, hn⟩ := exists_nearestDouble_eq y
    rw [hx.nearest_eq] at hm
    rw [hy.nearest_eq] at hn
    have hleast := leastDouble_pos
    have hmn : m - n ≤ -1 := by
      have hneg : ((m - n : Int) : Rat) < 0 := by
        by_contra hnonneg
        have hproduct := mul_nonneg (not_lt.1 hnonneg) hleast.le
        push_cast at hproduct
        linarith
      have : m - n < 0 := by exact_mod_cast hneg
      omega
    have hstep : x - y ≤ -leastDouble := by
      have hmn' : ((m - n : Int) : Rat) ≤ -1 := by exact_mod_cast hmn
      push_cast at hmn'
      rw [hm, hn]
      nlinarith
    have hround := nearestDouble_mono hstep
    rw [nearestDouble_neg, nearestDouble_of_nonneg hleast.le, nearestMagnitude_leastDouble] at hround
    linarith
  · intro h
    exact nearestDouble_nonneg (by linarith)

/-! ## Errors

A budget in units: what rounding a number below `2 * M` can cost is one, and a few of them leave a number that is
below `M` in that range. -/

/-- `y` stands for `x` and is off by at most `e` units. -/
def Off (M : Rat) (e : Nat) (x y : Rat) : Prop := |y - x| ≤ e * (M / 2 ^ 51)

theorem leastDouble_le : leastDouble ≤ 1 / 2 ^ 52 := by
  have hpow : (2 : Rat) ^ (-52 : Int) = 1 / 2 ^ 52 := by norm_num
  rw [← hpow]
  exact two_zpow_le (by norm_num)

/-- Away from zero the error is in proportion. -/
theorem abs_nearestDouble_sub_le_of_large {x : Rat} (h : x = 0 ∨ 1 / 100 ≤ |x|) :
    |nearestDouble x - x| ≤ |x| / 2 ^ 52 := by
  rcases h with rfl | hlarge
  · simp
  · have hleast : leastDouble ≤ 1 / 100 / 2 ^ 52 := by
      have hpow : (2 : Rat) ^ (-60 : Int) = 1 / 2 ^ 60 := by norm_num
      have hstep : leastDouble ≤ 1 / 2 ^ 60 := hpow ▸ two_zpow_le (by norm_num)
      exact hstep.trans (by norm_num)
    have hround := abs_nearestDouble_sub_le x
    have hscaled : (1 / 100 : Rat) / 2 ^ 52 ≤ |x| / 2 ^ 52 := by gcongr
    linarith

theorem abs_nearestDouble_le_of_large {x : Rat} (h : x = 0 ∨ 1 / 100 ≤ |x|) : |nearestDouble x| ≤ 2 * |x| := by
  have hround := abs_nearestDouble_sub_le_of_large h
  have hsum := abs_add_le (nearestDouble x - x) x
  rw [sub_add_cancel] at hsum
  linarith [abs_nonneg x]

/-- The error of a product, by the errors of its factors. -/
theorem abs_mul_sub_mul_le (x y u v : Rat) : |y * v - x * u| ≤ |y - x| * |v| + |x| * |v - u| := by
  have hsplit : y * v - x * u = (y - x) * v + x * (v - u) := by ring
  rw [hsplit, ← abs_mul, ← abs_mul]
  exact abs_add_le _ _

variable {M N x y z u v : Rat} {e f : Nat}

theorem Off.refl (hM : 0 ≤ M) : Off M e x x := by
  rw [Off, sub_self, abs_zero]
  positivity

theorem off_nearestDouble (hM : 1 ≤ M) (hx : |x| ≤ 2 * M) : Off M 1 x (nearestDouble x) := by
  have hround := abs_nearestDouble_sub_le x
  have hleast := leastDouble_le
  rw [Off, Nat.cast_one, one_mul]
  linarith

theorem Off.mono (h : Off M e x y) (hM : 0 ≤ M) (hef : e ≤ f) : Off M f x y := by
  have hef' : (e : Rat) ≤ f := by exact_mod_cast hef
  exact h.trans (mul_le_mul_of_nonneg_right hef' (by positivity))

/-- Larger units. -/
theorem Off.of_le (h : Off M e x y) (hMN : M ≤ N) : Off N e x y :=
  h.trans (by gcongr)

theorem Off.add (h : Off M e x y) (h' : Off M f u v) : Off M (e + f) (x + u) (y + v) := by
  have hsplit : y + v - (x + u) = y - x + (v - u) := by ring
  rw [Off, hsplit, Nat.cast_add, add_mul]
  exact (abs_add_le _ _).trans (add_le_add h h')

theorem Off.neg (h : Off M e x y) : Off M e (-x) (-y) := by
  rwa [Off, show -y - -x = -(y - x) by ring, abs_neg]

theorem Off.sub (h : Off M e x y) (h' : Off M f u v) : Off M (e + f) (x - u) (y - v) := by
  rw [sub_eq_add_neg, sub_eq_add_neg]
  exact h.add h'.neg

/-- Divided by `u`, the units of `u * M` are those of `M`. -/
theorem Off.div (h : Off (u * M) e x y) (hu : 0 < u) : Off M e (x / u) (y / u) := by
  rw [Off, ← sub_div, abs_div, abs_of_pos hu, div_le_iff₀ hu]
  exact h.trans_eq (by ring)

/-- A factor away from zero scales the units, and its own rounding costs one. -/
theorem Off.mul_nearestDouble (h : Off M e x y) (hx : |x| ≤ M) (hz : z = 0 ∨ 1 / 100 ≤ |z|) :
    Off (M * |z|) (2 * e + 1) (x * z) (y * nearestDouble z) := by
  have hM : 0 ≤ M := (abs_nonneg x).trans hx
  have herror : |y - x| ≤ e * (M / 2 ^ 51) := h
  have hleft : |y - x| * |nearestDouble z| ≤ e * (M / 2 ^ 51) * (2 * |z|) :=
    mul_le_mul herror (abs_nearestDouble_le_of_large hz) (abs_nonneg _) (by positivity)
  have hright : |x| * |nearestDouble z - z| ≤ M * (|z| / 2 ^ 52) :=
    mul_le_mul hx (abs_nearestDouble_sub_le_of_large hz) (abs_nonneg _) hM
  have hunit : 0 ≤ M * |z| := by positivity
  calc |y * nearestDouble z - x * z| ≤ _ := abs_mul_sub_mul_le x y z (nearestDouble z)
    _ ≤ e * (M / 2 ^ 51) * (2 * |z|) + M * (|z| / 2 ^ 52) := add_le_add hleft hright
    _ = 2 * e * (M * |z| / 2 ^ 51) + M * |z| / 2 ^ 52 := by ring
    _ ≤ (2 * e + 1 : Nat) * (M * |z| / 2 ^ 51) := by
        push_cast
        linarith

theorem Off.abs_le (h : Off M e x y) (hM : 0 ≤ M) (hx : |x| ≤ M) (he : e ≤ 2 ^ 51) : |y| ≤ 2 * M := by
  have he' : (e : Rat) ≤ 2 ^ 51 := by exact_mod_cast he
  have herror : |y - x| ≤ M := by
    calc |y - x| ≤ e * (M / 2 ^ 51) := h
      _ ≤ 2 ^ 51 * (M / 2 ^ 51) := mul_le_mul_of_nonneg_right he' (by positivity)
      _ = M := by ring
  have hsum : |y| ≤ |x| + |y - x| := by
    have := abs_add_le x (y - x)
    rwa [add_sub_cancel] at this
  linarith

/-- One more operation costs one more unit. -/
theorem Off.nearest (h : Off M e x y) (hM : 1 ≤ M) (hx : |x| ≤ M) (he : e ≤ 2 ^ 51) :
    Off M (e + 1) x (nearestDouble y) := by
  have hround := off_nearestDouble hM (h.abs_le (by linarith) hx he)
  have hsplit : nearestDouble y - x = y - x + (nearestDouble y - y) := by ring
  rw [Off, hsplit, Nat.cast_add, add_mul]
  exact (abs_add_le _ _).trans (add_le_add h hround)

/-! ## The arithmetic of a program -/

/-- What an operation on doubles makes of the exact result. -/
class Doubles where
  nearest : Rat → Rat

export Doubles (nearest)

/-- The doubles of IEEE 754. -/
@[reducible] def Doubles.binary64 : Doubles := ⟨nearestDouble⟩

instance : Doubles := Doubles.binary64

theorem nearest_eq_nearestDouble (x : Rat) : nearest x = nearestDouble x := rfl

/-- No rounding. -/
@[reducible] def Doubles.exact : Doubles := ⟨id⟩

end Nourgomla
