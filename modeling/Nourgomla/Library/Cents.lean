import Mathlib.Data.Rat.Floor
import Mathlib.Algebra.Order.Floor.Ring
import Mathlib.Tactic.Linarith
import Mathlib.Tactic.Ring
import Mathlib.Tactic.FieldSimp

set_option autoImplicit false

/-! # Amounts of money rounded to two decimals

`roundToCents x` is the number a two-decimal rendering of `x` prints: nearest hundredth, ties away
from zero. On amounts of whole cents it changes nothing (`roundToCents_of_wholeCents`), and it tells
apart any two amounts that differ by whole cents (`roundToCents_inj`), although it does not commute
with adding a whole amount (a tie may change side). -/

namespace Nourgomla

/-- Nearest integer, ties away from zero. -/
def roundHalfAway (x : Rat) : Int := if 0 ≤ x then ⌊x + 1 / 2⌋ else -⌊-x + 1 / 2⌋

/-- The number that a rendering with two decimals prints. -/
def roundToCents (x : Rat) : Rat := roundHalfAway (x * 100) / 100

/-- Drop the fraction, towards zero. -/
def truncate (x : Rat) : Int := if 0 ≤ x then ⌊x⌋ else -⌊-x⌋

/-- An amount of whole cents. -/
def WholeCents (x : Rat) : Prop := ∃ n : Int, x * 100 = n

instance (x : Rat) : Decidable (WholeCents x) :=
  decidable_of_iff (((x * 100).num : Rat) = x * 100)
    ⟨fun h => ⟨_, h.symm⟩, fun ⟨n, h⟩ => by rw [h, Rat.num_intCast]⟩

/-! ## Whole cents are closed under the arithmetic of a bill -/

theorem wholeCents_zero : WholeCents 0 := ⟨0, by simp⟩

theorem wholeCents_int (n : Int) : WholeCents n := ⟨n * 100, by push_cast; ring⟩

theorem WholeCents.add {x y : Rat} (hx : WholeCents x) (hy : WholeCents y) :
    WholeCents (x + y) := by
  obtain ⟨m, hm⟩ := hx
  obtain ⟨n, hn⟩ := hy
  exact ⟨m + n, by push_cast; linarith⟩

theorem WholeCents.sub {x y : Rat} (hx : WholeCents x) (hy : WholeCents y) :
    WholeCents (x - y) := by
  obtain ⟨m, hm⟩ := hx
  obtain ⟨n, hn⟩ := hy
  exact ⟨m - n, by push_cast; linarith⟩

theorem WholeCents.int_mul {x : Rat} (q : Int) (hx : WholeCents x) : WholeCents (q * x) := by
  obtain ⟨m, hm⟩ := hx
  refine ⟨q * m, ?_⟩
  push_cast
  rw [mul_assoc, hm]

/-- An amount of money is nothing or a cent at least. -/
theorem WholeCents.eq_zero_or_le {x : Rat} (hx : WholeCents x) : x = 0 ∨ 1 / 100 ≤ |x| := by
  obtain ⟨n, hn⟩ := hx
  rcases eq_or_ne n 0 with rfl | hne
  · left
    push_cast at hn
    linarith
  · right
    have hone : (1 : Rat) ≤ |(n : Rat)| := by exact_mod_cast Int.one_le_abs hne
    rw [← hn, abs_mul, abs_of_pos (show (0 : Rat) < 100 by norm_num)] at hone
    linarith

/-! ## Rounding -/

theorem roundHalfAway_of_abs_lt {x : Rat} {n : Int} (h : |x - n| < 1 / 2) : roundHalfAway x = n := by
  obtain ⟨hlow, hhigh⟩ := abs_lt.1 h
  unfold roundHalfAway
  split
  · rw [Int.floor_eq_iff]
    constructor <;> linarith
  · have hneg : ⌊-x + 1 / 2⌋ = -n := by
      rw [Int.floor_eq_iff]
      push_cast
      constructor <;> linarith
    omega

theorem roundHalfAway_intCast (n : Int) : roundHalfAway n = n := roundHalfAway_of_abs_lt (by simp)

theorem abs_roundHalfAway_sub_le (x : Rat) : |x - roundHalfAway x| ≤ 1 / 2 := by
  have hfloor : ∀ y : Rat, |y - ⌊y + 1 / 2⌋| ≤ 1 / 2 := by
    intro y
    have hlow := Int.floor_le (y + 1 / 2)
    have hhigh := Int.lt_floor_add_one (y + 1 / 2)
    rw [abs_le]
    constructor <;> linarith
  unfold roundHalfAway
  split
  · exact hfloor x
  · have hneg := hfloor (-x)
    rw [← abs_neg] at hneg
    push_cast
    convert hneg using 2
    ring

/-- An amount between two cents. -/
def HalfCent (x : Rat) : Prop := ∃ n : Int, x * 100 = n + 1 / 2

theorem WholeCents.not_halfCent {x : Rat} (h : WholeCents x) : ¬ HalfCent x := by
  obtain ⟨n, hn⟩ := h
  rintro ⟨k, hk⟩
  have hhalf : ((2 * (n - k) : Int) : Rat) = 1 := by
    push_cast
    linarith
  have : 2 * (n - k) = 1 := by exact_mod_cast hhalf
  omega

theorem WholeCents.halfCent_of_sub {x y : Rat} (hx : WholeCents x) (h : HalfCent (x - y)) : HalfCent y := by
  obtain ⟨m, hm⟩ := hx
  obtain ⟨n, hn⟩ := h
  refine ⟨m - n - 1, ?_⟩
  push_cast
  linarith

/-- Two amounts, one of them in hundredths of a cent and not between two cents, are rounded alike if they are nearer
    than such a hundredth. -/
theorem roundToCents_eq_of_near {x y : Rat} (hx : ∃ m : Int, x * 10000 = m) (hhalf : ¬ HalfCent x)
    (h : |y - x| < 1 / 10000) : roundToCents y = roundToCents x := by
  obtain ⟨m, hm⟩ := hx
  obtain ⟨hlow, hhigh⟩ := abs_le.1 (abs_roundHalfAway_sub_le (x * 100))
  obtain ⟨hbelow, habove⟩ := abs_lt.1 h
  have hscaled : (m : Rat) / 100 = x * 100 := by linarith
  -- in hundredths of a cent the distance to the cent is below fifty
  have hup : m - 100 * roundHalfAway (x * 100) ≤ 49 := by
    by_contra hgreat
    have hge : (50 : Rat) ≤ m - 100 * roundHalfAway (x * 100) := by
      have : (50 : Int) ≤ m - 100 * roundHalfAway (x * 100) := by omega
      exact_mod_cast this
    exact hhalf ⟨roundHalfAway (x * 100), by linarith⟩
  have hdown : -49 ≤ m - 100 * roundHalfAway (x * 100) := by
    by_contra hless
    have hle : (m : Rat) - 100 * roundHalfAway (x * 100) ≤ -50 := by
      have : m - 100 * roundHalfAway (x * 100) ≤ -50 := by omega
      exact_mod_cast this
    exact hhalf ⟨roundHalfAway (x * 100) - 1, by push_cast; linarith⟩
  have hup' : (m : Rat) - 100 * roundHalfAway (x * 100) ≤ 49 := by exact_mod_cast hup
  have hdown' : (-49 : Rat) ≤ m - 100 * roundHalfAway (x * 100) := by exact_mod_cast hdown
  have hnear : |y * 100 - roundHalfAway (x * 100)| < 1 / 2 := by
    rw [abs_lt]
    constructor <;> linarith
  rw [roundToCents, roundHalfAway_of_abs_lt hnear, roundToCents]

/-- Rounding leaves whole cents as they are. -/
theorem roundToCents_of_wholeCents {x : Rat} (h : WholeCents x) : roundToCents x = x := by
  obtain ⟨n, hn⟩ := h
  rw [roundToCents, hn, roundHalfAway_intCast, ← hn]
  ring

/-- Adding a positive whole number moves the rounded value up, also across zero. -/
theorem roundHalfAway_lt (x : Rat) {n : Int} (hn : 0 < n) :
    roundHalfAway x < roundHalfAway (x + n) := by
  have hn' : (1 : Rat) ≤ n := by exact_mod_cast hn
  unfold roundHalfAway
  by_cases hx : 0 ≤ x
  · rw [if_pos hx, if_pos (by linarith)]
    have hshift : ⌊x + n + 1 / 2⌋ = ⌊x + 1 / 2⌋ + n := by
      rw [← Int.floor_add_intCast]
      congr 1
      ring
    omega
  · rw [if_neg hx]
    by_cases hxn : 0 ≤ x + n
    · -- a tie below zero goes down and a tie above goes up, so the two stay apart
      rw [if_pos hxn]
      have hlow := Int.lt_floor_add_one (-x + 1 / 2)
      have hhigh := Int.lt_floor_add_one (x + n + 1 / 2)
      have hlt : ((-⌊-x + 1 / 2⌋ : Int) : Rat) < ⌊x + n + 1 / 2⌋ := by
        push_cast
        linarith
      exact_mod_cast hlt
    · rw [if_neg hxn]
      have hshift : ⌊-(x + n) + 1 / 2⌋ = ⌊-x + 1 / 2⌋ - n := by
        rw [← Int.floor_sub_intCast]
        congr 1
        ring
      omega

/-- Amounts that differ by whole cents are rounded to different numbers unless they are equal. -/
theorem roundToCents_inj {x y : Rat} (hxy : WholeCents (y - x))
    (h : roundToCents x = roundToCents y) : x = y := by
  obtain ⟨n, hn⟩ := hxy
  have hround : roundHalfAway (x * 100) = roundHalfAway (y * 100) := by
    unfold roundToCents at h
    have h' : ((roundHalfAway (x * 100) : Int) : Rat) = roundHalfAway (y * 100) := by linarith
    exact_mod_cast h'
  rcases lt_trichotomy n 0 with hneg | hzero | hpos
  · have hlt := roundHalfAway_lt (y * 100) (n := -n) (by omega)
    rw [show y * 100 + ((-n : Int) : Rat) = x * 100 by push_cast; linarith] at hlt
    omega
  · rw [hzero] at hn
    push_cast at hn
    linarith
  · have hlt := roundHalfAway_lt (x * 100) hpos
    rw [show x * 100 + (n : Rat) = y * 100 by linarith] at hlt
    omega

end Nourgomla
