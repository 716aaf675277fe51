import Mathlib.Data.List.Basic

set_option autoImplicit false

/-! # One flagged object of a list

A list of objects with a mutable flag, of which one is to be the chosen one: the flag is turned off
everywhere (`off`) and then on at one position (`on`). What is flagged afterwards is that object and
nothing else, whatever the flags were before. -/

namespace Nourgomla

variable {α : Type} {flag : α → Bool} {off on : α → α} {l : List α}

theorem filter_map_off (hoff : ∀ a, flag (off a) = false) (l : List α) :
    (l.map off).filter flag = [] := by
  rw [List.filter_eq_nil_iff]
  intro a ha
  obtain ⟨b, -, rfl⟩ := List.mem_map.1 ha
  simp [hoff b]

theorem filter_set_on (hoff : ∀ a, flag (off a) = false) (hon : ∀ a, flag (on a) = true) {i : Nat}
    {a : α} (h : (l.map off)[i]? = some a) : ((l.map off).set i (on a)).filter flag = [on a] := by
  induction l generalizing i with
  | nil => simp at h
  | cons b l ih =>
      cases i with
      | zero =>
          obtain rfl : off b = a := by simpa using h
          simp [hon, filter_map_off hoff l]
      | succ i =>
          have hrest := ih (i := i) (by simpa using h)
          simpa [hoff] using hrest

end Nourgomla
