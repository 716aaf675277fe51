import Mathlib.Data.List.Induction
import Mathlib.Tactic.Common

set_option autoImplicit false

/-! # Dictionaries filled by assignments

A mutable map is what its assignments have made of it: `ofEntries` makes them one after the other. A key
that is assigned twice keeps the value it was given last (`ofEntries_apply`). -/

namespace Nourgomla

variable {κ ν : Type} [DecidableEq κ]

abbrev Dictionary (κ ν : Type) : Type := κ → Option ν

namespace Dictionary

def empty : Dictionary κ ν := fun _ => none

/-- `d[key] = value` -/
def assign (d : Dictionary κ ν) (key : κ) (value : ν) : Dictionary κ ν :=
  Function.update d key (some value)

def ofEntries (entries : List (κ × ν)) : Dictionary κ ν :=
  entries.foldl (fun d entry => d.assign entry.1 entry.2) empty

/-- The value of the last entry with this key. -/
def lastValue (entries : List (κ × ν)) (key : κ) : Option ν :=
  (entries.reverse.find? (·.1 = key)).map (·.2)

theorem ofEntries_concat (entries : List (κ × ν)) (entry : κ × ν) :
    ofEntries (entries ++ [entry]) = (ofEntries entries).assign entry.1 entry.2 := by
  simp [ofEntries]

theorem ofEntries_apply (entries : List (κ × ν)) (key : κ) :
    ofEntries entries key = lastValue entries key := by
  induction entries using List.reverseRecOn with
  | nil => rfl
  | append_singleton entries entry ih =>
      rw [ofEntries_concat, assign, lastValue, List.reverse_concat]
      by_cases h : entry.1 = key
      · simp [h]
      · rw [Function.update_of_ne (Ne.symm h), List.find?_cons_of_neg (by simpa using h)]
        exact ih

/-- An assignment is never undone. -/
theorem ofEntries_eq_empty_iff (entries : List (κ × ν)) : ofEntries entries = empty ↔ entries = [] := by
  constructor
  · intro hempty
    by_contra hentries
    obtain ⟨first, entry, rfl⟩ := List.eq_nil_or_concat entries |>.resolve_left hentries
    have hlast := congrFun hempty entry.1
    simp [ofEntries_concat, assign, empty] at hlast
  · rintro rfl
    rfl

end Dictionary
end Nourgomla
