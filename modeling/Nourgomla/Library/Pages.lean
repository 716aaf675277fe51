import Mathlib.Data.List.Basic
import Mathlib.Tactic.Common

set_option autoImplicit false

/-! # Pages of one list

A list that is loaded in parts is put together from pages, each of which was asked for with a key (the
query) and the index it starts at. The pages are those of one list if they have one key and start at
0, `size`, `2 * size` and so on (`Consecutive`); a page that is added last keeps this exactly if it is
the next one (`consecutive_append`). -/

namespace Nourgomla

/-- A page: what it was asked for with, and what it brought. -/
structure LoadedPage (κ α : Type) where
  key : κ
  startIndex : Int
  items : List α
deriving DecidableEq

/-- With the answer to the one request that waits, nothing waits. -/
theorem eraseIdx_of_length_le_one {β : Type} {l : List β} {k : Nat} {b : β} (hone : l.length ≤ 1)
    (hk : l[k]? = some b) : l.eraseIdx k = [] := by
  obtain ⟨hlt, -⟩ := List.getElem?_eq_some_iff.1 hk
  refine List.eq_nil_of_length_eq_zero ?_
  rw [List.length_eraseIdx_of_lt hlt]
  omega

namespace LoadedPage

variable {κ α : Type}

/-- The list put together. -/
def listed (pages : List (LoadedPage κ α)) : List α := pages.flatMap (·.items)

@[simp] theorem listed_nil : listed ([] : List (LoadedPage κ α)) = [] := rfl

@[simp] theorem listed_append (pages : List (LoadedPage κ α)) (page : LoadedPage κ α) :
    listed (pages ++ [page]) = listed pages ++ page.items := by
  simp [listed]

@[simp] theorem listed_singleton (page : LoadedPage κ α) : listed [page] = page.items := by
  simp [listed]

/-- The pages of `key` at 0, `size`, `2 * size`, ..., each once and in this order. -/
def Consecutive (size : Int) (key : κ) (pages : List (LoadedPage κ α)) : Prop :=
  pages.map (fun page => (page.key, page.startIndex))
    = (List.range pages.length).map fun i : Nat => (key, size * i)

instance [DecidableEq κ] (size : Int) (key : κ) (pages : List (LoadedPage κ α)) :
    Decidable (Consecutive size key pages) := inferInstanceAs (Decidable (_ = _))

variable {size : Int} {key : κ} {pages : List (LoadedPage κ α)} {page : LoadedPage κ α}

theorem consecutive_nil : Consecutive size key ([] : List (LoadedPage κ α)) := rfl

theorem consecutive_append : Consecutive size key (pages ++ [page]) ↔
    Consecutive size key pages ∧ page.key = key ∧ page.startIndex = size * pages.length := by
  unfold Consecutive
  rw [List.length_append, List.length_singleton, List.range_succ, List.map_append, List.map_append]
  simp only [List.map_cons, List.map_nil]
  constructor
  · intro h
    obtain ⟨hpages, hpage⟩ := List.append_inj h (by simp)
    obtain ⟨hkey, hindex⟩ := Prod.mk.inj (List.cons.inj hpage).1
    exact ⟨hpages, hkey, hindex⟩
  · rintro ⟨hpages, hkey, hindex⟩
    rw [hpages, hkey, hindex]

/-- The index past the pages moves on by one page. -/
theorem index_append : size * ((pages ++ [page]).length : Int) = size * pages.length + size := by
  rw [List.length_append, List.length_singleton, Int.natCast_succ, Int.mul_add, Int.mul_one]

theorem consecutive_singleton :
    Consecutive size key [page] ↔ page.key = key ∧ page.startIndex = 0 := by
  have h := @consecutive_append κ α size key [] page
  simpa [consecutive_nil] using h

/-- The same for pages with the key of the first one: the next page has it too, or is the first. -/
theorem consecutive_head_append
    (h : ∀ first ∈ pages.head?, Consecutive size first.key pages)
    (hkey : ∀ first ∈ pages.head?, page.key = first.key)
    (hindex : page.startIndex = size * pages.length) :
    ∀ first ∈ (pages ++ [page]).head?, Consecutive size first.key (pages ++ [page]) := by
  intro first hfirst
  cases pages with
  | nil =>
      obtain rfl := Option.some.inj hfirst
      exact consecutive_append.2 ⟨consecutive_nil, rfl, hindex⟩
  | cons head rest =>
      obtain rfl := Option.some.inj hfirst
      exact consecutive_append.2 ⟨h head rfl, hkey head rfl, hindex⟩

end LoadedPage
end Nourgomla
