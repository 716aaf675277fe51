import Nourgomla.Library.FirstMatch

set_option autoImplicit false

/-! # Keyed lists and the lists that implement them

A `KeyedList` has at most one entry for a key, in the order the keys were inserted. A list of objects
`Implements` it when its objects, in order, show the entries; the rules say which operations on the objects are
operations on the entries. Acting on the first object with a key and acting on every object with it implement the
same operation, so a list in memory and a table that is addressed by key can implement one keyed list. -/

namespace Nourgomla

variable {κ ν α : Type} [DecidableEq κ]

/-- Entries with distinct keys. -/
structure KeyedList (κ ν : Type) where
  entries : List (κ × ν)
  nodup : (entries.map Prod.fst).Nodup

namespace KeyedList

def empty : KeyedList κ ν := ⟨[], List.nodup_nil⟩

omit [DecidableEq κ] in
@[simp] theorem entries_empty : (empty : KeyedList κ ν).entries = [] := rfl

def keys (l : KeyedList κ ν) : List κ := l.entries.map Prod.fst

def lookup (l : KeyedList κ ν) (k : κ) : Option ν := (l.entries.find? (·.1 = k)).map (·.2)

/-- A new entry comes last; a key that is there already keeps its entry. -/
def insert (l : KeyedList κ ν) (k : κ) (v : ν) : KeyedList κ ν :=
  if h : k ∈ l.keys then l
  else {
    entries := l.entries ++ [(k, v)]
    nodup := by
      rw [List.map_append, List.nodup_append]
      refine ⟨l.nodup, by simp, ?_⟩
      rintro k' hk' _ hk rfl
      obtain rfl : k' = k := by simpa using hk
      exact h hk' }

def update (l : KeyedList κ ν) (k : κ) (f : ν → ν) : KeyedList κ ν where
  entries := l.entries.map fun e => if e.1 = k then (e.1, f e.2) else e
  nodup := by
    have hkeys : (l.entries.map fun e => if e.1 = k then (e.1, f e.2) else e).map Prod.fst = l.keys := by
      rw [List.map_map]
      refine List.map_congr_left fun e _ => ?_
      simp only [Function.comp_apply]
      split <;> rfl
    rw [hkeys]
    exact l.nodup

def erase (l : KeyedList κ ν) (k : κ) : KeyedList κ ν where
  entries := l.entries.filter fun e => e.1 ≠ k
  nodup := l.nodup.sublist (List.filter_sublist.map _)

theorem insert_of_notMem {l : KeyedList κ ν} {k : κ} (h : k ∉ l.keys) (v : ν) :
    (l.insert k v).entries = l.entries ++ [(k, v)] := by
  rw [insert, dif_neg h]

@[simp] theorem entries_update (l : KeyedList κ ν) (k : κ) (f : ν → ν) :
    (l.update k f).entries = l.entries.map fun e => if e.1 = k then (e.1, f e.2) else e := rfl

@[simp] theorem entries_erase (l : KeyedList κ ν) (k : κ) :
    (l.erase k).entries = l.entries.filter fun e => e.1 ≠ k := rfl

theorem update_of_notMem {l : KeyedList κ ν} {k : κ} (h : k ∉ l.keys) (f : ν → ν) :
    (l.update k f).entries = l.entries := by
  refine (List.map_congr_left fun e he => ?_).trans (List.map_id _)
  exact if_neg fun hk : e.1 = k => h (hk ▸ List.mem_map_of_mem he)

theorem erase_of_notMem {l : KeyedList κ ν} {k : κ} (h : k ∉ l.keys) : (l.erase k).entries = l.entries := by
  refine List.filter_eq_self.2 fun e he => ?_
  simpa using fun hk : e.1 = k => h (hk ▸ List.mem_map_of_mem he)

end KeyedList

/-! ## Implementations -/

/-- The objects show the entries, in order. -/
def Implements (key : α → κ) (view : α → ν) (objects : List α) (l : KeyedList κ ν) : Prop :=
  objects.map (fun a => (key a, view a)) = l.entries

namespace Implements

variable {key : α → κ} {view : α → ν} {objects : List α} {l : KeyedList κ ν}

omit [DecidableEq κ] in
theorem keys_eq (h : Implements key view objects l) : objects.map key = l.keys := by
  rw [KeyedList.keys, ← h, List.map_map]
  rfl

omit [DecidableEq κ] in
theorem nodup (h : Implements key view objects l) : (objects.map key).Nodup := by
  rw [h.keys_eq]
  exact l.nodup

/-- The object that is found first by its key shows the entry. -/
theorem find? (h : Implements key view objects l) {p : α → Bool} {k : κ} (hp : ∀ a, p a = true ↔ key a = k) :
    (objects.find? p).map view = l.lookup k := by
  rw [KeyedList.lookup, ← h, List.find?_map, Option.map_map]
  congr 1
  refine congrArg (objects.find? ·) (funext fun a => ?_)
  rw [Bool.eq_iff_iff, hp a]
  simp

theorem append (h : Implements key view objects l) {a : α} (hnew : key a ∉ l.keys) :
    Implements key view (objects ++ [a]) (l.insert (key a) (view a)) := by
  rw [Implements, KeyedList.insert_of_notMem hnew, List.map_append, h]
  rfl

/-- Acting on every object with the key. -/
theorem map (h : Implements key view objects l) {k : κ} {f : α → α} {g : ν → ν}
    (hkey : ∀ a, key a = k → key (f a) = k) (hview : ∀ a, key a = k → view (f a) = g (view a)) :
    Implements key view (objects.map fun a => if key a = k then f a else a) (l.update k g) := by
  rw [Implements, KeyedList.entries_update, ← h, List.map_map, List.map_map]
  refine List.map_congr_left fun a _ => ?_
  by_cases ha : key a = k
  · simp [ha, hkey a ha, hview a ha]
  · simp [ha]

/-- Acting on the first. -/
theorem updateFirst (h : Implements key view objects l) {p : α → Bool} {k : κ}
    (hp : ∀ a, p a = true ↔ key a = k) {f : α → α} {g : ν → ν} (hkey : ∀ a, key a = k → key (f a) = k)
    (hview : ∀ a, key a = k → view (f a) = g (view a)) :
    Implements key view (Nourgomla.updateFirst p f objects) (l.update k g) := by
  rw [updateFirst_eq_map hp h.nodup]
  exact h.map hkey hview

/-- Removing every object with the key. -/
theorem filter (h : Implements key view objects l) (k : κ) :
    Implements key view (objects.filter fun a => key a ≠ k) (l.erase k) := by
  rw [Implements, KeyedList.entries_erase, ← h, List.filter_map]
  rfl

/-- Removing the first. -/
theorem eraseP (h : Implements key view objects l) {p : α → Bool} {k : κ} (hp : ∀ a, p a = true ↔ key a = k) :
    Implements key view (objects.eraseP p) (l.erase k) := by
  rw [eraseP_eq_filter hp h.nodup]
  exact h.filter k

omit [DecidableEq κ] in
theorem notMem_of_find?_none (h : Implements key view objects l) {p : α → Bool} {k : κ}
    (hp : ∀ a, p a = true ↔ key a = k) (hnone : objects.find? p = none) : k ∉ l.keys := by
  rw [← h.keys_eq]
  intro hk
  obtain ⟨a, ha, rfl⟩ := List.mem_map.1 hk
  exact List.find?_eq_none.1 hnone a ha ((hp a).2 rfl)

omit [DecidableEq κ] in
theorem congr {β : Type} {f : β → α} {objects : List β}
    (h : Implements (key ∘ f) (view ∘ f) objects l) : Implements key view (objects.map f) l := by
  rw [Implements, List.map_map]
  exact h

end Implements
end Nourgomla
