import Mathlib.Data.List.Nodup

set_option autoImplicit false

/-! # Acting on the first match of a list

A list of mutable objects is searched with `find?`; the object found is then written to
(`updateFirst`) or removed (`List.eraseP`). `find?_split` cuts the list at the object found, once,
for all three; `getElem?_split` does the same for an object found by its position. -/

namespace Nourgomla

variable {α β : Type}

/-- Write to the first object that matches. -/
def updateFirst (p : α → Bool) (f : α → α) : List α → List α
  | [] => []
  | a :: as => if p a then f a :: as else a :: updateFirst p f as

/-- Where a search succeeds, the list is cut at the object found: nothing before it matches, and
    writing to it or removing it leaves both sides alone. -/
theorem find?_split {p : α → Bool} {l : List α} {a : α} (h : l.find? p = some a) :
    ∃ pre post, l = pre ++ a :: post ∧ p a = true ∧ (∀ x ∈ pre, p x = false) ∧
      (∀ f, updateFirst p f l = pre ++ f a :: post) ∧ l.eraseP p = pre ++ post := by
  induction l with
  | nil => simp at h
  | cons b l ih =>
      cases hb : p b with
      | true =>
          simp only [List.find?_cons, hb, Option.some.injEq] at h
          subst h
          exact ⟨[], l, rfl, hb, by simp, fun f => by simp [updateFirst, hb], by simp [hb]⟩
      | false =>
          simp only [List.find?_cons, hb] at h
          obtain ⟨pre, post, hl, ha, hpre, hup, her⟩ := ih h
          refine ⟨b :: pre, post, by rw [hl]; rfl, ha, ?_, fun f => ?_, ?_⟩
          · intro x hx
            rcases List.mem_cons.1 hx with rfl | hx
            · exact hb
            · exact hpre x hx
          · simp [updateFirst, hb, hup f]
          · simp [hb, her]

theorem getElem?_split {l : List α} {k : Nat} {a : α} (h : l[k]? = some a) :
    ∃ pre post, l = pre ++ a :: post ∧ (∀ b, l.set k b = pre ++ b :: post) ∧
      l.eraseIdx k = pre ++ post := by
  induction l generalizing k with
  | nil => simp at h
  | cons x l ih =>
      cases k with
      | zero =>
          obtain rfl : x = a := by simpa using h
          exact ⟨[], l, rfl, fun _ => rfl, rfl⟩
      | succ k =>
          obtain ⟨pre, post, hl, hset, herase⟩ := ih (k := k) (by simpa using h)
          exact ⟨x :: pre, post, by rw [hl]; rfl, fun b => by simp [hset b], by simp [herase]⟩

theorem map_eraseIdx (f : α → β) (l : List α) (k : Nat) :
    (l.eraseIdx k).map f = (l.map f).eraseIdx k := by
  induction l generalizing k with
  | nil => rfl
  | cons a l ih =>
      cases k with
      | zero => rfl
      | succ k => simp [ih k]

theorem updateFirst_of_find?_none {p : α → Bool} {l : List α} (h : l.find? p = none)
    (f : α → α) : updateFirst p f l = l := by
  induction l with
  | nil => rfl
  | cons b l ih =>
      cases hb : p b with
      | true => simp [hb] at h
      | false =>
          simp only [List.find?_cons, hb] at h
          simp [updateFirst, hb, ih h]

theorem eraseP_of_find?_none {p : α → Bool} {l : List α} (h : l.find? p = none) :
    l.eraseP p = l :=
  List.eraseP_of_forall_not fun a ha => by simpa using List.find?_eq_none.1 h a ha

/-- A write that keeps a view of the object found keeps that view of the list. -/
theorem map_updateFirst {p : α → Bool} {f : α → α} {view : α → β} {l : List α}
    (h : ∀ a, l.find? p = some a → view (f a) = view a) :
    (updateFirst p f l).map view = l.map view := by
  cases hfind : l.find? p with
  | none => rw [updateFirst_of_find?_none hfind]
  | some a =>
      obtain ⟨pre, post, hl, -, -, hup, -⟩ := find?_split hfind
      rw [hup f, hl]
      simp [h a hfind]

theorem forall_mem_updateFirst {p : α → Bool} {f : α → α} {l : List α} {P : α → Prop}
    (hl : ∀ x ∈ l, P x) (hf : ∀ a, l.find? p = some a → P (f a)) :
    ∀ x ∈ updateFirst p f l, P x := by
  cases hfind : l.find? p with
  | none => rwa [updateFirst_of_find?_none hfind]
  | some a =>
      obtain ⟨pre, post, hcut, -, -, hup, -⟩ := find?_split hfind
      rw [hcut] at hl
      rw [hup f]
      intro x hx
      simp only [List.mem_append, List.mem_cons] at hx hl
      rcases hx with hx | rfl | hx
      · exact hl x (Or.inl hx)
      · exact hf a hfind
      · exact hl x (Or.inr (Or.inr hx))

/-! ## The first match by its position -/

/-- A match with none before it is the one that is written to and removed. -/
theorem updateFirst_eq_set {p : α → Bool} {l : List α} {i : Nat} {a : α} (h : l[i]? = some a)
    (ha : p a = true) (hpre : ∀ j, j < i → ∀ b, l[j]? = some b → p b = false) :
    l.find? p = some a ∧ (∀ f, updateFirst p f l = l.set i (f a)) ∧ l.eraseP p = l.eraseIdx i := by
  induction l generalizing i with
  | nil => simp at h
  | cons x l ih =>
      cases i with
      | zero =>
          obtain rfl : x = a := by simpa using h
          exact ⟨by simp [ha], fun f => by simp [updateFirst, ha], by simp [ha]⟩
      | succ i =>
          have hx : p x = false := hpre 0 (by omega) x rfl
          have hrest : ∀ j, j < i → ∀ b, l[j]? = some b → p b = false :=
            fun j hj b hb => hpre (j + 1) (by omega) b (by simpa using hb)
          obtain ⟨hfind, hup, her⟩ := ih (by simpa using h) hrest
          exact ⟨by simp [hx, hfind], fun f => by simp [updateFirst, hx, hup f], by simp [hx, her]⟩

/-- Behind a match nothing is written to. -/
theorem getElem?_updateFirst_of_earlier {p : α → Bool} {l : List α} {i j : Nat} {b : α}
    (hj : j < i) (hb : l[j]? = some b) (hp : p b = true) (f : α → α) :
    (updateFirst p f l)[i]? = l[i]? := by
  induction l generalizing i j with
  | nil => simp at hb
  | cons x l ih =>
      obtain ⟨i, rfl⟩ : ∃ k, i = k + 1 := ⟨i - 1, by omega⟩
      cases hx : p x with
      | true => simp [updateFirst, hx]
      | false =>
          cases j with
          | zero =>
              obtain rfl : x = b := by simpa using hb
              simp [hp] at hx
          | succ j =>
              have hrest := ih (Nat.lt_of_succ_lt_succ hj) (by simpa using hb)
              simpa [updateFirst, hx] using hrest

/-! ## Lists with distinct keys

Where the keys are distinct, the first object with a key is the only one: acting on it is acting on
every object with that key, as a table does that is addressed by key. -/

variable {κ : Type} {key : α → κ} {k : κ} {p : α → Bool} {l : List α}

/-- No later object has the key of the first. -/
theorem ne_of_nodup_cons {a : α} (h : ((a :: l).map key).Nodup) : ∀ b ∈ l, key b ≠ key a := by
  intro b hb hk
  exact (List.nodup_cons.1 h).1 (hk ▸ List.mem_map_of_mem hb)

/-- The object found is the one with the key. -/
theorem find?_eq_some_iff_key (hp : ∀ a, p a = true ↔ key a = k) (h : (l.map key).Nodup) {a : α} :
    l.find? p = some a ↔ a ∈ l ∧ key a = k := by
  constructor
  · exact fun hfind => ⟨List.mem_of_find?_eq_some hfind, (hp a).1 (List.find?_some hfind)⟩
  · rintro ⟨ha, hk⟩
    cases hfind : l.find? p with
    | none => simpa [(hp a).2 hk] using List.find?_eq_none.1 hfind a ha
    | some b =>
        have hb : key b = key a := ((hp b).1 (List.find?_some hfind)).trans hk.symm
        rw [List.inj_on_of_nodup_map h (List.mem_of_find?_eq_some hfind) ha hb]

variable [DecidableEq κ]

theorem updateFirst_eq_map (hp : ∀ a, p a = true ↔ key a = k) (h : (l.map key).Nodup)
    (f : α → α) : updateFirst p f l = l.map fun a => if key a = k then f a else a := by
  induction l with
  | nil => rfl
  | cons a l ih =>
      by_cases ha : key a = k
      · have hrest : (l.map fun b => if key b = k then f b else b) = l.map id :=
          List.map_congr_left fun b hb => if_neg (ha ▸ ne_of_nodup_cons h b hb)
        simp [updateFirst, (hp a).2 ha, ha, hrest]
      · have hpa : p a = false := Bool.eq_false_iff.2 fun h => ha ((hp a).1 h)
        simp [updateFirst, hpa, ha, ih (List.nodup_cons.1 h).2]

theorem eraseP_eq_filter (hp : ∀ a, p a = true ↔ key a = k) (h : (l.map key).Nodup) :
    l.eraseP p = l.filter fun a => key a ≠ k := by
  induction l with
  | nil => rfl
  | cons a l ih =>
      by_cases ha : key a = k
      · have hrest : (l.filter fun b => key b ≠ k) = l :=
          List.filter_eq_self.2 fun b hb => by simpa using ha ▸ ne_of_nodup_cons h b hb
        rw [List.eraseP_cons_of_pos ((hp a).2 ha), List.filter_cons_of_neg (by simp [ha]), hrest]
      · have hpa : ¬ p a = true := fun h => ha ((hp a).1 h)
        rw [List.eraseP_cons_of_neg hpa, ih (List.nodup_cons.1 h).2,
          List.filter_cons_of_pos (by simpa using ha)]

end Nourgomla
