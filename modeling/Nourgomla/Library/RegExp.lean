import Mathlib.Computability.Language

set_option autoImplicit false

/-! # Regular expressions over classes of letters

A `RegExp` is made of classes, which are predicates on the letters, so that a class may be the complement of
another one. `accepts` decides by derivatives whether a word is in the language (`accepts_iff`). The rest says what the
languages of the usual abbreviations are: `plus`, `between` (a bounded number of letters), and `sepBy`, words with
a letter between each two of them. -/

namespace Nourgomla

open Language Computability

variable {α : Type}

inductive RegExp (α : Type)
  | empty
  | epsilon
  | cls (p : α → Bool)
  | seq (r s : RegExp α)
  | alt (r s : RegExp α)
  | star (r : RegExp α)

namespace RegExp

def lang : RegExp α → Language α
  | empty => 0
  | epsilon => 1
  | cls p => {w | ∃ a, p a = true ∧ w = [a]}
  | seq r s => r.lang * s.lang
  | alt r s => r.lang + s.lang
  | star r => r.lang∗

section

variable {r s : RegExp α} {p : α → Bool} {w : List α}

@[simp] theorem mem_empty : w ∈ (empty : RegExp α).lang ↔ False := iff_of_false (Language.notMem_zero w) id

@[simp] theorem mem_epsilon : w ∈ (epsilon : RegExp α).lang ↔ w = [] := Language.mem_one w

@[simp] theorem mem_cls : w ∈ (cls p).lang ↔ ∃ a, p a = true ∧ w = [a] := Iff.rfl

@[simp] theorem mem_seq : w ∈ (seq r s).lang ↔ ∃ u ∈ r.lang, ∃ v ∈ s.lang, u ++ v = w := Language.mem_mul

@[simp] theorem mem_alt : w ∈ (alt r s).lang ↔ w ∈ r.lang ∨ w ∈ s.lang := Language.mem_add _ _ w

theorem mem_star : w ∈ (star r).lang ↔ ∃ words : List (List α), w = words.flatten ∧ ∀ u ∈ words, u ∈ r.lang :=
  Language.mem_kstar

end

/-! ## Derivatives -/

def nullable : RegExp α → Bool
  | empty => false
  | epsilon => true
  | cls _ => false
  | seq r s => r.nullable && s.nullable
  | alt r s => r.nullable || s.nullable
  | star _ => true

/-- What can follow the letter `a`. -/
def deriv (a : α) : RegExp α → RegExp α
  | empty => empty
  | epsilon => empty
  | cls p => if p a then epsilon else empty
  | seq r s => if r.nullable then alt (seq (r.deriv a) s) (s.deriv a) else seq (r.deriv a) s
  | alt r s => alt (r.deriv a) (s.deriv a)
  | star r => seq (r.deriv a) (star r)

def accepts : RegExp α → List α → Bool
  | r, [] => r.nullable
  | r, a :: w => (r.deriv a).accepts w

theorem nullable_iff (r : RegExp α) : r.nullable = true ↔ [] ∈ r.lang := by
  induction r with
  | empty => simp [nullable]
  | epsilon => simp [nullable]
  | cls p => simp [nullable]
  | seq r s ihr ihs =>
      rw [nullable, Bool.and_eq_true, ihr, ihs, mem_seq]
      constructor
      · rintro ⟨hr, hs⟩
        exact ⟨[], hr, [], hs, rfl⟩
      · rintro ⟨u, hu, v, hv, huv⟩
        obtain ⟨rfl, rfl⟩ := List.append_eq_nil_iff.1 huv
        exact ⟨hu, hv⟩
  | alt r s ihr ihs => rw [nullable, Bool.or_eq_true, ihr, ihs, mem_alt]
  | star r ih => exact iff_of_true rfl (Language.nil_mem_kstar _)

/-- A word of a sequence begins in the first part, or in the second one if the first can be empty. -/
theorem cons_mem_seq {r s : RegExp α} {a : α} {w : List α} :
    a :: w ∈ (seq r s).lang ↔
      (∃ u, a :: u ∈ r.lang ∧ ∃ v ∈ s.lang, u ++ v = w) ∨ ([] ∈ r.lang ∧ a :: w ∈ s.lang) := by
  rw [mem_seq]
  constructor
  · rintro ⟨u, hu, v, hv, huv⟩
    cases u with
    | nil => exact .inr ⟨hu, huv ▸ hv⟩
    | cons b u =>
        obtain ⟨rfl, rfl⟩ := List.cons.inj huv
        exact .inl ⟨u, hu, v, hv, rfl⟩
  · rintro (⟨u, hu, v, hv, rfl⟩ | ⟨hnil, hw⟩)
    · exact ⟨a :: u, hu, v, hv, rfl⟩
    · exact ⟨[], hnil, a :: w, hw, rfl⟩

/-- A word of a repetition begins with a word that is not empty. -/
theorem cons_mem_star {r : RegExp α} {a : α} {w : List α} :
    a :: w ∈ (star r).lang ↔ ∃ u, a :: u ∈ r.lang ∧ ∃ v ∈ (star r).lang, u ++ v = w := by
  constructor
  · rw [mem_star]
    rintro ⟨words, hwords, hall⟩
    induction words with
    | nil => cases hwords
    | cons first words ih =>
        cases first with
        | nil => exact ih (by simpa using hwords) fun y hy => hall y (List.mem_cons_of_mem _ hy)
        | cons b u =>
            obtain ⟨rfl, rfl⟩ := List.cons.inj hwords
            exact ⟨u, hall _ (by simp), words.flatten,
              Language.join_mem_kstar fun y hy => hall y (List.mem_cons_of_mem _ hy), rfl⟩
  · rintro ⟨u, hu, v, hv, rfl⟩
    show _ ∈ r.lang∗
    rw [← Language.one_add_self_mul_kstar_eq_kstar, Language.mem_add]
    exact .inr (Language.append_mem_mul hu hv)

theorem mem_deriv (a : α) (r : RegExp α) (w : List α) : w ∈ (r.deriv a).lang ↔ a :: w ∈ r.lang := by
  induction r generalizing w with
  | empty => simp [deriv]
  | epsilon => simp [deriv]
  | cls p =>
      by_cases ha : p a = true
      · simp [deriv, ha]
      · simp only [deriv, ha, Bool.false_eq_true, if_false, mem_empty, mem_cls, List.cons.injEq, false_iff]
        rintro ⟨b, hb, rfl, -⟩
        exact ha hb
  | seq r s ihr ihs =>
      have hfirst : w ∈ (seq (r.deriv a) s).lang ↔ ∃ u, a :: u ∈ r.lang ∧ ∃ v ∈ s.lang, u ++ v = w := by
        simp only [mem_seq, ihr]
      rw [cons_mem_seq, ← nullable_iff, ← hfirst, deriv]
      split
      · rename_i hnullable
        rw [mem_alt, ihs, and_iff_right hnullable]
      · rename_i hnullable
        rw [or_iff_left fun h => hnullable h.1]
  | alt r s ihr ihs => rw [deriv, mem_alt, mem_alt, ihr, ihs]
  | star r ih => simp only [deriv, mem_seq, ih, cons_mem_star]

/-- The words that are accepted are those of the language. -/
theorem accepts_iff (r : RegExp α) (w : List α) : r.accepts w = true ↔ w ∈ r.lang := by
  induction w generalizing r with
  | nil => exact nullable_iff r
  | cons a w ih => rw [accepts, ih, mem_deriv]

/-! ## Abbreviations -/

/-- `r+` -/
def plus (r : RegExp α) : RegExp α := seq r (star r)

/-- `r{m,n}` with `n = m + extra` -/
def between (r : RegExp α) (m extra : ℕ) : RegExp α :=
  match m, extra with
  | 0, 0 => epsilon
  | 0, extra + 1 => alt epsilon (seq r (between r 0 extra))
  | m + 1, extra => seq r (between r m extra)

/-- `r{m,}` -/
def atLeast (r : RegExp α) (m : ℕ) : RegExp α :=
  match m with
  | 0 => star r
  | m + 1 => seq r (atLeast r m)

/-- The letter `a`. -/
def letter [DecidableEq α] (a : α) : RegExp α := cls fun b => b = a

section

variable {r : RegExp α} {p : α → Bool} {w : List α}

@[simp] theorem mem_letter [DecidableEq α] {a : α} : w ∈ (letter a).lang ↔ w = [a] := by
  simp [letter]

theorem mem_star_cls : w ∈ (star (cls p)).lang ↔ ∀ a ∈ w, p a = true := by
  induction w with
  | nil => exact iff_of_true (Language.nil_mem_kstar _) (by simp)
  | cons a w ih =>
      rw [cons_mem_star, List.forall_mem_cons, ← ih]
      constructor
      · rintro ⟨u, ⟨b, hb, heq⟩, v, hv, rfl⟩
        obtain ⟨rfl, rfl⟩ := List.cons.inj heq
        exact ⟨hb, hv⟩
      · rintro ⟨ha, hw⟩
        exact ⟨[], ⟨a, ha, rfl⟩, w, hw, rfl⟩

theorem mem_seq_cls {s : RegExp α} :
    w ∈ (seq (cls p) s).lang ↔ ∃ a v, p a = true ∧ v ∈ s.lang ∧ w = a :: v := by
  rw [mem_seq]
  constructor
  · rintro ⟨u, ⟨a, ha, rfl⟩, v, hv, rfl⟩
    exact ⟨a, v, ha, hv, rfl⟩
  · rintro ⟨a, v, ha, hv, rfl⟩
    exact ⟨[a], ⟨a, ha, rfl⟩, v, hv, rfl⟩

theorem mem_plus_cls : w ∈ (plus (cls p)).lang ↔ w ≠ [] ∧ ∀ a ∈ w, p a = true := by
  rw [plus, mem_seq_cls]
  constructor
  · rintro ⟨a, v, ha, hv, rfl⟩
    exact ⟨List.cons_ne_nil a v, List.forall_mem_cons.2 ⟨ha, mem_star_cls.1 hv⟩⟩
  · rintro ⟨hne, hall⟩
    obtain ⟨a, v, rfl⟩ := List.exists_cons_of_ne_nil hne
    obtain ⟨ha, hv⟩ := List.forall_mem_cons.1 hall
    exact ⟨a, v, ha, mem_star_cls.2 hv, rfl⟩

/-- A bounded number of letters of a class. -/
theorem mem_between_cls {m extra : ℕ} :
    w ∈ (between (cls p) m extra).lang ↔ m ≤ w.length ∧ w.length ≤ m + extra ∧ ∀ a ∈ w, p a = true := by
  induction m generalizing w with
  | zero =>
      induction extra generalizing w with
      | zero =>
          rw [between, mem_epsilon]
          constructor
          · rintro rfl
            simp
          · rintro ⟨-, hlength, -⟩
            exact List.length_eq_zero_iff.1 (Nat.le_zero.1 hlength)
      | succ extra ih =>
          rw [between, mem_alt, mem_epsilon, mem_seq_cls]
          constructor
          · rintro (rfl | ⟨a, v, ha, hv, rfl⟩)
            · simp
            · obtain ⟨-, hlength, hall⟩ := ih.1 hv
              refine ⟨Nat.zero_le _, ?_, List.forall_mem_cons.2 ⟨ha, hall⟩⟩
              rw [List.length_cons]
              omega
          · rintro ⟨-, hlength, hall⟩
            cases w with
            | nil => exact .inl rfl
            | cons a v =>
                obtain ⟨ha, hv⟩ := List.forall_mem_cons.1 hall
                rw [List.length_cons] at hlength
                exact .inr ⟨a, v, ha, ih.2 ⟨Nat.zero_le _, by omega, hv⟩, rfl⟩
  | succ m ih =>
      rw [between, mem_seq_cls]
      constructor
      · rintro ⟨a, v, ha, hv, rfl⟩
        obtain ⟨hleast, hmost, hall⟩ := ih.1 hv
        refine ⟨?_, ?_, List.forall_mem_cons.2 ⟨ha, hall⟩⟩ <;> rw [List.length_cons] <;> omega
      · rintro ⟨hleast, hmost, hall⟩
        cases w with
        | nil => simp at hleast
        | cons a v =>
            obtain ⟨ha, hv⟩ := List.forall_mem_cons.1 hall
            rw [List.length_cons] at hleast hmost
            exact ⟨a, v, ha, ih.2 ⟨by omega, by omega, hv⟩, rfl⟩

theorem mem_atLeast_cls {m : ℕ} :
    w ∈ (atLeast (cls p) m).lang ↔ m ≤ w.length ∧ ∀ a ∈ w, p a = true := by
  induction m generalizing w with
  | zero =>
      rw [atLeast, mem_star_cls]
      exact (and_iff_right (Nat.zero_le _)).symm
  | succ m ih =>
      rw [atLeast, mem_seq_cls]
      constructor
      · rintro ⟨a, v, ha, hv, rfl⟩
        obtain ⟨hleast, hall⟩ := ih.1 hv
        exact ⟨Nat.succ_le_succ hleast, List.forall_mem_cons.2 ⟨ha, hall⟩⟩
      · rintro ⟨hleast, hall⟩
        cases w with
        | nil => simp at hleast
        | cons a v =>
            obtain ⟨ha, hv⟩ := List.forall_mem_cons.1 hall
            exact ⟨a, v, ha, ih.2 ⟨Nat.le_of_succ_le_succ hleast, hv⟩, rfl⟩

/-! ## Words with a letter between them -/

variable [DecidableEq α] {sep : α}

/-- `r (sep r)*` -/
def sepBy (sep : α) (r : RegExp α) : RegExp α := seq r (star (seq (letter sep) r))

/-- `(r sep)+ t` -/
def endedBy (sep : α) (r t : RegExp α) : RegExp α := seq (plus (seq r (letter sep))) t

omit [DecidableEq α] in
theorem intercalate_cons (word : List α) (words : List (List α)) :
    [sep].intercalate (word :: words) = word ++ (words.map (sep :: ·)).flatten := by
  induction words generalizing word with
  | nil => simp
  | cons next words ih => rw [List.intercalate_cons_cons, ih, List.map_cons, List.flatten_cons]; simp

omit [DecidableEq α] in
theorem intercalate_concat (words : List (List α)) (last : List α) :
    [sep].intercalate (words ++ [last]) = (words.map (· ++ [sep])).flatten ++ last := by
  induction words with
  | nil => simp
  | cons word words ih =>
      rw [List.cons_append, List.intercalate_cons_of_ne_nil (by simp), ih, List.map_cons, List.flatten_cons]
      simp

omit [DecidableEq α] in
/-- The words of a repetition, where a word of `r` is a word of `s` in some form. -/
theorem mem_star_of_image {s : RegExp α} {f : List α → List α}
    (hr : ∀ u, u ∈ r.lang ↔ ∃ v ∈ s.lang, u = f v) :
    w ∈ (star r).lang ↔ ∃ words : List (List α), (∀ v ∈ words, v ∈ s.lang) ∧ w = (words.map f).flatten := by
  rw [mem_star]
  constructor
  · rintro ⟨words, rfl, hwords⟩
    induction words with
    | nil => exact ⟨[], by simp, rfl⟩
    | cons u words ih =>
        obtain ⟨v, hv, rfl⟩ := (hr u).1 (hwords u (by simp))
        obtain ⟨vs, hvs, hflatten⟩ := ih fun u hu => hwords u (List.mem_cons_of_mem _ hu)
        exact ⟨v :: vs, List.forall_mem_cons.2 ⟨hv, hvs⟩, by simp [hflatten]⟩
  · rintro ⟨words, hwords, rfl⟩
    refine ⟨words.map f, rfl, fun u hu => ?_⟩
    obtain ⟨v, hv, rfl⟩ := List.mem_map.1 hu
    exact (hr _).2 ⟨v, hwords v hv, rfl⟩

theorem mem_sepBy : w ∈ (sepBy sep r).lang ↔
    ∃ words : List (List α), words ≠ [] ∧ (∀ u ∈ words, u ∈ r.lang) ∧ w = [sep].intercalate words := by
  have hled (u : List α) : u ∈ (seq (letter sep) r).lang ↔ ∃ v ∈ r.lang, u = sep :: v := by
    simp [eq_comm]
  rw [sepBy, mem_seq]
  constructor
  · rintro ⟨u, hu, v, hv, rfl⟩
    obtain ⟨words, hwords, rfl⟩ := (mem_star_of_image hled).1 hv
    exact ⟨u :: words, List.cons_ne_nil _ _, List.forall_mem_cons.2 ⟨hu, hwords⟩, (intercalate_cons u words).symm⟩
  · rintro ⟨words, hne, hwords, rfl⟩
    obtain ⟨u, words, rfl⟩ := List.exists_cons_of_ne_nil hne
    obtain ⟨hu, hrest⟩ := List.forall_mem_cons.1 hwords
    exact ⟨u, hu, _, (mem_star_of_image hled).2 ⟨words, hrest, rfl⟩, (intercalate_cons u words).symm⟩

theorem mem_endedBy {t : RegExp α} : w ∈ (endedBy sep r t).lang ↔
    ∃ words last, words ≠ [] ∧ (∀ u ∈ words, u ∈ r.lang) ∧ last ∈ t.lang ∧
      w = [sep].intercalate (words ++ [last]) := by
  have hfollowed (u : List α) : u ∈ (seq r (letter sep)).lang ↔ ∃ v ∈ r.lang, u = v ++ [sep] := by
    simp [eq_comm]
  rw [endedBy, mem_seq]
  constructor
  · rintro ⟨u, hu, last, hlast, rfl⟩
    obtain ⟨first, hfirst, rest, hrest, rfl⟩ := mem_seq.1 hu
    obtain ⟨v, hv, rfl⟩ := (hfollowed first).1 hfirst
    obtain ⟨words, hwords, rfl⟩ := (mem_star_of_image hfollowed).1 hrest
    refine ⟨v :: words, last, List.cons_ne_nil _ _, List.forall_mem_cons.2 ⟨hv, hwords⟩, hlast, ?_⟩
    rw [intercalate_concat, List.map_cons, List.flatten_cons]
  · rintro ⟨words, last, hne, hwords, hlast, rfl⟩
    obtain ⟨v, words, rfl⟩ := List.exists_cons_of_ne_nil hne
    obtain ⟨hv, hrest⟩ := List.forall_mem_cons.1 hwords
    refine ⟨_, mem_seq.2 ⟨v ++ [sep], (hfollowed _).2 ⟨v, hv, rfl⟩, _, (mem_star_of_image hfollowed).2
      ⟨words, hrest, rfl⟩, rfl⟩, last, hlast, ?_⟩
    rw [intercalate_concat, List.map_cons, List.flatten_cons]

end
end RegExp
end Nourgomla
