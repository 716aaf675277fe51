import Nourgomla.Helpers.Validators

set_option autoImplicit false

/-! # The addresses that are accepted

What the expression of `emailValidator` accepts, in the words of a mail address: atoms, labels and numbers with points
between them. -/

namespace Nourgomla

open RegExp

def IsAtom (word : List Char) : Prop := word ≠ [] ∧ ∀ c ∈ word, isAtomChar c = true

/-- Atoms with points between them, or a quoted text on one line. -/
def IsLocalPart (word : List Char) : Prop :=
  (∃ atoms : List (List Char), atoms ≠ [] ∧ (∀ atom ∈ atoms, IsAtom atom) ∧ word = ['.'].intercalate atoms) ∨
    ∃ text : List Char, text ≠ [] ∧ (∀ c ∈ text, isLineChar c = true) ∧ word = quoteChar :: (text ++ [quoteChar])

/-- A number of one, two or three digits. -/
def IsAddressByte (word : List Char) : Prop :=
  1 ≤ word.length ∧ word.length ≤ 3 ∧ ∀ c ∈ word, isDigitChar c = true

def IsLabel (word : List Char) : Prop := word ≠ [] ∧ ∀ c ∈ word, isLabelChar c = true

/-- Four numbers in brackets, or labels and a name of at least two letters, with points between them. -/
def IsDomain (word : List Char) : Prop :=
  (∃ bytes : List (List Char), bytes.length = 4 ∧ (∀ byte ∈ bytes, IsAddressByte byte) ∧
      word = '[' :: (['.'].intercalate bytes ++ [']'])) ∨
    ∃ (labels : List (List Char)) (name : List Char), labels ≠ [] ∧ (∀ label ∈ labels, IsLabel label) ∧
      2 ≤ name.length ∧ (∀ c ∈ name, isLetterChar c = true) ∧ word = ['.'].intercalate (labels ++ [name])

theorem mem_localPart (word : List Char) : word ∈ localPart.lang ↔ IsLocalPart word := by
  simp only [localPart, mem_alt, mem_sepBy, mem_plus_cls, IsLocalPart, IsAtom]
  refine or_congr Iff.rfl ?_
  simp only [mem_seq, mem_letter, mem_plus_cls]
  constructor
  · rintro ⟨_, rfl, _, ⟨text, ⟨hne, hline⟩, _, rfl, rfl⟩, rfl⟩
    exact ⟨text, hne, hline, rfl⟩
  · rintro ⟨text, hne, hline, rfl⟩
    exact ⟨_, rfl, _, ⟨text, ⟨hne, hline⟩, _, rfl, rfl⟩, rfl⟩

theorem mem_addressByte (word : List Char) : word ∈ addressByte.lang ↔ IsAddressByte word :=
  mem_between_cls

theorem mem_domainPart (word : List Char) : word ∈ domainPart.lang ↔ IsDomain word := by
  rw [domainPart, mem_alt, IsDomain]
  refine or_congr ?_ ?_
  · simp only [mem_seq, mem_letter, mem_addressByte]
    constructor
    · rintro ⟨_, rfl, _, ⟨b₁, h₁, _, ⟨_, rfl, _, ⟨b₂, h₂, _, ⟨_, rfl, _, ⟨b₃, h₃, _, ⟨_, rfl, _, ⟨b₄, h₄, _, rfl, rfl⟩,
        rfl⟩, rfl⟩, rfl⟩, rfl⟩, rfl⟩, rfl⟩, rfl⟩
      exact ⟨[b₁, b₂, b₃, b₄], rfl, by simp [h₁, h₂, h₃, h₄], by simp [List.intercalate_cons_cons]⟩
    · rintro ⟨bytes, hlength, hbytes, rfl⟩
      obtain ⟨b₁, b₂, b₃, b₄, rfl⟩ := List.length_eq_four.1 hlength
      simp only [List.forall_mem_cons] at hbytes
      obtain ⟨h₁, h₂, h₃, h₄, -⟩ := hbytes
      exact ⟨_, rfl, _, ⟨b₁, h₁, _, ⟨_, rfl, _, ⟨b₂, h₂, _, ⟨_, rfl, _, ⟨b₃, h₃, _, ⟨_, rfl, _,
        ⟨b₄, h₄, _, rfl, rfl⟩, rfl⟩, rfl⟩, rfl⟩, rfl⟩, rfl⟩, rfl⟩, by simp [List.intercalate_cons_cons]⟩
  · rw [mem_endedBy]
    simp only [mem_plus_cls, mem_atLeast_cls, IsLabel]
    constructor
    · rintro ⟨labels, name, hne, hlabels, ⟨hname, hletters⟩, rfl⟩
      exact ⟨labels, name, hne, hlabels, hname, hletters, rfl⟩
    · rintro ⟨labels, name, hne, hlabels, hname, hletters, rfl⟩
      exact ⟨labels, name, hne, hlabels, ⟨hname, hletters⟩, rfl⟩

/-- **The addresses that are accepted.** No text but one of at most a hundred code units that is a local part, an at sign and
    a domain. -/
theorem emailValidator_eq_none_iff (val : Option String) :
    emailValidator val = none ↔ ∃ text, val = some text ∧ textLength text ≤ 100 ∧
      ∃ user domain, text.toList = user ++ '@' :: domain ∧ IsLocalPart user ∧ IsDomain domain := by
  have hemail (word : List Char) : validCharactersEmail.accepts word = true ↔
      ∃ user domain, word = user ++ '@' :: domain ∧ IsLocalPart user ∧ IsDomain domain := by
    rw [accepts_iff, validCharactersEmail]
    simp only [mem_seq, mem_letter, mem_localPart, mem_domainPart]
    constructor
    · rintro ⟨user, huser, _, ⟨_, rfl, domain, hdomain, rfl⟩, rfl⟩
      exact ⟨user, domain, rfl, huser, hdomain⟩
    · rintro ⟨user, domain, rfl, huser, hdomain⟩
      exact ⟨user, huser, _, ⟨_, rfl, domain, hdomain, rfl⟩, rfl⟩
  cases val with
  | none => simp [emailValidator]
  | some text =>
      simp only [emailValidator, Option.some.injEq, exists_eq_left']
      rw [← hemail]
      by_cases hempty : text = ""
      · -- the empty text has no at sign
        have hnot : validCharactersEmail.accepts text.toList = false := by
          rw [hempty, Bool.eq_false_iff, Ne, hemail]
          rintro ⟨user, domain, htext, -⟩
          simp at htext
        rw [hnot, if_pos hempty]
        simp
      · cases hmatch : validCharactersEmail.accepts text.toList with
        | false => simp [hempty]
        | true => simp [hempty]

end Nourgomla
