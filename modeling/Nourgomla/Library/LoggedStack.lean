import Mathlib.Data.List.Perm.Basic
import Mathlib.Tactic.Common

set_option autoImplicit false

/-! # Stacks that are popped by position

A program puts layers on a stack and takes the top one off again without naming it. Some of its layers are
marked: they are meant to be taken off again, each once, while everything else stays (`TakesOff`). Whether
that is so can be told from the operations alone, by counting the marked layers that are on
(`takesOff_iff_tally`): a layer may be taken off only while a marked one is on, and another kind of layer
put on only while none is. -/

namespace Nourgomla

/-- A stack, the top first, with the history of what was put on and what was taken off. -/
structure LoggedStack (α : Type) where
  stack : List α := []
  pushed : List α := []
  popped : List α := []

inductive StackOp (α : Type)
  | push (a : α)
  | pop

namespace LoggedStack

variable {α : Type} {marked : α → Bool}

def push (a : α) (s : LoggedStack α) : LoggedStack α :=
  { s with stack := a :: s.stack, pushed := s.pushed ++ [a] }

/-- With nothing left to take off this does nothing. -/
def pop (s : LoggedStack α) : LoggedStack α :=
  match s.stack with
  | [] => s
  | a :: rest => { s with stack := rest, popped := s.popped ++ [a] }

def apply (s : LoggedStack α) : StackOp α → LoggedStack α
  | .push a => s.push a
  | .pop => s.pop

def applyAll (s : LoggedStack α) (ops : List (StackOp α)) : LoggedStack α :=
  ops.foldl apply s

/-- What was taken off is what was put on and is marked, each layer once. -/
def TakesOff (marked : α → Bool) (s : LoggedStack α) : Prop :=
  s.popped.Perm (s.pushed.filter marked)

/-! ## Nothing gets lost -/

/-- A stack over a base without marked layers: what is marked is on or was taken off. -/
def Conserves (marked : α → Bool) (s : LoggedStack α) : Prop :=
  (s.stack.filter marked ++ s.popped.filter marked).Perm (s.pushed.filter marked)

theorem conserves_apply {s : LoggedStack α} (h : s.Conserves marked) (op : StackOp α) :
    (s.apply op).Conserves marked := by
  cases op with
  | push a =>
      by_cases ha : marked a
      · simp only [Conserves, apply, push, List.filter_cons_of_pos ha, List.filter_append,
          List.filter_nil, List.cons_append]
        exact (h.cons a).trans (List.perm_append_singleton a _).symm
      · simpa [Conserves, apply, push, ha] using h
  | pop =>
      rcases s with ⟨stack, pushed, popped⟩
      cases stack with
      | nil => exact h
      | cons a rest =>
          by_cases ha : marked a
          · simp only [Conserves, apply, pop, List.filter_append, List.filter_cons_of_pos ha,
              List.filter_nil, ← List.append_assoc] at h ⊢
            exact (List.perm_append_singleton a _).trans h
          · simpa [Conserves, apply, pop, ha] using h

/-- Everything marked was taken off and nothing else exactly if nothing marked is on. -/
theorem takesOff_iff {s : LoggedStack α} (h : s.Conserves marked) :
    s.TakesOff marked ↔ (∀ a ∈ s.popped, marked a = true) ∧ ∀ a ∈ s.stack, marked a = false := by
  constructor
  · intro htakes
    have hpopped : ∀ a ∈ s.popped, marked a = true :=
      fun a ha => (List.mem_filter.1 (htakes.mem_iff.1 ha)).2
    have hlength := (h.trans htakes.symm).length_eq
    rw [List.length_append, List.filter_eq_self.2 hpopped] at hlength
    have hnone : s.stack.filter marked = [] := List.eq_nil_of_length_eq_zero (by omega)
    exact ⟨hpopped, by simpa using hnone⟩
  · rintro ⟨hpopped, hstack⟩
    have hnone : s.stack.filter marked = [] := by simpa using hstack
    rwa [Conserves, hnone, List.nil_append, List.filter_eq_self.2 hpopped] at h

/-! ## Counting -/

/-- How many marked layers are on, and how many others under them. -/
structure Tally where
  marked : Nat
  others : Nat
deriving DecidableEq

/-- The count after an operation, as long as nothing has gone wrong. -/
def Tally.after (marked : α → Bool) (t : Tally) : StackOp α → Option Tally
  | .push a =>
    if marked a then some { t with marked := t.marked + 1 }
    else if t.marked = 0 then some { t with others := t.others + 1 }
    else none
  | .pop =>
    if 0 < t.marked then some { t with marked := t.marked - 1 }
    else if t.others = 0 then some t
    else none

def tallyAll (marked : α → Bool) (t : Option Tally) (ops : List (StackOp α)) : Option Tally :=
  ops.foldl (fun t op => t.bind (·.after marked op)) t

@[simp] theorem tallyAll_none (marked : α → Bool) (ops : List (StackOp α)) :
    tallyAll marked none ops = none := by
  induction ops with
  | nil => rfl
  | cons op ops ih => exact ih

/-- The marked layers lie on the others, and nothing else has been taken off. -/
structure Counted (marked : α → Bool) (s : LoggedStack α) (t : Tally) : Prop where
  layers : ∃ top rest, s.stack = top ++ rest ∧ top.length = t.marked ∧ rest.length = t.others ∧
    (∀ a ∈ top, marked a = true) ∧ ∀ a ∈ rest, marked a = false
  popped : ∀ a ∈ s.popped, marked a = true

/-- Another layer was taken off, or lies on a marked one. -/
def Spoilt (marked : α → Bool) (s : LoggedStack α) : Prop :=
  (∃ a ∈ s.popped, marked a = false) ∨
    ∃ top a rest, s.stack = top ++ a :: rest ∧ marked a = false ∧ ∃ b ∈ rest, marked b = true

theorem spoilt_apply {s : LoggedStack α} (h : s.Spoilt marked) (op : StackOp α) :
    (s.apply op).Spoilt marked := by
  rcases s with ⟨stack, pushed, popped⟩
  rcases h with ⟨a, ha, hmarked⟩ | ⟨top, a, rest, hstack, hmarked, b, hb, hbmarked⟩
  · left
    cases op with
    | push b => exact ⟨a, ha, hmarked⟩
    | pop =>
        cases stack with
        | nil => exact ⟨a, ha, hmarked⟩
        | cons b rest => exact ⟨a, List.mem_append_left _ ha, hmarked⟩
  · obtain rfl : stack = top ++ a :: rest := hstack
    cases op with
    | push c => exact .inr ⟨c :: top, a, rest, rfl, hmarked, b, hb, hbmarked⟩
    | pop =>
        cases top with
        | nil => exact .inl ⟨a, List.mem_append_right _ (List.mem_singleton.2 rfl), hmarked⟩
        | cons c top => exact .inr ⟨top, a, rest, rfl, hmarked, b, hb, hbmarked⟩

/-- What one operation makes of the count. -/
theorem counted_apply {s : LoggedStack α} {t : Tally} (h : s.Counted marked t) (op : StackOp α) :
    (∃ t', t.after marked op = some t' ∧ (s.apply op).Counted marked t') ∨
      t.after marked op = none ∧ (s.apply op).Spoilt marked := by
  obtain ⟨⟨top, rest, hstack, htop, hrest, hmarked, hothers⟩, hpopped⟩ := h
  rcases s with ⟨stack, pushed, popped⟩
  obtain rfl : stack = top ++ rest := hstack
  cases op with
  | push a =>
      by_cases ha : marked a = true
      · refine .inl ⟨{ t with marked := t.marked + 1 }, by simp [Tally.after, ha], ?_, hpopped⟩
        exact ⟨a :: top, rest, rfl, by simp [htop], hrest, List.forall_mem_cons.2 ⟨ha, hmarked⟩,
          hothers⟩
      · have ha : marked a = false := by simpa using ha
        cases top with
        | nil =>
            have hzero : t.marked = 0 := htop.symm
            refine .inl ⟨{ t with others := t.others + 1 }, by simp [Tally.after, ha, hzero], ?_,
              hpopped⟩
            exact ⟨[], a :: rest, rfl, htop, by simp [hrest], hmarked,
              List.forall_mem_cons.2 ⟨ha, hothers⟩⟩
        | cons b top =>
            have hsome : t.marked ≠ 0 := by rw [← htop]; simp
            refine .inr ⟨by simp [Tally.after, ha, hsome], .inr ⟨[], a, _, rfl, ha, b, ?_⟩⟩
            exact ⟨List.mem_cons_self, hmarked b List.mem_cons_self⟩
  | pop =>
      cases top with
      | cons b top =>
          obtain ⟨hb, hmarked⟩ := List.forall_mem_cons.1 hmarked
          have hsome : 0 < t.marked := by rw [← htop]; simp
          refine .inl ⟨{ t with marked := t.marked - 1 }, by simp [Tally.after, hsome], ?_, ?_⟩
          · refine ⟨top, rest, rfl, ?_, hrest, hmarked, hothers⟩
            rw [← htop]
            simp
          · intro a ha
            rcases List.mem_append.1 ha with ha | ha
            · exact hpopped a ha
            · exact List.mem_singleton.1 ha ▸ hb
      | nil =>
          have hzero : t.marked = 0 := htop.symm
          cases rest with
          | nil =>
              have hnone : t.others = 0 := hrest.symm
              refine .inl ⟨t, by simp [Tally.after, hzero, hnone], ?_, hpopped⟩
              exact ⟨[], [], rfl, htop, hrest, hmarked, hothers⟩
          | cons a rest =>
              have hsome : t.others ≠ 0 := by rw [← hrest]; simp
              have ha := hothers a List.mem_cons_self
              exact .inr ⟨by simp [Tally.after, hzero, hsome],
                .inl ⟨a, List.mem_append_right _ (List.mem_singleton.2 rfl), ha⟩⟩

/-- The count is right, or it has stopped because something has gone wrong for good. -/
def Follows (marked : α → Bool) (s : LoggedStack α) : Option Tally → Prop
  | some t => s.Counted marked t
  | none => s.Spoilt marked

theorem follows_applyAll {s : LoggedStack α} {t : Option Tally} (h : s.Follows marked t)
    (ops : List (StackOp α)) : (s.applyAll ops).Follows marked (tallyAll marked t ops) := by
  induction ops generalizing s t with
  | nil => exact h
  | cons op ops ih =>
      refine @ih (s.apply op) (t.bind (·.after marked op)) ?_
      cases t with
      | none => exact spoilt_apply h op
      | some t =>
          rcases counted_apply h op with ⟨t', hafter, hcounted⟩ | ⟨hafter, hspoilt⟩
          · simpa [Follows, hafter] using hcounted
          · simpa [Follows, hafter] using hspoilt

theorem conserves_applyAll {s : LoggedStack α} (h : s.Conserves marked)
    (ops : List (StackOp α)) : (s.applyAll ops).Conserves marked := by
  induction ops generalizing s with
  | nil => exact h
  | cons op ops ih => exact ih (conserves_apply h op)

theorem takesOff_iff_follows {s : LoggedStack α} {t : Option Tally} (hs : s.Conserves marked)
    (h : s.Follows marked t) : s.TakesOff marked ↔ ∃ others, t = some ⟨0, others⟩ := by
  rw [takesOff_iff hs]
  cases t with
  | none =>
      refine ⟨fun ⟨hpopped, hstack⟩ => ?_, fun ⟨_, hnone⟩ => by cases hnone⟩
      rcases h with ⟨a, ha, hmarked⟩ | ⟨top, a, rest, hlayers, -, b, hb, hmarked⟩
      · rw [hpopped a ha] at hmarked
        cases hmarked
      · have hb' : b ∈ s.stack := by
          rw [hlayers]
          exact List.mem_append_right _ (List.mem_cons_of_mem a hb)
        rw [hstack b hb'] at hmarked
        cases hmarked
  | some t =>
      obtain ⟨⟨top, rest, hlayers, htop, -, hmarked, hothers⟩, hpopped⟩ := h
      constructor
      · rintro ⟨-, hstack⟩
        cases top with
        | nil => exact ⟨t.others, by rw [show t = ⟨t.marked, t.others⟩ from rfl, ← htop]; rfl⟩
        | cons b top =>
            have hb := hstack b (by rw [hlayers]; exact List.mem_append_left _ List.mem_cons_self)
            rw [hmarked b List.mem_cons_self] at hb
            cases hb
      · rintro ⟨others, hzero⟩
        obtain rfl := Option.some.inj hzero
        obtain rfl : top = [] := List.eq_nil_of_length_eq_zero htop
        exact ⟨hpopped, by rw [hlayers]; exact hothers⟩

/-! ## Over a base without marked layers -/

def atop (base : List α) : LoggedStack α := { stack := base }

theorem conserves_atop {base : List α} (hbase : ∀ a ∈ base, marked a = false) :
    (atop base).Conserves marked := by
  have hnone : base.filter marked = [] := by simpa using hbase
  simp [Conserves, atop, hnone]

theorem counted_atop {base : List α} (hbase : ∀ a ∈ base, marked a = false) :
    (atop base).Counted marked ⟨0, base.length⟩ :=
  ⟨⟨[], base, rfl, rfl, rfl, by simp, hbase⟩, by simp [atop]⟩

/-- **Counting is exact.** -/
theorem takesOff_iff_tally {base : List α} (hbase : ∀ a ∈ base, marked a = false)
    (ops : List (StackOp α)) : ((atop base).applyAll ops).TakesOff marked ↔
      ∃ others, tallyAll marked (some ⟨0, base.length⟩) ops = some ⟨0, others⟩ := by
  have hstart : (atop base).Follows marked (some ⟨0, base.length⟩) := counted_atop hbase
  exact takesOff_iff_follows (conserves_applyAll (conserves_atop hbase) ops)
    (follows_applyAll hstart ops)

end LoggedStack
end Nourgomla
