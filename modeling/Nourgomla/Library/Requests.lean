import Nourgomla.Library.Dictionary

set_option autoImplicit false

/-! # Requests that overtake each other

Requests are numbered in the order they are sent, and their answers arrive in any order. `Accounted` says that
every request is waiting or answered; it is all one needs to know that once nothing is waiting the newest
request has its answer. A view that every answer overwrites shows that answer in the end exactly if the last
one to arrive `Prevails` (`showsNewest_settle_iff`). -/

namespace Nourgomla

variable {β α : Type}

/-- The bodies sent so far, and the numbers of those without an answer. -/
structure Requests (β : Type) where
  sent : List β := []
  waiting : List Nat := []
deriving DecidableEq

namespace Requests

def send (r : Requests β) (body : β) : Requests β :=
  { sent := r.sent ++ [body], waiting := r.waiting ++ [r.sent.length] }

def settle (r : Requests β) (number : Nat) : Requests β :=
  { r with waiting := r.waiting.erase number }

/-- The number of the request that was sent last. -/
def newest (r : Requests β) : Nat := r.sent.length - 1

@[simp] theorem sent_send (r : Requests β) (body : β) : (r.send body).sent = r.sent ++ [body] := rfl

@[simp] theorem waiting_send (r : Requests β) (body : β) :
    (r.send body).waiting = r.waiting ++ [r.sent.length] := rfl

@[simp] theorem sent_settle (r : Requests β) (number : Nat) : (r.settle number).sent = r.sent := rfl

@[simp] theorem newest_settle (r : Requests β) (number : Nat) : (r.settle number).newest = r.newest := rfl

end Requests

/-- Every request that was sent is waiting or has its answer. -/
structure Accounted (r : Requests β) (answers : Dictionary Nat α) : Prop where
  sent : r.sent ≠ []
  accounted : ∀ number < r.sent.length, number ∈ r.waiting ∨ (answers number).isSome

/-- Once nothing is waiting, the newest request is about what is current and its answer is shown. -/
def ShowsNewest (r : Requests β) (answers : Dictionary Nat α) (current : β) (shows : α → Prop) : Prop :=
  r.waiting = [] → r.sent.getLast? = some current ∧ ∃ answer, answers r.newest = some answer ∧ shows answer

/-- The last answer to arrive is that of the newest request and right, or is as good as that one. -/
def Prevails (r : Requests β) (answers : Dictionary Nat α) (number : Nat) (right : Prop)
    (asGood : α → Prop) : Prop :=
  (r.settle number).waiting = [] →
    (number = r.newest ∧ right) ∨
      (number ≠ r.newest ∧ ∀ answer, answers r.newest = some answer → asGood answer)

namespace Accounted

variable {r : Requests β} {answers : Dictionary Nat α}

theorem send_first (body : β) : Accounted (({} : Requests β).send body) answers := by
  refine ⟨by simp, fun number hnumber => .inl ?_⟩
  have hzero : number < 1 := by simpa using hnumber
  simp only [Requests.waiting_send, List.nil_append, List.mem_singleton, List.length_nil]
  omega

theorem send (haccounted : Accounted r answers) (body : β) : Accounted (r.send body) answers := by
  refine ⟨by simp, fun number hnumber => ?_⟩
  simp only [Requests.sent_send, List.length_append, List.length_singleton] at hnumber
  simp only [Requests.waiting_send, List.mem_append, List.mem_singleton]
  by_cases hnew : number = r.sent.length
  · exact .inl (.inr hnew)
  · obtain hwaits | hanswered := haccounted.accounted number (by omega)
    · exact .inl (.inl hwaits)
    · exact .inr hanswered

theorem settle (haccounted : Accounted r answers) (number : Nat) (answer : α) :
    Accounted (r.settle number) (answers.assign number answer) := by
  refine ⟨haccounted.sent, fun other hother => ?_⟩
  by_cases hsame : other = number
  · subst hsame
    exact .inr (by simp [Dictionary.assign])
  · obtain hwaits | hanswered := haccounted.accounted other hother
    · exact .inl ((List.mem_erase_of_ne hsame).2 hwaits)
    · exact .inr (by simpa [Dictionary.assign, hsame] using hanswered)

theorem newest_answered (haccounted : Accounted r answers) (hnone : r.waiting = []) :
    ∃ answer, answers r.newest = some answer := by
  have hsent : 0 < r.sent.length := List.length_pos_iff.2 haccounted.sent
  have hlt : r.newest < r.sent.length := by
    unfold Requests.newest
    omega
  obtain hwaits | hanswered := haccounted.accounted r.newest hlt
  · simp [hnone] at hwaits
  · exact Option.isSome_iff_exists.1 hanswered

end Accounted

variable {r : Requests β} {answers : Dictionary Nat α} {current : β} {shows : α → Prop}

/-- A request that was just sent is waiting. -/
theorem showsNewest_send (body : β) : ShowsNewest (r.send body) answers current shows := by
  intro hnone
  simp at hnone

/-- The answer that is shown now is the only one that counts, and if it is not the newest request's, that one
    has been answered before. -/
theorem showsNewest_settle_iff (haccounted : Accounted r answers) (hcurrent : r.sent.getLast? = some current)
    (number : Nat) (answer : α) :
    ShowsNewest (r.settle number) (answers.assign number answer) current shows ↔
      Prevails r answers number (shows answer) shows := by
  refine forall_congr' fun hnone => ?_
  rw [Requests.sent_settle, Requests.newest_settle]
  by_cases hnewest : number = r.newest
  · subst hnewest
    simp [hcurrent, Dictionary.assign]
  · obtain ⟨newest, hanswered⟩ := (haccounted.settle number answer).newest_answered hnone
    have hbefore : answers r.newest = some newest := by
      simpa [Dictionary.assign, Ne.symm hnewest] using hanswered
    simp [hcurrent, hnewest, Dictionary.assign, Ne.symm hnewest, hbefore]

end Nourgomla
