import Mathlib.Algebra.Order.BigOperators.Group.List
import Mathlib.Algebra.Order.Group.Nat
import Mathlib.Data.List.Basic
import Mathlib.Data.List.Perm.Basic
import Mathlib.Tactic.Common

set_option autoImplicit false

/-! # Scripts that interleave

A script is a list of operations to be performed one after the other, and it may stop before its end. Any
number of scripts run side by side, and `log` has the operations in the order they were performed. The log is
made of prefixes of the scripts (`accounted`, carried by the structure), so what holds of every prefix of every
script holds of every interleaving:

* `countP_log_le`: operations that no prefix has more of than of others, the log has no more of;
* `countP_log_le_scripts`: the log has nothing that the scripts do not have;
* `log_perm_of_complete`: once every script has ended, the log is the scripts, in some order. -/

namespace Nourgomla

variable {Op : Type}

/-- A script, and how many of its operations have been performed. -/
structure Task (Op : Type) where
  script : List Op
  performed : Nat := 0
  stopped : Bool := false
deriving DecidableEq

namespace Task

def did (task : Task Op) : List Op := task.script.take task.performed

/-- The operation that is performed next. -/
def next? (task : Task Op) : Option Op :=
  if task.stopped then none else task.script[task.performed]?

def perform (task : Task Op) : Task Op := { task with performed := task.performed + 1 }

def stop (task : Task Op) : Task Op := { task with stopped := true }

/-- The script has been performed to its end. -/
def Complete (task : Task Op) : Prop := task.script.length ≤ task.performed

instance (task : Task Op) : Decidable task.Complete := inferInstanceAs (Decidable (_ ≤ _))

@[simp] theorem script_perform (task : Task Op) : task.perform.script = task.script := rfl

@[simp] theorem script_stop (task : Task Op) : task.stop.script = task.script := rfl

@[simp] theorem did_stop (task : Task Op) : task.stop.did = task.did := rfl

theorem did_start (script : List Op) : (Task.mk script 0 false).did = [] := List.take_zero

theorem did_perform {task : Task Op} {op : Op} (hnext : task.next? = some op) :
    task.perform.did = task.did ++ [op] := by
  obtain ⟨-, hget⟩ := Option.ite_none_left_eq_some.1 hnext
  simp only [did, perform, List.take_add_one, hget, Option.toList_some]

theorem did_of_complete {task : Task Op} (hcomplete : task.Complete) : task.did = task.script :=
  List.take_of_length_le hcomplete

end Task

/-! ## Replacing one of several -/

section Replace

variable {α β : Type}

theorem flatMap_set_perm {f : α → List β} {l : List α} {n : Nat} {a a' : α} {added : List β}
    (hget : l[n]? = some a) (hadd : f a' = f a ++ added) :
    ((l.set n a').flatMap f).Perm (l.flatMap f ++ added) := by
  induction l generalizing n with
  | nil => simp at hget
  | cons b l ih =>
      cases n with
      | zero =>
          obtain rfl : b = a := by simpa using hget
          simp only [List.set_cons_zero, List.flatMap_cons, hadd, List.append_assoc]
          exact List.perm_append_comm.append_left _
      | succ n =>
          simp only [List.set_cons_succ, List.flatMap_cons, List.append_assoc]
          exact (ih (by simpa using hget)).append_left _

theorem map_set_of_eq {f : α → β} {l : List α} {n : Nat} {a a' : α} (hget : l[n]? = some a)
    (hsame : f a' = f a) : (l.set n a').map f = l.map f := by
  induction l generalizing n with
  | nil => simp at hget
  | cons b l ih =>
      cases n with
      | zero =>
          obtain rfl : b = a := by simpa using hget
          rw [List.set_cons_zero, List.map_cons, List.map_cons, hsame]
      | succ n =>
          rw [List.set_cons_succ, List.map_cons, List.map_cons, ih (by simpa using hget)]

end Replace

/-! ## Side by side -/

/-- Scripts under way, and what they have performed so far. -/
structure Interleaving (Op : Type) where
  tasks : List (Task Op) := []
  log : List Op := []
  accounted : log.Perm (tasks.flatMap Task.did) := by exact List.Perm.refl _

namespace Interleaving

def scripts (s : Interleaving Op) : List (List Op) := s.tasks.map Task.script

/-- Another script begins. -/
def start (s : Interleaving Op) (script : List Op) : Interleaving Op where
  tasks := s.tasks ++ [{ script }]
  log := s.log
  accounted := by simpa [Task.did_start] using s.accounted

theorem accounted_perform {s : Interleaving Op} {number : Nat} {task : Task Op} {op : Op}
    (hget : s.tasks[number]? = some task) (hnext : task.next? = some op) :
    (s.log ++ [op]).Perm ((s.tasks.set number task.perform).flatMap Task.did) :=
  (s.accounted.append_right _).trans (flatMap_set_perm hget (Task.did_perform hnext)).symm

theorem accounted_stop {s : Interleaving Op} {number : Nat} {task : Task Op}
    (hget : s.tasks[number]? = some task) :
    s.log.Perm ((s.tasks.set number task.stop).flatMap Task.did) := by
  have hdid : task.stop.did = task.did ++ [] := by simp
  have hset := flatMap_set_perm hget hdid
  rw [List.append_nil] at hset
  exact s.accounted.trans hset.symm

/-- One of the scripts performs its next operation. -/
def advance (s : Interleaving Op) (number : Nat) : Option (Op × Interleaving Op) :=
  match hget : s.tasks[number]? with
  | none => none
  | some task =>
    match hnext : task.next? with
    | none => none
    | some op =>
      some (op, {
        tasks := s.tasks.set number task.perform
        log := s.log ++ [op]
        accounted := accounted_perform hget hnext })

/-- One of the scripts ends where it is. -/
def stop (s : Interleaving Op) (number : Nat) : Option (Interleaving Op) :=
  match hget : s.tasks[number]? with
  | none => none
  | some task =>
    some {
      tasks := s.tasks.set number task.stop
      log := s.log
      accounted := accounted_stop hget }

@[simp] theorem log_start (s : Interleaving Op) (script : List Op) : (s.start script).log = s.log := rfl

@[simp] theorem scripts_start (s : Interleaving Op) (script : List Op) :
    (s.start script).scripts = s.scripts ++ [script] := by
  simp [scripts, start]

theorem advance_eq_some {s s' : Interleaving Op} {number : Nat} {op : Op}
    (h : s.advance number = some (op, s')) : s'.log = s.log ++ [op] ∧ s'.scripts = s.scripts := by
  unfold advance at h
  split at h
  · cases h
  · rename_i task hget
    split at h
    · cases h
    · cases h
      exact ⟨rfl, map_set_of_eq hget rfl⟩

theorem stop_eq_some {s s' : Interleaving Op} {number : Nat} (h : s.stop number = some s') :
    s'.log = s.log ∧ s'.scripts = s.scripts := by
  unfold stop at h
  split at h
  · cases h
  · rename_i task hget
    cases h
    exact ⟨rfl, map_set_of_eq hget rfl⟩

/-- No prefix of any script has more of the second kind than of the first: neither has the log. -/
theorem countP_log_le {s : Interleaving Op} {p q : Op → Bool}
    (h : ∀ script ∈ s.scripts, ∀ k, (script.take k).countP q ≤ (script.take k).countP p) :
    s.log.countP q ≤ s.log.countP p := by
  rw [s.accounted.countP_eq, s.accounted.countP_eq, List.countP_flatMap, List.countP_flatMap]
  refine List.sum_le_sum fun task htask => ?_
  exact h task.script (List.mem_map_of_mem htask) task.performed

theorem countP_log_le_scripts (s : Interleaving Op) (p : Op → Bool) :
    s.log.countP p ≤ s.scripts.flatten.countP p := by
  rw [s.accounted.countP_eq, scripts, ← List.flatMap_def, List.countP_flatMap, List.countP_flatMap]
  refine List.sum_le_sum fun task _ => ?_
  exact (List.take_sublist _ _).countP_le

theorem mem_script_of_mem_log {s : Interleaving Op} {op : Op} (hop : op ∈ s.log) :
    ∃ script ∈ s.scripts, op ∈ script := by
  obtain ⟨task, htask, hdid⟩ := List.mem_flatMap.1 (s.accounted.mem_iff.1 hop)
  exact ⟨task.script, List.mem_map_of_mem htask, List.mem_of_mem_take hdid⟩

/-- Nothing is left to perform. -/
def Complete (s : Interleaving Op) : Prop := ∀ task ∈ s.tasks, task.Complete

instance (s : Interleaving Op) : Decidable s.Complete := List.decidableBAll _ _

theorem log_perm_of_complete {s : Interleaving Op} (hcomplete : s.Complete) :
    s.log.Perm s.scripts.flatten := by
  have hdid : s.tasks.map Task.did = s.tasks.map Task.script :=
    List.map_congr_left fun task htask => Task.did_of_complete (hcomplete task htask)
  rw [scripts, ← hdid, ← List.flatMap_def]
  exact s.accounted

end Interleaving
end Nourgomla
