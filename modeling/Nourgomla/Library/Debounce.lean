import Mathlib.Data.List.Basic
import Mathlib.Tactic.Common

set_option autoImplicit false

/-! # One reference to one-shot timers

A timer that was started runs until it fires or is cancelled, and only the timer that the reference holds can be
cancelled. Whoever cancels before starting the next has at most one timer running, whose callback is the one that was
given last: `Settled` is that invariant, and it holds as long as timers are only started by `restart`. -/

namespace Nourgomla

structure OneShotTimer (κ : Type) where
  id : Nat
  callback : κ
deriving DecidableEq

structure Debouncer (κ : Type) where
  /-- the timers that run -/
  active : List (OneShotTimer κ) := []
  nextId : Nat := 0
  /-- the timer that is referred to, running or not -/
  current : Option Nat := none
deriving DecidableEq

namespace Debouncer

variable {κ : Type}

/-- `timer?.cancel()` -/
def cancel (d : Debouncer κ) : Debouncer κ :=
  { d with active := d.active.filter fun t => d.current ≠ some t.id }

theorem cancel_cancel (d : Debouncer κ) : d.cancel.cancel = d.cancel := by
  simp [cancel]

/-- `timer = Timer(…)`, with no cancellation. -/
def start (d : Debouncer κ) (callback : κ) : Debouncer κ :=
  { active := d.active ++ [⟨d.nextId, callback⟩]
    nextId := d.nextId + 1
    current := some d.nextId }

def restart (d : Debouncer κ) (callback : κ) : Debouncer κ := d.cancel.start callback

/-- A running timer fires: its callback, and what is left. -/
def fire (d : Debouncer κ) (id : Nat) : Option (κ × Debouncer κ) :=
  (d.active.find? (·.id = id)).map fun t => (t.callback, { d with active := d.active.filter (·.id ≠ id) })

/-- What is pending, if anything is. -/
def Pending (d : Debouncer κ) (callback : κ) : Prop := ∃ t ∈ d.active, t.callback = callback

/-- At most one timer runs, and it is the one that is referred to. -/
structure Settled (d : Debouncer κ) : Prop where
  current : ∀ t ∈ d.active, d.current = some t.id
  single : d.active.length ≤ 1

namespace Settled

variable {d d' : Debouncer κ} {id : Nat} {callback : κ}

theorem start_empty : Settled ({} : Debouncer κ) where
  current := nofun
  single := by simp

theorem active_cancel (h : d.Settled) : d.cancel.active = [] := by
  rw [Debouncer.cancel, List.filter_eq_nil_iff]
  intro t ht
  simp [h.current t ht]

theorem active_restart (h : d.Settled) (callback : κ) : (d.restart callback).active = [⟨d.nextId, callback⟩] := by
  show d.cancel.active ++ _ = _
  rw [h.active_cancel]
  rfl

theorem cancel (h : d.Settled) : d.cancel.Settled where
  current := by simp [h.active_cancel]
  single := by simp [h.active_cancel]

theorem restart (h : d.Settled) (callback : κ) : (d.restart callback).Settled where
  current t ht := by
    rw [h.active_restart, List.mem_singleton] at ht
    rw [ht]
    rfl
  single := by simp [h.active_restart]

theorem pending_restart (h : d.Settled) {callback' : κ} (hpending : (d.restart callback).Pending callback') :
    callback = callback' := by
  obtain ⟨t, ht, rfl⟩ := hpending
  rw [h.active_restart, List.mem_singleton] at ht
  rw [ht]

/-- The timer that fires is the only one. -/
theorem fire (h : d.Settled) (hfire : d.fire id = some (callback, d')) :
    d.Pending callback ∧ d'.active = [] := by
  obtain ⟨t, hfind, heq⟩ := Option.map_eq_some_iff.1 hfire
  obtain ⟨rfl, rfl⟩ : t.callback = callback ∧ _ = d' := Prod.mk.inj heq
  have hmem := List.mem_of_find?_eq_some hfind
  have hid : t.id = id := by simpa using List.find?_some hfind
  refine ⟨⟨t, hmem, rfl⟩, List.filter_eq_nil_iff.2 fun u hu => ?_⟩
  have hcurrent := (h.current u hu).symm.trans (h.current t hmem)
  simp [Option.some.inj hcurrent, hid]

theorem of_active_eq_nil (h : d.active = []) : d.Settled where
  current := by simp [h]
  single := by simp [h]

end Settled

theorem not_pending {d : Debouncer κ} (h : d.active = []) (callback : κ) : ¬d.Pending callback := by
  rintro ⟨t, ht, -⟩
  simp [h] at ht

end Debouncer
end Nourgomla
