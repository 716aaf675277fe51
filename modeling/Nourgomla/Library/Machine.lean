import Mathlib.Data.List.Basic
import Mathlib.Data.List.Induction
import Mathlib.Tactic.Common

set_option autoImplicit false

/-! # Reactive machines and conditions on their runs

A `Machine` reacts to inputs one at a time; an input that cannot occur in a state has no successor.
Two predicates speak about a whole run: `Throughout good` (every state passed through is good) and
`Meets guard` (every input that is taken meets `guard` in the state it is taken in). The rules
below are the ones a safety argument needs once its step lemma is there:

* `inv_of_meets`: an invariant that guarded steps preserve holds at the end of a guarded run;
* `inv_of_history`: the same for an invariant that also speaks about the inputs so far, and `inv_of_run` for every run;
* `throughout_iff_meets`: when moreover every unguarded step leaves the good states, the guard is
  **exactly** what separates the safe runs from the others;
* `throughout_iff_of_step`: the form for a step lemma that is itself an equivalence.

`track` puts a history variable beside the state without changing the runs. -/

namespace Nourgomla

/-- A system that reacts to inputs; `none` where the input cannot occur. -/
structure Machine (σ ι : Type) where
  step : σ → ι → Option σ

namespace Machine

variable {σ ι η : Type}

/-- Feed a list of inputs. -/
def run (M : Machine σ ι) : σ → List ι → Option σ
  | s, [] => some s
  | s, i :: is => (M.step s i).bind fun s' => M.run s' is

/-- Every input taken along the run meets `guard` in the state it is taken in. -/
def Meets (M : Machine σ ι) (guard : σ → ι → Prop) : σ → List ι → Prop
  | _, [] => True
  | s, i :: is => ∀ s', M.step s i = some s' → guard s i ∧ M.Meets guard s' is

/-- Every state the run passes through, the first and the last included, is good. -/
def Throughout (M : Machine σ ι) (good : σ → Prop) : σ → List ι → Prop
  | s, [] => good s
  | s, i :: is => good s ∧ ∀ s', M.step s i = some s' → M.Throughout good s' is

variable {M : Machine σ ι} {guard : σ → ι → Prop} {good : σ → Prop}

theorem run_cons {s t : σ} {i : ι} {is : List ι} :
    M.run s (i :: is) = some t ↔ ∃ s', M.step s i = some s' ∧ M.run s' is = some t := by
  simp [run, Option.bind_eq_some_iff]

theorem run_append {s : σ} {is js : List ι} : M.run s (is ++ js) = (M.run s is).bind fun t => M.run t js := by
  induction is generalizing s with
  | nil => rfl
  | cons i is ih =>
      simp only [List.cons_append, run, Option.bind_assoc]
      exact congrArg _ (funext fun t => ih)

/-- A run ends with its last input. -/
theorem run_concat {s t : σ} {is : List ι} {i : ι} :
    M.run s (is ++ [i]) = some t ↔ ∃ s', M.run s is = some s' ∧ M.step s' i = some t := by
  simp [run_append, run, Option.bind_eq_some_iff]

/-- The run rule: an invariant that every guarded step preserves holds after a guarded run. -/
theorem inv_of_meets {inv : σ → Prop}
    (hstep : ∀ s i s', inv s → guard s i → M.step s i = some s' → inv s') :
    ∀ {s t : σ} {is : List ι}, inv s → M.Meets guard s is → M.run s is = some t → inv t := by
  intro s t is
  induction is generalizing s with
  | nil =>
      intro hs _ hrun
      simp only [run, Option.some.injEq] at hrun
      exact hrun ▸ hs
  | cons i is ih =>
      intro hs hmeets hrun
      obtain ⟨s', hi, hrest⟩ := run_cons.1 hrun
      obtain ⟨hg, hm⟩ := hmeets s' hi
      exact ih (hstep s i s' hs hg hi) hm hrest

/-- The run rule with the inputs taken so far. -/
theorem inv_of_history {inv : List ι → σ → Prop}
    (hstep : ∀ before s i s', inv before s → guard s i → M.step s i = some s' → inv (before ++ [i]) s')
    {s t : σ} {is : List ι} (hs : inv [] s) (hmeets : M.Meets guard s is) (hrun : M.run s is = some t) : inv is t := by
  have hafter : ∀ (is before : List ι) (s : σ), inv before s → M.Meets guard s is → M.run s is = some t →
      inv (before ++ is) t := by
    intro is
    induction is with
    | nil =>
        intro before s hs _ hrun
        obtain rfl : s = t := Option.some.inj hrun
        rwa [List.append_nil]
    | cons i is ih =>
        intro before s hs hmeets hrun
        obtain ⟨s', hi, hrest⟩ := run_cons.1 hrun
        obtain ⟨hg, hm⟩ := hmeets s' hi
        simpa using ih (before ++ [i]) s' (hstep before s i s' hs hg hi) hm hrest
  exact hafter is [] s hs hmeets hrun

/-- The run rule for every run, with the inputs taken so far and the run that they make. -/
theorem inv_of_run (inv : List ι → σ → Prop) {s : σ} (hs : inv [] s)
    (hstep : ∀ before t i t', M.run s before = some t → inv before t → M.step t i = some t' → inv (before ++ [i]) t')
    {t : σ} {is : List ι} (hrun : M.run s is = some t) : inv is t := by
  induction is using List.reverseRecOn generalizing t with
  | nil =>
      obtain rfl : s = t := Option.some.inj hrun
      exact hs
  | append_singleton is i ih =>
      obtain ⟨t', hbefore, hi⟩ := run_concat.1 hrun
      exact hstep is t' i t hbefore (ih hbefore) hi

/-- The same along the way: an invariant that makes a state good makes every state of a guarded run
    good. -/
theorem throughout_of_meets (inv : σ → Prop) (hgood : ∀ s, inv s → good s)
    (hstep : ∀ s i s', inv s → guard s i → M.step s i = some s' → inv s') :
    ∀ {s : σ} (is : List ι), inv s → M.Meets guard s is → M.Throughout good s is := by
  intro s is
  induction is generalizing s with
  | nil => exact fun hs _ => hgood s hs
  | cons i is ih =>
      intro hs hmeets
      refine ⟨hgood s hs, fun s' hi => ?_⟩
      obtain ⟨hg, hm⟩ := hmeets s' hi
      exact ih (hstep s i s' hs hg hi) hm

theorem meets_true {s : σ} (is : List ι) : M.Meets (fun _ _ => True) s is := by
  induction is generalizing s with
  | nil => trivial
  | cons i is ih => exact fun s' _ => ⟨trivial, ih⟩

theorem Meets.and {env : σ → ι → Prop} {s : σ} {is : List ι} (henv : M.Meets env s is)
    (hguard : M.Meets guard s is) : M.Meets (fun s i => env s i ∧ guard s i) s is := by
  induction is generalizing s with
  | nil => trivial
  | cons i is ih =>
      intro s' hi
      obtain ⟨he, hes⟩ := henv s' hi
      obtain ⟨hg, hgs⟩ := hguard s' hi
      exact ⟨⟨he, hg⟩, ih hes hgs⟩

/-- A guard that implies another one while an invariant holds. -/
theorem Meets.of_inv {inv : σ → Prop} {guard' : σ → ι → Prop}
    (hstep : ∀ s i s', inv s → guard s i → M.step s i = some s' → guard' s i ∧ inv s') {s : σ} {is : List ι}
    (hs : inv s) (h : M.Meets guard s is) : M.Meets guard' s is := by
  induction is generalizing s with
  | nil => trivial
  | cons i is ih =>
      intro s' hi
      obtain ⟨hg, hgs⟩ := h s' hi
      obtain ⟨hg', hs'⟩ := hstep s i s' hs hg hi
      exact ⟨hg', ih hs' hgs⟩

theorem Meets.imp {guard' : σ → ι → Prop} (himp : ∀ s i, guard s i → guard' s i) {s : σ} {is : List ι}
    (h : M.Meets guard s is) : M.Meets guard' s is :=
  Meets.of_inv (fun s i _ _ hg _ => ⟨himp s i hg, trivial⟩) trivial h

/-- **Exact guards.** In an environment whose inputs meet `env`: if guarded steps preserve the
    invariant, the invariant makes a state good, and a step can only stay good by meeting the guard,
    then the runs that stay good throughout are the runs whose inputs meet the guard. -/
theorem throughout_iff_meets (inv : σ → Prop) {env : σ → ι → Prop} (hgood : ∀ s, inv s → good s)
    (hstep : ∀ s i s', inv s → env s i → guard s i → M.step s i = some s' → inv s')
    (hexact : ∀ s i s', inv s → env s i → M.step s i = some s' → good s' → guard s i) :
    ∀ {s : σ} (is : List ι), inv s → M.Meets env s is →
      (M.Throughout good s is ↔ M.Meets guard s is) := by
  intro s is
  induction is generalizing s with
  | nil => intro hs _; exact ⟨fun _ => trivial, fun _ => hgood s hs⟩
  | cons i is ih =>
      intro hs henv
      constructor
      · rintro ⟨-, hall⟩ s' hi
        have hrest := hall s' hi
        have hs' : good s' := by
          cases is with
          | nil => exact hrest
          | cons j is => exact hrest.1
        obtain ⟨he, hes⟩ := henv s' hi
        have hg := hexact s i s' hs he hi hs'
        exact ⟨hg, (ih (hstep s i s' hs he hg hi) hes).1 hrest⟩
      · intro hmeets
        refine ⟨hgood s hs, fun s' hi => ?_⟩
        obtain ⟨he, hes⟩ := henv s' hi
        obtain ⟨hg, hm⟩ := hmeets s' hi
        exact (ih (hstep s i s' hs he hg hi) hes).2 hm

/-- **Guards decided step by step.** The same where one lemma says both: from a good state a step leads to a
    good one exactly if it meets the guard. -/
theorem throughout_iff_of_step (inv : σ → Prop) {env : σ → ι → Prop}
    (hstep : ∀ s i s', inv s → good s → env s i → M.step s i = some s' →
      inv s' ∧ (good s' ↔ guard s i))
    {s : σ} (is : List ι) (hs : inv s) (hgood : good s) (henv : M.Meets env s is) :
    M.Throughout good s is ↔ M.Meets guard s is := by
  refine throughout_iff_meets (fun s => inv s ∧ good s) (fun _ h => h.2) ?_ ?_ is ⟨hs, hgood⟩ henv
  · intro s i s' h he hg hi
    obtain ⟨hinv, hiff⟩ := hstep s i s' h.1 h.2 he hi
    exact ⟨hinv, hiff.2 hg⟩
  · intro s i s' h he hi hgood'
    exact (hstep s i s' h.1 h.2 he hi).2.1 hgood'

/-- Without an invariant besides. -/
theorem throughout_iff_of_good_step {env : σ → ι → Prop}
    (hstep : ∀ s i s', good s → env s i → M.step s i = some s' → (good s' ↔ guard s i))
    {s : σ} (is : List ι) (hgood : good s) (henv : M.Meets env s is) :
    M.Throughout good s is ↔ M.Meets guard s is :=
  throughout_iff_of_step (fun _ => True)
    (fun s i s' _ hgood he hi => ⟨trivial, hstep s i s' hgood he hi⟩) is trivial hgood henv

/-! ## Running on fixed inputs -/

instance decidableMeets [∀ s i, Decidable (guard s i)] :
    (s : σ) → (is : List ι) → Decidable (M.Meets guard s is)
  | _, [] => isTrue trivial
  | s, i :: is =>
    match h : M.step s i with
    | none => isTrue fun s' hi => by simp [h] at hi
    | some s' =>
      have : Decidable (M.Meets guard s' is) := decidableMeets s' is
      decidable_of_iff (guard s i ∧ M.Meets guard s' is)
        ⟨fun hg s'' hi => by rw [h, Option.some.injEq] at hi; exact hi ▸ hg,
          fun hg => hg s' h⟩

/-- A run reaches a state with a decidable property if running it finds one. -/
theorem reaches {P : σ → Prop} [DecidablePred P] {s : σ} {is : List ι}
    (h : (M.run s is).any (fun t => decide (P t)) = true) : ∃ t, M.run s is = some t ∧ P t := by
  obtain ⟨t, ht, hP⟩ := (Option.any_eq_true _ _).1 h
  exact ⟨t, ht, of_decide_eq_true hP⟩

/-! ## History variables -/

/-- The machine with a history variable: `note s i h` is what the history becomes when input `i`
    is taken in state `s`. -/
def track (M : Machine σ ι) (note : σ → ι → η → η) : Machine (σ × η) ι where
  step sh i := (M.step sh.1 i).map fun s' => (s', note sh.1 i sh.2)

theorem track_step {note : σ → ι → η → η} {sh sh' : σ × η} {i : ι} :
    (M.track note).step sh i = some sh' ↔
      M.step sh.1 i = some sh'.1 ∧ sh'.2 = note sh.1 i sh.2 := by
  rcases sh' with ⟨s', h'⟩
  simp only [track, Option.map_eq_some_iff, Prod.mk.injEq]
  constructor
  · rintro ⟨t, ht, rfl, rfl⟩
    exact ⟨ht, rfl⟩
  · rintro ⟨ht, rfl⟩
    exact ⟨s', ht, rfl, rfl⟩

end Machine
end Nourgomla
