import Mathlib.Data.List.Forall2
import Mathlib.Tactic.Common

set_option autoImplicit false

/-! # Methods that write a state and may throw

`Method ε σ α` is a method body over the state `σ`: it returns an `α` or throws an `ε`, and leaves
a state **in both cases**: what was written before a throw stays written. `Method.exec` runs a
body, with one equation per construct. `Method.Keeps f m` says that `m` leaves the view `f` of the
state as it was on every path; its rules follow the constructs, so a frame fact about a long body
is assembled from facts about its statements. `forEachItem` is a loop over a list of mutable
objects. -/

namespace Nourgomla

/-- A method over the state `σ`, which keeps what it wrote before a throw. -/
abbrev Method (ε σ α : Type) : Type := ExceptT ε (StateM σ) α

namespace Method

variable {ε σ τ α β γ : Type}

/-- Run a method: how it ended, and the state it left. -/
def exec (m : Method ε σ α) (s : σ) : Except ε α × σ := (ExceptT.run m).run s

@[simp] theorem exec_pure (a : α) (s : σ) : (pure a : Method ε σ α).exec s = (.ok a, s) := rfl

@[simp] theorem exec_throw (e : ε) (s : σ) :
    (throw e : Method ε σ α).exec s = (.error e, s) := rfl

@[simp] theorem exec_get (s : σ) : (get : Method ε σ σ).exec s = (.ok s, s) := rfl

@[simp] theorem exec_modify (f : σ → σ) (s : σ) :
    (modify f : Method ε σ PUnit).exec s = (.ok ⟨⟩, f s) := rfl

/-- A step that only reads and may throw. -/
def ofExcept (r : Except ε α) : Method ε σ α := ExceptT.mk fun s => (r, s)

@[simp] theorem exec_ofExcept (r : Except ε α) (s : σ) :
    (ofExcept r : Method ε σ α).exec s = (r, s) := rfl

/-- `try { … } catch (e) { … }`: the handler starts from the state the throw left. -/
@[simp] theorem exec_tryCatch (m : Method ε σ α) (handler : ε → Method ε σ α) (s : σ) :
    (tryCatch m handler).exec s =
      match m.exec s with
      | (.ok a, s') => (.ok a, s')
      | (.error e, s') => (handler e).exec s' := by
  rcases h : m.exec s with ⟨r, s'⟩
  simp only [exec, ExceptT.run_tryCatch, StateT.run_bind] at h ⊢
  rw [h]
  cases r <;> rfl

theorem exec_bind (m : Method ε σ α) (k : α → Method ε σ β) (s : σ) :
    (m >>= k).exec s =
      match m.exec s with
      | (.ok a, s') => (k a).exec s'
      | (.error e, s') => (.error e, s') := by
  rcases h : m.exec s with ⟨r, s'⟩
  simp only [exec, ExceptT.run_bind, StateT.run_bind] at h ⊢
  rw [h]
  cases r <;> rfl

@[simp] theorem exec_map (f : α → β) (m : Method ε σ α) (s : σ) :
    (f <$> m).exec s = ((m.exec s).1.map f, (m.exec s).2) := by
  rw [← bind_pure_comp, exec_bind]
  rcases m.exec s with ⟨_ | _, s'⟩ <;> rfl

/-- The rest of a body runs from the state its first statement returned in. -/
theorem exec_bind_ok {m : Method ε σ α} {k : α → Method ε σ β} {s s' : σ} {a : α}
    (h : m.exec s = (.ok a, s')) : (m >>= k).exec s = (k a).exec s' := by
  rw [exec_bind, h]

@[simp] theorem exec_get_bind (k : σ → Method ε σ β) (s : σ) :
    (get >>= k).exec s = (k s).exec s := rfl

@[simp] theorem exec_modify_bind (f : σ → σ) (k : PUnit → Method ε σ β) (s : σ) :
    (modify f >>= k).exec s = (k ⟨⟩).exec (f s) := rfl

theorem exec_bind_error {m : Method ε σ α} {k : α → Method ε σ β} {s s' : σ} {e : ε}
    (h : m.exec s = (.error e, s')) : (m >>= k).exec s = (.error e, s') := by
  rw [exec_bind, h]

/-- A body that returned got past its first statement. -/
theorem ok_of_exec_bind {m : Method ε σ α} {k : α → Method ε σ β} {s : σ} {b : β}
    (h : ((m >>= k).exec s).1 = .ok b) :
    ∃ a s', m.exec s = (.ok a, s') ∧ ((k a).exec s').1 = .ok b := by
  rw [exec_bind] at h
  rcases hm : m.exec s with ⟨_ | a, s'⟩
  · simp [hm] at h
  · exact ⟨a, s', rfl, by simpa [hm] using h⟩

/-! ## A method on a component of the state -/

/-- Run a method on the component `get t` of a larger state. -/
def onPart (get : τ → σ) (set : σ → τ → τ) (m : Method ε σ α) : Method ε τ α :=
  ExceptT.mk fun t => let (r, s) := m.exec (get t); (r, set s t)

@[simp] theorem exec_onPart (get : τ → σ) (set : σ → τ → τ) (m : Method ε σ α) (t : τ) :
    (m.onPart get set).exec t = ((m.exec (get t)).1, set (m.exec (get t)).2 t) := rfl

/-! ## Frames -/

/-- `m` leaves the view `f` of the state as it was, whether it returns or throws. -/
def Keeps (f : σ → β) (m : Method ε σ α) : Prop := ∀ s, f (m.exec s).2 = f s

theorem keeps_pure (f : σ → β) (a : α) : Keeps f (pure a : Method ε σ α) := fun _ => rfl

theorem keeps_ofExcept (f : σ → β) (r : Except ε α) :
    Keeps f (ofExcept r : Method ε σ α) := fun _ => rfl

theorem keeps_get (f : σ → β) : Keeps f (get : Method ε σ σ) := fun _ => rfl

theorem keeps_modify {f : σ → β} {g : σ → σ} (h : ∀ s, f (g s) = f s) :
    Keeps f (modify g : Method ε σ PUnit) := h

theorem keeps_bind {f : σ → γ} {m : Method ε σ α} {k : α → Method ε σ β}
    (hm : Keeps f m) (hk : ∀ a, Keeps f (k a)) : Keeps f (m >>= k) := by
  intro s
  have hm' := hm s
  rw [exec_bind]
  rcases hr : m.exec s with ⟨r, s'⟩
  rw [hr] at hm'
  cases r with
  | ok a => exact (hk a s').trans hm'
  | error e => exact hm'

theorem keeps_ite {f : σ → β} {c : Prop} [Decidable c] {m m' : Method ε σ α}
    (hm : Keeps f m) (hm' : Keeps f m') : Keeps f (if c then m else m') := by
  split
  · exact hm
  · exact hm'

/-- A method on a part keeps every view that writing the part back keeps. -/
theorem keeps_onPart {f : τ → β} {get : τ → σ} {set : σ → τ → τ} {m : Method ε σ α}
    (h : ∀ t, f (set (m.exec (get t)).2 t) = f t) : Keeps f (m.onPart get set) := h

/-- After a first statement, a rest that keeps `f` leaves the value the statement gave it. -/
theorem view_bind {f : σ → γ} {m : Method ε σ α} {k : α → Method ε σ β}
    (hk : ∀ a, Keeps f (k a)) (s : σ) : f ((m >>= k).exec s).2 = f (m.exec s).2 := by
  rw [exec_bind]
  rcases m.exec s with ⟨_ | a, s'⟩
  · rfl
  · exact hk a s'

/-! ## Loops over mutable objects -/

variable {ι : Type}

/-- `list.forEach(body)` over a list of objects that `body` may write to, with the rest of the
    state beside it. After a throw the later objects are as they were. -/
def forEachItem (body : Method ε (ι × σ) Unit) : List ι → σ → Except ε Unit × List ι × σ
  | [], s => (.ok (), [], s)
  | x :: xs, s =>
    match body.exec (x, s) with
    | (.ok _, x', s') =>
      let (r, xs', s'') := forEachItem body xs s'
      (r, x' :: xs', s'')
    | (.error e, x', s') => (.error e, x' :: xs, s')

/-- `forEachItem` as a method on the list and the rest of the state. -/
def forEach (body : Method ε (ι × σ) Unit) : Method ε (List ι × σ) Unit :=
  ExceptT.mk fun t => forEachItem body t.1 t.2

@[simp] theorem exec_forEach (body : Method ε (ι × σ) Unit) (t : List ι × σ) :
    (forEach body).exec t = forEachItem body t.1 t.2 := rfl

/-- A loop that returned got through its body on every object. -/
theorem ok_of_forEachItem {body : Method ε (ι × σ) Unit} {xs : List ι} {s : σ}
    (h : (forEachItem body xs s).1 = .ok ()) :
    ∀ x ∈ xs, ∃ s', (body.exec (x, s')).1 = .ok () := by
  induction xs generalizing s with
  | nil => simp
  | cons x xs ih =>
      intro y hy
      rcases hb : body.exec (x, s) with ⟨_ | _, x', s'⟩
      · simp [forEachItem, hb] at h
      · rcases List.mem_cons.1 hy with rfl | hy
        · exact ⟨s, by rw [hb]⟩
        · exact ih (by simpa [forEachItem, hb] using h) y hy

/-- What the body keeps of each object, the loop keeps of the list. -/
theorem map_forEachItem {body : Method ε (ι × σ) Unit} {v : ι → β}
    (h : Keeps (fun t : ι × σ => v t.1) body) (xs : List ι) (s : σ) :
    (forEachItem body xs s).2.1.map v = xs.map v := by
  induction xs generalizing s with
  | nil => rfl
  | cons x xs ih =>
      have hx : v (body.exec (x, s)).2.1 = v x := h (x, s)
      rcases hb : body.exec (x, s) with ⟨_ | _, x', s'⟩
      · rw [hb] at hx
        simpa [forEachItem, hb] using hx
      · rw [hb] at hx
        simpa [forEachItem, hb, ih s'] using hx

/-- A loop whose body returns on every object: the objects and the rest of the state move on their
    own, object by object. -/
theorem forEachItem_eq {body : Method ε (ι × σ) Unit} {g : ι → ι} {h : ι → σ → σ} (xs : List ι)
    (hb : ∀ x ∈ xs, ∀ s, body.exec (x, s) = (.ok (), g x, h x s)) (s : σ) :
    forEachItem body xs s = (.ok (), xs.map g, xs.foldl (fun s x => h x s) s) := by
  induction xs generalizing s with
  | nil => rfl
  | cons x xs ih =>
      have hx := hb x List.mem_cons_self s
      have ih' := ih (fun y hy => hb y (List.mem_cons_of_mem x hy)) (h x s)
      simp [forEachItem, hx, ih']

end Method
end Nourgomla
