import Mathlib.Data.List.Basic
import Mathlib.Logic.Function.Basic
import Mathlib.Tactic.Common

set_option autoImplicit false

/-! # Forms

A form is a list of fields with their validators. To save it is to hand what stands in the fields to whoever
owns the form; to validate it is to ask every field, the ones after a complaint too. A validator may look at
what has been saved, so one field can be compared with another. What is saved outlives the fields and is not
checked by itself: it is what validators have accepted only right after both were done (`submit_accepted`). -/

namespace Nourgomla

/-- A field with its validator: what it says of a value, given what is saved. -/
structure FormField (φ α ε : Type) where
  name : φ
  validator : (φ → Option α) → α → Option ε

abbrev Form (φ α ε : Type) := List (FormField φ α ε)

/-- What stands in the fields, what was saved, and what is complained about. -/
structure FormState (φ α ε : Type) where
  text : φ → α
  saved : φ → Option α
  errorText : φ → Option ε

/-- A form that has just been opened. -/
def FormState.opened {φ α ε : Type} (text : φ → α) : FormState φ α ε :=
  { text, saved := fun _ => none, errorText := fun _ => none }

/-- The fields of a form. -/
def Form.names {φ α ε : Type} (form : Form φ α ε) : List φ := List.map FormField.name form

namespace FormState

variable {φ α ε : Type} [DecidableEq φ]

def edit (name : φ) (value : α) (s : FormState φ α ε) : FormState φ α ε :=
  { s with text := Function.update s.text name value }

/-- One field hands over what stands in it. -/
def saveField (s : FormState φ α ε) (field : FormField φ α ε) : FormState φ α ε :=
  { s with saved := Function.update s.saved field.name (some (s.text field.name)) }

def save (form : Form φ α ε) (s : FormState φ α ε) : FormState φ α ε := form.foldl saveField s

/-- What a field says of what stands in it. -/
def complaint (s : FormState φ α ε) (field : FormField φ α ε) : Option ε :=
  field.validator s.saved (s.text field.name)

/-- One field is asked, and shows its answer. -/
def validateField (s : FormState φ α ε) (field : FormField φ α ε) : FormState φ α ε :=
  { s with errorText := Function.update s.errorText field.name (s.complaint field) }

/-- The form is valid if no field complains. -/
def validate (form : Form φ α ε) (s : FormState φ α ε) : Bool × FormState φ α ε :=
  form.foldl (fun r field => (r.1 && (r.2.complaint field).isNone, r.2.validateField field)) (true, s)

/-- `save` and then `validate`. -/
def submit (form : Form φ α ε) (s : FormState φ α ε) : Bool × FormState φ α ε := (s.save form).validate form

variable {form : Form φ α ε} {s : FormState φ α ε}

/-! ## Saving -/

@[simp] theorem text_save : (s.save form).text = s.text := by
  unfold save
  induction form generalizing s with
  | nil => rfl
  | cons field rest ih => exact ih

/-- What is saved stays if the field is not in the form or holds the same. -/
theorem saved_foldl_of_eq {name : φ} {value : α} (htext : s.text name = value) (hsaved : s.saved name = some value) :
    (form.foldl saveField s).saved name = some value := by
  induction form generalizing s with
  | nil => exact hsaved
  | cons field rest ih =>
      refine ih (s := s.saveField field) htext ?_
      by_cases hname : name = field.name
      · subst hname
        exact (Function.update_self ..).trans (congrArg some htext)
      · exact (Function.update_of_ne hname ..).trans hsaved

theorem saved_save {name : φ} (hname : name ∈ form.names) : (s.save form).saved name = some (s.text name) := by
  unfold save
  induction form generalizing s with
  | nil => simp [Form.names] at hname
  | cons field rest ih =>
      rcases List.mem_cons.1 hname with rfl | hrest
      · exact saved_foldl_of_eq (s := s.saveField field) rfl (Function.update_self ..)
      · exact ih (s := s.saveField field) hrest

/-! ## Validating -/

/-- The fields are asked one after the other, and none of them changes what the others are asked about. -/
theorem foldl_validate (valid : Bool) :
    let r := form.foldl (fun r field => (r.1 && (r.2.complaint field).isNone, r.2.validateField field)) (valid, s)
    r.2.text = s.text ∧ r.2.saved = s.saved ∧
      (r.1 = true ↔ valid = true ∧ ∀ field ∈ form, s.complaint field = none) := by
  induction form generalizing s valid with
  | nil => simp
  | cons field rest ih =>
      obtain ⟨htext, hsaved, hvalid⟩ := ih (s := s.validateField field) (valid && (s.complaint field).isNone)
      refine ⟨htext, hsaved, hvalid.trans ?_⟩
      have hsame (f : FormField φ α ε) : (s.validateField field).complaint f = s.complaint f := rfl
      simp only [hsame, Bool.and_eq_true, Option.isNone_iff_eq_none, List.forall_mem_cons, and_assoc]

@[simp] theorem text_validate : (s.validate form).2.text = s.text := (foldl_validate true).1

@[simp] theorem saved_validate : (s.validate form).2.saved = s.saved := (foldl_validate true).2.1

theorem validate_eq_true : (s.validate form).1 = true ↔ ∀ field ∈ form, s.complaint field = none :=
  (foldl_validate true).2.2.trans (and_iff_right rfl)

/-! ## Submitting -/

@[simp] theorem text_submit : (s.submit form).2.text = s.text := by rw [submit, text_validate, text_save]

theorem saved_submit {name : φ} (hname : name ∈ form.names) : (s.submit form).2.saved name = some (s.text name) := by
  rw [submit, saved_validate, saved_save hname]

/-- **What is saved by a valid form.** It is what stands in the fields, and every field has accepted it,
    looking at what the other fields hold. -/
theorem submit_accepted {fields : FormState φ α ε} (h : s.submit form = (true, fields)) {field : FormField φ α ε}
    (hfield : field ∈ form) :
    fields.saved field.name = some (s.text field.name) ∧ field.validator fields.saved (s.text field.name) = none := by
  have hsaved := saved_submit (s := s) (List.mem_map_of_mem hfield : field.name ∈ form.names)
  have hnone := validate_eq_true.1 (congrArg Prod.fst h) field hfield
  have hkeeps : (s.submit form).2.saved = (s.save form).saved := saved_validate
  rw [complaint, text_save, ← hkeeps] at hnone
  rw [h] at hsaved hnone
  exact ⟨hsaved, hnone⟩

end FormState
end Nourgomla
