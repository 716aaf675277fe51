import Nourgomla.Library.Dart
import Nourgomla.Library.Machine
import Nourgomla.Library.Requests

set_option autoImplicit false

/-! # The categories of a type

`controllers/categories_controller.dart` with `getCategories` of `category_services.dart`. A new type asks for
its categories at once, a new name when the text has not changed for a while. Every answer replaces the list. -/

namespace Nourgomla

variable {α : Type}

/-! ## The service -/

/-- The body of `getCategories`. -/
structure CategoriesBody where
  name : String
  parentId : String
  status : String
  type : String
  createdBy : String
  createdAt : String
  vendorId : String
deriving DecidableEq

namespace CategoryServices

def categoriesBody (type queryName : String) : CategoriesBody :=
  { name := queryName, parentId := "", status := "1", type := type, createdBy := "", createdAt := "",
    vendorId := "" }

/-- `json.map((e) => Category.fromJson(e)).toList()` of a list that may be null. -/
def decoded (fromJson : Json → Except DartError α) (json : Option (List Json)) :
    Except DartError (List α) := do
  (← notNull json).mapM fromJson

/-- `categoriesData['categories']`, which is null if anything went wrong. The three filters have to be read
    although nothing else is done with them. -/
def getCategories (fromJson : Json → Except DartError α) (answer : Except DartError Json) :
    Option (List α) :=
  caught do
    let data ← answer
    let json ← data.listField "data"
    let filter1 ← data.listField "filter_1"
    let filter2 ← data.listField "filter_2"
    let filter3 ← data.listField "filter_3"
    let categories ← decoded fromJson json
    let _companiesFilterData ← decoded fromJson filter1
    let _trademarksFilterData ← decoded fromJson filter2
    let _typesFilterData ← decoded fromJson filter3
    return some categories

end CategoryServices

/-! ## The controller -/

/-- A value made by `.obs`. -/
structure Rx (α : Type) where
  value : α
  firstRebuild : Bool := true
deriving DecidableEq

/-- The setter. Nobody is told of a value that is there already, unless it is the first one to be set. -/
def Rx.set [DecidableEq α] (rx : Rx α) (value : α) : Option (Rx α) :=
  if rx.value = value ∧ rx.firstRebuild = false then none else some { value, firstRebuild := false }

inductive RxStatus
  | loading
  | success
  | empty
  | error
deriving DecidableEq

structure CategoriesState (α : Type) where
  categoryType : Rx (Option Int) := { value := some 1 }
  queryName : Rx String := { value := "" }
  /-- the value and the status of the `StateMixin` -/
  state : Option (List α) := none
  status : RxStatus := .loading
  /-- the timer of `debounce` is running -/
  debouncing : Bool := false
  requests : Requests CategoriesBody := {}
deriving DecidableEq

namespace CategoriesState

/-- `categoryType.value.toString()` -/
def type (s : CategoriesState α) : String := s.categoryType.value.elim "null" toString

/-- The body of a request for the current type and name. -/
def body (s : CategoriesState α) : CategoriesBody :=
  CategoryServices.categoriesBody s.type s.queryName.value

/-- `initCategories`, up to its `await` -/
def initCategories (s : CategoriesState α) : CategoriesState α :=
  { s with state := some [], status := .loading, requests := s.requests.send s.body }

/-- `onInit` -/
def onInit : CategoriesState α := initCategories {}

/-- `categories.isNotEmpty` throws on null. -/
def change (s : CategoriesState α) : Option (List α) → CategoriesState α
  | none => { s with state := none, status := .error }
  | some [] => { s with state := some [], status := .empty }
  | some (category :: categories) => { s with state := some (category :: categories), status := .success }

/-- `initCategories`, after its `await` -/
def received (fromJson : Json → Except DartError α) (s : CategoriesState α) (number : Nat)
    (answer : Except DartError Json) : CategoriesState α :=
  change { s with requests := s.requests.settle number } (CategoryServices.getCategories fromJson answer)

/-- `categoryType.value = type`, with `ever` listening -/
def setType (s : CategoriesState α) (type : Option Int) : CategoriesState α :=
  (s.categoryType.set type).elim s fun categoryType => initCategories { s with categoryType }

/-- `queryName.value = queryName`, with `debounce` listening -/
def setQueryName (s : CategoriesState α) (queryName : String) : CategoriesState α :=
  (s.queryName.set queryName).elim s fun queryName => { s with queryName, debouncing := true }

end CategoriesState

inductive CategoriesEvent
  | typeSelected (type : Option Int)
  | queryTyped (queryName : String)
  | debounced
  | answered (number : Nat) (answer : Except DartError Json)

def CategoriesState.step (fromJson : Json → Except DartError α) (s : CategoriesState α) :
    CategoriesEvent → Option (CategoriesState α)
  | .typeSelected type => some (s.setType type)
  | .queryTyped queryName => some (s.setQueryName queryName)
  | .debounced => if s.debouncing then some (initCategories { s with debouncing := false }) else none
  | .answered number answer =>
    if number ∈ s.requests.waiting then some (s.received fromJson number answer) else none

/-- Every order of choices, pauses in typing and answers. -/
def categoriesController (fromJson : Json → Except DartError α) :
    Machine (CategoriesState α) CategoriesEvent where
  step := CategoriesState.step fromJson

/-! ## What the operations leave -/

/-- Whatever the answer is, the list is what the service makes of it. -/
theorem CategoriesState.received_eq (fromJson : Json → Except DartError α) (s : CategoriesState α)
    (number : Nat) (answer : Except DartError Json) :
    ∃ status, s.received fromJson number answer = { s with
      state := CategoryServices.getCategories fromJson answer
      status := status
      requests := s.requests.settle number } := by
  unfold received
  cases CategoryServices.getCategories fromJson answer with
  | none => exact ⟨.error, rfl⟩
  | some categories =>
      cases categories with
      | nil => exact ⟨.empty, rfl⟩
      | cons category categories => exact ⟨.success, rfl⟩

/-- A choice changes nothing, asks for the categories or waits with that. -/
theorem CategoriesState.choice_cases {fromJson : Json → Except DartError α} {s s' : CategoriesState α}
    {e : CategoriesEvent} (hstep : s.step fromJson e = some s')
    (hchoice : ∀ number answer, e ≠ .answered number answer) :
    s' = s ∨ (∃ t : CategoriesState α, t.requests = s.requests ∧ s' = t.initCategories) ∨
      (s'.debouncing = true ∧ s'.requests = s.requests) := by
  cases e with
  | typeSelected type =>
      obtain rfl : _ = s' := Option.some.inj hstep
      cases hset : s.categoryType.set type with
      | none => exact .inl (by simp [setType, hset])
      | some categoryType => exact .inr (.inl ⟨{ s with categoryType }, rfl, by simp [setType, hset]⟩)
  | queryTyped queryName =>
      obtain rfl : _ = s' := Option.some.inj hstep
      cases hset : s.queryName.set queryName with
      | none => exact .inl (by simp [setQueryName, hset])
      | some queryName => exact .inr (.inr (by simp [setQueryName, hset]))
  | debounced =>
      obtain ⟨-, hstep⟩ := Option.ite_none_right_eq_some.1 hstep
      obtain rfl : _ = s' := Option.some.inj hstep
      exact .inr (.inl ⟨{ s with debouncing := false }, rfl, rfl⟩)
  | answered number answer => exact absurd rfl (hchoice number answer)

end Nourgomla
