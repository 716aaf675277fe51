import Nourgomla.Library.Dart
import Nourgomla.Library.Machine
import Nourgomla.Library.Requests

set_option autoImplicit false

/-! # The language and its labels

`controllers/language_controller.dart` with `language_services.dart` and `lang_storage.dart`. Every choice asks
for labels, and every answer replaces the labels that are there. -/

namespace Nourgomla

/-! ## The service -/

/-- The body of `getLabels`. -/
structure LabelsBody where
  id : String
  type : String
  labelKey : String
  languageId : String
deriving DecidableEq

/-- `Map<String, String>`, where key and value may be null. -/
abbrev Labels : Type := Dictionary (Option String) (Option String)

namespace LanguageServices

def labelsBody (langId : String) : LabelsBody :=
  { id := "", type := "3", labelKey := "", languageId := langId }

/-- One turn of the loop over the answer. -/
def label (lang : Json) : Except DartError (Option String × Option String) := do
  return (← lang.stringField "label_key", ← lang.stringField "label_value")

/-- The assignments of the loop; it ends with the first turn that throws. -/
def assignments : List Json → List (Option String × Option String)
  | [] => []
  | lang :: rest =>
    match label lang with
    | .ok entry => entry :: assignments rest
    | .error _ => []

/-- `data['data']`, over which the loop goes -/
def labelsJson (answer : Except DartError Json) : Except DartError (List Json) := do
  notNull (← (← answer).listField "data")

/-- Whatever goes wrong is caught, and the map is returned as far as it is filled. -/
def getLabels (answer : Except DartError Json) : Labels :=
  match labelsJson answer with
  | .ok json => Dictionary.ofEntries (assignments json)
  | .error _ => Dictionary.empty

end LanguageServices

/-! ## The controller -/

structure LanguageState where
  /-- `GetStorage().read("language")` -/
  language : Option String
  lang : String
  langData : Labels := Dictionary.empty
  requests : Requests LabelsBody := {}

namespace LanguageState

def langId (s : LanguageState) : String := if s.lang = "ar" then "1" else "2"

/-- The body of a request for the labels of the current language. -/
def body (s : LanguageState) : LabelsBody := LanguageServices.labelsBody s.langId

/-- `getLabels(langId())`, up to its `await` -/
def getLabels (s : LanguageState) : LanguageState := { s with requests := s.requests.send s.body }

/-- The storage answers at once, so nothing comes in between. -/
def initLangData (language : Option String) : LanguageState :=
  getLabels { language := language, lang := language.getD "ar" }

def toggleLanguage (s : LanguageState) (localValue : String) : LanguageState :=
  getLabels { s with lang := localValue, language := some localValue, langData := Dictionary.empty }

/-- `langData.assignAll`; the service throws nothing, so there always is a map. -/
def assignAll (s : LanguageState) (number : Nat) (answer : Except DartError Json) : LanguageState :=
  { s with langData := LanguageServices.getLabels answer, requests := s.requests.settle number }

end LanguageState

inductive LanguageEvent
  | toggled (localValue : String)
  | answered (number : Nat) (answer : Except DartError Json)

def LanguageState.step (s : LanguageState) : LanguageEvent → Option LanguageState
  | .toggled localValue => some (s.toggleLanguage localValue)
  | .answered number answer =>
    if number ∈ s.requests.waiting then some (s.assignAll number answer) else none

/-- Every order of choices and answers. -/
def languageController : Machine LanguageState LanguageEvent where
  step := LanguageState.step

/-! ## What an answer leaves in the map -/

@[simp] theorem LanguageState.langData_assignAll (s : LanguageState) (number : Nat)
    (answer : Except DartError Json) :
    (s.assignAll number answer).langData = LanguageServices.getLabels answer := rfl

namespace LanguageServices

/-- The labels of an answer: none if they cannot all be read. -/
def labels (answer : Except DartError Json) : Labels :=
  Dictionary.ofEntries ((labelsJson answer >>= fun json => json.mapM label).toOption.getD [])

/-- The loop over the answer ends well or throws in its first turn. -/
def Unbroken (answer : Except DartError Json) : Prop :=
  ∀ json, labelsJson answer = .ok json →
    (∀ lang ∈ json, (label lang).isOk) ∨ ∀ lang ∈ json.head?, ¬ (label lang).isOk

theorem mapM_label {json : List Json} (hall : ∀ lang ∈ json, (label lang).isOk) :
    json.mapM label = .ok (assignments json) := by
  induction json with
  | nil => rfl
  | cons lang rest ih =>
      obtain ⟨entry, hentry⟩ := exists_of_isOk (hall lang (by simp))
      have hrest := ih fun other hother => hall other (by simp [hother])
      rw [List.mapM_cons, hentry, hrest, assignments, hentry]
      rfl

theorem isOk_of_mapM {json : List Json} {entries : List (Option String × Option String)}
    (hread : List.Forall₂ (fun lang entry => label lang = .ok entry) json entries) :
    ∀ lang ∈ json, (label lang).isOk := by
  induction hread with
  | nil => simp
  | cons hentry _ ih =>
      refine List.forall_mem_cons.2 ⟨?_, ih⟩
      rw [hentry]
      rfl

theorem mapM_label_error {json : List Json} (hsome : ¬ ∀ lang ∈ json, (label lang).isOk) :
    ∃ e, json.mapM label = .error e := by
  cases hread : json.mapM label with
  | error e => exact ⟨e, rfl⟩
  | ok entries => exact absurd (isOk_of_mapM (mapM_eq_ok hread)) hsome

theorem assignments_eq_nil_iff (json : List Json) :
    assignments json = [] ↔ ∀ lang ∈ json.head?, ¬ (label lang).isOk := by
  cases json with
  | nil => simp [assignments]
  | cons lang rest =>
      cases hlabel : label lang with
      | ok entry => simp [assignments, hlabel, Except.isOk, Except.toBool]
      | error e => simp [assignments, hlabel, Except.isOk, Except.toBool]

/-- The map holds the labels of the answer unless the loop broke off on its way. -/
theorem getLabels_eq_labels_iff (answer : Except DartError Json) :
    getLabels answer = labels answer ↔ Unbroken answer := by
  unfold getLabels labels Unbroken
  cases hjson : labelsJson answer with
  | error e => exact iff_of_true rfl fun json h => by cases h
  | ok json =>
      change Dictionary.ofEntries (assignments json)
        = Dictionary.ofEntries ((json.mapM label).toOption.getD []) ↔ _
      simp only [Except.ok.injEq, forall_eq']
      by_cases hall : ∀ lang ∈ json, (label lang).isOk
      · rw [mapM_label hall]
        exact iff_of_true rfl (.inl hall)
      · obtain ⟨e, he⟩ := mapM_label_error hall
        rw [he, or_iff_right hall, ← assignments_eq_nil_iff]
        exact Dictionary.ofEntries_eq_empty_iff (assignments json)

end LanguageServices
end Nourgomla
