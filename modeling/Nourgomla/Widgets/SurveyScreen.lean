import Nourgomla.Library.Dart
import Nourgomla.Library.Machine

set_option autoImplicit false

/-! # The survey

`ui/survey/survey_screen.dart` with `controllers/survey_controller.dart` and `survey_services.dart`, from the
loaded questions on. The confirm button takes no tap from a tap until it is reset. After a success the page
view moves on with an animation, and the screen learns of the new page when the page view tells it. -/

namespace Nourgomla

/-- Of `SurveyModel` what the screen reads. -/
structure SurveyModel where
  id : Option Int := none
  selectedChoice : Option String := none
deriving DecidableEq

/-- The result of the service: null if the answer has no `success`, false after an error. -/
def SurveyServices.submitAnswer (answer : Except DartError Json) : Option Bool :=
  match answer >>= Json.boolField "success" with
  | .ok success => success
  | .error _ => some false

/-- An answer of the user as it is posted, and the place of its question. -/
structure SubmittedAnswer where
  answer : Option String
  questionId : Option Int
  index : Nat
deriving DecidableEq

structure SurveyState where
  surveyData : List SurveyModel
  /-- `_currentIndex` -/
  currentIndex : Nat := 0
  /-- the page of the page view, and the page its animation goes to -/
  page : Nat := 0
  target : Nat := 0
  /-- the button is loading -/
  loading : Bool := false
  /-- what was confirmed, while the server's answer is on its way -/
  confirmed : Option SubmittedAnswer := none
deriving DecidableEq

namespace SurveyState

/-- The screen shows `SurveyCompleteWidget`. -/
def isComplete (s : SurveyState) : Bool := s.surveyData.length ≤ s.currentIndex

def currentQuestion (s : SurveyState) : Option SurveyModel := s.surveyData[s.currentIndex]?

/-- A tap on the button submits an answer. -/
def confirms (s : SurveyState) : Bool :=
  !s.loading && s.currentQuestion.any (·.selectedChoice.isSome)

/-- What the tap posts. -/
def submission (s : SurveyState) : Option SubmittedAnswer :=
  s.currentQuestion.map fun survey => ⟨survey.selectedChoice, survey.id, s.currentIndex⟩

/-- The place of the question that is being submitted. -/
def submitting (s : SurveyState) : Option Nat := s.confirmed.map (·.index)

/-- `goToNextPage(_currentIndex)`: the animation ends at the last page. -/
def goToNextPage (s : SurveyState) : SurveyState :=
  { s with target := min (s.currentIndex + 1) (s.surveyData.length - 1) }

/-- The button's callback after a success. -/
def succeeded (s : SurveyState) : SurveyState :=
  let s := { s with loading := false, confirmed := none }
  (if s.currentIndex = s.surveyData.length - 1 then { s with currentIndex := s.currentIndex + 1 }
    else s).goToNextPage

/-- The callback after any other answer, which does not reset the button. -/
def failed (s : SurveyState) : SurveyState := { s with confirmed := none }

/-- `onPageChanged` -/
def pageChanged (s : SurveyState) : SurveyState :=
  { s with page := s.page + 1, currentIndex := s.page + 1 }

end SurveyState

inductive SurveyEvent
  | choiceSelected (index : Nat) (choice : String)
  | confirmTapped
  | answered (answer : Except DartError Json)
  | pageChanged

def SurveyState.step (s : SurveyState) : SurveyEvent → Option SurveyState
  | .choiceSelected index choice =>
    some { s with surveyData := s.surveyData.modify index fun survey =>
      { survey with selectedChoice := some choice } }
  | .confirmTapped =>
    some (if s.confirms then { s with loading := true, confirmed := s.submission } else s)
  | .answered answer =>
    if s.confirmed.isSome then
      some (if SurveyServices.submitAnswer answer = some true then s.succeeded else s.failed)
    else none
  -- the pages are passed one by one, as long as the page view is there
  | .pageChanged => if s.page < s.target ∧ ¬ s.isComplete then some s.pageChanged else none

/-- Every order of choices, taps, answers and page changes. -/
def surveyScreen : Machine SurveyState SurveyEvent where
  step := SurveyState.step

end Nourgomla
