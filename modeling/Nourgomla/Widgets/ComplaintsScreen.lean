import Nourgomla.Services.OrderServices
import Nourgomla.Widgets.AccountScreens
import Nourgomla.Widgets.PhoneAuthScreen

set_option autoImplicit false

/-! # The screen for complaints and suggestions

`ui/complaints_and_suggestions/complaints_and_suggestions_screen.dart` with `controllers/timer_controller.dart`, and
`contactUsInsert` of `services/api_calls/user_api_calls.dart`. What is submitted starts a countdown of sixty seconds, and
while it is on the form takes no taps; a field that has the keyboard can still be typed in. -/

namespace Nourgomla

/-! ## The countdown -/

structure TimerController where
  /-- the timers that are live -/
  timers : List PeriodicTimer := []
  nextId : Nat := 0
  /-- `_timer` -/
  timer : Option Nat := none
  timerStarted : Bool := false
  secCounter : Int := 60
deriving DecidableEq

namespace TimerController

def startTimer (con : TimerController) : TimerController :=
  { con with
    timerStarted := true
    timers := con.timers ++ [{ id := con.nextId }]
    nextId := con.nextId + 1
    timer := some con.nextId }

/-- `_timer.cancel()` -/
def cancel (con : TimerController) : TimerController :=
  { con with timers := con.timers.filter fun timer => con.timer ≠ some timer.id }

/-- The callback of a timer that fires. -/
def tick (id : Nat) (con : TimerController) : TimerController :=
  let con := { con with
    timers := con.timers.map fun timer =>
      if timer.id = id then { timer with elapsed := timer.elapsed + 1 } else timer
    secCounter := con.secCounter - 1 }
  if con.secCounter ≤ 0 then { con with timerStarted := false, secCounter := 60 }.cancel else con

end TimerController

/-! ## The screen -/

inductive ComplaintField
  | name | content
deriving DecidableEq

def complaintForm : Form ComplaintField String String :=
  [{ name := .name, validator := fun _ val => fnLnValidator (some val) },
   { name := .content, validator := fun _ val => multiLineTextValidator (some val) }]

structure ContactUsBody where
  phone : Option String
  name : Option String
  type : String
  createdBy : Json
  content : Option String
  languageId : String

structure ComplaintsScreen where
  fields : FormState ComplaintField String String := .opened fun _ => ""
  phone : PhoneController := {}
  timer : TimerController := {}
  suggestionSelected : Bool := true
  /-- the seconds that the timers have counted so far -/
  clock : Nat := 0
  /-- what was posted, with the clock -/
  posted : List (Nat × ContactUsBody) := []

namespace ComplaintsScreen

/-- `_userCon.loggedIn ? _userCon.currentUser.id : ''` -/
def createdBy (user : UserState) : Except DartError Json := do
  if user.loggedIn then return jsonInt (← notNull user.currentUser).id else return .str ""

/-- `contactUsInsert` catches what goes wrong before it posts. -/
def contactUsInsert (user : UserState) (s : ComplaintsScreen) : ComplaintsScreen :=
  match createdBy user with
  | .ok createdBy =>
    let body : ContactUsBody :=
      { phone := s.phone.confirmedNumber
        name := s.fields.saved .name
        type := if s.suggestionSelected then "1" else "2"
        createdBy
        content := s.fields.saved .content
        languageId := "1" }
    { s with posted := s.posted ++ [(s.clock, body)] }
  | .error _ => s

def submitTapped (user : UserState) (s : ComplaintsScreen) : ComplaintsScreen :=
  let (valid, fields) := s.fields.submit complaintForm
  let phone := if s.phone.confirmedNumber = none then s.phone.setErrMsg else s.phone
  let s := { s with fields, phone }
  if valid && s.phone.confirmedNumber.isSome then
    let s := s.contactUsInsert user
    { s with timer := s.timer.startTimer }
  else s

end ComplaintsScreen

inductive ComplaintsEvent
  | edit (field : ComplaintField) (text : String)
  | phoneChanged (internationalizedPhoneNumber isoCode : Option String)
  /-- one of the two buttons, which both turn the choice -/
  | choiceTapped
  /-- the button, with the user of the app by then -/
  | submitTapped (user : UserState)
  /-- a live timer fires -/
  | tick (id : Nat)

/-- One visit of the screen; while the countdown is on `AbsorbPointer` takes the taps. -/
def ComplaintsScreen.step (s : ComplaintsScreen) : ComplaintsEvent → Option ComplaintsScreen
  | .edit field text => some { s with fields := s.fields.edit field text }
  | .phoneChanged number isoCode => some { s with phone := .onPhoneNumberChange number isoCode }
  | .choiceTapped =>
    if s.timer.timerStarted then none else some { s with suggestionSelected := !s.suggestionSelected }
  | .submitTapped user => if s.timer.timerStarted then none else some (s.submitTapped user)
  | .tick id =>
    if id ∈ s.timer.timers.map PeriodicTimer.id then
      some { s with timer := s.timer.tick id, clock := s.clock + 1 }
    else none

def complaints : Machine ComplaintsScreen ComplaintsEvent where
  step := ComplaintsScreen.step

end Nourgomla
