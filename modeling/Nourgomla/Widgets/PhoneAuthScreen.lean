import Nourgomla.Library.Machine

set_option autoImplicit false

/-! # The countdown of the screen for the code

`ui/login/phone_auth.dart`: the code can be sent again when a countdown of twenty seconds has ended. The
screen holds one reference to a timer; a timer that was started and is no longer referred to goes on
until somebody cancels it. -/

namespace Nourgomla

/-- A periodic timer that fires once a second, and how often it has fired. -/
structure PeriodicTimer where
  id : Nat
  elapsed : Nat := 0
deriving DecidableEq

structure PhoneAuthState where
  /-- the timers that are live -/
  timers : List PeriodicTimer := []
  nextId : Nat := 0
  /-- `_timer` -/
  timer : Option Nat := none
  timerStarted : Bool := false
  secCounter : Int := 20
  mounted : Bool := true
deriving DecidableEq

namespace PhoneAuthState

def startTimer (s : PhoneAuthState) : PhoneAuthState :=
  { s with
    timers := s.timers ++ [{ id := s.nextId }]
    nextId := s.nextId + 1
    timer := some s.nextId }

/-- `_timer.cancel()` -/
def cancel (s : PhoneAuthState) : PhoneAuthState :=
  { s with timers := s.timers.filter fun timer => s.timer ≠ some timer.id }

/-- The callback of every timer, in `setState`; it cancels `_timer`, whichever timer that is. -/
def countDown (s : PhoneAuthState) : PhoneAuthState :=
  let s := { s with timerStarted := true, secCounter := s.secCounter - 1 }
  if s.secCounter ≤ 0 then { s with timerStarted := false, secCounter := 20 }.cancel else s

def fired (id : Nat) (s : PhoneAuthState) : PhoneAuthState :=
  { s with timers := s.timers.map fun timer =>
      if timer.id = id then { timer with elapsed := timer.elapsed + 1 } else timer }

/-- `initState` -/
def opened : PhoneAuthState := startTimer {}

end PhoneAuthState

inductive PhoneAuthEvent
  /-- a live timer fires -/
  | tick (id : Nat)
  | resendTapped
  | dispose
deriving DecidableEq

/-- The tap asks for a verification; the button does nothing while the countdown is shown. -/
def PhoneAuthState.resends (s : PhoneAuthState) : Bool := s.mounted && !s.timerStarted

open PhoneAuthState in
def PhoneAuthState.step (s : PhoneAuthState) : PhoneAuthEvent → Option PhoneAuthState
  | .tick id =>
    if id ∈ s.timers.map PeriodicTimer.id then
      -- `setState` throws once the screen is gone, and the timer stays
      some (if s.mounted then (s.fired id).countDown else s.fired id)
    else none
  | .resendTapped =>
    if s.mounted then some (if s.resends then s.startTimer else s) else none
  | .dispose => if s.mounted then some { s.cancel with mounted := false } else none

/-- Every order of ticks, taps and the end of the screen. -/
def phoneAuth : Machine PhoneAuthState PhoneAuthEvent where
  step := PhoneAuthState.step

end Nourgomla
