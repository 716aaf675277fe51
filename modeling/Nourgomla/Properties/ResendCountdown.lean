import Nourgomla.Widgets.PhoneAuthScreen

set_option autoImplicit false

/-! # One countdown at a time

The button is enabled from `startTimer` to the first tick, and a tap in between starts a second timer that
takes the only reference to itself. Every run without such a tap counts down with one timer, and no other
run does. -/

namespace Nourgomla

/-- The screen, and whether a verification was requested while a countdown was live. -/
abbrev CountdownHistory := PhoneAuthState × Bool

def noteRequest (s : PhoneAuthState) (e : PhoneAuthEvent) (requested : Bool) : Bool :=
  requested || (e = .resendTapped && s.resends && !s.timers.isEmpty)

def countdown : Machine CountdownHistory PhoneAuthEvent := phoneAuth.track noteRequest

/-- The countdown is as it should be. -/
structure CountsDown (h : CountdownHistory) : Prop where
  oneTimer : h.1.timers.length ≤ 1
  range : 1 ≤ h.1.secCounter ∧ h.1.secCounter ≤ 20
  /-- one less for each second that the timer has run -/
  perSecond : ∀ timer ∈ h.1.timers, h.1.secCounter = 20 - timer.elapsed
  noRequest : h.2 = false
  disposed : h.1.mounted = false → h.1.timers = []

/-- A tap that starts the countdown finds none. -/
def WaitsForCountdown (h : CountdownHistory) (e : PhoneAuthEvent) : Prop :=
  e = .resendTapped → h.1.resends = true → h.1.timers = []

/-! ## The three phases of the screen -/

inductive Phase (s : PhoneAuthState) : Prop
  | idle (htimers : s.timers = []) (hsec : s.secCounter = 20) (hmounted : s.mounted = true)
  | counting (timer : PeriodicTimer) (htimers : s.timers = [timer]) (hreference : s.timer = some timer.id)
      (hsec : s.secCounter = 20 - timer.elapsed) (hrange : 1 ≤ s.secCounter)
      (hmounted : s.mounted = true)
  | gone (htimers : s.timers = []) (hrange : 1 ≤ s.secCounter ∧ s.secCounter ≤ 20)
      (hmounted : s.mounted = false)

theorem Phase.countsDown {h : CountdownHistory} (hphase : Phase h.1) (hrequest : h.2 = false) :
    CountsDown h := by
  cases hphase with
  | idle htimers hsec hmounted =>
      exact ⟨by simp [htimers], by omega, by simp [htimers], hrequest, by simp [htimers]⟩
  | counting timer htimers hreference hsec hrange hmounted =>
      exact ⟨by simp [htimers], by omega, by simpa [htimers] using hsec, hrequest, by simp [hmounted]⟩
  | gone htimers hrange hmounted =>
      exact ⟨by simp [htimers], hrange, by simp [htimers], hrequest, fun _ => htimers⟩

theorem phase_opened : Phase PhoneAuthState.opened :=
  .counting ⟨0, 0⟩ rfl rfl rfl (by decide) rfl

/-- The only timer fires; with the last second it cancels itself. -/
theorem phase_tick {s : PhoneAuthState} {timer : PeriodicTimer} (htimers : s.timers = [timer])
    (hreference : s.timer = some timer.id) (hsec : s.secCounter = 20 - timer.elapsed)
    (hrange : 1 ≤ s.secCounter) (hmounted : s.mounted = true) :
    Phase (s.fired timer.id).countDown := by
  have hfired : s.fired timer.id
      = { s with timers := [{ timer with elapsed := timer.elapsed + 1 }] } := by
    simp [PhoneAuthState.fired, htimers]
  rw [hfired]
  by_cases hlast : s.secCounter - 1 ≤ 0
  · refine .idle ?_ ?_ ?_
    · simp [PhoneAuthState.countDown, PhoneAuthState.cancel, hlast, hreference]
    · simp [PhoneAuthState.countDown, PhoneAuthState.cancel, hlast]
    · simp [PhoneAuthState.countDown, PhoneAuthState.cancel, hlast, hmounted]
  · have hcount : ({ s with timers := [{ timer with elapsed := timer.elapsed + 1 }] }
        : PhoneAuthState).countDown
        = { s with
            timers := [{ timer with elapsed := timer.elapsed + 1 }]
            timerStarted := true
            secCounter := s.secCounter - 1 } := if_neg hlast
    rw [hcount]
    refine .counting _ rfl hreference ?_ ?_ hmounted
    · change s.secCounter - 1 = 20 - ((timer.elapsed + 1 : Nat) : Int)
      omega
    · change 1 ≤ s.secCounter - 1
      omega

theorem phase_step {s s' : PhoneAuthState} {e : PhoneAuthEvent} (hphase : Phase s)
    (hwaits : e = .resendTapped → s.resends = true → s.timers = [])
    (h : phoneAuth.step s e = some s') : Phase s' := by
  cases e with
  | tick id =>
      obtain ⟨hid, h⟩ := Option.ite_none_right_eq_some.1 h
      cases hphase with
      | idle htimers hsec hmounted => simp [htimers] at hid
      | gone htimers hrange hmounted => simp [htimers] at hid
      | counting timer htimers hreference hsec hrange hmounted =>
          obtain rfl : id = timer.id := by simpa [htimers] using hid
          rw [if_pos hmounted] at h
          exact Option.some.inj h ▸ phase_tick htimers hreference hsec hrange hmounted
  | resendTapped =>
      obtain ⟨hmounted, h⟩ := Option.ite_none_right_eq_some.1 h
      by_cases hresends : s.resends = true
      · rw [if_pos hresends] at h
        obtain rfl := Option.some.inj h
        have hnone := hwaits rfl hresends
        cases hphase with
        | idle htimers hsec hmounted =>
            exact .counting ⟨s.nextId, 0⟩ (by simp [PhoneAuthState.startTimer, htimers]) rfl
              (by simp [PhoneAuthState.startTimer, hsec]) (by simp [PhoneAuthState.startTimer, hsec])
              hmounted
        | counting timer htimers hreference hsec hrange hmounted => simp [htimers] at hnone
        | gone htimers hrange hgone => simp [hmounted] at hgone
      · rw [if_neg hresends] at h
        exact Option.some.inj h ▸ hphase
  | dispose =>
      obtain ⟨hmounted, h⟩ := Option.ite_none_right_eq_some.1 h
      obtain rfl := Option.some.inj h
      cases hphase with
      | idle htimers hsec _ =>
          exact .gone (by simp [PhoneAuthState.cancel, htimers])
            (by simp [PhoneAuthState.cancel, hsec]) rfl
      | counting timer htimers hreference hsec hrange _ =>
          exact .gone (by simp [PhoneAuthState.cancel, htimers, hreference])
            ⟨hrange, by simp only [PhoneAuthState.cancel]; omega⟩ rfl
      | gone htimers hrange hgone => simp [hmounted] at hgone

/-! ## Runs -/

/-- A tap that starts a second countdown leaves two timers live. -/
theorem waits_of_countsDown {h h' : CountdownHistory} {e : PhoneAuthEvent}
    (hstep : countdown.step h e = some h') (hgood : CountsDown h') : WaitsForCountdown h e := by
  rintro rfl hresends
  obtain ⟨hstep, -⟩ := Machine.track_step.1 hstep
  obtain ⟨-, hstep⟩ := Option.ite_none_right_eq_some.1 hstep
  rw [if_pos hresends] at hstep
  have hlength := hgood.oneTimer
  rw [← Option.some.inj hstep] at hlength
  simp only [PhoneAuthState.startTimer, List.length_append, List.length_singleton] at hlength
  exact List.eq_nil_of_length_eq_zero (by omega)

theorem noteRequest_of_waits {h : CountdownHistory} {e : PhoneAuthEvent} (hrequest : h.2 = false)
    (hwaits : WaitsForCountdown h e) : noteRequest h.1 e h.2 = false := by
  rw [noteRequest, hrequest, Bool.false_or]
  by_cases htapped : e = .resendTapped
  · by_cases hresends : h.1.resends = true
    · simp [hwaits htapped hresends]
    · simp [hresends]
  · simp [htapped]

/-- **The countdown.** Through a run of the screen there is one timer, the seconds fall one by one, nothing
    is requested meanwhile and nothing is left behind, exactly if no tap on the button starts a countdown
    while one is live. -/
theorem countsDown_iff (events : List PhoneAuthEvent) :
    countdown.Throughout CountsDown (PhoneAuthState.opened, false) events ↔
      countdown.Meets WaitsForCountdown (PhoneAuthState.opened, false) events := by
  refine Machine.throughout_iff_meets (fun h => Phase h.1 ∧ h.2 = false)
    (fun h hinv => hinv.1.countsDown hinv.2) ?_ ?_ events ⟨phase_opened, rfl⟩
    (Machine.meets_true events)
  · rintro h e h' ⟨hphase, hrequest⟩ - hwaits hstep
    obtain ⟨hstep, hnote⟩ := Machine.track_step.1 hstep
    exact ⟨phase_step hphase hwaits hstep, hnote.trans (noteRequest_of_waits hrequest hwaits)⟩
  · exact fun h e h' _ _ hstep hgood => waits_of_countsDown hstep hgood

/-- The button is tapped before the first tick, and the screen is left: one of the two timers goes on. -/
theorem tap_before_tick_leaves_timer :
    ¬ countdown.Throughout CountsDown (PhoneAuthState.opened, false) [.resendTapped] ∧
    ∃ h, countdown.run (PhoneAuthState.opened, false) [.resendTapped, .dispose] = some h ∧
      h.1.mounted = false ∧ h.1.timers ≠ [] := by
  refine ⟨fun hgood => ?_, Machine.reaches (by decide)⟩
  have htwo := (hgood.2 _ rfl).oneTimer
  revert htwo
  decide

end Nourgomla
