import Nourgomla.Widgets.ComplaintsScreen

set_option autoImplicit false

/-! # One complaint a minute

During a visit of the screen at least sixty seconds lie between two complaints, however fast the button is tapped and
whatever is typed meanwhile. Each of them holds what stood in the fields when it was sent, as the validators accepted
it. While the form is closed one timer is live, and its ticks open the form again. -/

namespace Nourgomla

/-- A complaint is sent by a tap on the button, with what stood in the fields. -/
structure ContactUsBody.Sent (body : ContactUsBody) (s : ComplaintsScreen) (user : UserState) : Prop where
  name : body.name = some (s.fields.text .name) ∧ fnLnValidator body.name = none
  content : body.content = some (s.fields.text .content) ∧ multiLineTextValidator body.content = none
  /-- the number that was reported last; it may be the empty one -/
  phone : body.phone = s.phone.confirmedNumber ∧ body.phone ≠ none
  type : body.type = if s.suggestionSelected then "1" else "2"
  createdBy : ComplaintsScreen.createdBy user = .ok body.createdBy

/-- The tap that sent a complaint. -/
def ContactUsBody.SentIn (events : List ComplaintsEvent) (clock : Nat) (body : ContactUsBody) : Prop :=
  ∃ before user after s, events = before ++ .submitTapped user :: after ∧ complaints.run {} before = some s ∧
    s.clock = clock ∧ body.Sent s user

theorem ContactUsBody.SentIn.concat {events : List ComplaintsEvent} {clock : Nat} {body : ContactUsBody}
    (h : body.SentIn events clock) (e : ComplaintsEvent) : body.SentIn (events ++ [e]) clock := by
  obtain ⟨before, user, after, s, rfl, hrun, hclock, hsent⟩ := h
  exact ⟨before, user, after ++ [e], s, by simp, hrun, hclock, hsent⟩

/-! ## The countdown -/

/-- The countdown is off, or one timer counts down. -/
inductive TimerController.Counts (con : TimerController) : Prop
  | off (timers : con.timers = []) (started : con.timerStarted = false) (sec : con.secCounter = 60)
  | on (timer : PeriodicTimer) (timers : con.timers = [timer]) (reference : con.timer = some timer.id)
    (started : con.timerStarted = true) (range : 1 ≤ con.secCounter ∧ con.secCounter ≤ 60)

/-- How many seconds are left. -/
def TimerController.left (con : TimerController) : Int := if con.timerStarted then con.secCounter else 0

namespace TimerController

variable {con : TimerController} {timer : PeriodicTimer}

/-- A second before the last one. -/
theorem tick_of_lt (htimers : con.timers = [timer]) (hsec : 1 < con.secCounter) :
    con.tick timer.id = { con with
      timers := [{ timer with elapsed := timer.elapsed + 1 }]
      secCounter := con.secCounter - 1 } := by
  have hgoesOn : ¬ con.secCounter - 1 ≤ 0 := by omega
  simp [tick, htimers, hgoesOn]

/-- With the last second the timer cancels itself. -/
theorem tick_last (htimers : con.timers = [timer]) (hreference : con.timer = some timer.id)
    (hsec : con.secCounter ≤ 1) :
    con.tick timer.id = { con with timers := [], timerStarted := false, secCounter := 60 } := by
  have hlast : con.secCounter - 1 ≤ 0 := by omega
  simp [tick, cancel, htimers, hreference, hlast]

namespace Counts

/-- A tap finds the countdown off. -/
theorem off_of (h : con.Counts) (hstarted : ¬ con.timerStarted = true) : con.timers = [] ∧ con.secCounter = 60 := by
  cases h with
  | off htimers _ hsec => exact ⟨htimers, hsec⟩
  | on timer htimers hreference hon => exact absurd hon hstarted

theorem startTimer (h : con.Counts) (hstarted : ¬ con.timerStarted = true) :
    con.startTimer.Counts ∧ con.startTimer.left = 60 := by
  obtain ⟨htimers, hsec⟩ := h.off_of hstarted
  refine ⟨.on ⟨con.nextId, 0⟩ ?_ rfl rfl ?_, hsec⟩
  · simp [TimerController.startTimer, htimers]
  · change 1 ≤ con.secCounter ∧ con.secCounter ≤ 60
    omega

theorem tick (h : con.Counts) {id : Nat} (hlive : id ∈ con.timers.map PeriodicTimer.id) :
    (con.tick id).Counts ∧ (con.tick id).left = con.left - 1 := by
  cases h with
  | off htimers => simp [htimers] at hlive
  | on timer htimers hreference hstarted hrange =>
      obtain rfl : id = timer.id := by simpa [htimers] using hlive
      by_cases hlast : con.secCounter ≤ 1
      · rw [tick_last htimers hreference hlast]
        refine ⟨.off rfl rfl rfl, ?_⟩
        simp only [left, hstarted, if_true, Bool.false_eq_true, if_false]
        omega
      · rw [tick_of_lt htimers (by omega)]
        refine ⟨.on { timer with elapsed := timer.elapsed + 1 } rfl hreference hstarted ?_, ?_⟩
        · change 1 ≤ con.secCounter - 1 ∧ con.secCounter - 1 ≤ 60
          omega
        · simp only [left, hstarted, if_true]

end Counts

end TimerController

/-! ## The form opens again -/

def ComplaintsEvent.isTick : ComplaintsEvent → Bool
  | .tick _ => true
  | _ => false

namespace ComplaintsScreen

variable {s s' : ComplaintsScreen}

/-- The live timer is the controller's own, and the seconds that are left open the form: its ticks by themselves, or
    that many ticks among whatever else happens. -/
structure OpensAgain (s : ComplaintsScreen) : Prop where
  live : ∃ timer, s.timer.timers = [timer] ∧ s.timer.timer = some timer.id ∧
    ∃ s', complaints.run s (.replicate s.timer.secCounter.toNat (.tick timer.id)) = some s' ∧
      s'.timer.timerStarted = false
  range : 1 ≤ s.timer.secCounter ∧ s.timer.secCounter ≤ 60
  opens : ∀ after s', complaints.run s after = some s' →
    s.timer.secCounter ≤ after.countP ComplaintsEvent.isTick →
      ∃ before t, before <+: after ∧ complaints.run s before = some t ∧ t.timer.timerStarted = false

theorem step_tick {timer : PeriodicTimer} (htimers : s.timer.timers = [timer]) :
    complaints.step s (.tick timer.id) = some { s with timer := s.timer.tick timer.id, clock := s.clock + 1 } :=
  if_pos (by simp [htimers])

/-- The ticks of the timer by themselves. -/
theorem run_ticks {n : Nat} {timer : PeriodicTimer} (htimers : s.timer.timers = [timer])
    (hreference : s.timer.timer = some timer.id) (hsec : s.timer.secCounter = n + 1) :
    ∃ s', complaints.run s (.replicate (n + 1) (.tick timer.id)) = some s' ∧ s'.timer.timerStarted = false := by
  induction n generalizing s timer with
  | zero =>
      have hlast := TimerController.tick_last htimers hreference (by omega)
      exact ⟨_, Machine.run_cons.2 ⟨_, step_tick htimers, rfl⟩, by rw [hlast]⟩
  | succ n ih =>
      have hnext := TimerController.tick_of_lt htimers (by omega)
      obtain ⟨s', hrun, hopen⟩ :=
        @ih { s with timer := s.timer.tick timer.id, clock := s.clock + 1 } { timer with elapsed := timer.elapsed + 1 }
          (by rw [hnext]) (by rw [hnext]; exact hreference) (by rw [hnext]; change s.timer.secCounter - 1 = _; omega)
      exact ⟨s', Machine.run_cons.2 ⟨_, step_tick htimers, hrun⟩, hopen⟩

/-- While the form is closed only ticks touch the countdown. -/
theorem timer_of_closed {e : ComplaintsEvent} (hstarted : s.timer.timerStarted = true) (hstep : s.step e = some s') :
    e.isTick = true ∨ s'.timer = s.timer := by
  cases e with
  | tick id => exact .inl rfl
  | edit field text => exact .inr (Option.some.inj hstep ▸ rfl)
  | phoneChanged number isoCode => exact .inr (Option.some.inj hstep ▸ rfl)
  | choiceTapped => simp [step, hstarted] at hstep
  | submitTapped user => simp [step, hstarted] at hstep

theorem timer_of_tick {e : ComplaintsEvent} (he : e.isTick = true) (h : s.timer.Counts) (hstep : s.step e = some s') :
    s'.timer.Counts ∧ s'.timer.left = s.timer.left - 1 := by
  cases e with
  | tick id =>
      obtain ⟨hlive, hstep⟩ := Option.ite_none_right_eq_some.1 hstep
      obtain rfl := Option.some.inj hstep
      exact h.tick hlive
  | _ => nomatch he

/-- Ticks among whatever else happens. -/
theorem opens_of_ticks {after : List ComplaintsEvent} (h : s.timer.Counts)
    (hrun : complaints.run s after = some s') (hticks : s.timer.left ≤ after.countP ComplaintsEvent.isTick) :
    ∃ before t, before <+: after ∧ complaints.run s before = some t ∧ t.timer.timerStarted = false := by
  induction after generalizing s with
  | nil =>
      refine ⟨[], s, List.prefix_rfl, rfl, ?_⟩
      cases h with
      | off _ hoff => exact hoff
      | on timer _ _ hstarted hrange =>
          have hleft : s.timer.left = s.timer.secCounter := if_pos hstarted
          rw [hleft, List.countP_nil] at hticks
          omega
  | cons e after ih =>
      obtain ⟨t, hstep, hrest⟩ := Machine.run_cons.1 hrun
      by_cases hstarted : s.timer.timerStarted = true
      · have hnext : t.timer.Counts ∧ t.timer.left ≤ after.countP ComplaintsEvent.isTick := by
          rw [List.countP_cons] at hticks
          by_cases he : e.isTick = true
          · obtain ⟨hcounts, hleft⟩ := timer_of_tick he h hstep
            rw [if_pos he] at hticks
            exact ⟨hcounts, by omega⟩
          · have htimer := (timer_of_closed hstarted hstep).resolve_left he
            rw [if_neg he] at hticks
            exact ⟨htimer ▸ h, by rw [htimer]; omega⟩
        obtain ⟨before, t', hbefore, hrun', hopen⟩ := ih hnext.1 hrest hnext.2
        exact ⟨e :: before, t', List.cons_prefix_cons.2 ⟨rfl, hbefore⟩, Machine.run_cons.2 ⟨t, hstep, hrun'⟩, hopen⟩
      · exact ⟨[], s, List.nil_prefix, rfl, Bool.eq_false_iff.2 hstarted⟩

theorem opensAgain_of_closed (h : s.timer.Counts) (hstarted : s.timer.timerStarted = true) : s.OpensAgain := by
  have hleft : s.timer.left = s.timer.secCounter := if_pos hstarted
  have hopens (after : List ComplaintsEvent) (s' : ComplaintsScreen) (hrun : complaints.run s after = some s')
      (hticks : s.timer.secCounter ≤ after.countP ComplaintsEvent.isTick) := opens_of_ticks h hrun (hleft ▸ hticks)
  cases h with
  | off _ hoff => rw [hoff] at hstarted; nomatch hstarted
  | on timer htimers hreference _ hrange =>
      obtain ⟨n, hn⟩ : ∃ n : Nat, s.timer.secCounter = n + 1 := ⟨(s.timer.secCounter - 1).toNat, by omega⟩
      have hlive := run_ticks htimers hreference hn
      exact {
        live := ⟨timer, htimers, hreference, by rwa [hn]⟩
        range := hrange
        opens := hopens }

end ComplaintsScreen

/-! ## The invariant -/

structure ComplaintsInv (events : List ComplaintsEvent) (s : ComplaintsScreen) : Prop where
  counts : s.timer.Counts
  /-- when the countdown is over, every complaint is a minute old -/
  due : ∀ p ∈ s.posted, (p.1 : Int) + 60 ≤ s.clock + s.timer.left
  spaced : s.posted.Pairwise fun p q => p.1 + 60 ≤ q.1
  sent : ∀ p ∈ s.posted, p.2.SentIn events p.1

namespace ComplaintsInv

variable {events : List ComplaintsEvent} {s s' : ComplaintsScreen} {e : ComplaintsEvent}

theorem start : ComplaintsInv [] {} where
  counts := .off rfl rfl rfl
  due := by simp
  spaced := .nil
  sent := by simp

/-- Nothing is sent, and the countdown stays. -/
theorem quiet (h : ComplaintsInv events s) (htimer : s'.timer = s.timer) (hclock : s'.clock = s.clock)
    (hposted : s'.posted = s.posted) : ComplaintsInv (events ++ [e]) s' where
  counts := htimer ▸ h.counts
  due := by
    rw [htimer, hclock, hposted]
    exact h.due
  spaced := hposted ▸ h.spaced
  sent := fun p hp => (h.sent p (hposted ▸ hp)).concat e

end ComplaintsInv

/-- A tap on the button: it starts the countdown unless it sends nothing. -/
theorem ComplaintsScreen.submitTapped_sends (s : ComplaintsScreen) (user : UserState) :
    ∃ sent : Option ContactUsBody, (∀ body ∈ sent, body.Sent s user) ∧
      (s.submitTapped user).posted = s.posted ++ (sent.map fun body => (s.clock, body)).toList ∧
      (s.submitTapped user).clock = s.clock ∧
      ((s.submitTapped user).timer = s.timer.startTimer ∨
        (s.submitTapped user).timer = s.timer ∧ sent = none) := by
  have hphone : ∃ phone, (if s.phone.confirmedNumber = none then s.phone.setErrMsg else s.phone) = phone ∧
      phone.confirmedNumber = s.phone.confirmedNumber := by
    split
    · exact ⟨_, rfl, rfl⟩
    · exact ⟨_, rfl, rfl⟩
  obtain ⟨phone, hphone, hnumber⟩ := hphone
  rcases hsubmit : s.fields.submit complaintForm with ⟨valid, fields⟩
  simp only [submitTapped, hsubmit, hphone]
  split
  · rename_i hsend
    obtain ⟨rfl, hgiven⟩ := Bool.and_eq_true_iff.1 hsend
    unfold contactUsInsert
    cases hcreated : createdBy user with
    | error e => exact ⟨none, by simp, (List.append_nil _).symm, rfl, .inl rfl⟩
    | ok createdBy =>
        refine ⟨some _, ?_, rfl, rfl, .inl rfl⟩
        rintro body ⟨⟩
        have hname := FormState.submit_accepted hsubmit (List.mem_cons_self ..)
        have hcontent := FormState.submit_accepted hsubmit (List.mem_cons_of_mem _ (List.mem_cons_self ..))
        exact {
          name := ⟨hname.1, hname.1 ▸ hname.2⟩
          content := ⟨hcontent.1, hcontent.1 ▸ hcontent.2⟩
          phone := ⟨hnumber, Option.isSome_iff_ne_none.1 hgiven⟩
          type := rfl
          createdBy := hcreated }
  · exact ⟨none, by simp, (List.append_nil _).symm, rfl, .inr ⟨rfl, rfl⟩⟩

namespace ComplaintsInv

variable {events : List ComplaintsEvent} {s s' : ComplaintsScreen} {e : ComplaintsEvent}

theorem submitTapped (h : ComplaintsInv events s) (hrun : complaints.run {} events = some s) {user : UserState}
    (hoff : ¬ s.timer.timerStarted = true) :
    ComplaintsInv (events ++ [.submitTapped user]) (s.submitTapped user) := by
  obtain ⟨sent, hsent, hposted, hclock, htimer⟩ := s.submitTapped_sends user
  rcases htimer with htimer | ⟨htimer, rfl⟩
  · obtain ⟨hcounts, hleft⟩ := h.counts.startTimer hoff
    have hnone : s.timer.left = 0 := if_neg hoff
    -- the complaints before are a minute old
    have hold (p : Nat × ContactUsBody) (hp : p ∈ s.posted) : (p.1 : Int) + 60 ≤ s.clock := by
      have hdue := h.due p hp
      omega
    exact {
      counts := htimer ▸ hcounts
      due := by
        rw [htimer, hclock, hleft, hposted]
        intro p hp
        rcases List.mem_append.1 hp with hp | hp
        · have hbefore := hold p hp
          omega
        · obtain ⟨body, -, rfl⟩ := Option.map_eq_some_iff.1 (Option.mem_toList.1 hp)
          exact le_refl _
      spaced := by
        rw [hposted]
        refine List.pairwise_append.2 ⟨h.spaced, ?_, fun p hp q hq => ?_⟩
        · cases sent with
          | none => exact .nil
          | some body => exact List.pairwise_singleton _ _
        · obtain ⟨body, -, rfl⟩ := Option.map_eq_some_iff.1 (Option.mem_toList.1 hq)
          have hbefore := hold p hp
          change p.1 + 60 ≤ s.clock
          omega
      sent := by
        rw [hposted]
        intro p hp
        rcases List.mem_append.1 hp with hp | hp
        · exact (h.sent p hp).concat _
        · obtain ⟨body, hbody, rfl⟩ := Option.map_eq_some_iff.1 (Option.mem_toList.1 hp)
          exact ⟨events, user, [], s, rfl, hrun, rfl, hsent body hbody⟩ }
  · exact h.quiet htimer hclock (hposted.trans (List.append_nil _))

theorem tick (h : ComplaintsInv events s) {id : Nat} (hstep : s.step (.tick id) = some s') :
    ComplaintsInv (events ++ [.tick id]) s' := by
  obtain ⟨hlive, hstep⟩ := Option.ite_none_right_eq_some.1 hstep
  obtain rfl := Option.some.inj hstep
  obtain ⟨hcounts, hleft⟩ := h.counts.tick hlive
  exact {
    counts := hcounts
    due := by
      intro p hp
      have hdue := h.due p hp
      change (p.1 : Int) + 60 ≤ (s.clock + 1 : Nat) + (s.timer.tick id).left
      rw [hleft]
      omega
    spaced := h.spaced
    sent := fun p hp => (h.sent p hp).concat _ }

theorem step (h : ComplaintsInv events s) (hrun : complaints.run {} events = some s) (hstep : s.step e = some s') :
    ComplaintsInv (events ++ [e]) s' := by
  cases e with
  | edit field text =>
      obtain rfl := Option.some.inj hstep
      exact h.quiet rfl rfl rfl
  | phoneChanged number isoCode =>
      obtain rfl := Option.some.inj hstep
      exact h.quiet rfl rfl rfl
  | choiceTapped =>
      obtain ⟨-, hs'⟩ := Option.ite_none_left_eq_some.1 hstep
      obtain rfl := Option.some.inj hs'
      exact h.quiet rfl rfl rfl
  | submitTapped user =>
      obtain ⟨hoff, hs'⟩ := Option.ite_none_left_eq_some.1 hstep
      obtain rfl := Option.some.inj hs'
      exact h.submitTapped hrun hoff
  | tick id => exact h.tick hstep

end ComplaintsInv

/-- **Complaints.** In every run of a visit two complaints are at least sixty seconds apart, each was sent by a tap with
    what stood in the fields and was accepted, and while the form takes no taps the controller's own timer is the one
    that is live, and the seconds that are left open the form again. -/
theorem complaints_are_spaced {events : List ComplaintsEvent} {s : ComplaintsScreen}
    (hrun : complaints.run {} events = some s) :
    (s.posted.Pairwise fun p q => p.1 + 60 ≤ q.1) ∧ (∀ p ∈ s.posted, p.2.SentIn events p.1) ∧
      (s.timer.timerStarted = true → s.OpensAgain) := by
  have hinv : ComplaintsInv events s :=
    Machine.inv_of_run ComplaintsInv .start (fun _ _ _ _ hrun h hstep => h.step hrun hstep) hrun
  exact ⟨hinv.spaced, hinv.sent, ComplaintsScreen.opensAgain_of_closed hinv.counts⟩

/-- A complaint, a minute, and another one with the choice turned. -/
def twoComplaints : List ComplaintsEvent :=
  [.edit .name "A", .edit .content "late", .phoneChanged (some "+20100") (some "EG"), .submitTapped {}] ++
    List.replicate 60 (.tick 0) ++ [.choiceTapped, .submitTapped {}]

theorem complaints_are_spaced_sample : ∃ s, complaints.run {} twoComplaints = some s ∧ s.posted.length = 2 ∧
    (s.posted.Pairwise fun p q => p.1 + 60 ≤ q.1) ∧ s.OpensAgain := by
  have hrun : (complaints.run {} twoComplaints).any
      (fun s => decide (s.posted.length = 2 ∧ s.timer.timerStarted = true)) = true := by decide
  obtain ⟨s, hrun, hposted, hstarted⟩ := Machine.reaches hrun
  obtain ⟨hspaced, -, hopens⟩ := complaints_are_spaced hrun
  exact ⟨s, hrun, hposted, hspaced, hopens hstarted⟩

end Nourgomla
