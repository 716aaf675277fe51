import Nourgomla.Widgets.SurveyScreen

set_option autoImplicit false

/-! # Each question is answered once

A failed submission leaves the button loading, so the question cannot be confirmed again. And between a success
and its page change the button can be tapped again for the question that was just answered. A survey goes
right exactly as long as no submission fails and none is answered that was confirmed too early. -/

namespace Nourgomla

/-! ## What has become of the questions -/

structure SurveyHistory where
  /-- the questions that were submitted successfully -/
  accepted : List Nat := []
  /-- the last tap came before the page change of a success -/
  early : Bool := false
  /-- the question whose last submission failed, until the next tap that submits -/
  failed : Option Nat := none
deriving DecidableEq

def noteAnswer (s : SurveyState) (e : SurveyEvent) (h : SurveyHistory) : SurveyHistory :=
  match e with
  | .confirmTapped =>
    if s.confirms then { h with early := decide (s.page < s.target), failed := none } else h
  | .answered answer =>
    if SurveyServices.submitAnswer answer = some true then
      { h with accepted := h.accepted ++ s.submitting.toList }
    else { h with failed := s.submitting }
  | .choiceSelected _ _ | .pageChanged => h

def survey : Machine (SurveyState × SurveyHistory) SurveyEvent := surveyScreen.track noteAnswer

/-- Each question is accepted at most once, all of them before the end is shown, and one that failed can be
    submitted again. -/
structure AnsweredOnce (sh : SurveyState × SurveyHistory) : Prop where
  once : sh.2.accepted.Nodup
  complete : sh.1.isComplete = true → ∀ i < sh.1.surveyData.length, i ∈ sh.2.accepted
  again : ∀ i, sh.2.failed = some i → sh.1.confirms = true ∧ sh.1.currentIndex = i

/-- An answer is a success, and was not confirmed between another success and its page change. -/
def AnsweredInTime (sh : SurveyState × SurveyHistory) (e : SurveyEvent) : Prop :=
  ∀ answer, e = .answered answer → SurveyServices.submitAnswer answer = some true ∧ sh.2.early = false

/-! ## The phases of a survey that has gone right -/

section Phases

variable {s : SurveyState} {h : SurveyHistory}

/-- `k` questions have been accepted, and the survey is at question `k`, has moved on to it or is moving. -/
inductive SurveyPhase (k : Nat) (s : SurveyState) (h : SurveyHistory) : Prop
  /-- question `k` is shown, or the end -/
  | asking (hloading : s.loading = false) (hconfirmed : s.confirmed = none) (hindex : s.currentIndex = k)
      (hmoving : s.target ≤ s.page) (hpage : k < s.surveyData.length → s.page = k)
  /-- question `k` is submitted -/
  | submitting (hloading : s.loading = true) (hsubmitting : s.submitting = some k)
      (hearly : h.early = false) (hindex : s.currentIndex = k) (hmoving : s.target ≤ s.page)
      (hpage : s.page = k) (hlt : k < s.surveyData.length)
  /-- question `k - 1` is accepted, and the page change is on its way -/
  | moving (hloading : s.loading = false) (hconfirmed : s.confirmed = none)
      (hindex : s.currentIndex + 1 = k) (htarget : s.target = k) (hpage : s.page + 1 = k)
      (hlt : k < s.surveyData.length)
  /-- question `k - 1` is submitted once more -/
  | resubmitting (hloading : s.loading = true) (hsubmitting : s.submitting = some (k - 1)) (hk : 0 < k)
      (hearly : h.early = true) (hindex : s.currentIndex = s.page) (htarget : s.target = k)
      (hpage : s.page ≤ k) (hlt : k < s.surveyData.length)

/-- What holds in all of them. -/
structure SurveyInv (s : SurveyState) (h : SurveyHistory) : Prop where
  phase : SurveyPhase h.accepted.length s h
  accepted : h.accepted = List.range h.accepted.length
  bound : h.accepted.length ≤ s.surveyData.length
  failed : h.failed = none

theorem succeeded_surveyData (s : SurveyState) : s.succeeded.surveyData = s.surveyData := by
  by_cases hlast : s.currentIndex = s.surveyData.length - 1
  · simp [SurveyState.succeeded, SurveyState.goToNextPage, hlast]
  · simp [SurveyState.succeeded, SurveyState.goToNextPage, hlast]

theorem SurveyInv.answeredOnce (hinv : SurveyInv s h) : AnsweredOnce (s, h) := by
  refine ⟨?_, ?_, ?_⟩
  · change h.accepted.Nodup
    rw [hinv.accepted]
    exact List.nodup_range
  · intro hcomplete i hi
    change i ∈ h.accepted
    have hindex : s.surveyData.length ≤ s.currentIndex := of_decide_eq_true hcomplete
    have hall : s.surveyData.length ≤ h.accepted.length := by
      cases hinv.phase with
      | asking _ _ hindex' _ _ => omega
      | submitting _ _ _ hindex' _ _ hlt => omega
      | moving _ _ hindex' _ _ hlt => omega
      | resubmitting _ _ _ _ hindex' _ hpage hlt => omega
    rw [hinv.accepted, List.mem_range]
    have hi' : i < s.surveyData.length := hi
    omega
  · intro i hi
    rw [hinv.failed] at hi
    cases hi

/-! ### What one event does to the phase -/

theorem phase_choice {k : Nat} (hphase : SurveyPhase k s h) (index : Nat) (choice : String) :
    SurveyPhase k { s with surveyData := s.surveyData.modify index fun survey =>
      { survey with selectedChoice := some choice } } h := by
  cases hphase with
  | asking hloading hconfirmed hindex hmoving hpage =>
      exact .asking hloading hconfirmed hindex hmoving (by simpa using hpage)
  | submitting hloading hsubmitting hearly hindex hmoving hpage hlt =>
      exact .submitting hloading hsubmitting hearly hindex hmoving hpage (by simpa using hlt)
  | moving hloading hconfirmed hindex htarget hpage hlt =>
      exact .moving hloading hconfirmed hindex htarget hpage (by simpa using hlt)
  | resubmitting hloading hsubmitting hk hearly hindex htarget hpage hlt =>
      exact .resubmitting hloading hsubmitting hk hearly hindex htarget hpage (by simpa using hlt)

theorem confirms_cases (hconfirms : s.confirms = true) :
    s.loading = false ∧ s.currentIndex < s.surveyData.length ∧
      s.submission.map (·.index) = some s.currentIndex := by
  simp only [SurveyState.confirms, Bool.and_eq_true, Bool.not_eq_true', Option.any_eq_true,
    SurveyState.currentQuestion] at hconfirms
  obtain ⟨hloading, question, hquestion, -⟩ := hconfirms
  obtain ⟨hlt, -⟩ := List.getElem?_eq_some_iff.1 hquestion
  refine ⟨hloading, hlt, ?_⟩
  simp [SurveyState.submission, SurveyState.currentQuestion, hquestion]

/-- A tap in time submits the next question, a tap that is too early the last one again. -/
theorem phase_confirm {k : Nat} (hphase : SurveyPhase k s h) (hconfirms : s.confirms = true) :
    SurveyPhase k { s with loading := true, confirmed := s.submission }
      { h with early := decide (s.page < s.target), failed := none } := by
  obtain ⟨hidle, hlt, hsubmission⟩ := confirms_cases hconfirms
  cases hphase with
  | asking hloading hconfirmed hindex hmoving hpage =>
      subst hindex
      have hearly : decide (s.page < s.target) = false := decide_eq_false (by omega)
      exact .submitting rfl hsubmission hearly rfl hmoving (hpage hlt) hlt
  | moving hloading hconfirmed hindex htarget hpage hlt =>
      have hearly : decide (s.page < s.target) = true := decide_eq_true (by omega)
      have hpage' : s.page ≤ k := by omega
      have hindex' : s.currentIndex = s.page := by omega
      refine .resubmitting rfl ?_ (by omega) hearly hindex' htarget hpage' hlt
      rw [show k - 1 = s.currentIndex by omega]
      exact hsubmission
  | submitting hloading => simp [hidle] at hloading
  | resubmitting hloading => simp [hidle] at hloading

/-- The success of a submission that was in time. -/
theorem phase_succeeded {k : Nat} {h' : SurveyHistory} (hindex : s.currentIndex = k)
    (hpage : s.page = k) (hlt : k < s.surveyData.length) :
    SurveyPhase (k + 1) s.succeeded h' := by
  subst hindex
  by_cases hlast : s.currentIndex = s.surveyData.length - 1
  · have hsucceeded : s.succeeded = { s with
        loading := false
        confirmed := none
        currentIndex := s.currentIndex + 1
        target := min (s.currentIndex + 1 + 1) (s.surveyData.length - 1) } := by
      simp only [SurveyState.succeeded, if_pos hlast, SurveyState.goToNextPage]
    rw [hsucceeded]
    refine .asking rfl rfl rfl ?_ fun hmore => ?_
    · change min (s.currentIndex + 1 + 1) (s.surveyData.length - 1) ≤ s.page
      omega
    · have hmore' : s.currentIndex + 1 < s.surveyData.length := hmore
      omega
  · have hsucceeded : s.succeeded = { s with
        loading := false
        confirmed := none
        target := min (s.currentIndex + 1) (s.surveyData.length - 1) } := by
      simp only [SurveyState.succeeded, if_neg hlast, SurveyState.goToNextPage]
    rw [hsucceeded]
    refine .moving rfl rfl rfl ?_ ?_ ?_
    · change min (s.currentIndex + 1) (s.surveyData.length - 1) = s.currentIndex + 1
      omega
    · change s.page + 1 = s.currentIndex + 1
      omega
    · change s.currentIndex + 1 < s.surveyData.length
      omega

/-- What is being submitted when an answer arrives; a question submitted once more was accepted before. -/
theorem submitting_cases (hinv : SurveyInv s h) (hconfirmed : s.confirmed.isSome) :
    ∃ k, s.submitting = some k ∧ s.loading = true ∧ (h.early = true → k ∈ h.accepted) := by
  cases hinv.phase with
  | asking _ hnone => simp [hnone] at hconfirmed
  | moving _ hnone => simp [hnone] at hconfirmed
  | submitting hloading hsubmitting hearly =>
      exact ⟨_, hsubmitting, hloading, fun hlate => by simp [hearly] at hlate⟩
  | resubmitting hloading hsubmitting hk =>
      refine ⟨_, hsubmitting, hloading, fun _ => ?_⟩
      rw [hinv.accepted, List.mem_range]
      simp only [List.length_range]
      omega

theorem phase_page {k : Nat} (hphase : SurveyPhase k s h) (hpage : s.page < s.target) :
    SurveyPhase k s.pageChanged h := by
  cases hphase with
  | asking _ _ _ hmoving _ => omega
  | submitting _ _ _ _ hmoving _ _ => omega
  | moving hloading hconfirmed hindex htarget hpage' hlt =>
      refine .asking hloading hconfirmed hpage' ?_ fun _ => hpage'
      change s.target ≤ s.page + 1
      omega
  | resubmitting hloading hsubmitting hk hearly hindex htarget hpage' hlt =>
      refine .resubmitting hloading hsubmitting hk hearly rfl htarget ?_ hlt
      change s.page + 1 ≤ k
      omega

/-! ## Runs -/

/-- A step that meets the guard. -/
theorem surveyInv_step {s' : SurveyState} {h' : SurveyHistory} {e : SurveyEvent}
    (hinv : SurveyInv s h) (hguard : AnsweredInTime (s, h) e)
    (hstep : survey.step (s, h) e = some (s', h')) : SurveyInv s' h' := by
  obtain ⟨hstep, hnote⟩ := Machine.track_step.1 hstep
  obtain ⟨hphase, haccepted, hbound, hfailed⟩ := hinv
  cases e with
  | choiceSelected index choice =>
      obtain rfl : _ = s' := Option.some.inj hstep
      obtain rfl : h' = h := hnote
      exact ⟨phase_choice hphase index choice, haccepted, by simpa using hbound, hfailed⟩
  | confirmTapped =>
      by_cases hconfirms : s.confirms = true
      · obtain rfl : (if s.confirms then { s with loading := true, confirmed := s.submission } else s) = s' :=
          Option.some.inj hstep
        obtain rfl : h' = { h with early := decide (s.page < s.target), failed := none } :=
          hnote.trans (if_pos hconfirms)
        rw [if_pos hconfirms]
        exact ⟨phase_confirm hphase hconfirms, haccepted, hbound, rfl⟩
      · obtain rfl : (if s.confirms then { s with loading := true, confirmed := s.submission } else s) = s' :=
          Option.some.inj hstep
        obtain rfl : h' = h := hnote.trans (if_neg hconfirms)
        rw [if_neg hconfirms]
        exact ⟨hphase, haccepted, hbound, hfailed⟩
  | answered answer =>
      obtain ⟨hsuccess, hearly⟩ := hguard answer rfl
      obtain ⟨hconfirmed, hstep⟩ := Option.ite_none_right_eq_some.1 hstep
      rw [if_pos hsuccess] at hstep
      obtain rfl := Option.some.inj hstep
      obtain rfl : h' = { h with accepted := h.accepted ++ s.submitting.toList } :=
        hnote.trans (if_pos hsuccess)
      cases hphase with
      | asking _ hnone => simp [hnone] at hconfirmed
      | moving _ hnone => simp [hnone] at hconfirmed
      | resubmitting _ _ _ hearly' => exact absurd (hearly.symm.trans hearly') (by decide)
      | submitting _ hsubmitting _ hindex _ hpage hlt =>
          have hlength : (h.accepted ++ s.submitting.toList).length = h.accepted.length + 1 := by
            simp [hsubmitting]
          refine ⟨?_, ?_, ?_, hfailed⟩
          · rw [hlength]
            exact phase_succeeded hindex hpage hlt
          · rw [hlength, List.range_succ, ← haccepted, hsubmitting, Option.toList_some]
          · rw [hlength, succeeded_surveyData]
            exact hlt
  | pageChanged =>
      obtain ⟨⟨hpage, -⟩, hstep⟩ := Option.ite_none_right_eq_some.1 hstep
      obtain rfl := Option.some.inj hstep
      obtain rfl : h' = h := hnote
      exact ⟨phase_page hphase hpage, haccepted, hbound, hfailed⟩

/-- A failed answer leaves the button loading, and a question that is submitted once more is accepted twice. -/
theorem answeredInTime_of_once {s' : SurveyState} {h' : SurveyHistory} {e : SurveyEvent}
    (hinv : SurveyInv s h) (hstep : survey.step (s, h) e = some (s', h'))
    (hgood : AnsweredOnce (s', h')) : AnsweredInTime (s, h) e := by
  rintro answer rfl
  obtain ⟨hstep, hnote⟩ := Machine.track_step.1 hstep
  obtain ⟨hconfirmed, hstep⟩ := Option.ite_none_right_eq_some.1 hstep
  obtain ⟨k, hsubmitting, hloading, hearly⟩ := submitting_cases hinv hconfirmed
  have hsuccess : SurveyServices.submitAnswer answer = some true := by
    by_contra hfail
    rw [if_neg hfail] at hstep
    obtain rfl := Option.some.inj hstep
    obtain rfl : h' = { h with failed := s.submitting } := hnote.trans (if_neg hfail)
    obtain ⟨hconfirms, -⟩ := hgood.again k hsubmitting
    obtain ⟨hidle, -⟩ := confirms_cases hconfirms
    exact absurd (hloading.symm.trans hidle) (by decide)
  refine ⟨hsuccess, ?_⟩
  obtain rfl : h' = { h with accepted := h.accepted ++ s.submitting.toList } :=
    hnote.trans (if_pos hsuccess)
  by_contra hlate
  have htwice : (h.accepted ++ [k]).Nodup := by
    simpa [hsubmitting] using hgood.once
  have hk : k ∈ h.accepted := hearly (by simpa using hlate)
  exact (List.nodup_append.1 htwice).2.2 k hk k (by simp) rfl

end Phases

/-- **The survey.** Through a run of the screen each question is accepted at most once, all of them before the
    end is shown, and one that failed can be submitted again, exactly if no submission fails and no answer
    is for a tap between a success and its page change. -/
theorem answeredOnce_iff (surveyData : List SurveyModel) (events : List SurveyEvent) :
    survey.Throughout AnsweredOnce ({ surveyData := surveyData }, {}) events ↔
      survey.Meets AnsweredInTime ({ surveyData := surveyData }, {}) events := by
  have hopened : SurveyInv { surveyData := surveyData } {} :=
    ⟨.asking rfl rfl rfl le_rfl fun _ => rfl, rfl, Nat.zero_le _, rfl⟩
  refine Machine.throughout_iff_meets (fun sh : SurveyState × SurveyHistory => SurveyInv sh.1 sh.2)
    (fun sh hinv => hinv.answeredOnce) ?_ ?_ events hopened (Machine.meets_true events)
  · exact fun sh e sh' hinv _ hguard hstep => surveyInv_step hinv hguard hstep
  · exact fun sh e sh' hinv _ hstep hgood => answeredInTime_of_once hinv hstep hgood

/-- A survey of two questions, each with its choice made. -/
def twoQuestions : List SurveyModel := [⟨some 1, some "1"⟩, ⟨some 2, some "2"⟩]

/-- An answer as the server gives it after an insertion. -/
def surveyAccepted : Except DartError Json := .ok (.obj [("success", .bool true)])

/-- After a failure no tap submits again. And after two quick taps the survey ends without its last
    question. -/
theorem failed_answer_stuck :
    ¬ survey.Throughout AnsweredOnce ({ surveyData := twoQuestions }, {})
      [.confirmTapped, .answered (.error .httpFailure)] ∧
    ∃ sh, survey.run ({ surveyData := twoQuestions }, {})
        [.confirmTapped, .answered surveyAccepted, .confirmTapped, .pageChanged, .answered surveyAccepted]
      = some sh ∧ sh.1.isComplete = true ∧ sh.2.accepted = [0, 0] := by
  refine ⟨fun hgood => ?_, Machine.reaches (by decide)⟩
  have hagain := ((hgood.2 _ rfl).2 _ rfl).again 0 rfl
  revert hagain
  decide

end Nourgomla
