import Nourgomla.Controllers.SplashController

set_option autoImplicit false

/-! # The startup gate

No product, category or main screen while the settings force an update, nor with vendors before the
location is known. The splash keeps this: its dialogs and timers let nobody in too early, in any order.
Push messages and links open their pages without asking, also over the dialog that says one must
update. So the gate holds exactly as long as nothing opens a page that it would not let in
(`gated_iff_guarded`). -/

namespace Nourgomla

open Method SplashController

variable {Location : Type}

/-- A forced update is pending. -/
@[reducible] def Settings.MustUpdate (settings : Settings) : Prop :=
  SettingsController.forceUpdate settings = true ∧ settings.version > LocalConfig.appVersion

/-- The settings, if they are known, let a user in. -/
def LetsIn (settings : Option Settings) (located : Bool) : Prop :=
  ∀ known ∈ settings, ¬ known.MustUpdate ∧
    (SettingsController.isMultiVendor known = true → located = true)

instance (settings : Option Settings) (located : Bool) : Decidable (LetsIn settings located) :=
  inferInstanceAs (Decidable (∀ known ∈ settings, _))

/-- A product, category or main screen is shown. -/
def StartupState.ScreenShown (s : StartupState Location) : Prop :=
  s.base = .main ∨ (currentPage s.above).isSome = true

instance (s : StartupState Location) : Decidable s.ScreenShown :=
  inferInstanceAs (Decidable (_ ∨ _))

/-- The user has been located before now. -/
def noteLocated (_ : StartupState Location) (e : StartupEvent Location) (located : Bool) : Bool :=
  match e with
  | .locationAnswer location | .dialogLocation location => located || location.isSome
  | _ => located

/-- The start, with whether the location has been known. -/
def gatedStartup : Machine (StartupState Location × Bool) (StartupEvent Location) :=
  startup.track noteLocated

def Gated (s : StartupState Location × Bool) : Prop :=
  s.1.ScreenShown → LetsIn s.1.settings s.2

instance (s : StartupState Location × Bool) : Decidable (Gated s) :=
  inferInstanceAs (Decidable (_ → _))

/-- A message or a link opens a page only if the gate lets in; and the settings that come while a
    screen is shown let in. -/
def OpensInTime (s : StartupState Location × Bool) : StartupEvent Location → Prop
  | .message push => push.OpensPage → LetsIn s.1.settings s.2
  | .deepLink link => link.OpensPage → LetsIn s.1.settings s.2
  | .settingsAnswer settings => s.1.ScreenShown → LetsIn settings s.2
  | _ => True

/-! ## The invariant -/

/-- The splash is past the version: a dialog or a request that follows it is there. -/
def StartupState.PastVersion (s : StartupState Location) : Prop :=
  0 < s.locationRequests ∨ .dialog .newVersion ∈ s.above ∨ .dialog .giveLocation ∈ s.above

structure GateInv (s : StartupState Location) (located : Bool) : Prop where
  gated : s.ScreenShown → LetsIn s.settings located
  pastVersion : s.PastVersion → ∃ known, s.settings = some known ∧ ¬ known.MustUpdate
  /-- a timer that will show the main screen was started by settings that let in -/
  entering : 0 < s.navigations → s.settings.isSome = true ∧ LetsIn s.settings located
  answered : s.settings.isSome = true → s.settingsPending = false
  located : s.userLocation.isSome = true → located = true

theorem LetsIn.mono {settings : Option Settings} {located located' : Bool}
    (h : LetsIn settings located) (hle : located = true → located' = true) :
    LetsIn settings located' :=
  fun known hknown => ⟨(h known hknown).1, fun hmulti => hle ((h known hknown).2 hmulti)⟩

theorem letsIn_some {known : Settings} {located : Bool} : LetsIn (some known) located ↔
    ¬ known.MustUpdate ∧ (SettingsController.isMultiVendor known = true → located = true) := by
  simp [LetsIn]

/-- What changes neither the settings nor the location, and starts no timer, only has to keep to the
    gate. -/
theorem GateInv.frame {s s' : StartupState Location} {located : Bool} (h : GateInv s located)
    (hsettings : s'.settings = s.settings) (hpending : s'.settingsPending = s.settingsPending)
    (hlocation : s'.userLocation = s.userLocation) (htimers : s'.navigations ≤ s.navigations)
    (hpast : s'.PastVersion → s.PastVersion)
    (hshown : s'.ScreenShown → LetsIn s.settings located) : GateInv s' located := by
  constructor
  · rw [hsettings]
    exact hshown
  · intro hs'
    rw [hsettings]
    exact h.pastVersion (hpast hs')
  · intro hpositive
    rw [hsettings]
    exact h.entering (by omega)
  · rw [hsettings, hpending]
    exact h.answered
  · rw [hlocation]
    exact h.located

/-- Closing what is on top shows nothing new. -/
theorem screenShown_tail {s : StartupState Location}
    (h : StartupState.ScreenShown { s with above := s.above.tail }) : s.ScreenShown := by
  rcases h with hbase | hpage
  · exact .inl hbase
  · right
    cases habove : s.above with
    | nil => simp [habove, currentPage] at hpage
    | cons top rest =>
        cases top with
        | dialog _ => simpa [habove, currentPage] using hpage
        | page _ => rfl

theorem pastVersion_tail {s : StartupState Location}
    (h : StartupState.PastVersion { s with above := s.above.tail }) : s.PastVersion :=
  h.imp_right fun hdialog => hdialog.imp List.mem_of_mem_tail List.mem_of_mem_tail

/-- `Get.back` keeps the invariant. -/
theorem GateInv.back {s : StartupState Location} {located : Bool} (h : GateInv s located) :
    GateInv { s with above := s.above.tail } located :=
  h.frame rfl rfl rfl le_rfl pastVersion_tail fun hshown => h.gated (screenShown_tail hshown)

/-- A dialog that follows nothing keeps it. -/
theorem GateInv.dialog {s : StartupState Location} {located : Bool} (h : GateInv s located)
    {dialog : SplashDialog} (hversion : dialog ≠ .newVersion) (hlocation : dialog ≠ .giveLocation) :
    GateInv { s with above := .dialog dialog :: s.above } located := by
  refine h.frame rfl rfl rfl le_rfl (fun hpast => ?_) h.gated
  simpa [StartupState.PastVersion, hversion.symm, hlocation.symm] using hpast

/-- So does the main screen, where the gate lets in. -/
theorem GateInv.offAll {s : StartupState Location} {located : Bool} (h : GateInv s located)
    (hin : LetsIn s.settings located) :
    GateInv { s with base := .main, above := [], listening := true } located := by
  refine h.frame rfl rfl rfl le_rfl (fun hpast => ?_) fun _ => hin
  rcases hpast with hrequests | hdialog | hdialog
  · exact .inl hrequests
  · simp at hdialog
  · simp at hdialog

/-- Opening pages keeps the invariant if the gate lets in. -/
theorem GateInv.opened {s s' : StartupState Location} {located : Bool} (h : GateInv s located)
    (hopened : PagesOpened s s') (hin : LetsIn s.settings located) : GateInv s' located := by
  obtain ⟨above, rfl, -, habove⟩ := hopened
  refine h.frame rfl rfl rfl le_rfl (fun hpast => ?_) fun _ => hin
  exact hpast.imp_right fun hdialog => hdialog.imp (habove _) (habove _)

/-- And a screen is shown then. -/
theorem letsIn_of_opened {s s' : StartupState Location} {located : Bool}
    (hopened : PagesOpened s s') (hgated : Gated (s', located)) : LetsIn s.settings located := by
  obtain ⟨above, rfl, hpage, -⟩ := hopened
  exact hgated (.inr hpage)

/-! ## The splash -/

theorem GateInv.setMultiVendorConfig {s : StartupState Location} {located : Bool}
    (h : GateInv s located) {known : Settings} (hknown : s.settings = some known)
    (hversion : ¬ known.MustUpdate) : GateInv (setMultiVendorConfig.exec s).2 located := by
  rcases setMultiVendorConfig_cases hknown with hdialog | ⟨hlocation, hnavigate⟩
  · rw [hdialog]
    exact ⟨h.gated, fun _ => ⟨known, hknown, hversion⟩, h.entering, h.answered, h.located⟩
  · rw [hnavigate]
    refine ⟨h.gated, h.pastVersion, fun _ => ?_, h.answered, h.located⟩
    show s.settings.isSome = true ∧ LetsIn s.settings located
    rw [hknown]
    exact ⟨rfl, letsIn_some.2 ⟨hversion, fun hmulti => h.located (hlocation hmulti)⟩⟩

theorem GateInv.checkTimer {s : StartupState Location} {located : Bool} (h : GateInv s located) :
    GateInv (checkTimer.exec s).2 located := by
  have hput : GateInv { s with navBar := true } located :=
    h.frame rfl rfl rfl le_rfl id h.gated
  cases hknown : s.settings with
  | none => simpa [SplashController.checkTimer, exec_bind, hknown, notNull] using hput
  | some known =>
      by_cases hnew : known.version > LocalConfig.appVersion
      · by_cases hforce : SettingsController.forceUpdate known = true
        · -- the dialog that only closes the app
          have hdialog : (SplashController.checkTimer.exec s).2
              = { s with navBar := true, above := .dialog .mustUpdate :: s.above } := by
            simp [SplashController.checkTimer, checkForNewVersion, exec_bind, hknown, notNull, hnew,
              hforce, Get.defaultDialog]
          rw [hdialog]
          exact hput.dialog (by decide) (by decide)
        · have hdialog : (SplashController.checkTimer.exec s).2
              = { s with navBar := true, above := .dialog .newVersion :: s.above } := by
            simp [SplashController.checkTimer, checkForNewVersion, exec_bind, hknown, notNull, hnew,
              hforce, Get.defaultDialog]
          rw [hdialog]
          exact ⟨h.gated, fun _ => ⟨known, hknown, fun hmust => hforce hmust.1⟩, h.entering,
            h.answered, h.located⟩
      · have hvendors : (SplashController.checkTimer.exec s).2
            = (SplashController.setMultiVendorConfig.exec { s with navBar := true }).2 := by
          simp [SplashController.checkTimer, checkForNewVersion, exec_bind, hknown, notNull, hnew]
        rw [hvendors]
        exact hput.setMultiVendorConfig hknown fun hmust => hnew hmust.2

/-- A location request leaves what it found, and what was known stays so. -/
theorem GateInv.answered_location {s : StartupState Location} {located : Bool}
    (h : GateInv s located) {location userLocation : Option Location}
    (hlocated : userLocation.isSome = true → (located || location.isSome) = true) :
    GateInv { s with userLocation := userLocation } (located || location.isSome) := by
  have hmono : located = true → (located || location.isSome) = true := fun hknown => by
    rw [hknown, Bool.true_or]
  exact ⟨fun hshown => (h.gated hshown).mono hmono, h.pastVersion,
    fun hpositive => ⟨(h.entering hpositive).1, (h.entering hpositive).2.mono hmono⟩,
    h.answered, hlocated⟩

/-- The answer to the location dialog lets in if there is a location by then. -/
theorem GateInv.locationGiven {s : StartupState Location} {located : Bool} (h : GateInv s located)
    {known : Settings} (hknown : s.settings = some known) (hversion : ¬ known.MustUpdate)
    (location : Option Location) :
    GateInv ((locationGiven location).exec s).2 (located || location.isSome) := by
  have henter : ∀ userLocation : Option Location, (located || location.isSome) = true →
      GateInv { s with userLocation := userLocation, above := s.above.tail
                       navigations := s.navigations + 1 } (located || location.isSome) := by
    intro userLocation hlocated
    have hback := (h.answered_location fun _ => hlocated : GateInv { s with
      userLocation := userLocation } (located || location.isSome)).back
    refine ⟨hback.gated, hback.pastVersion, fun _ => ?_, hback.answered, hback.located⟩
    show s.settings.isSome = true ∧ LetsIn s.settings _
    rw [hknown]
    exact ⟨rfl, letsIn_some.2 ⟨hversion, fun _ => hlocated⟩⟩
  cases location with
  | some location =>
      have hexec : ((SplashController.locationGiven (some location)).exec s).2
          = { s with userLocation := some location, above := s.above.tail
                     navigations := s.navigations + 1 } := by
        simp [SplashController.locationGiven, Get.back, navigateToApp]
      rw [hexec]
      exact henter (some location) (by simp)
  | none =>
      cases hlocation : s.userLocation with
      | none =>
          have hexec : ((SplashController.locationGiven none).exec s).2 = s := by
            simp [SplashController.locationGiven, hlocation]
          rw [hexec]
          simpa using h
      | some userLocation =>
          -- another request has found the location meanwhile
          have hlocated : located = true := h.located (by simp [hlocation])
          have hexec : ((SplashController.locationGiven none).exec s).2
              = { s with above := s.above.tail, navigations := s.navigations + 1 } := by
            simp [SplashController.locationGiven, hlocation, Get.back, navigateToApp]
          have hsame : { s with above := s.above.tail, navigations := s.navigations + 1 }
              = { s with userLocation := some userLocation, above := s.above.tail
                         navigations := s.navigations + 1 } := by
            rw [← hlocation]
          rw [hexec, hsame]
          exact henter (some userLocation) (by simp [hlocated])

/-! ## One event -/

/-- The start of the app. -/
theorem gateInv_start : GateInv ({} : StartupState Location) false := by
  refine ⟨fun hshown => ?_, fun hpast => ?_, fun hpositive => ?_, by simp, by simp⟩
  · simp [StartupState.ScreenShown, currentPage] at hshown
  · simp [StartupState.PastVersion] at hpast
  · simp at hpositive

theorem GateInv.settingsAnswer {s : StartupState Location} {located : Bool} (h : GateInv s located)
    {answer : Option Settings} {above : List Overlay} (hpending : s.settingsPending = true)
    (habove : above = s.above ∨ above = .dialog .notice :: s.above)
    (hin : s.ScreenShown → LetsIn answer located) :
    GateInv { s with settings := answer, settingsPending := false, above := above } located := by
  -- nothing that follows the version is there before the settings
  have hnone : s.settings = none := by
    cases hsettings : s.settings with
    | none => rfl
    | some known => simp [h.answered (by simp [hsettings])] at hpending
  have hpast : ¬ s.PastVersion := fun hpast => by
    obtain ⟨known, hknown, -⟩ := h.pastVersion hpast
    simp [hnone] at hknown
  have htimers : ¬ 0 < s.navigations := fun hpositive => by
    simpa [hnone] using (h.entering hpositive).1
  have hshown : (s.base = .main ∨ (currentPage above).isSome = true) → s.ScreenShown := by
    rcases habove with rfl | rfl
    · exact id
    · exact id
  refine ⟨fun hs' => hin (hshown hs'), fun hs' => absurd ?_ hpast, fun hs' => absurd hs' htimers,
    fun _ => rfl, h.located⟩
  rcases habove with rfl | rfl
  · exact hs'
  · simpa [StartupState.PastVersion] using hs'

/-- The first button of the dialog on top. -/
theorem GateInv.okTapped {s : StartupState Location} {located : Bool} (h : GateInv s located)
    {dialog : SplashDialog} {rest : List Overlay} (habove : s.above = .dialog dialog :: rest) :
    GateInv (dialog.okTapped.exec s).2 located := by
  cases dialog with
  | mustUpdate => exact h
  | newVersion => exact h
  | giveLocation =>
      -- the request follows the dialog
      refine h.frame rfl rfl rfl le_rfl (fun _ => ?_) h.gated
      exact .inr (.inr (by simp [habove]))
  | notice => exact h.back

/-- The second button. -/
theorem GateInv.cancelTapped {s : StartupState Location} {located : Bool} (h : GateInv s located)
    {dialog : SplashDialog} {rest : List Overlay} (habove : s.above = .dialog dialog :: rest) :
    GateInv (dialog.cancelTapped.exec s).2 located := by
  cases dialog with
  | newVersion =>
      obtain ⟨known, hknown, hversion⟩ := h.pastVersion (.inr (.inl (by simp [habove])))
      exact h.back.setMultiVendorConfig hknown hversion
  | mustUpdate => exact h
  | giveLocation => exact h
  | notice => exact h

/-- An event in time keeps the invariant. -/
theorem gateInv_step {s s' : StartupState Location × Bool} {e : StartupEvent Location}
    (h : GateInv s.1 s.2) (hintime : OpensInTime s e) (hstep : gatedStartup.step s e = some s') :
    GateInv s'.1 s'.2 := by
  obtain ⟨s, located⟩ := s
  obtain ⟨s', located'⟩ := s'
  obtain ⟨hnext, hlocated⟩ := Machine.track_step.1 hstep
  obtain rfl : located' = noteLocated s e located := hlocated
  obtain ⟨m, hm, rfl⟩ := Option.map_eq_some_iff.1 hnext
  cases e with
  | checkTimer =>
      obtain ⟨hpending, hsome⟩ := Option.ite_none_right_eq_some.1 hm
      obtain rfl := Option.some.inj hsome
      have hstarted : GateInv { s with checkPending := false } located :=
        h.frame rfl rfl rfl le_rfl id h.gated
      exact hstarted.checkTimer
  | navigateTimer =>
      obtain ⟨hpositive, hsome⟩ := Option.ite_none_right_eq_some.1 hm
      obtain rfl := Option.some.inj hsome
      have hfired : GateInv { s with navigations := s.navigations - 1 } located :=
        h.frame rfl rfl rfl (Nat.sub_le _ _) id h.gated
      exact hfired.offAll (h.entering hpositive).2
  | settingsAnswer answer =>
      obtain ⟨hpending, hsome⟩ := Option.ite_none_right_eq_some.1 hm
      obtain rfl := Option.some.inj hsome
      cases answer with
      | none => exact h.settingsAnswer hpending (.inr rfl) hintime
      | some known => exact h.settingsAnswer hpending (.inl rfl) hintime
  | locationAnswer location =>
      obtain ⟨hpending, hsome⟩ := Option.ite_none_right_eq_some.1 hm
      obtain rfl := Option.some.inj hsome
      have hanswered : GateInv { s with userLocation := location } (located || location.isSome) :=
        h.answered_location fun hsome => Bool.or_eq_true_iff.2 (.inr hsome)
      exact hanswered.frame rfl rfl rfl le_rfl id hanswered.gated
  | dialogLocation location =>
      obtain ⟨hpositive, hsome⟩ := Option.ite_none_right_eq_some.1 hm
      obtain rfl := Option.some.inj hsome
      obtain ⟨known, hknown, hversion⟩ := h.pastVersion (.inl hpositive)
      have hasked : GateInv { s with locationRequests := s.locationRequests - 1 } located := by
        refine h.frame rfl rfl rfl le_rfl (fun hpast => ?_) h.gated
        exact hpast.imp_left fun _ => hpositive
      exact hasked.locationGiven hknown hversion location
  | okTapped =>
      obtain ⟨dialog, rest, habove, rfl⟩ := method_okTapped hm
      exact h.okTapped habove
  | cancelTapped =>
      obtain ⟨dialog, rest, habove, rfl⟩ := method_cancelTapped hm
      exact h.cancelTapped habove
  | message push =>
      obtain rfl : onMessage push = m := Option.some.inj hm
      by_cases hopens : push.OpensPage
      · exact h.opened (exec_onMessage_opens hopens) (hintime hopens)
      · rw [exec_onMessage hopens]
        exact h
  | launchMessage =>
      obtain rfl : Get.defaultDialog .notice = m := Option.some.inj hm
      exact h.dialog (by decide) (by decide)
  | deepLink link =>
      obtain ⟨-, hlink⟩ := Option.ite_none_right_eq_some.1 hm
      obtain rfl : handleDeepLink link = m := Option.some.inj hlink
      by_cases hopens : link.OpensPage
      · exact h.opened (exec_handleDeepLink_opens hopens) (hintime hopens)
      · rw [exec_handleDeepLink hopens]
        exact h
  | shareTapped =>
      obtain rfl := method_shareTapped hm
      exact h.frame rfl rfl rfl le_rfl id h.gated
  | cartTapped =>
      -- the page is shown, so the gate lets in
      obtain ⟨hpage, rfl⟩ := method_cartTapped hm
      exact h.offAll (h.gated (.inr hpage))
  | back =>
      rcases method_back hm with rfl | rfl
      · exact h.back
      · exact h.dialog (by decide) (by decide)

/-- An event that leaves the gate kept was in time. -/
theorem opensInTime_step {s s' : StartupState Location × Bool} {e : StartupEvent Location}
    (hstep : gatedStartup.step s e = some s') (hgated : Gated s') : OpensInTime s e := by
  obtain ⟨s, located⟩ := s
  obtain ⟨s', located'⟩ := s'
  obtain ⟨hnext, hlocated⟩ := Machine.track_step.1 hstep
  obtain rfl : located' = noteLocated s e located := hlocated
  obtain ⟨m, hm, rfl⟩ := Option.map_eq_some_iff.1 hnext
  cases e with
  | message push =>
      obtain rfl : onMessage push = m := Option.some.inj hm
      intro hopens
      exact letsIn_of_opened (exec_onMessage_opens hopens) hgated
  | deepLink link =>
      obtain ⟨-, hlink⟩ := Option.ite_none_right_eq_some.1 hm
      obtain rfl : handleDeepLink link = m := Option.some.inj hlink
      intro hopens
      exact letsIn_of_opened (exec_handleDeepLink_opens hopens) hgated
  | settingsAnswer answer =>
      obtain ⟨-, hsome⟩ := Option.ite_none_right_eq_some.1 hm
      obtain rfl := Option.some.inj hsome
      intro hshown
      cases answer with
      | none => simp [LetsIn]
      | some known => exact hgated hshown
  | _ => exact trivial

/-! ## Every order of events -/

/-- From the start of the app the gate is kept in every state of a run exactly if pages are opened, and
    settings come, only in time. -/
theorem gated_iff_guarded (events : List (StartupEvent Location)) :
    gatedStartup.Throughout Gated ({}, false) events ↔
      gatedStartup.Meets OpensInTime ({}, false) events := by
  have hgood : ∀ s : StartupState Location × Bool, GateInv s.1 s.2 → Gated s := fun _ h => h.gated
  exact Machine.throughout_iff_meets (fun s => GateInv s.1 s.2) hgood
    (fun _ _ _ h _ hintime hstep => gateInv_step h hintime hstep)
    (fun _ _ _ _ _ hstep hgated => opensInTime_step hstep hgated) events gateInv_start
    (Machine.meets_true events)

/-! ## A message over the update dialog, and one before the location -/

/-- The product of a message is shown over the dialog that says one must update; and a category while
    the location dialog of the vendor mode waits. -/
theorem not_gated_of_message :
    (∃ s, (@gatedStartup String).run ({}, false)
        [.settingsAnswer (some { version := 2, forceUpdate := some "true" }), .checkTimer,
          .message ⟨some "product", some 5⟩] = some s ∧
      s.1.above = [.page ⟨.product, .closure, some 5⟩, .dialog .mustUpdate] ∧ ¬ Gated s) ∧
    ∃ s, (@gatedStartup String).run ({}, false)
        [.settingsAnswer (some { version := 1, multiVendor := some "true" }), .checkTimer,
          .message ⟨some "category", some 3⟩] = some s ∧
      s.1.above = [.page ⟨.category, .closure, some 3⟩, .dialog .giveLocation] ∧ ¬ Gated s := by
  refine ⟨Machine.reaches ?_, Machine.reaches ?_⟩
  · decide +kernel
  · decide +kernel

end Nourgomla
