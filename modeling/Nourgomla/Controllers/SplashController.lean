import Nourgomla.Library.Dart
import Nourgomla.Library.Machine
import Nourgomla.Library.Method

set_option autoImplicit false

/-! # From the splash to the first screens

`controllers/splash_controller.dart`, and what else opens a screen at that time: the push messages of
`fcm_controller.dart`, the links of `dynamic_link_service.dart` and the cart button. A screen is shown
while its route is on top of the routes under the dialogs, whatever its widgets make of their data. The
last route is the splash or the main screen, and everything else lies above it. -/

namespace Nourgomla

/-- Of `models/settings_model.dart` what the splash reads. -/
structure Settings where
  version : Int
  forceUpdate : Option String := none
  multiVendor : Option String := none
deriving DecidableEq

def LocalConfig.appVersion : Int := 1

namespace SettingsController

def hasValue (value : Option String) : Bool := value != none && value != some ""

def isEnabled (value : Option String) : Bool := value == some "true"

def isMultiVendor (settings : Settings) : Bool :=
  if hasValue settings.multiVendor then isEnabled settings.multiVendor else false

def forceUpdate (settings : Settings) : Bool :=
  if hasValue settings.forceUpdate then isEnabled settings.forceUpdate else false

end SettingsController

/-! ## Routes -/

inductive Screen
  | product
  | category
deriving DecidableEq

/-- What `Get.to` is called with: a closure that builds the page, as for a message, or the widget itself, as for a
    link, a picture or a category of the home page. -/
inductive Opener
  | closure
  | widget
deriving DecidableEq

/-- A product or category page; the id is none if it does not parse, which a closure finds out when the
    page is built. -/
structure PageRoute where
  screen : Screen
  opener : Opener
  id : Option Int
deriving DecidableEq

inductive SplashDialog
  | mustUpdate
  | newVersion
  | giveLocation
  /-- a dialog with one button that closes it -/
  | notice
deriving DecidableEq

inductive Overlay
  | dialog (dialog : SplashDialog)
  | page (page : PageRoute)
deriving DecidableEq

inductive BaseRoute
  | splash
  | main
deriving DecidableEq

/-- What the splash and its neighbours hold, with the timers and requests that are on their way. -/
structure StartupState (Location : Type) where
  base : BaseRoute := .splash
  /-- the routes above the last one, the top first -/
  above : List Overlay := []
  settings : Option Settings := none
  settingsPending : Bool := true
  userLocation : Option Location := none
  /-- the request of `LocationController.onInit` -/
  locationPending : Bool := true
  /-- the requests of the location dialog -/
  locationRequests : Nat := 0
  checkPending : Bool := true
  /-- the timers of `navigateToApp` -/
  navigations : Nat := 0
  /-- `BottomNavBarController` is registered -/
  navBar : Bool := false
  /-- `DynamicLinkController` is registered -/
  listening : Bool := false
deriving DecidableEq

section Methods

variable {Location : Type}

/-- The page under the dialogs, if it is not the last route. -/
def currentPage : List Overlay → Option PageRoute
  | [] => none
  | .dialog _ :: rest => currentPage rest
  | .page page :: _ => some page

/-- The name of a page is the type of what it was opened with. -/
def withPage (page : PageRoute) (above : List Overlay) : List Overlay :=
  if (currentPage above).any fun current =>
      current.screen = page.screen ∧ current.opener = page.opener then above
  else .page page :: above

namespace Get

def defaultDialog (dialog : SplashDialog) : Method DartError (StartupState Location) Unit :=
  modify fun s => { s with above := .dialog dialog :: s.above }

/-- Never closes the last route. -/
def back : Method DartError (StartupState Location) Unit :=
  modify fun s => { s with above := s.above.tail }

/-- `Get.to`: a page whose name is the current one's is not opened again. -/
def toPage (page : PageRoute) : Method DartError (StartupState Location) Unit :=
  modify fun s => { s with above := withPage page s.above }

/-- Of a new `ScreenNavigator`, whose fields put the link controller. -/
def offAll : Method DartError (StartupState Location) Unit :=
  modify fun s => { s with base := .main, above := [], listening := true }

end Get

namespace SplashController

def navigateToApp : Method DartError (StartupState Location) Unit :=
  modify fun s => { s with navigations := s.navigations + 1 }

def setMultiVendorConfig : Method DartError (StartupState Location) Unit := do
  let settings ← Method.ofExcept (notNull (← get).settings)
  if SettingsController.isMultiVendor settings then
    if (← get).userLocation.isNone then Get.defaultDialog .giveLocation else navigateToApp
  else navigateToApp

def checkForNewVersion : Method DartError (StartupState Location) Unit := do
  let settings ← Method.ofExcept (notNull (← get).settings)
  if settings.version > LocalConfig.appVersion then
    if SettingsController.forceUpdate settings then Get.defaultDialog .mustUpdate
    else Get.defaultDialog .newVersion
  else setMultiVendorConfig

/-- The second delay of `setAppConfig`. The nav bar controller reads a colour of the settings as soon
    as it is put. -/
def checkTimer : Method DartError (StartupState Location) Unit := do
  modify fun s => { s with navBar := true }
  let _settings ← Method.ofExcept (notNull (← get).settings)
  checkForNewVersion

/-- `onCancelTapped` of the dialog about a new version. -/
def laterTapped : Method DartError (StartupState Location) Unit := do
  Get.back
  setMultiVendorConfig

/-- `onOkTapped` of the location dialog, once `getUserLocation` has returned. -/
def locationGiven (location : Option Location) : Method DartError (StartupState Location) Unit := do
  if location.isSome then modify fun s => { s with userLocation := location }
  if (← get).userLocation.isSome then
    Get.back
    navigateToApp

end SplashController

/-- The data of a push message. -/
structure PushMessage where
  page : Option String
  /-- none if it does not parse -/
  id : Option Int
deriving DecidableEq

/-- `FcmController.onMessage` -/
def onMessage (message : PushMessage) : Method DartError (StartupState Location) Unit := do
  if message.page = some "product" then Get.toPage ⟨.product, .closure, message.id⟩
  if message.page = some "category" then Get.toPage ⟨.category, .closure, message.id⟩

structure DeepLink where
  pathSegments : List String
  /-- none if it does not parse, or there is none -/
  id : Option Int
deriving DecidableEq

/-- `DynamicLinkService._handleDeepLink`, which parses the id before it opens the page. -/
def handleDeepLink (link : DeepLink) : Method DartError (StartupState Location) Unit := do
  if "product" ∈ link.pathSegments then
    let id ← Method.ofExcept (notNull link.id)
    Get.toPage ⟨.product, .widget, some id⟩
  if "category" ∈ link.pathSegments then
    let id ← Method.ofExcept (notNull link.id)
    Get.toPage ⟨.category, .widget, some id⟩

end Methods

/-! ## The first minutes as a machine -/

inductive StartupEvent (Location : Type)
  | checkTimer
  | navigateTimer
  /-- the settings; none if they cannot be got or read -/
  | settingsAnswer (settings : Option Settings)
  /-- the answer to `LocationController.onInit` -/
  | locationAnswer (location : Option Location)
  /-- the answer to a request of the location dialog -/
  | dialogLocation (location : Option Location)
  /-- the dialog on top is answered with its first or its second button -/
  | okTapped
  | cancelTapped
  | message (push : PushMessage)
  /-- a message that was tapped outside the app shows a dialog -/
  | launchMessage
  | deepLink (link : DeepLink)
  | shareTapped
  /-- the cart button of a category page, or of a product that is in the cart -/
  | cartTapped
  | back

section Step

variable {Location : Type}

open SplashController

/-- The first button of a dialog. The update buttons do nothing. -/
def SplashDialog.okTapped : SplashDialog → Method DartError (StartupState Location) Unit
  | .mustUpdate | .newVersion => pure ()
  | .giveLocation => modify fun s => { s with locationRequests := s.locationRequests + 1 }
  | .notice => Get.back

/-- The second button. `SystemNavigator.pop` changes nothing here: if the app goes away the run ends. -/
def SplashDialog.cancelTapped : SplashDialog → Method DartError (StartupState Location) Unit
  | .mustUpdate | .giveLocation | .notice => pure ()
  | .newVersion => laterTapped

/-- The method an event runs, if it can occur. -/
def StartupEvent.method (s : StartupState Location) :
    StartupEvent Location → Option (Method DartError (StartupState Location) Unit)
  | .checkTimer => if s.checkPending then some do
      modify fun s => { s with checkPending := false }
      SplashController.checkTimer
    else none
  | .navigateTimer => if 0 < s.navigations then some do
      modify fun s => { s with navigations := s.navigations - 1 }
      Get.offAll
    else none
  | .settingsAnswer settings => if s.settingsPending then some do
      modify fun s => { s with settings := settings, settingsPending := false }
      -- `showErrorDialog`
      if settings.isNone then Get.defaultDialog .notice
    else none
  | .locationAnswer location => if s.locationPending then some do
      modify fun s => { s with userLocation := location, locationPending := false }
    else none
  | .dialogLocation location => if 0 < s.locationRequests then some do
      modify fun s => { s with locationRequests := s.locationRequests - 1 }
      locationGiven location
    else none
  | .okTapped => match s.above with
    | .dialog dialog :: _ => some dialog.okTapped
    | _ => none
  | .cancelTapped => match s.above with
    | .dialog dialog :: _ => some dialog.cancelTapped
    | _ => none
  | .message push => some (onMessage push)
  | .launchMessage => some (Get.defaultDialog .notice)
  | .deepLink link => if s.listening then some (handleDeepLink link) else none
  | .shareTapped => match s.above with
    | .page _ :: _ => some (modify fun s => { s with listening := true })
    | _ => none
  | .cartTapped => match s.above with
    | .page _ :: _ => if s.navBar then some Get.offAll else none
    | _ => none
  | .back => match s.above, s.base with
    | _ :: _, _ => some Get.back
    -- the main screen asks whether to leave; from the splash the app goes away
    | [], .main => some (Get.defaultDialog .notice)
    | [], .splash => none

/-- Every order of timers, answers, taps, messages and links. -/
def startup : Machine (StartupState Location) (StartupEvent Location) where
  step s e := (e.method s).map fun m => (m.exec s).2

end Step

/-! ## What each method does -/

section Spec

variable {Location : Type} {s : StartupState Location}

open Method SplashController

/-- Only pages were opened, at least one, or the one that was asked for is there. -/
def PagesOpened (s s' : StartupState Location) : Prop :=
  ∃ above, s' = { s with above := above } ∧ (currentPage above).isSome = true ∧
    ∀ dialog, Overlay.dialog dialog ∈ above → Overlay.dialog dialog ∈ s.above

theorem pagesOpened_withPage (page : PageRoute) :
    PagesOpened s { s with above := withPage page s.above } := by
  refine ⟨withPage page s.above, rfl, ?_, fun dialog hdialog => ?_⟩
  · unfold withPage
    split
    · next hcurrent =>
        obtain ⟨current, hsome, -⟩ := (Option.any_eq_true _ _).1 hcurrent
        simp [hsome]
    · rfl
  · unfold withPage at hdialog
    split at hdialog
    · exact hdialog
    · simpa using hdialog

theorem PagesOpened.trans {t u : StartupState Location} (hst : PagesOpened s t)
    (htu : PagesOpened t u) : PagesOpened s u := by
  obtain ⟨above, rfl, -, habove⟩ := hst
  obtain ⟨above', rfl, hpage, habove'⟩ := htu
  exact ⟨above', rfl, hpage, fun dialog hdialog => habove dialog (habove' dialog hdialog)⟩

@[simp] theorem exec_toPage (page : PageRoute) : (Get.toPage page).exec s
    = (.ok (), { s with above := withPage page s.above }) := rfl

def PushMessage.OpensPage (push : PushMessage) : Prop :=
  push.page = some "product" ∨ push.page = some "category"

theorem exec_onMessage_opens {push : PushMessage} (h : push.OpensPage) :
    PagesOpened s ((onMessage push).exec s).2 := by
  rcases h with h | h
  · simpa [onMessage, h] using pagesOpened_withPage _
  · simpa [onMessage, h] using pagesOpened_withPage _

theorem exec_onMessage {push : PushMessage} (h : ¬ push.OpensPage) :
    ((onMessage push).exec s).2 = s := by
  obtain ⟨hproduct, hcategory⟩ := not_or.1 h
  simp [onMessage, hproduct, hcategory]

def DeepLink.OpensPage (link : DeepLink) : Prop :=
  link.id.isSome = true ∧ ("product" ∈ link.pathSegments ∨ "category" ∈ link.pathSegments)

theorem exec_handleDeepLink_opens {link : DeepLink} (h : link.OpensPage) :
    PagesOpened s ((handleDeepLink link).exec s).2 := by
  obtain ⟨hid, hpath⟩ := h
  obtain ⟨id, hid⟩ := Option.isSome_iff_exists.1 hid
  by_cases hproduct : "product" ∈ link.pathSegments
  · by_cases hcategory : "category" ∈ link.pathSegments
    · simpa [handleDeepLink, exec_bind, hid, hproduct, hcategory, notNull] using
        (pagesOpened_withPage _).trans (pagesOpened_withPage _)
    · simpa [handleDeepLink, exec_bind, hid, hproduct, hcategory, notNull] using
        pagesOpened_withPage _
  · have hcategory := hpath.resolve_left hproduct
    simpa [handleDeepLink, exec_bind, hid, hproduct, hcategory, notNull] using
      pagesOpened_withPage _

theorem exec_handleDeepLink {link : DeepLink} (h : ¬ link.OpensPage) :
    ((handleDeepLink link).exec s).2 = s := by
  by_cases hid : link.id.isSome
  · -- neither path is there
    obtain ⟨hproduct, hcategory⟩ := not_or.1 fun hpath => h ⟨hid, hpath⟩
    simp [handleDeepLink, hproduct, hcategory]
  · have hnone : link.id = none := by simpa using hid
    by_cases hproduct : "product" ∈ link.pathSegments
    · simp [handleDeepLink, exec_bind, hnone, hproduct, notNull]
    · by_cases hcategory : "category" ∈ link.pathSegments
      · simp [handleDeepLink, exec_bind, hnone, hproduct, hcategory, notNull]
      · simp [handleDeepLink, hproduct, hcategory]

/-- With settings the vendor mode either asks for the location or lets the app in. -/
theorem setMultiVendorConfig_cases {settings : Settings} (hsettings : s.settings = some settings) :
    (setMultiVendorConfig.exec s).2
      = { s with above := .dialog .giveLocation :: s.above } ∨
    (SettingsController.isMultiVendor settings = true → s.userLocation.isSome = true) ∧
      (setMultiVendorConfig.exec s).2 = { s with navigations := s.navigations + 1 } := by
  by_cases hmulti : SettingsController.isMultiVendor settings
  · cases hlocation : s.userLocation with
    | none =>
        left
        simp [setMultiVendorConfig, exec_bind, hsettings, notNull, hmulti, hlocation,
          Get.defaultDialog]
    | some location =>
        right
        simp [setMultiVendorConfig, exec_bind, hsettings, notNull, hmulti, hlocation, navigateToApp]
  · right
    simp [setMultiVendorConfig, exec_bind, hsettings, notNull, hmulti, navigateToApp]

/-! ### What a tap finds on top -/

theorem dialog_on_top {β : Type} {above : List Overlay} {f : SplashDialog → β} {b : β}
    (h : (match above with
      | .dialog dialog :: _ => some (f dialog)
      | _ => none) = some b) : ∃ dialog rest, above = .dialog dialog :: rest ∧ f dialog = b := by
  match above, h with
  | .dialog dialog :: rest, h => exact ⟨dialog, rest, rfl, Option.some.inj h⟩

theorem method_okTapped {m : Method DartError (StartupState Location) Unit}
    (h : StartupEvent.okTapped.method s = some m) :
    ∃ dialog rest, s.above = .dialog dialog :: rest ∧ dialog.okTapped = m :=
  dialog_on_top h

theorem method_cancelTapped {m : Method DartError (StartupState Location) Unit}
    (h : StartupEvent.cancelTapped.method s = some m) :
    ∃ dialog rest, s.above = .dialog dialog :: rest ∧ dialog.cancelTapped = m :=
  dialog_on_top h

theorem method_shareTapped {m : Method DartError (StartupState Location) Unit}
    (h : StartupEvent.shareTapped.method s = some m) :
    (modify fun s => { s with listening := true }) = m := by
  cases habove : s.above with
  | nil => simp [StartupEvent.method, habove] at h
  | cons top rest =>
      cases top with
      | dialog _ => simp [StartupEvent.method, habove] at h
      | page _ => simpa [StartupEvent.method, habove] using h

/-- The cart button is on a page. -/
theorem method_cartTapped {m : Method DartError (StartupState Location) Unit}
    (h : StartupEvent.cartTapped.method s = some m) :
    (currentPage s.above).isSome = true ∧ Get.offAll = m := by
  cases habove : s.above with
  | nil => simp [StartupEvent.method, habove] at h
  | cons top rest =>
      cases top with
      | dialog _ => simp [StartupEvent.method, habove] at h
      | page page =>
          simp only [StartupEvent.method, habove] at h
          obtain ⟨-, hoff⟩ := Option.ite_none_right_eq_some.1 h
          exact ⟨rfl, Option.some.inj hoff⟩

theorem method_back {m : Method DartError (StartupState Location) Unit}
    (h : StartupEvent.back.method s = some m) : Get.back = m ∨ Get.defaultDialog .notice = m := by
  cases habove : s.above with
  | cons top rest => exact .inl (by simpa [StartupEvent.method, habove] using h)
  | nil =>
      cases hbase : s.base with
      | splash => simp [StartupEvent.method, habove, hbase] at h
      | main => exact .inr (by simpa [StartupEvent.method, habove, hbase] using h)

end Spec
end Nourgomla
