import Nourgomla.Controllers.SplashController
import Nourgomla.Library.Dictionary
import Nourgomla.Library.Integers

set_option autoImplicit false

/-! # The settings, from the server's answer to the getters

`services/api_calls/settings_services.dart`, `models/settings_model.dart` and the getters of
`controllers/settings_controller.dart`. The answer is a list of key words and values; the model is made of
the values or, if one of its two numbers cannot be read, not at all. -/

namespace Nourgomla

/-! ## The model -/

/-- `Settings` of `models/settings_model.dart` without its colors; the numbers are there once it is made. -/
structure AppSettings where
  pointsEnabled : Option String
  loadingIcon : Option String
  phoneAuthRequired : Option String
  uploadImageRequired : Option String
  activationRequired : Option String
  billProductWidget : Option String
  reviewEnabled : Option String
  multiVendor : Option String
  filter1Bar : Option String
  filter2Bar : Option String
  filter3Bar : Option String
  filter1Page : Option String
  filter2Page : Option String
  filter3Page : Option String
  availablePackaging : Int
  version : Int
  productBuilderType : Option String
  forceUpdate : Option String
deriving DecidableEq

/-- `int.parse(value)` -/
def parsedInt (value : Option String) : Except DartError Int :=
  notNull (value.bind parseInt)

def AppSettings.fromJson (json : String → Option String) : Except DartError AppSettings := do
  let availablePackaging ← parsedInt (json "package_products")
  let version ← parsedInt (json "version")
  return {
    loadingIcon := json "loading_icon"
    pointsEnabled := json "if_points"
    activationRequired := json "user_activation_required"
    uploadImageRequired := json "user_upload_image"
    phoneAuthRequired := json "phone_auth_required"
    billProductWidget := json "bill_product_widget"
    filter1Bar := json "filter_1_bar"
    filter2Bar := json "filter_2_bar"
    filter3Bar := json "filter_3_bar"
    filter1Page := json "filter_1_page"
    filter2Page := json "filter_2_page"
    filter3Page := json "filter_3_page"
    productBuilderType := json "products_template"
    reviewEnabled := json "product_review"
    multiVendor := json "multi_vendor"
    forceUpdate := json "force_update"
    availablePackaging
    version }

/-! ## The load -/

namespace SettingsServices

/-- One turn of the loop over the answer; key and value may be null. -/
def entry (setting : Json) : Except DartError (Option String × Option String) := do
  return (← setting.stringField "key_word", ← setting.stringField "value")

def entries (answer : Except DartError Json) :
    Except DartError (List (Option String × Option String)) := do
  let data ← answer
  let json ← notNull (← data.listField "data")
  json.mapM entry

/-- `settingsData[key]` after the loop -/
def settingsData (entries : List (Option String × Option String)) (key : String) : Option String :=
  (Dictionary.ofEntries entries (some key)).join

/-- The error is caught: it shows a dialog and there is no model. -/
def getAppSettings (answer : Except DartError Json) : Option AppSettings :=
  caught do
    let entries ← entries answer
    return some (← AppSettings.fromJson (settingsData entries))

end SettingsServices

/-! ## The getters -/

structure SettingsState where
  settingsData : Option AppSettings := none
deriving DecidableEq

namespace SettingsState

def getHomeData (answer : Except DartError Json) : SettingsState :=
  { settingsData := SettingsServices.getAppSettings answer }

def hasValue (s : SettingsState) (value : Option String) : Bool :=
  s.settingsData.isSome && value != none && value != some ""

variable (s : SettingsState)

/-- `hasValue(settingsData.x) ? isEnabled(settingsData.x) : false` -/
def enabled (x : AppSettings → Option String) : Except DartError Bool := do
  if s.hasValue (x (← notNull s.settingsData)) then
    return SettingsController.isEnabled (x (← notNull s.settingsData))
  else return false

/-- `hasValue(settingsData.x) ? settingsData.x : fallback` -/
def text (x : AppSettings → Option String) (fallback : String) :
    Except DartError (Option String) := do
  if s.hasValue (x (← notNull s.settingsData)) then return x (← notNull s.settingsData)
  else return some fallback

/-- `hasValue(settingsData.x.toString()) ? settingsData.x : fallback` -/
def number (x : AppSettings → Int) (fallback : Int) : Except DartError Int := do
  if s.hasValue (some (toString (x (← notNull s.settingsData)))) then
    return x (← notNull s.settingsData)
  else return fallback

def pointsEnabled := s.enabled (·.pointsEnabled)
def activationRequired := s.enabled (·.activationRequired)
def uploadImageRequired := s.enabled (·.uploadImageRequired)
def phoneAuthRequired := s.enabled (·.phoneAuthRequired)
def filter1barEnabled := s.enabled (·.filter1Bar)
def filter2barEnabled := s.enabled (·.filter2Bar)
def filter3barEnabled := s.enabled (·.filter3Bar)
def filter1pageEnabled := s.enabled (·.filter1Page)
def filter2pageEnabled := s.enabled (·.filter2Page)
def filter3pageEnabled := s.enabled (·.filter3Page)
def reviewEnabled := s.enabled (·.reviewEnabled)
def isMultiVendor := s.enabled (·.multiVendor)
def forceUpdate := s.enabled (·.forceUpdate)
def loadingIcon := s.text (·.loadingIcon) "RotatingPlain"
def productBuilderType := s.text (·.productBuilderType) "1"
def billProductWidget := s.text (·.billProductWidget) "1"
def availablePackaging := s.number (·.availablePackaging) 3
def version := s.number (·.version) 1

end SettingsState

/-! ## What a getter gives -/

section Spec

theorem parsedInt_eq_ok {value : Option String} {n : Int} :
    parsedInt value = .ok n ↔ value.bind parseInt = some n := by
  unfold parsedInt
  cases value.bind parseInt <;> simp [notNull]

/-- What `hasValue(x) ? isEnabled(x) : false` comes to. -/
theorem isEnabled_of_hasValue (value : Option String) :
    (if SettingsController.hasValue value then SettingsController.isEnabled value else false)
      = (value == some "true") := by
  cases value with
  | none => rfl
  | some value =>
      by_cases hempty : value = ""
      · subst hempty
        rfl
      · simp [SettingsController.hasValue, SettingsController.isEnabled, hempty]

theorem hasValue_some (settings : AppSettings) (value : Option String) :
    (⟨some settings⟩ : SettingsState).hasValue value = SettingsController.hasValue value := rfl

theorem enabled_some (settings : AppSettings) (x : AppSettings → Option String) :
    (⟨some settings⟩ : SettingsState).enabled x = .ok (x settings == some "true") := by
  rw [← isEnabled_of_hasValue, apply_ite Except.ok]
  rfl

theorem text_some (settings : AppSettings) (x : AppSettings → Option String) (fallback : String) :
    (⟨some settings⟩ : SettingsState).text x fallback
      = .ok (some (((x settings).filter (· ≠ "")).getD fallback)) := by
  simp only [SettingsState.text, hasValue_some, notNull, bind, Except.bind, pure, Except.pure]
  cases x settings with
  | none => rfl
  | some value =>
      by_cases hempty : value = ""
      · subst hempty
        rfl
      · simp [SettingsController.hasValue, Option.filter, hempty]

/-- A number is there, so its text is not empty and the fallback is not used. -/
theorem number_some (settings : AppSettings) (x : AppSettings → Int) (fallback : Int) :
    (⟨some settings⟩ : SettingsState).number x fallback = .ok (x settings) := by
  have htext : toString (x settings) ≠ "" := Num.text_ne_empty (.int (x settings))
  have hvalue : SettingsController.hasValue (some (toString (x settings))) = true := by
    simpa [SettingsController.hasValue] using htext
  simp only [SettingsState.number, hasValue_some, notNull, bind, Except.bind, pure, Except.pure,
    hvalue, if_true]

end Spec
end Nourgomla
