import Nourgomla.Controllers.SettingsController

set_option autoImplicit false

/-! # Every getter of the settings falls back on its own

A getter is to give the value of its key if that is well formed, and its fallback if not, whatever became
of the other keys and of the load. The getters do so exactly when the answer can be read and both of its
numbers are numerals: otherwise there is no model, and every getter throws before it asks for one. -/

namespace Nourgomla

open SettingsServices

inductive BoolGetter
  | pointsEnabled
  | activationRequired
  | uploadImageRequired
  | phoneAuthRequired
  | filter1barEnabled
  | filter2barEnabled
  | filter3barEnabled
  | filter1pageEnabled
  | filter2pageEnabled
  | filter3pageEnabled
  | reviewEnabled
  | isMultiVendor
  | forceUpdate

inductive StringGetter
  | loadingIcon
  | productBuilderType
  | billProductWidget

inductive IntGetter
  | availablePackaging
  | version

/-! ## What the getters read -/

def BoolGetter.read (s : SettingsState) : BoolGetter → Except DartError Bool
  | .pointsEnabled => s.pointsEnabled
  | .activationRequired => s.activationRequired
  | .uploadImageRequired => s.uploadImageRequired
  | .phoneAuthRequired => s.phoneAuthRequired
  | .filter1barEnabled => s.filter1barEnabled
  | .filter2barEnabled => s.filter2barEnabled
  | .filter3barEnabled => s.filter3barEnabled
  | .filter1pageEnabled => s.filter1pageEnabled
  | .filter2pageEnabled => s.filter2pageEnabled
  | .filter3pageEnabled => s.filter3pageEnabled
  | .reviewEnabled => s.reviewEnabled
  | .isMultiVendor => s.isMultiVendor
  | .forceUpdate => s.forceUpdate

def StringGetter.read (s : SettingsState) : StringGetter → Except DartError (Option String)
  | .loadingIcon => s.loadingIcon
  | .productBuilderType => s.productBuilderType
  | .billProductWidget => s.billProductWidget

def IntGetter.read (s : SettingsState) : IntGetter → Except DartError Int
  | .availablePackaging => s.availablePackaging
  | .version => s.version

def BoolGetter.key : BoolGetter → String
  | .pointsEnabled => "if_points"
  | .activationRequired => "user_activation_required"
  | .uploadImageRequired => "user_upload_image"
  | .phoneAuthRequired => "phone_auth_required"
  | .filter1barEnabled => "filter_1_bar"
  | .filter2barEnabled => "filter_2_bar"
  | .filter3barEnabled => "filter_3_bar"
  | .filter1pageEnabled => "filter_1_page"
  | .filter2pageEnabled => "filter_2_page"
  | .filter3pageEnabled => "filter_3_page"
  | .reviewEnabled => "product_review"
  | .isMultiVendor => "multi_vendor"
  | .forceUpdate => "force_update"

def StringGetter.key : StringGetter → String
  | .loadingIcon => "loading_icon"
  | .productBuilderType => "products_template"
  | .billProductWidget => "bill_product_widget"

def IntGetter.key : IntGetter → String
  | .availablePackaging => "package_products"
  | .version => "version"

/-! ## What they are to give -/

def StringGetter.fallback : StringGetter → String
  | .loadingIcon => "RotatingPlain"
  | .productBuilderType => "1"
  | .billProductWidget => "1"

def IntGetter.fallback : IntGetter → Int
  | .availablePackaging => 3
  | .version => 1

/-- A well-formed flag; the other texts are none. -/
def readFlag (value : String) : Option Bool :=
  if value = "true" then some true else if value = "false" then some false else none

def BoolGetter.expected (values : String → Option String) (g : BoolGetter) : Bool :=
  ((values g.key).bind readFlag).getD false

def StringGetter.expected (values : String → Option String) (g : StringGetter) : String :=
  ((values g.key).filter (· ≠ "")).getD g.fallback

def IntGetter.expected (values : String → Option String) (g : IntGetter) : Int :=
  ((values g.key).bind parseInt).getD g.fallback

/-- The value the answer has for a key, the last one if there are several; a failed load has none. -/
def answeredValue (answer : Except DartError Json) (key : String) : Option String :=
  (Dictionary.lastValue ((entries answer).toOption.getD []) (some key)).join

/-- After the load each getter gives the value of its key or its fallback. -/
structure FallsBack (answer : Except DartError Json) : Prop where
  bool : ∀ g : BoolGetter,
    g.read (SettingsState.getHomeData answer) = .ok (g.expected (answeredValue answer))
  string : ∀ g : StringGetter,
    g.read (SettingsState.getHomeData answer) = .ok (some (g.expected (answeredValue answer)))
  int : ∀ g : IntGetter,
    g.read (SettingsState.getHomeData answer) = .ok (g.expected (answeredValue answer))

/-! ## When there is a model -/

/-- The answer can be read, and each number's key has a numeral. -/
def Readable (answer : Except DartError Json) : Prop :=
  (entries answer).isOk = true ∧
    ∀ g : IntGetter, ((answeredValue answer g.key).bind parseInt).isSome = true

theorem settingsData_eq (entries : List (Option String × Option String)) :
    settingsData entries = fun key => (Dictionary.lastValue entries (some key)).join := by
  funext key
  rw [settingsData, Dictionary.ofEntries_apply]

theorem answeredValue_eq {answer : Except DartError Json}
    {es : List (Option String × Option String)} (h : entries answer = .ok es) :
    answeredValue answer = settingsData es := by
  funext key
  rw [answeredValue, h, settingsData_eq]
  rfl

theorem getAppSettings_error {answer : Except DartError Json} {e : DartError}
    (h : entries answer = .error e) : getAppSettings answer = none := by
  rw [getAppSettings, h]
  rfl

theorem getAppSettings_ok {answer : Except DartError Json}
    {es : List (Option String × Option String)} (h : entries answer = .ok es) :
    getAppSettings answer = (AppSettings.fromJson (settingsData es)).toOption := by
  rw [getAppSettings, h]
  simp only [bind, Except.bind]
  cases AppSettings.fromJson (settingsData es) with
  | error e => rfl
  | ok settings => rfl

/-- A model is made of the answer's values, among which its numbers are numerals. -/
theorem fromJson_eq_ok {json : String → Option String} {settings : AppSettings}
    (h : AppSettings.fromJson json = .ok settings) :
    (json "package_products").bind parseInt = some settings.availablePackaging ∧
      (json "version").bind parseInt = some settings.version := by
  obtain ⟨availablePackaging, hpackaging, h⟩ := bind_eq_ok.1 h
  obtain ⟨version, hversion, h⟩ := bind_eq_ok.1 h
  cases h
  exact ⟨parsedInt_eq_ok.1 hpackaging, parsedInt_eq_ok.1 hversion⟩

theorem fromJson_isOk {json : String → Option String}
    (hpackaging : ((json "package_products").bind parseInt).isSome = true)
    (hversion : ((json "version").bind parseInt).isSome = true) :
    ∃ settings, AppSettings.fromJson json = .ok settings := by
  obtain ⟨availablePackaging, hpackaging⟩ := Option.isSome_iff_exists.1 hpackaging
  obtain ⟨version, hversion⟩ := Option.isSome_iff_exists.1 hversion
  have h₁ := parsedInt_eq_ok.2 hpackaging
  have h₂ := parsedInt_eq_ok.2 hversion
  simp [AppSettings.fromJson, h₁, h₂, bind, Except.bind, pure, Except.pure]

/-- There is a model exactly of a readable answer, and it is made of the answer's values. -/
theorem getAppSettings_eq_some_iff {answer : Except DartError Json} {settings : AppSettings} :
    getAppSettings answer = some settings ↔
      Readable answer ∧ AppSettings.fromJson (answeredValue answer) = .ok settings := by
  cases hentries : entries answer with
  | error e => simp [getAppSettings_error hentries, Readable, hentries, Except.isOk, Except.toBool]
  | ok es =>
      rw [getAppSettings_ok hentries, toOption_eq_some, ← answeredValue_eq hentries]
      refine ⟨fun h => ⟨⟨by rw [hentries]; rfl, fun g => ?_⟩, h⟩, fun h => h.2⟩
      obtain ⟨hpackaging, hversion⟩ := fromJson_eq_ok h
      cases g with
      | availablePackaging => exact Option.isSome_of_mem hpackaging
      | version => exact Option.isSome_of_mem hversion

/-! ## The getters of a model -/

theorem getD_readFlag (value : Option String) :
    (value.bind readFlag).getD false = (value == some "true") := by
  cases value with
  | none => rfl
  | some value =>
      by_cases htrue : value = "true"
      · simp [readFlag, htrue]
      · by_cases hfalse : value = "false"
        · simp [readFlag, hfalse]
        · simp [readFlag, htrue, hfalse]

/-- Each field of the model is the value of one key, and a getter reads one field. -/
theorem fallsBack_of_model {answer : Except DartError Json} {settings : AppSettings}
    (hsettings : getAppSettings answer = some settings) : FallsBack answer := by
  have hstate : SettingsState.getHomeData answer = ⟨some settings⟩ := by
    rw [SettingsState.getHomeData, hsettings]
  obtain ⟨-, hmodel⟩ := getAppSettings_eq_some_iff.1 hsettings
  obtain ⟨hpackaging, hversion⟩ := fromJson_eq_ok hmodel
  refine ⟨fun g => ?_, fun g => ?_, fun g => ?_⟩
  · rw [hstate, BoolGetter.expected, getD_readFlag]
    obtain ⟨_, -, h⟩ := bind_eq_ok.1 hmodel
    obtain ⟨_, -, h⟩ := bind_eq_ok.1 h
    cases h
    cases g <;> exact enabled_some _ _
  · rw [hstate]
    obtain ⟨_, -, h⟩ := bind_eq_ok.1 hmodel
    obtain ⟨_, -, h⟩ := bind_eq_ok.1 h
    cases h
    cases g <;> exact text_some _ _ _
  · rw [hstate, IntGetter.expected]
    cases g with
    | availablePackaging =>
        rw [IntGetter.key, hpackaging]
        exact number_some _ _ _
    | version =>
        rw [IntGetter.key, hversion]
        exact number_some _ _ _

/-- **Fallbacks.** The getters of the settings give the values of their keys or their fallbacks exactly
    if the answer is readable; then a malformed flag or text touches no other getter. -/
theorem settings_fallBack_iff (answer : Except DartError Json) :
    FallsBack answer ↔ Readable answer := by
  constructor
  · intro h
    cases hsettings : getAppSettings answer with
    | some settings => exact (getAppSettings_eq_some_iff.1 hsettings).1
    | none =>
        -- even a getter whose key is fine throws
        have hflag := h.bool .forceUpdate
        rw [SettingsState.getHomeData, hsettings] at hflag
        cases hflag
  · intro h
    obtain ⟨settings, hmodel⟩ := fromJson_isOk (h.2 .availablePackaging) (h.2 .version)
    exact fallsBack_of_model (getAppSettings_eq_some_iff.2 ⟨h, hmodel⟩)

/-- One key of an answer. -/
def settingJson (key value : String) : Json :=
  .obj [("key_word", .str key), ("value", .str value)]

def settingsAnswer (settings : List Json) : Except DartError Json :=
  .ok (.obj [("data", .arr settings)])

/-- The version is no numeral, and the flag of another key is lost with it. -/
theorem malformed_version_loses_flag :
    ¬ FallsBack (settingsAnswer [settingJson "if_points" "true", settingJson "package_products" "3",
      settingJson "version" "1.0"]) := by
  intro h
  have hflag := h.bool .pointsEnabled
  have hnone : getAppSettings (settingsAnswer [settingJson "if_points" "true",
      settingJson "package_products" "3", settingJson "version" "1.0"]) = none := by
    decide +kernel
  rw [SettingsState.getHomeData, hnone] at hflag
  cases hflag

end Nourgomla
