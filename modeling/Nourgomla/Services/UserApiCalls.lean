import Nourgomla.Controllers.SettingsController
import Nourgomla.Library.LoggedStack
import Nourgomla.Library.Machine
import Nourgomla.Services.UserDb

set_option autoImplicit false

/-! # Calls behind a loading dialog

`services/api_calls/user_api_calls.dart` and `phone_auth_services.dart` with the dialogs they use. A call
opens a loading dialog that nobody can dismiss, waits for its answer, and closes whatever is on top by then.
A request that cannot be made is an answer that failed. -/

namespace Nourgomla

/-! ## Routes -/

/-- A route that was there before the call. -/
inductive EarlierRoute
  | page (name : String)
  | dialog
deriving DecidableEq

/-- What the button of a dialog does when it is tapped. -/
inductive OnTapped
  /-- closes it, and after a success asks for the phone or opens the main screen -/
  | signedUp (success : Option Bool) (forceVerify : Bool) (phone : Option String)
  /-- closes it, and after a success opens the main screen -/
  | loggedIn (success : Option Bool)
  | openMainScreen
  | back
deriving DecidableEq

inductive LoginRoute
  | earlier (route : EarlierRoute)
  /-- `showLoadingDialog` -/
  | loading
  /-- `showNormalDialog` -/
  | normal (msg : Option String) (onTapped : OnTapped) (dismissible : Bool)
  /-- `showErrorDialog` -/
  | error (errMsg : String)
  | phoneAuthScreen (verId : String) (phone : Option String)
deriving DecidableEq

/-- The routes above the last one, which is never closed. -/
abbrev Navigator := LoggedStack LoginRoute

def LoginRoute.isLoading : LoginRoute → Bool
  | .loading => true
  | _ => false

/-- The name of the page under the dialogs. -/
def pageName : List LoginRoute → Option String
  | [] => none
  | .earlier (.page name) :: _ => some name
  | .phoneAuthScreen _ _ :: _ => some "/PhoneAuthScreen"
  | .earlier .dialog :: rest | .loading :: rest | .normal _ _ _ :: rest | .error _ :: rest =>
    pageName rest

namespace Navigator

def act (op : StackOp LoginRoute) : Method DartError Navigator Unit := modify (·.apply op)

def back : Method DartError Navigator Unit := act .pop

def showLoadingDialog : Method DartError Navigator Unit := act (.push .loading)

def showErrorDialog (errMsg : String) : Method DartError Navigator Unit := act (.push (.error errMsg))

def showNormalDialog (msg : Option String) (onTapped : OnTapped) (dismissible : Bool) :
    Method DartError Navigator Unit :=
  act (.push (.normal msg onTapped dismissible))

/-- `Get.to`, which does not open a page over one of the same name. -/
def toPhoneAuthScreen (verId : String) (phone : Option String) : Method DartError Navigator Unit := do
  if pageName (← get).stack ≠ some "/PhoneAuthScreen" then
    act (.push (.phoneAuthScreen verId phone))

end Navigator

/-! ## The answer -/

/-- `json[0]` on a dynamic value. -/
def Json.first : Json → Except DartError Json
  | .arr (j :: _) => .ok j
  | .arr [] => .error .rangeError
  | .str s => match s.toList with
    | c :: _ => .ok (.str (String.ofList [c]))
    | [] => .error .rangeError
  | .obj _ => .ok .null
  | .null | .bool _ | .num _ => .error .noSuchMethod

def Json.isNull : Json → Bool
  | .null => true
  | _ => false

/-- `isNotEmpty` of a decoded map. -/
def Json.isNotEmpty : Json → Bool
  | .obj fields => !fields.isEmpty
  | _ => false

/-- `_$UserFromJson` -/
def UserAccount.fromJson (json : Json) : Except DartError UserAccount := do
  return {
    id := ← json.intField "id"
    languageId := ← json.intField "language_id"
    gender := ← json.intField "gender"
    firstName := ← json.stringField "first_name"
    lastName := ← json.stringField "last_name"
    phone := ← json.stringField "phone"
    email := ← json.stringField "email"
    password := ← json.stringField "password"
    status := ← json.intField "status"
    role := ← json.intField "role"
    isActivated := ← json.intField "activation"
    phoneVerified := ← json.intField "phone_verification" }

/-- What a call reads of its answer before it closes the dialog. -/
structure UserResponse where
  isNotEmpty : Bool
  message : Option String
  success : Option Bool := none
  showSurvey : Option Bool := none
  data : Json := .null

/-- `userResponse.isNotEmpty && userResponse['data'] != null` -/
def UserResponse.hasData (response : UserResponse) : Bool :=
  response.isNotEmpty && !response.data.isNull

/-! ## The calls -/

namespace UserApiCalls

open Navigator

/-- `User.fromJson(userResponse['data'][0])` -/
def firstUser (data : Json) : Method DartError Navigator (Option UserAccount) := do
  let first ← Method.ofExcept data.first
  return some (← Method.ofExcept (UserAccount.fromJson first))

def readSignUp (answer : Except DartError Json) : Except DartError UserResponse := do
  let userResponse ← answer
  return {
    isNotEmpty := userResponse.isNotEmpty
    message := ← userResponse.stringField "message"
    success := ← userResponse.boolField "success"
    data := ← userResponse.field "data" }

def userSignUp (settings : SettingsState) (user : UserAccount) (answer : Except DartError Json) :
    Method DartError Navigator (Option UserAccount) := do
  let forceVerify ← Method.ofExcept settings.phoneAuthRequired
  tryCatch (do
    showLoadingDialog
    let response ← Method.ofExcept (readSignUp answer)
    if response.hasData then
      back
      showNormalDialog response.message (.signedUp response.success forceVerify user.phone) false
      firstUser response.data
    else return none)
    fun _ => return none

def readLogin (answer : Except DartError Json) : Except DartError UserResponse := do
  let userResponse ← answer
  return {
    isNotEmpty := userResponse.isNotEmpty
    message := ← userResponse.stringField "message"
    success := ← userResponse.boolField "success"
    showSurvey := ← userResponse.boolField "survey"
    data := ← userResponse.field "data" }

/-- The user controller is told of `showSurvey`. -/
def userLogin (fromSplash : Bool) (answer : Except DartError Json) :
    Method DartError Navigator (Option UserAccount) :=
  tryCatch (do
    if ¬ fromSplash then showLoadingDialog
    let response ← Method.ofExcept (readLogin answer)
    if response.hasData then
      if ¬ fromSplash then
        back
        showNormalDialog response.message (.loggedIn response.success) true
      firstUser response.data
    else return none)
    fun _ => return none

def readUpdate (answer : Except DartError Json) : Except DartError UserResponse := do
  let userResponse ← answer
  return {
    isNotEmpty := userResponse.isNotEmpty
    message := ← userResponse.stringField "message"
    data := ← userResponse.field "data" }

/-- `updateProfile` from its `await` on. -/
def updateProfileAnswered (isForPhoneVerification : Bool) (answer : Except DartError Json) :
    Method DartError Navigator (Option UserAccount) :=
  tryCatch (do
    let response ← Method.ofExcept (readUpdate answer)
    if response.hasData then
      back
      if isForPhoneVerification then
        showNormalDialog (some "your_account_activated_successfully") .openMainScreen true
      else showNormalDialog response.message .back true
      firstUser response.data
    else return none)
    fun _ => do
      showErrorDialog "Error Updating Profile"
      return none

def updateProfile (isForPhoneVerification : Bool) (answer : Except DartError Json) :
    Method DartError Navigator (Option UserAccount) := do
  showLoadingDialog
  updateProfileAnswered isForPhoneVerification answer

def readReset (answer : Except DartError Json) : Except DartError UserResponse := do
  let userResponse ← answer
  return {
    isNotEmpty := userResponse.isNotEmpty
    message := ← userResponse.stringField "message"
    success := ← userResponse.boolField "success" }

def resetPassword (answer : Except DartError Json) : Method DartError Navigator Bool :=
  tryCatch (do
    showLoadingDialog
    let response ← Method.ofExcept (readReset answer)
    if response.isNotEmpty then
      back
      showNormalDialog response.message .back true
      -- the null test comes after the dialogs
      if ← Method.ofExcept (notNull response.success) then return true
      else return false
    else return false)
    fun _ => do
      showErrorDialog "Error Updating Password"
      return false

end UserApiCalls

/-! ## The verification of a phone number -/

namespace PhoneAuthServices

/-- What happens after `verifyPhoneNumber` has opened its dialog. -/
inductive VerifyEvent
  | codeSent (verId : String)
  | verificationFailed
  /-- whether a user was signed in and there is a current user to activate -/
  | verificationCompleted (activates : Bool)
  | codeAutoRetrievalTimeout
  /-- the call of the SDK returns -/
  | returned
  /-- the call of the SDK throws, or the number is null -/
  | thrown
  /-- the answer to the `updateProfile` of an activation -/
  | profileAnswer (answer : Except DartError Json)

structure Verification where
  nav : Navigator
  /-- the call of the SDK is awaited -/
  awaiting : Bool := true
  /-- the calls of `updateProfile` that are on their way -/
  updates : Nat := 0

/-- The method an event runs on the routes. -/
def VerifyEvent.method (number : Option String) : VerifyEvent → Method DartError Navigator Unit
  | .codeSent verId => do
    Navigator.back
    Navigator.toPhoneAuthScreen verId number
  | .verificationFailed | .codeAutoRetrievalTimeout | .returned => pure ()
  | .verificationCompleted activates => if activates then Navigator.showLoadingDialog else pure ()
  | .thrown => Navigator.back
  | .profileAnswer answer => do
    let _user ← UserApiCalls.updateProfileAnswered true answer

/-- Callbacks come in any order, and also after the call has returned. -/
def Verification.step (number : Option String) (s : Verification) (e : VerifyEvent) :
    Option Verification :=
  let nav := ((e.method number).exec s.nav).2
  match e with
  | .codeSent _ | .verificationFailed | .codeAutoRetrievalTimeout => some { s with nav }
  | .verificationCompleted activates =>
    some { s with nav, updates := if activates then s.updates + 1 else s.updates }
  | .returned | .thrown => if s.awaiting then some { s with nav, awaiting := false } else none
  | .profileAnswer _ => if 0 < s.updates then some { s with nav, updates := s.updates - 1 } else none

def verification (number : Option String) : Machine Verification VerifyEvent where
  step := Verification.step number

/-- `verifyPhoneNumber` up to its `await`. -/
def verifyPhoneNumber (nav : Navigator) : Verification :=
  { nav := (Navigator.showLoadingDialog.exec nav).2 }

end PhoneAuthServices
end Nourgomla
