import Nourgomla.Controllers.UserController
import Nourgomla.Helpers.Validators
import Nourgomla.Library.Form
import Nourgomla.Services.UserApiCalls

set_option autoImplicit false

/-! # The screens of an account

`ui/login/sign_up_screen.dart`, `ui/login/login_screen.dart` and `ui/user_profile/profile_screen.dart` with the
controllers they share, and the log-in of the start (`checkIfUserLoggedIn` in `controllers/splash_controller.dart`). A
button saves its form and validates it; a valid form is posted, and the loading dialog covers the screens until the
answer comes. The log-in of the start has no dialog and may be answered at any time. What an answer stores as the
password is what the screen holds by then. -/

namespace Nourgomla

/-! ## Fields -/

/-- The variables that the fields of the three screens are saved in. -/
inductive AccountField
  | firstName | lastName | email | password | oldPassword | newPassword | confirmNewPassword
deriving DecidableEq

abbrev AccountForm := Form AccountField String String

def signUpForm : AccountForm :=
  [{ name := .firstName, validator := fun _ val => fnLnValidator (some val) },
   { name := .lastName, validator := fun _ val => fnLnValidator (some val) },
   { name := .email, validator := fun _ val => emailValidator (some val) },
   { name := .password, validator := fun _ val => passwordValidator (some val) },
   { name := .confirmNewPassword
     validator := fun saved val => confirmPasswordValidator (some val) (saved .password) }]

def loginForm : AccountForm :=
  [{ name := .password, validator := fun _ val => passwordValidator (some val) }]

def profileForm : AccountForm :=
  [{ name := .firstName, validator := fun _ val => fnLnValidator (some val) },
   { name := .lastName, validator := fun _ val => fnLnValidator (some val) },
   { name := .email, validator := fun _ val => emailValidator (some val) }]

def passwordForm : AccountForm :=
  [{ name := .oldPassword, validator := fun _ val => passwordValidator (some val) },
   { name := .newPassword, validator := fun _ val => passwordValidator (some val) },
   { name := .confirmNewPassword
     validator := fun saved val => confirmPasswordValidator (some val) (saved .newPassword) }]

/-! ## Controllers -/

structure PhoneController where
  phoneIsoCode : Option String := some "EG"
  confirmedNumber : Option String := none
  phoneErrMsg : Option String := none

/-- The field for the phone reports a number that it cannot read as an empty one. -/
def PhoneController.onPhoneNumberChange (internationalizedPhoneNumber isoCode : Option String) : PhoneController :=
  { phoneIsoCode := isoCode
    confirmedNumber := internationalizedPhoneNumber
    phoneErrMsg := if internationalizedPhoneNumber = some "" then some "enter_correct_phone_number" else none }

def PhoneController.setErrMsg (con : PhoneController) : PhoneController :=
  { con with phoneErrMsg := some "enter_correct_phone_number" }

structure EditProfileController where
  editMood : Bool := false
  passwordEditMood : Bool := false

def EditProfileController.toggle (con : EditProfileController) : EditProfileController :=
  { con with editMood := !con.editMood }

def EditProfileController.togglePasswordEditMode (con : EditProfileController) : EditProfileController :=
  { con with passwordEditMood := !con.passwordEditMood }

/-- `initSelectedGender` -/
def GenderController.initSelectedGender (user : UserState) : Option Int :=
  if user.loggedIn then user.currentUser.bind fun user => user.gender else some 1

/-! ## Requests -/

/-- `User` with the fields that are only posted. -/
structure PostedUser extends UserAccount where
  updatedBy : Option Int := none
  fcmToken : Option String := none

structure RegisterBody where
  id : Option Int
  languageId : Option Int
  gender : Option Int
  firstName : Option String
  lastName : Option String
  phone : Option String
  email : Option String
  password : Option String
  vendorId : String
  token : Option String
deriving DecidableEq

def PostedUser.toJsonResister (user : PostedUser) : RegisterBody :=
  { id := user.id, languageId := user.languageId, gender := user.gender, firstName := user.firstName
    lastName := user.lastName, phone := user.phone, email := user.email, password := user.password
    vendorId := "", token := user.fcmToken }

structure LoginBody where
  phone : Option String
  password : Option String
  token : Option String
deriving DecidableEq

structure UpdateProfileBody where
  status : Option Int
  role : Option Int
  id : Option Int
  languageId : Option Int
  gender : Option Int
  firstName : Option String
  lastName : Option String
  phone : Option String
  email : Option String
  phoneVerification : Option Int
  updatedBy : Option Int
  vendorId : String
deriving DecidableEq

def PostedUser.toJsonUpdateProfile (user : PostedUser) : UpdateProfileBody :=
  { status := user.status, role := user.role, id := user.id, languageId := user.languageId, gender := user.gender
    firstName := user.firstName, lastName := user.lastName, phone := user.phone, email := user.email
    phoneVerification := user.phoneVerified, updatedBy := user.updatedBy, vendorId := "" }

structure ResetPasswordBody where
  userId : Option Int
  password : Option String
  passwordNew : Option String
deriving DecidableEq

/-- A request, under the name of its endpoint. -/
inductive AccountRequest
  | registration (body : RegisterBody)
  | login (body : LoginBody)
  | userUpdate (body : UpdateProfileBody)
  | userResetPassword (body : ResetPasswordBody)
deriving DecidableEq

/-! ## The app -/

inductive AccountPage
  | signUp | login | profile
deriving DecidableEq

structure AccountApp where
  user : UserState
  /-- `FcmController.token` -/
  token : Option String := none
  /-- the screen that is open, with its fields -/
  page : Option AccountPage := none
  fields : FormState AccountField String String := .opened fun _ => ""
  phone : PhoneController := {}
  gender : Option Int := some 1
  edit : EditProfileController := {}
  /-- the request that is waited for under the loading dialog -/
  waiting : Option AccountRequest := none
  /-- the user whom the log-in of the start is for, while its answer is on the way -/
  startup : Option UserAccount := none
  posted : List AccountRequest := []

namespace AccountApp

def post (request : AccountRequest) (s : AccountApp) : AccountApp :=
  { s with waiting := some request, posted := s.posted ++ [request] }

/-- What a call returns; the routes it opens and closes do not reach the account. -/
def returned {α : Type} (call : Method DartError Navigator α) : Option α :=
  (call.exec {}).1.toOption

/-! ### Opening a screen -/

/-- What the fields of a screen begin with. -/
def initialText (user : UserAccount) : AccountPage → AccountField → String
  | .profile, .firstName => user.firstName.getD ""
  | .profile, .lastName => user.lastName.getD ""
  | .profile, .email => user.email.getD ""
  | _, _ => ""

/-- A screen opens with new fields, and with new controllers unless the ones of an earlier screen are still there. -/
def openPage (page : AccountPage) (fresh : Bool) (s : AccountApp) : AccountApp :=
  let s := { s with page := some page, fields := .opened (initialText (s.user.currentUser.getD {}) page) }
  if fresh then
    { s with phone := {}, gender := GenderController.initSelectedGender s.user, edit := {} }
  else s

/-! ### The buttons -/

/-- `if (_phoneController.confirmedNumber == null) _phoneController.setErrMsg();` -/
def checkPhone (s : AccountApp) : AccountApp :=
  if s.phone.confirmedNumber = none then { s with phone := s.phone.setErrMsg } else s

/-- `save` and `validate`, with what the form says to that. -/
def submit (form : AccountForm) (s : AccountApp) : Bool × AccountApp :=
  let (valid, fields) := s.fields.submit form
  (valid, { s with fields })

/-- The `User` of a sign-up. -/
def newUser (s : AccountApp) : PostedUser :=
  { firstName := s.fields.saved .firstName
    lastName := s.fields.saved .lastName
    gender := s.gender
    phone := s.phone.confirmedNumber
    email := s.fields.saved .email
    password := s.fields.saved .password
    languageId := some 1
    fcmToken := s.token }

/-- The phone is looked at between `save` and `validate`, which do not touch it. -/
def signUpTapped (settings : SettingsState) (s : AccountApp) : AccountApp :=
  let (valid, s) := s.checkPhone.submit signUpForm
  if valid && s.phone.confirmedNumber.isSome then
    -- `userSignUp` reads the setting before it posts
    match settings.phoneAuthRequired with
    | .ok _ => s.post (.registration s.newUser.toJsonResister)
    | .error _ => s
  else s

def loginTapped (s : AccountApp) : AccountApp :=
  let (valid, s) := s.checkPhone.submit loginForm
  if valid && s.phone.confirmedNumber.isSome then
    s.post (.login
      { phone := s.phone.confirmedNumber, password := s.fields.saved .password, token := s.token })
  else s

/-- The `User` of an edited profile. -/
def editedUser (currentUser : UserAccount) (s : AccountApp) : PostedUser :=
  { id := currentUser.id
    lastName := s.fields.saved .lastName <|> currentUser.lastName
    firstName := s.fields.saved .firstName <|> currentUser.firstName
    languageId := currentUser.languageId <|> some 1
    status := currentUser.status
    role := currentUser.role
    email := s.fields.saved .email <|> currentUser.email
    gender := s.gender <|> currentUser.gender
    phone := s.phone.confirmedNumber <|> currentUser.phone
    phoneVerified := currentUser.phoneVerified
    updatedBy := currentUser.id }

/-- The button of the profile ends the editing; a profile that is not valid is edited on. -/
def editTapped (s : AccountApp) : AccountApp :=
  let s := { s with edit := s.edit.toggle }
  if s.edit.editMood then s
  else
    let (valid, s) := s.submit profileForm
    if valid then
      match s.user.currentUser with
      | some currentUser => s.post (.userUpdate (s.editedUser currentUser).toJsonUpdateProfile)
      | none => s
    else { s with edit := s.edit.toggle }

/-- The button of the password, in the same way. -/
def passwordTapped (s : AccountApp) : AccountApp :=
  let s := { s with edit := s.edit.togglePasswordEditMode }
  if s.edit.passwordEditMood then s
  else
    let (valid, s) := s.submit passwordForm
    if valid then
      match s.user.currentUser with
      | some currentUser => s.post (.userResetPassword
          { userId := currentUser.id
            password := s.fields.saved .oldPassword
            passwordNew := s.fields.saved .newPassword })
      | none => s
    else { s with edit := s.edit.togglePasswordEditMode }

/-! ### The answers -/

/-- `userData.password = password; con.setUserData(userData); con.getUserData();` -/
def signedIn (userData : UserAccount) (password : Option String) : Method DartError UserState Unit := do
  UserController.setUserData { userData with password }
  let _user ← UserController.getUserData

/-- The profile that comes back has the password of the current user. -/
def profileUpdated (userFromJson : UserAccount) : Method DartError UserState Unit := do
  let currentUser ← Method.ofExcept (notNull (← get).currentUser)
  UserController.updateUserData { userFromJson with password := currentUser.password }

def passwordReset (newPassword : Option String) : Method DartError UserState Unit := do
  UserController.updatePassword (← Method.ofExcept (notNull newPassword))
  let _user ← UserController.getUserData

/-- The user that an answer brings, if it brings one. -/
def answeredUser (settings : SettingsState) (answer : Except DartError Json) : AccountRequest → Option UserAccount
  -- of the user who signs up only the phone is read
  | .registration body => (returned (UserApiCalls.userSignUp settings { phone := body.phone } answer)).join
  | .login _ => (returned (UserApiCalls.userLogin false answer)).join
  | .userUpdate _ => (returned (UserApiCalls.updateProfile false answer)).join
  | .userResetPassword _ => none

/-- What is done with an answer. -/
def answered (settings : SettingsState) (answer : Except DartError Json) (s : AccountApp) (request : AccountRequest) :
    Method DartError UserState Unit :=
  match request, answeredUser settings answer request with
  | .registration _, some userData | .login _, some userData => signedIn userData (s.fields.saved .password)
  | .userUpdate _, some userFromJson => profileUpdated userFromJson
  | .userResetPassword _, _ =>
    if returned (UserApiCalls.resetPassword answer) = some true then passwordReset (s.fields.saved .newPassword)
    else pure ()
  | _, none => pure ()

/-! ### The activation -/

/-- `updateProfile(currentUser, true)`: what is posted is the user in memory, and its answer is only shown. -/
def activation (currentUser : UserAccount) : AccountRequest :=
  .userUpdate { currentUser with : PostedUser }.toJsonUpdateProfile

/-! ### The start -/

/-- The memory of a new start. -/
def fresh (s : AccountApp) : AccountApp :=
  { user := (UserController.getUserData.exec { table := s.user.table }).2, token := s.token, posted := s.posted }

/-- `checkIfUserLoggedIn`: a user who is read back is logged in again. -/
def restart (s : AccountApp) : AccountApp :=
  let s := s.fresh
  match s.user.loggedIn, s.user.currentUser with
  | true, some currentUser =>
    { s with
      startup := some currentUser
      posted := s.posted ++ [.login { phone := currentUser.phone, password := currentUser.password, token := s.token }] }
  | _, _ => s

/-- The answer to the log-in of the start; without a user the assignment of the password throws. -/
def startAnswered (answer : Except DartError Json) (currentUser : UserAccount) : Method DartError UserState Unit :=
  match (returned (UserApiCalls.userLogin true answer)).join with
  | some userData => UserController.setUserData { userData with password := currentUser.password }
  | none => throw .noSuchMethod

end AccountApp

/-! ## The machine -/

inductive AccountEvent
  /-- the app is started anew -/
  | restart
  | startAnswer (answer : Except DartError Json)
  | openPage (page : AccountPage) (fresh : Bool)
  | edit (field : AccountField) (text : String)
  | phoneChanged (internationalizedPhoneNumber isoCode : Option String)
  | genderTapped (index : Fin 3)
  /-- the button of the sign-up or of the log-in, or the one of the profile -/
  | submitTapped
  /-- the button under the passwords of the profile -/
  | passwordTapped
  | answer (answer : Except DartError Json)
  /-- the SDK has verified the phone -/
  | activated (phone : String)
  | logOut

open AccountApp in
def AccountApp.step (settings : SettingsState) (s : AccountApp) : AccountEvent → Option AccountApp
  | .restart => some s.restart
  | .startAnswer answer =>
    s.startup.map fun currentUser =>
      { s with user := ((startAnswered answer currentUser).exec s.user).2, startup := none }
  | .openPage page fresh =>
    -- the profile of no user cannot be built
    if s.waiting = none ∧ (page = .profile → s.user.currentUser ≠ none) then some (s.openPage page fresh) else none
  | .edit field text => some { s with fields := s.fields.edit field text }
  | .phoneChanged number isoCode => some { s with phone := .onPhoneNumberChange number isoCode }
  | .genderTapped index => some { s with gender := some (index.val + 1) }
  | .submitTapped =>
    if s.waiting = none then
      s.page.map fun
        | .signUp => s.signUpTapped settings
        | .login => s.loginTapped
        | .profile => s.editTapped
    else none
  | .passwordTapped =>
    if s.waiting = none ∧ s.page = some .profile then some s.passwordTapped else none
  | .answer answer =>
    s.waiting.map fun request =>
      { s with user := ((answered settings answer s request).exec s.user).2, waiting := none }
  | .activated phone =>
    let activated := (PhoneAuthServices.activateUserAccount phone).exec s.user
    some { s with
      user := activated.2
      posted := s.posted ++ (activated.1.toOption.map activation).toList }
  | .logOut =>
    if s.waiting = none then some { s with user := (UserController.logOut.exec s.user).2 } else none

/-- Every order of starts, screens, texts, taps and answers. -/
def accounts (settings : SettingsState) : Machine AccountApp AccountEvent where
  step := AccountApp.step settings

/-- The app before its first start. -/
def AccountApp.installed (token : Option String) : AccountApp := { user := {}, token }

end Nourgomla
