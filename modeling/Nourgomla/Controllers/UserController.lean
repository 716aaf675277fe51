import Nourgomla.Library.Machine
import Nourgomla.Library.Method
import Nourgomla.Services.UserDb

set_option autoImplicit false

/-! # The current user

`controllers/user_controller.dart`, and of `services/api_calls/phone_auth_services.dart` the
activation of an account. `currentUser` has three shapes: the empty user of a fresh start, a profile,
and null after `logOut`, which assigns the result of a method that returns nothing. Table writes are
not awaited and take effect in call order; a row that cannot be stored is lost without a word. -/

namespace Nourgomla

/-- `UserController` and the user table. -/
structure UserState where
  currentUser : Option UserAccount := some {}
  loggedIn : Bool := false
  table : List UserRow := []
deriving DecidableEq

namespace UserController

/-- `currentUser = user; if (user.id != null) { loggedIn = true; }` -/
def assignUser (user : UserAccount) : Method DartError UserState Unit := do
  modify fun s => { s with currentUser := some user }
  if user.id.isSome then modify fun s => { s with loggedIn := true }

def setUserData (user : UserAccount) : Method DartError UserState Unit := do
  modify fun s => { s with table := UserDbHelper.insertUserData user s.table }
  assignUser user

def updateUserData (user : UserAccount) : Method DartError UserState Unit := do
  modify fun s => { s with table := UserDbHelper.updateUserData user s.table }
  assignUser user

/-- The user that is read after the write is dropped: `currentUser` keeps its password. -/
def updatePassword (password : String) : Method DartError UserState Unit := do
  let user ← Method.ofExcept (notNull (← get).currentUser)
  modify fun s => { s with table := UserDbHelper.updatePassword user.id password s.table }

def getUserData : Method DartError UserState UserAccount := do
  let user := UserDbHelper.getUserData (← get).table
  assignUser user
  return user

def logOut : Method DartError UserState Unit := do
  let user ← Method.ofExcept (notNull (← get).currentUser)
  modify fun s => { s with table := UserDbHelper.deleteUserData user.id s.table }
  -- `currentUser = await dbHelper.deleteUserData(currentUser)`
  modify fun s => { s with currentUser := none }
  modify fun s => { s with loggedIn := false }

/-- The getter `userRole`: a guest without a user has role 1. -/
def userRole (s : UserState) : Option Int :=
  match s.currentUser with
  | some user => user.role
  | none => some 1

/-- The getter `userId`; an id that is null prints as a word. -/
def userId (s : UserState) : String :=
  match s.currentUser with
  | some user => nullableText (user.id.map .int)
  | none => ""

end UserController

/-- `PhoneAuthServices.activateUserAccount`: the profile it posts is the current user, changed in place
    before the server has seen it. The answer is only shown. -/
def PhoneAuthServices.activateUserAccount (phone : String) :
    Method DartError UserState UserAccount := do
  let user ← Method.ofExcept (notNull (← get).currentUser)
  let posted := { user with phoneVerified := some 1, phone := some phone }
  modify fun s => { s with currentUser := some posted }
  return posted

/-! ## The calls as a machine -/

inductive UserEvent
  | setUserData (user : UserAccount)
  | updateUserData (user : UserAccount)
  | updatePassword (password : String)
  /-- the activation, and whether the server accepts the profile -/
  | activateUserAccount (phone : String) (accepted : Bool)
  | getUserData
  | logOut

/-- The method a call runs. -/
def UserEvent.method : UserEvent → Method DartError UserState Unit
  | .setUserData user => UserController.setUserData user
  | .updateUserData user => UserController.updateUserData user
  | .updatePassword password => UserController.updatePassword password
  | .activateUserAccount phone _ => do let _posted ← PhoneAuthServices.activateUserAccount phone
  | .getUserData => do let _user ← UserController.getUserData
  | .logOut => UserController.logOut

/-- Whether a call in this state returns or throws. -/
def UserEvent.outcome (s : UserState) (e : UserEvent) : Except DartError Unit := (e.method.exec s).1

/-- The user and the table under completed calls. -/
def userSession : Machine UserState UserEvent where
  step s e := some (e.method.exec s).2

/-! ## What each method does -/

namespace UserController

open Method

theorem exec_setUserData {user : UserAccount} (s : UserState) :
    (setUserData user).exec s = (.ok (), {
      currentUser := some user
      loggedIn := user.id.isSome || s.loggedIn
      table := UserDbHelper.insertUserData user s.table }) := by
  cases hid : user.id <;> simp [setUserData, assignUser, hid]

theorem exec_updateUserData {user : UserAccount} (s : UserState) :
    (updateUserData user).exec s = (.ok (), {
      currentUser := some user
      loggedIn := user.id.isSome || s.loggedIn
      table := UserDbHelper.updateUserData user s.table }) := by
  cases hid : user.id <;> simp [updateUserData, assignUser, hid]

theorem exec_getUserData (s : UserState) :
    getUserData.exec s = (.ok (UserDbHelper.getUserData s.table), {
      s with
      currentUser := some (UserDbHelper.getUserData s.table)
      loggedIn := (UserDbHelper.getUserData s.table).id.isSome || s.loggedIn }) := by
  cases hid : (UserDbHelper.getUserData s.table).id <;>
    simp [getUserData, assignUser, exec_bind, hid, Except.map]

/-- Without a user `logOut` and `updatePassword` throw at once. -/
theorem exec_logOut_none {s : UserState} (h : s.currentUser = none) :
    logOut.exec s = (.error .noSuchMethod, s) := by
  simp [logOut, exec_bind, h, notNull]

theorem exec_logOut {s : UserState} {user : UserAccount} (h : s.currentUser = some user) :
    logOut.exec s = (.ok (), {
      currentUser := none, loggedIn := false
      table := UserDbHelper.deleteUserData user.id s.table }) := by
  simp [logOut, exec_bind, h, notNull]

theorem exec_updatePassword_none {s : UserState} (password : String) (h : s.currentUser = none) :
    (updatePassword password).exec s = (.error .noSuchMethod, s) := by
  simp [updatePassword, exec_bind, h, notNull]

theorem exec_updatePassword {s : UserState} {user : UserAccount} (password : String)
    (h : s.currentUser = some user) :
    (updatePassword password).exec s = (.ok (), { s with
      table := UserDbHelper.updatePassword user.id password s.table }) := by
  simp [updatePassword, exec_bind, h, notNull]

theorem exec_activateUserAccount_none {s : UserState} (phone : String)
    (h : s.currentUser = none) :
    (PhoneAuthServices.activateUserAccount phone).exec s = (.error .noSuchMethod, s) := by
  simp [PhoneAuthServices.activateUserAccount, exec_bind, h, notNull]

theorem exec_activateUserAccount {s : UserState} {user : UserAccount} (phone : String)
    (h : s.currentUser = some user) :
    let posted := { user with phoneVerified := some 1, phone := some phone }
    (PhoneAuthServices.activateUserAccount phone).exec s
      = (.ok posted, { s with currentUser := some posted }) := by
  simp [PhoneAuthServices.activateUserAccount, exec_bind, h, notNull, Except.map]

end UserController

/-- A profile with everything the table asks for. -/
def sampleAccount (id : Int) (phone password : String) : UserAccount :=
  { id := some id, role := some 2, firstName := some "A", lastName := some "B"
    phone := some phone, email := some "a@b.c", gender := some 1, languageId := some 1
    status := some 1, password := some password, phoneVerified := some 0, isActivated := some 1 }

end Nourgomla
