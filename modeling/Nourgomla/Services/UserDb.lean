import Nourgomla.Models.Cart

set_option autoImplicit false

/-! # The user table (`services/local_storage/user_db.dart`)

A profile is stored as a row of a table that has no key: an insert always adds a row, an update and a
delete touch every row with the id, and what is read back is the first row. -/

namespace Nourgomla

/-- Of `models/user.dart` the fields that are stored. -/
structure UserAccount extends User where
  languageId : Option Int := none
  status : Option Int := none
  password : Option String := none
  phoneVerified : Option Int := none
  isActivated : Option Int := none
deriving DecidableEq

/-- A row of the user table; the nullable columns are the ones declared so. -/
structure UserRow where
  id : Int
  languageId : Option Int
  gender : Int
  status : Int
  role : Int
  firstName : String
  password : Option String
  lastName : String
  email : String
  isActivated : Int
  phoneVerified : Int
  phone : String
deriving DecidableEq

/-- `toJson` as a row, which a missing value of a `NOT NULL` column is not. -/
def UserAccount.toRow (user : UserAccount) : Option UserRow := do
  return {
    id := ← user.id
    languageId := user.languageId
    gender := ← user.gender
    status := ← user.status
    role := ← user.role
    firstName := ← user.firstName
    password := user.password
    lastName := ← user.lastName
    email := ← user.email
    isActivated := ← user.isActivated
    phoneVerified := ← user.phoneVerified
    phone := ← user.phone }

/-- `User.fromJson` of a row. -/
def UserRow.toUser (row : UserRow) : UserAccount :=
  { id := some row.id
    languageId := row.languageId
    gender := some row.gender
    status := some row.status
    role := some row.role
    firstName := some row.firstName
    password := row.password
    lastName := some row.lastName
    email := some row.email
    isActivated := some row.isActivated
    phoneVerified := some row.phoneVerified
    phone := some row.phone }

/-- A profile that can be stored is read back as it was. -/
theorem UserAccount.toUser_of_toRow {user : UserAccount} {row : UserRow}
    (h : user.toRow = some row) : row.toUser = user := by
  simp only [toRow, Option.bind_eq_bind, Option.bind_eq_some_iff] at h
  obtain ⟨id, hid, gender, hgender, status, hstatus, role, hrole, first, hfirst, h⟩ := h
  obtain ⟨last, hlast, email, hemail, active, hactive, verified, hverified, phone, hphone, h⟩ := h
  obtain rfl := Option.some.inj h
  rcases user with ⟨⟨_, _, _, _, _, _, _⟩, _, _, _, _, _⟩
  simp_all [UserRow.toUser]

namespace UserDbHelper

def insertUserData (user : UserAccount) (table : List UserRow) : List UserRow :=
  table ++ user.toRow.toList

def updateUserData (user : UserAccount) (table : List UserRow) : List UserRow :=
  match user.toRow with
  | some row => table.map fun old => if some old.id = user.id then row else old
  | none => table

/-- The id is passed as a text, which an `INTEGER` column compares as a number. -/
def updatePassword (userId : Option Int) (password : String) (table : List UserRow) :
    List UserRow :=
  table.map fun row => if some row.id = userId then { row with password := some password } else row

def deleteUserData (userId : Option Int) (table : List UserRow) : List UserRow :=
  table.filter fun row => some row.id ≠ userId

def getUserData : List UserRow → UserAccount
  | [] => {}
  | row :: _ => row.toUser

end UserDbHelper
end Nourgomla
