import Nourgomla.Properties.AccountRequests

set_option autoImplicit false

/-! # The account that the server has accepted

The server lets a user in under an id and a password: a sign-up or a log-in that it answers with a user, and a new
password that it takes. The device should hold just this pair, in memory and in every stored row, and log in with it
when the app is started the next time; after a log-out it should hold none. The screens keep to that. The one call that
may come too late is the log-in of the start, which nothing waits for: the device knows the account exactly as long as
every such log-in is answered while the account it was made for is still the one that was accepted. -/

namespace Nourgomla

open AccountApp

/-- What the server has accepted last. -/
structure Credential where
  id : Int
  password : Option String
deriving DecidableEq

/-- A user as it is to be known. -/
def UserAccount.credential (user : UserAccount) : Option Credential :=
  user.id.map fun id => { id, password := user.password }

/-- The credential after an answer. -/
def AccountRequest.acceptedBy (settings : SettingsState) (answer : Except DartError Json)
    (accepted : Option Credential) (request : AccountRequest) : Option Credential :=
  match request, answeredUser settings answer request with
  | .registration body, some user => user.id.map fun id => { id, password := body.password }
  | .login body, some user => user.id.map fun id => { id, password := body.password }
  | .userResetPassword body, _ =>
    if returned (UserApiCalls.resetPassword answer) = some true then
      accepted.map fun c => { c with password := body.passwordNew }
    else accepted
  | _, _ => accepted

def acceptedCredential (settings : SettingsState) (s : AccountApp) (e : AccountEvent) (accepted : Option Credential) :
    Option Credential :=
  match e, s.waiting with
  | .answer answer, some request => request.acceptedBy settings answer accepted
  | .logOut, _ => none
  | _, _ => accepted

/-- The screens, with the credential accepted last. -/
def credentials (settings : SettingsState) : Machine (AccountApp × Option Credential) AccountEvent :=
  (accounts settings).track (acceptedCredential settings)

/-- What the device holds for a credential. -/
inductive UserState.Knows (s : UserState) : Option Credential → Prop
  | guest (table : s.table = []) (loggedIn : s.loggedIn = false) (noId : ∀ user ∈ s.currentUser, user.id = none) :
    s.Knows none
  | user {c : Credential} (loggedIn : s.loggedIn = true)
    (current : ∃ user, s.currentUser = some user ∧ user.credential = some c)
    (stored : s.table ≠ []) (rows : ∀ row ∈ s.table, row.toUser.credential = some c) : s.Knows (some c)

/-- The device knows the account, and a start would log in with it; for a guest it would not log in. -/
structure KnowsAccount (h : AccountApp × Option Credential) : Prop where
  device : h.1.user.Knows h.2
  start : h.1.restart.startup.map UserAccount.credential = h.2.map some

/-- A changed profile comes back with its own id. -/
def AccountRequest.IsOwn (user : UserAccount) : AccountRequest → Prop
  | .userUpdate body => user.id = body.id
  | .registration _ | .login _ | .userResetPassword _ => True

/-- What the server promises of a user it answers with. -/
structure AccountRequest.ServedBy (settings : SettingsState) (json : Except DartError Json)
    (request : AccountRequest) : Prop where
  /-- the profile has everything that the table asks for -/
  whole : ∀ user ∈ answeredUser settings json request, user.toRow.isSome = true
  own : ∀ user ∈ answeredUser settings json request, request.IsOwn user

/-- What the server and the account screen promise: only a guest is led to a sign-up or a log-in, and the user of a
    start is answered with that user. -/
def AccountEvent.Served (settings : SettingsState) (h : AccountApp × Option Credential) : AccountEvent → Prop
  | .submitTapped | .passwordTapped => h.1.page ≠ some .profile → h.1.user.loggedIn = false
  | .answer json => ∀ request ∈ h.1.waiting, request.ServedBy settings json
  | .startAnswer json => ∀ user ∈ (returned (UserApiCalls.userLogin true json)).join,
    ∀ currentUser ∈ h.1.startup, user.id = currentUser.id
  | _ => True

/-- The log-in of the start is answered while the account it was made for is the accepted one. -/
def AccountEvent.InTime (h : AccountApp × Option Credential) : AccountEvent → Prop
  | .startAnswer json => (returned (UserApiCalls.userLogin true json)).join ≠ none →
    ∀ currentUser ∈ h.1.startup, currentUser.credential = h.2
  | _ => True

instance (user : UserAccount) (request : AccountRequest) : Decidable (request.IsOwn user) := by
  cases request <;> unfold AccountRequest.IsOwn <;> infer_instance

instance (settings : SettingsState) (json : Except DartError Json) (request : AccountRequest) :
    Decidable (request.ServedBy settings json) :=
  decidable_of_iff ((∀ user ∈ answeredUser settings json request, user.toRow.isSome = true) ∧
    ∀ user ∈ answeredUser settings json request, request.IsOwn user) ⟨fun h => ⟨h.1, h.2⟩, fun h => ⟨h.whole, h.own⟩⟩

instance decidableServed (settings : SettingsState) (h : AccountApp × Option Credential) (e : AccountEvent) :
    Decidable (e.Served settings h) := by
  cases e <;> unfold AccountEvent.Served <;> infer_instance

instance decidableInTime (h : AccountApp × Option Credential) (e : AccountEvent) : Decidable (e.InTime h) := by
  cases e <;> unfold AccountEvent.InTime <;> infer_instance

/-! ## What the device holds -/

theorem UserAccount.credential_eq_some {user : UserAccount} {c : Credential} :
    user.credential = some c ↔ user.id = some c.id ∧ user.password = c.password := by
  simp only [UserAccount.credential, Option.map_eq_some_iff]
  constructor
  · rintro ⟨id, hid, rfl⟩
    exact ⟨hid, rfl⟩
  · rintro ⟨hid, hpassword⟩
    exact ⟨c.id, hid, by rw [hpassword]⟩

theorem UserAccount.credential_of_toRow {user : UserAccount} {row : UserRow} (h : user.toRow = some row) :
    row.toUser.credential = user.credential := by rw [toUser_of_toRow h]

theorem UserAccount.toRow_withPassword (user : UserAccount) (password : Option String) :
    toRow { user with password } = user.toRow.map fun row => { row with password } := by
  simp [toRow, Option.map_bind]

/-- A user without an id is not stored. -/
theorem UserAccount.toRow_of_id_eq_none {user : UserAccount} (h : user.id = none) : user.toRow = none := by
  simp [toRow, h]

/-- A profile that cannot be stored changes no row. -/
theorem UserDbHelper.updateUserData_of_toRow {user : UserAccount} (h : user.toRow = none) (table : List UserRow) :
    updateUserData user table = table := by
  rw [updateUserData.eq_def, h]

theorem UserDbHelper.updateUserData_ne_nil {user : UserAccount} {table : List UserRow} (h : table ≠ []) :
    updateUserData user table ≠ [] := by
  unfold updateUserData
  split
  · exact fun hnil => h (List.map_eq_nil_iff.1 hnil)
  · exact h

/-- The rows of one account stay its rows. -/
theorem UserDbHelper.updateUserData_rows {user : UserAccount} {table : List UserRow} {c : Credential}
    (hrows : ∀ row ∈ table, row.toUser.credential = some c) (huser : user.credential = some c) :
    ∀ row ∈ updateUserData user table, row.toUser.credential = some c := by
  unfold updateUserData
  split
  · rename_i new hnew
    intro row hrow
    obtain ⟨old, hold, rfl⟩ := List.mem_map.1 hrow
    split
    · exact (UserAccount.credential_of_toRow hnew).trans huser
    · exact hrows old hold
  · exact hrows

namespace UserState.Knows

variable {u : UserState} {c : Credential} {accepted : Option Credential}

/-- The current user has the id that was accepted. -/
theorem id_eq (h : u.Knows accepted) {user : UserAccount} (huser : u.currentUser = some user) :
    user.id = accepted.map Credential.id := by
  cases h with
  | guest htable hloggedIn hnoId => exact hnoId user huser
  | user hloggedIn hcurrent hstored hrows =>
      obtain ⟨current, hcurrent, hcredential⟩ := hcurrent
      obtain rfl := Option.some.inj (huser.symm.trans hcurrent)
      exact (UserAccount.credential_eq_some.1 hcredential).1

/-- Whoever is not logged in is a guest. -/
theorem guest_of (h : u.Knows accepted) (hloggedIn : u.loggedIn = false) : accepted = none := by
  cases h with
  | guest => rfl
  | user hlogged => rw [hlogged] at hloggedIn; nomatch hloggedIn

/-- What is read back from the rows of one account. -/
theorem of_rows {table : List UserRow} {loggedIn : Bool} (hstored : table ≠ [])
    (hrows : ∀ row ∈ table, row.toUser.credential = some c) :
    UserState.Knows
      { currentUser := some (UserDbHelper.getUserData table)
        loggedIn := (UserDbHelper.getUserData table).id.isSome || loggedIn
        table } (some c) := by
  cases table with
  | nil => exact absurd rfl hstored
  | cons row rest => exact .user rfl ⟨row.toUser, rfl, hrows row List.mem_cons_self⟩ hstored hrows

/-- What is read back from an empty table. -/
theorem of_nil {loggedIn : Bool} (hloggedIn : loggedIn = false) :
    UserState.Knows
      { currentUser := some (UserDbHelper.getUserData [])
        loggedIn := (UserDbHelper.getUserData []).id.isSome || loggedIn
        table := [] } none :=
  .guest rfl hloggedIn (by rintro user ⟨⟩; rfl)

/-- A guest is let in. -/
theorem signedIn (h : u.Knows none) {user : UserAccount} (hrow : user.toRow.isSome = true) (password : Option String) :
    UserState.Knows ((AccountApp.signedIn user password).exec u).2
      (user.id.map fun id => { id, password := password }) := by
  obtain ⟨row, hrow⟩ := Option.isSome_iff_exists.1 hrow
  have hid : user.id = some row.id := (congrArg (fun user : UserAccount => user.id) (UserAccount.toUser_of_toRow hrow)).symm
  have hinserted : UserAccount.toRow { user with password } = some { row with password } := by
    rw [UserAccount.toRow_withPassword, hrow]
    rfl
  cases h with
  | guest htable hloggedIn hnoId =>
      rw [exec_signedIn, htable, UserDbHelper.insertUserData, hinserted, hid]
      refine of_rows (List.cons_ne_nil _ _) fun new hnew => ?_
      obtain rfl := List.mem_singleton.1 hnew
      rfl

/-- A profile comes back with its own id. -/
theorem profileUpdated (h : u.Knows accepted) {user : UserAccount} (hid : user.id = accepted.map Credential.id) :
    UserState.Knows ((AccountApp.profileUpdated user).exec u).2 accepted := by
  cases hcurrent : u.currentUser with
  | none => rwa [exec_profileUpdated_none hcurrent]
  | some currentUser =>
      rw [exec_profileUpdated hcurrent]
      cases h with
      | guest htable hloggedIn hnoId =>
          have hnoRow : UserAccount.toRow { user with password := currentUser.password } = none :=
            UserAccount.toRow_of_id_eq_none hid
          refine .guest ?_ ?_ ?_
          · exact (UserDbHelper.updateUserData_of_toRow hnoRow _).trans htable
          · rw [hid, hloggedIn]
            rfl
          · rintro user ⟨⟩
            exact hid
      | @user c hloggedIn hknown hstored hrows =>
          obtain ⟨known, hknown, hcredential⟩ := hknown
          obtain rfl := Option.some.inj (hcurrent.symm.trans hknown)
          have hupdated : UserAccount.credential { user with password := currentUser.password } = some c :=
            UserAccount.credential_eq_some.2 ⟨hid, (UserAccount.credential_eq_some.1 hcredential).2⟩
          have hid' : user.id = some c.id := hid
          refine .user (by rw [hid']; rfl) ⟨_, rfl, hupdated⟩ ?_ ?_
          · exact UserDbHelper.updateUserData_ne_nil hstored
          · exact UserDbHelper.updateUserData_rows hrows hupdated

/-- A new password is taken. -/
theorem passwordReset (h : u.Knows accepted) (newPassword : String) :
    UserState.Knows ((AccountApp.passwordReset (some newPassword)).exec u).2
      (accepted.map fun c => { c with password := some newPassword }) := by
  cases h with
  | guest htable hloggedIn hnoId =>
      cases hcurrent : u.currentUser with
      | none =>
          rw [exec_passwordReset_none hcurrent]
          exact .guest htable hloggedIn hnoId
      | some currentUser =>
          rw [exec_passwordReset hcurrent, htable]
          exact of_nil hloggedIn
  | @user c hloggedIn hknown hstored hrows =>
      obtain ⟨currentUser, hcurrent, hcredential⟩ := hknown
      rw [exec_passwordReset hcurrent]
      refine of_rows (fun hnil => hstored (List.map_eq_nil_iff.1 hnil)) fun row hrow => ?_
      obtain ⟨old, hold, rfl⟩ := List.mem_map.1 hrow
      have hid := (UserAccount.credential_eq_some.1 hcredential).1
      have hsame : some old.id = currentUser.id := by
        rw [hid]
        exact (UserAccount.credential_eq_some.1 (hrows old hold)).1
      rw [if_pos hsame]
      exact UserAccount.credential_eq_some.2 ⟨(UserAccount.credential_eq_some.1 (hrows old hold)).1, rfl⟩

/-- The user of the start is the one who is known. -/
theorem startAnswered (h : u.Knows accepted) {currentUser : UserAccount} (hcurrent : currentUser.credential = accepted)
    {userData : UserAccount} (hid : userData.id = currentUser.id) {json : Except DartError Json}
    (hanswer : (returned (UserApiCalls.userLogin true json)).join = some userData) :
    UserState.Knows ((AccountApp.startAnswered json currentUser).exec u).2 accepted := by
  have hsame : UserAccount.credential { userData with password := currentUser.password } = accepted := by
    simp only [UserAccount.credential, hid, ← hcurrent]
  rw [exec_startAnswered hanswer]
  cases h with
  | guest htable hloggedIn hnoId =>
      have hnone : userData.id = none := Option.map_eq_none_iff.1 hsame
      have hnoRow : UserAccount.toRow { userData with password := currentUser.password } = none :=
        UserAccount.toRow_of_id_eq_none hnone
      refine .guest ?_ ?_ ?_
      · simp only [UserDbHelper.insertUserData, hnoRow, htable, Option.toList_none, List.append_nil]
      · simp only [hnone, hloggedIn, Option.isSome_none, Bool.or_false]
      · rintro user ⟨⟩
        exact hnone
  | user hloggedIn hknown hstored hrows =>
      refine .user (by rw [hloggedIn, Bool.or_true]) ⟨_, rfl, hsame⟩ ?_ ?_
      · exact fun hnil => hstored (List.append_eq_nil_iff.1 hnil).1
      · intro row hrow
        rcases List.mem_append.1 hrow with hrow | hrow
        · exact hrows row hrow
        · exact (UserAccount.credential_of_toRow (Option.mem_toList.1 hrow)).trans hsame

/-- The answer to the log-in of the start is kept to only if the user is the one who is known. -/
theorem of_startAnswered {currentUser userData : UserAccount} (hid : userData.id = currentUser.id)
    {json : Except DartError Json} (hanswer : (returned (UserApiCalls.userLogin true json)).join = some userData)
    (h : UserState.Knows ((AccountApp.startAnswered json currentUser).exec u).2 accepted) :
    currentUser.credential = accepted := by
  have hsame : UserAccount.credential { userData with password := currentUser.password } = currentUser.credential := by
    simp only [UserAccount.credential, hid]
  rw [exec_startAnswered hanswer] at h
  cases h with
  | guest htable hloggedIn hnoId =>
      rw [← hsame, UserAccount.credential, Option.map_eq_none_iff]
      exact hnoId _ rfl
  | user hloggedIn hknown hstored hrows =>
      obtain ⟨known, hknown, hcredential⟩ := hknown
      obtain rfl := Option.some.inj hknown
      exact hsame.symm.trans hcredential

theorem activated (h : u.Knows accepted) (phone : String) :
    UserState.Knows ((PhoneAuthServices.activateUserAccount phone).exec u).2 accepted := by
  cases hcurrent : u.currentUser with
  | none => rwa [UserController.exec_activateUserAccount_none phone hcurrent]
  | some currentUser =>
      rw [UserController.exec_activateUserAccount phone hcurrent]
      cases h with
      | guest htable hloggedIn hnoId =>
          refine .guest htable hloggedIn ?_
          rintro user ⟨⟩
          exact hnoId currentUser hcurrent
      | user hloggedIn hknown hstored hrows =>
          obtain ⟨known, hknown, hcredential⟩ := hknown
          obtain rfl := Option.some.inj (hcurrent.symm.trans hknown)
          exact .user hloggedIn ⟨_, rfl, hcredential⟩ hstored hrows

theorem logOut (h : u.Knows accepted) : UserState.Knows (UserController.logOut.exec u).2 none := by
  cases h with
  | guest htable hloggedIn hnoId =>
      cases hcurrent : u.currentUser with
      | none =>
          rw [UserController.exec_logOut_none hcurrent]
          exact .guest htable hloggedIn hnoId
      | some currentUser =>
          rw [UserController.exec_logOut hcurrent, htable]
          exact .guest rfl rfl (by simp)
  | @user c hloggedIn hknown hstored hrows =>
      obtain ⟨currentUser, hcurrent, hcredential⟩ := hknown
      rw [UserController.exec_logOut hcurrent]
      refine .guest (List.filter_eq_nil_iff.2 fun row hrow => ?_) rfl (by simp)
      have hid := (UserAccount.credential_eq_some.1 hcredential).1
      have hsame : some row.id = currentUser.id := by
        rw [hid]
        exact (UserAccount.credential_eq_some.1 (hrows row hrow)).1
      simp [hsame]

/-- What a start reads back. -/
theorem fresh {s : AccountApp} (h : s.user.Knows accepted) : s.fresh.user.Knows accepted := by
  rw [fresh_user]
  cases h with
  | guest htable hloggedIn hnoId =>
      rw [htable]
      exact of_nil rfl
  | user hloggedIn hknown hstored hrows =>
      rw [← Bool.or_false (Option.isSome _)]
      exact of_rows hstored hrows

end UserState.Knows

/-! ## The invariant -/

/-- The account a request was made for is the accepted one. -/
def AccountRequest.AskedFor (accepted : Option Credential) : AccountRequest → Prop
  | .registration _ | .login _ => accepted = none
  | .userUpdate body => body.id = accepted.map Credential.id
  | .userResetPassword _ => True

structure CredentialInv (h : AccountApp × Option Credential) : Prop where
  knows : h.1.user.Knows h.2
  held : ∀ request ∈ h.1.waiting, request.IsHeld h.1.fields
  valid : ∀ request ∈ h.1.waiting, request.PasswordValid
  asked : ∀ request ∈ h.1.waiting, request.AskedFor h.2

namespace CredentialInv

variable {settings : SettingsState} {s s' : AccountApp} {accepted : Option Credential} {e : AccountEvent}

theorem knowsAccount {h : AccountApp × Option Credential} (hinv : CredentialInv h) : KnowsAccount h := by
  refine ⟨hinv.knows, ?_⟩
  rcases h with ⟨s, accepted⟩
  cases hinv.knows with
  | guest htable hloggedIn hnoId =>
      rw [restart_nil htable]
      rfl
  | user hloggedIn hknown hstored hrows =>
      obtain ⟨row, rest, htable⟩ := List.exists_cons_of_ne_nil hstored
      rw [restart_cons htable]
      exact congrArg some (hrows row (htable ▸ List.mem_cons_self))

/-- Only a guest asks to be let in, and a profile is asked for the current user. -/
theorem askedFor (hknows : s.user.Knows accepted) (hguest : s.page ≠ some .profile → s.user.loggedIn = false)
    {request : AccountRequest} (hentered : request.Entered s) : request.AskedFor accepted := by
  cases request with
  | registration body => exact hknows.guest_of (hguest (by simp [hentered.1]))
  | login body => exact hknows.guest_of (hguest (by simp [hentered.1]))
  | userUpdate body =>
      obtain ⟨currentUser, hcurrent, hid, -⟩ := hentered.2.user
      exact hid.trans (hknows.id_eq hcurrent)
  | userResetPassword body => trivial

theorem screen (h : CredentialInv (s, accepted)) (hstep : s.step settings e = some s')
    (hserved : e.Served settings (s, accepted)) (hscreen : e.OfScreen) : CredentialInv (s', accepted) := by
  obtain ⟨sent, hsends, htap, hsaved⟩ := step_screen hscreen hstep
  have hguest (request : AccountRequest) (hrequest : request ∈ sent) :
      s.page ≠ some .profile → s.user.loggedIn = false := by
    have hsome : sent ≠ none := Option.ne_none_iff_exists'.2 ⟨request, hrequest⟩
    cases e with
    | submitTapped => exact hserved
    | passwordTapped => exact hserved
    | openPage | edit | phoneChanged | genderTapped => exact (htap hsome).1.elim
    | restart | startAnswer | answer | activated | logOut => exact hscreen.elim
  refine {
    knows := hsends.user.symm ▸ h.knows
    held := held_of_screen hsends hsaved h.held
    valid := ?_
    asked := ?_ }
  · intro request hrequest
    change request ∈ s'.waiting at hrequest
    rw [hsends.waiting] at hrequest
    cases sent with
    | some sent => exact (hsends.entered request hrequest).1.passwordValid
    | none => exact h.valid request hrequest
  · intro request hrequest
    change request ∈ s'.waiting at hrequest
    rw [hsends.waiting] at hrequest
    cases sent with
    | some sent => exact askedFor h.knows (hguest request hrequest) (hsends.entered request hrequest).1
    | none => exact h.asked request hrequest

/-- What an answer stores is what the server has accepted. -/
theorem answered (h : CredentialInv (s, accepted)) {json : Except DartError Json} {request : AccountRequest}
    (hwaiting : s.waiting = some request) (hserved : request.ServedBy settings json) :
    UserState.Knows ((AccountApp.answered settings json s request).exec s.user).2
      (request.acceptedBy settings json accepted) := by
  have hheld := h.held request hwaiting
  have hvalid := h.valid request hwaiting
  have hasked := h.asked request hwaiting
  unfold AccountApp.answered AccountRequest.acceptedBy
  cases request with
  | registration body =>
      obtain rfl : accepted = none := hasked
      cases hanswer : answeredUser settings json (.registration body) with
      | none => exact h.knows
      | some user =>
          have hknows := h.knows.signedIn (hserved.whole user hanswer) (s.fields.saved .password)
          change UserState.Knows _ (user.id.map fun id => { id, password := body.password })
          rwa [← show s.fields.saved .password = body.password from hheld]
  | login body =>
      obtain rfl : accepted = none := hasked
      cases hanswer : answeredUser settings json (.login body) with
      | none => exact h.knows
      | some user =>
          have hknows := h.knows.signedIn (hserved.whole user hanswer) (s.fields.saved .password)
          change UserState.Knows _ (user.id.map fun id => { id, password := body.password })
          rwa [← show s.fields.saved .password = body.password from hheld]
  | userUpdate body =>
      cases hanswer : answeredUser settings json (.userUpdate body) with
      | none => exact h.knows
      | some user => exact h.knows.profileUpdated (Eq.trans (hserved.own user hanswer) hasked)
  | userResetPassword body =>
      by_cases hreset : returned (UserApiCalls.resetPassword json) = some true
      · simp only [hreset, if_true]
        have hvalid : passwordValidator body.passwordNew = none := hvalid
        cases hnew : body.passwordNew with
        | none =>
            rw [hnew] at hvalid
            nomatch hvalid
        | some newPassword =>
            rw [(show s.fields.saved .newPassword = body.passwordNew from hheld).trans hnew]
            exact h.knows.passwordReset newPassword
      · simp only [hreset, if_false]
        exact h.knows

theorem restart (h : CredentialInv (s, accepted)) : CredentialInv (s.restart, accepted) := by
  have hfresh : CredentialInv (s.fresh, accepted) :=
    { knows := h.knows.fresh, held := by simp [fresh], valid := by simp [fresh], asked := by simp [fresh] }
  cases htable : s.user.table with
  | nil => rwa [restart_nil htable]
  | cons row rest =>
      rw [restart_cons htable]
      exact { knows := hfresh.knows, held := hfresh.held, valid := hfresh.valid, asked := hfresh.asked }

theorem startAnswer (h : CredentialInv (s, accepted)) {json : Except DartError Json} {currentUser : UserAccount}
    (hstartup : s.startup = some currentUser) (hserved : AccountEvent.Served settings (s, accepted) (.startAnswer json))
    (hintime : AccountEvent.InTime (s, accepted) (.startAnswer json)) :
    ((AccountApp.startAnswered json currentUser).exec s.user).2.Knows accepted := by
  cases hanswer : (returned (UserApiCalls.userLogin true json)).join with
  | none => rw [exec_startAnswered_none hanswer]; exact h.knows
  | some userData =>
      have hcurrent := hintime (by rw [hanswer]; nofun) currentUser hstartup
      exact h.knows.startAnswered hcurrent (hserved userData hanswer currentUser hstartup) hanswer

theorem step {h h' : AccountApp × Option Credential} (hinv : CredentialInv h) (hserved : e.Served settings h)
    (hintime : e.InTime h) (hstep : (credentials settings).step h e = some h') : CredentialInv h' := by
  rcases h with ⟨s, accepted⟩
  rcases h' with ⟨s', accepted'⟩
  obtain ⟨hstep, haccepted⟩ := Machine.track_step.1 hstep
  obtain rfl : accepted' = acceptedCredential settings s e accepted := haccepted
  have hstep : s.step settings e = some s' := hstep
  cases e with
  | openPage | edit | phoneChanged | genderTapped | submitTapped | passwordTapped =>
      exact hinv.screen hstep hserved trivial
  | restart =>
      obtain rfl := Option.some.inj hstep
      exact hinv.restart
  | startAnswer json =>
      obtain ⟨currentUser, hstartup, rfl⟩ := Option.map_eq_some_iff.1 hstep
      exact { knows := hinv.startAnswer hstartup hserved hintime
              held := hinv.held, valid := hinv.valid, asked := hinv.asked }
  | answer json =>
      obtain ⟨request, hwaiting, rfl⟩ := Option.map_eq_some_iff.1 hstep
      have hknows := hinv.answered hwaiting (hserved request hwaiting)
      rw [show acceptedCredential settings s (.answer json) accepted = request.acceptedBy settings json accepted by
        rw [acceptedCredential.eq_def, hwaiting]]
      exact { knows := hknows, held := by simp, valid := by simp, asked := by simp }
  | activated phone =>
      obtain rfl := Option.some.inj hstep
      exact { knows := hinv.knows.activated phone, held := hinv.held, valid := hinv.valid, asked := hinv.asked }
  | logOut =>
      obtain ⟨hwaiting, hstep⟩ := Option.ite_none_right_eq_some.1 hstep
      obtain rfl := Option.some.inj hstep
      have hnot (request : AccountRequest) (hrequest : s.waiting = some request) : False := by
        rw [hwaiting] at hrequest
        nomatch hrequest
      exact {
        knows := hinv.knows.logOut
        held := fun request hrequest => (hnot request hrequest).elim
        valid := fun request hrequest => (hnot request hrequest).elim
        asked := fun request hrequest => (hnot request hrequest).elim }

end CredentialInv

/-- An answer that comes too late leaves the device with an account that is not the accepted one. -/
theorem AccountEvent.InTime.of_knows {settings : SettingsState} {h h' : AccountApp × Option Credential}
    {e : AccountEvent} (hserved : e.Served settings h) (hstep : (credentials settings).step h e = some h')
    (hknows : KnowsAccount h') : e.InTime h := by
  obtain ⟨hstep, haccepted⟩ := Machine.track_step.1 hstep
  cases e with
  | startAnswer json =>
      obtain ⟨currentUser, hstartup, hs'⟩ := Option.map_eq_some_iff.1 hstep
      intro hbrings current hcurrent
      obtain rfl := Option.some.inj (hstartup.symm.trans hcurrent)
      obtain ⟨userData, hanswer⟩ := Option.ne_none_iff_exists'.1 hbrings
      have hdevice := hknows.device
      rw [← hs', haccepted] at hdevice
      exact UserState.Knows.of_startAnswered (hserved userData hanswer currentUser hstartup) hanswer hdevice
  | _ => trivial

/-- **The account on the device.** Through every order of starts, screens, taps and answers, the device holds the id and
    the password that the server has accepted last, in memory and in every stored row, and a start logs in with them,
    exactly if every answer to the log-in of a start that brings a user comes while its account is the accepted one. -/
theorem account_known_iff {settings : SettingsState} {token : Option String} {events : List AccountEvent}
    (hserved : (credentials settings).Meets (fun h e => e.Served settings h) (.installed token, none) events) :
    (credentials settings).Throughout KnowsAccount (.installed token, none) events ↔
      (credentials settings).Meets (fun h e => e.InTime h) (.installed token, none) events := by
  have hstart : CredentialInv (.installed token, none) :=
    { knows := .guest rfl rfl (by rintro user ⟨⟩; rfl)
      held := by simp [installed], valid := by simp [installed], asked := by simp [installed] }
  exact Machine.throughout_iff_meets CredentialInv (fun h => CredentialInv.knowsAccount)
    (fun h e h' hinv hserved hintime hstep => hinv.step hserved hintime hstep)
    (fun h e h' _ hserved hstep hknows => .of_knows hserved hstep hknows) events hstart hserved

/-- The user logs out before the start is answered, and is logged in again by the answer. -/
example : ¬ (credentials {}).Meets (fun h e => e.InTime h) (.installed none, none)
    (guestLogsIn ++ [.logOut, .startAnswer (sampleAccountAnswer 7)]) := by decide

/-- A guest logs in, starts the app anew and is logged in again, and changes the password. -/
def passwordChanged : List AccountEvent :=
  guestLogsIn ++
    [.startAnswer (sampleAccountAnswer 7), .openPage .profile true, .passwordTapped, .edit .oldPassword "secret",
      .edit .newPassword "secret2", .edit .confirmNewPassword "secret2", .passwordTapped,
      .answer (.ok (.obj [("message", .str "done"), ("success", .bool true)])), .restart]

theorem account_known_sample :
    (credentials {}).Throughout KnowsAccount (.installed none, none) passwordChanged ∧
    ∃ h, (credentials {}).run (.installed none, none) passwordChanged = some h ∧
      h.2 = some { id := 7, password := some "secret2" } := by
  refine ⟨(account_known_iff (by decide)).2 (by decide), Machine.reaches (by decide)⟩

end Nourgomla
