import Nourgomla.Widgets.AccountSpec

set_option autoImplicit false

/-! # What the account screens send

Every request of the account screens holds what stood in the fields at the tap that sent it, and the validators of the
fields had accepted it: a sign-up, a log-in, a changed profile and a changed password. Two requests need no tap: the
log-in of the start, which holds a phone and a password that were stored, and the password of every stored user was
itself accepted before; and the profile of an activation, which is that of the current user with the phone that was
verified. -/

namespace Nourgomla

open AccountApp

/-! ## Where a request comes from -/

/-- A password that is stored: one that the validator accepts, or none. -/
inductive KeptPassword : Option String → Prop
  | none : KeptPassword none
  | valid {password : Option String} (h : passwordValidator password = .none) : KeptPassword password

/-- The log-in of the start, for the first row of the table. -/
def AccountRequest.LogsInAgain (s : AccountApp) (request : AccountRequest) : Prop :=
  ∃ row, s.user.table.head? = some row ∧ KeptPassword row.password ∧
    request = .login { phone := some row.phone, password := row.password, token := s.token }

/-- The profile of the current user, with this phone as the verified one. -/
def AccountRequest.Activates (s : AccountApp) (phone : String) (request : AccountRequest) : Prop :=
  ∃ user, s.user.currentUser = some user ∧
    request = .userUpdate
      { status := user.status, role := user.role, id := user.id, languageId := user.languageId, gender := user.gender
        firstName := user.firstName, lastName := user.lastName, phone := some phone, email := user.email
        phoneVerification := some 1, updatedBy := none, vendorId := "" }

/-- What sends a request in a state: a tap, with what stands in the fields, a start, or an activation. -/
def AccountRequest.SentBy (s : AccountApp) (e : AccountEvent) (request : AccountRequest) : Prop :=
  e.IsTap ∧ request.Entered s ∨ e = .restart ∧ request.LogsInAgain s ∨
    ∃ phone, e = .activated phone ∧ request.Activates s phone

/-- A request was sent at an event. -/
def AccountRequest.SentIn (settings : SettingsState) (token : Option String) (events : List AccountEvent)
    (request : AccountRequest) : Prop :=
  ∃ before e after s, events = before ++ e :: after ∧ (accounts settings).run (.installed token) before = some s ∧
    request.SentBy s e

theorem AccountRequest.SentIn.concat {settings : SettingsState} {token : Option String} {events : List AccountEvent}
    {request : AccountRequest} (h : request.SentIn settings token events) (e : AccountEvent) :
    request.SentIn settings token (events ++ [e]) := by
  obtain ⟨before, e', after, s, rfl, hrun, hsent⟩ := h
  exact ⟨before, e', after ++ [e], s, by simp, hrun, hsent⟩

/-! ## Stored passwords -/

/-- The passwords in memory and in the table. -/
structure KeptPasswords (s : UserState) : Prop where
  current : ∀ user ∈ s.currentUser, KeptPassword user.password
  stored : ∀ row ∈ s.table, KeptPassword row.password

theorem password_of_toRow {user : UserAccount} {row : UserRow} (h : user.toRow = some row) :
    row.password = user.password :=
  congrArg UserAccount.password (UserAccount.toUser_of_toRow h)

namespace KeptPasswords

open UserDbHelper

variable {u : UserState} {user : UserAccount} {table : List UserRow}

theorem insertUserData (user : UserAccount) (hstored : ∀ row ∈ table, KeptPassword row.password) (huser : KeptPassword user.password) :
    ∀ row ∈ UserDbHelper.insertUserData user table, KeptPassword row.password := by
  intro row hrow
  rcases List.mem_append.1 hrow with hrow | hrow
  · exact hstored row hrow
  · rw [password_of_toRow (Option.mem_toList.1 hrow)]
    exact huser

theorem updateUserData (user : UserAccount) (hstored : ∀ row ∈ table, KeptPassword row.password) (huser : KeptPassword user.password) :
    ∀ row ∈ UserDbHelper.updateUserData user table, KeptPassword row.password := by
  unfold UserDbHelper.updateUserData
  split
  · rename_i new hnew
    intro row hrow
    obtain ⟨old, hold, rfl⟩ := List.mem_map.1 hrow
    split
    · rw [password_of_toRow hnew]
      exact huser
    · exact hstored old hold
  · exact hstored

theorem updatePassword {password : String} (hstored : ∀ row ∈ table, KeptPassword row.password)
    (hpassword : passwordValidator (some password) = none) (id : Option Int) :
    ∀ row ∈ UserDbHelper.updatePassword id password table, KeptPassword row.password := by
  intro row hrow
  obtain ⟨old, hold, rfl⟩ := List.mem_map.1 hrow
  split
  · exact .valid hpassword
  · exact hstored old hold

/-- What is read back has the password of a row, or none. -/
theorem getUserData (hstored : ∀ row ∈ table, KeptPassword row.password) :
    KeptPassword (UserDbHelper.getUserData table).password := by
  cases table with
  | nil => exact .none
  | cons row rest => exact hstored row List.mem_cons_self

/-- What is read back is in memory. -/
theorem of_stored {loggedIn : Bool} (hstored : ∀ row ∈ table, KeptPassword row.password) :
    KeptPasswords { currentUser := some (UserDbHelper.getUserData table), loggedIn, table } := by
  refine ⟨?_, hstored⟩
  rintro user ⟨⟩
  exact getUserData hstored

theorem signedIn (h : KeptPasswords u) {password : Option String} (hpassword : KeptPassword password) :
    KeptPasswords ((AccountApp.signedIn user password).exec u).2 := by
  rw [exec_signedIn]
  exact of_stored (insertUserData { user with password } h.stored hpassword)

theorem profileUpdated (h : KeptPasswords u) : KeptPasswords ((AccountApp.profileUpdated user).exec u).2 := by
  cases hcurrent : u.currentUser with
  | none => rwa [exec_profileUpdated_none hcurrent]
  | some currentUser =>
      have hpassword := h.current currentUser hcurrent
      rw [exec_profileUpdated hcurrent]
      refine ⟨?_, updateUserData { user with password := currentUser.password } h.stored hpassword⟩
      rintro user ⟨⟩
      exact hpassword

theorem passwordReset (h : KeptPasswords u) {newPassword : Option String}
    (hpassword : passwordValidator newPassword = none) :
    KeptPasswords ((AccountApp.passwordReset newPassword).exec u).2 := by
  cases hcurrent : u.currentUser with
  | none => rwa [exec_passwordReset_none hcurrent]
  | some currentUser =>
      cases newPassword with
      | none => nomatch hpassword
      | some newPassword =>
          rw [exec_passwordReset hcurrent]
          exact of_stored (updatePassword h.stored hpassword currentUser.id)

theorem startAnswered (h : KeptPasswords u) {answer : Except DartError Json} (huser : KeptPassword user.password) :
    KeptPasswords ((AccountApp.startAnswered answer user).exec u).2 := by
  cases hanswer : (returned (UserApiCalls.userLogin true answer)).join with
  | none => rwa [exec_startAnswered_none hanswer]
  | some userData =>
      rw [exec_startAnswered hanswer]
      refine ⟨?_, insertUserData { userData with password := user.password } h.stored huser⟩
      rintro user ⟨⟩
      exact huser

theorem activated (h : KeptPasswords u) (phone : String) :
    KeptPasswords ((PhoneAuthServices.activateUserAccount phone).exec u).2 := by
  cases hcurrent : u.currentUser with
  | none => rwa [UserController.exec_activateUserAccount_none phone hcurrent]
  | some currentUser =>
      rw [UserController.exec_activateUserAccount phone hcurrent]
      refine ⟨?_, h.stored⟩
      rintro user ⟨⟩
      exact h.current currentUser hcurrent

theorem logOut (h : KeptPasswords u) : KeptPasswords (UserController.logOut.exec u).2 := by
  cases hcurrent : u.currentUser with
  | none => rwa [UserController.exec_logOut_none hcurrent]
  | some currentUser =>
      rw [UserController.exec_logOut hcurrent]
      exact ⟨by simp, fun row hrow => h.stored row (List.mem_of_mem_filter hrow)⟩

end KeptPasswords

/-! ## The invariant -/

/-- The password that an answer will store is one that was accepted. -/
def AccountRequest.PasswordValid : AccountRequest → Prop
  | .registration body => passwordValidator body.password = none
  | .login body => passwordValidator body.password = none
  | .userUpdate _ => True
  | .userResetPassword body => passwordValidator body.passwordNew = none

theorem AccountRequest.Entered.passwordValid {s : AccountApp} {request : AccountRequest} (h : request.Entered s) :
    request.PasswordValid := by
  cases request with
  | registration body => exact h.2.password.2
  | login body => exact h.2.password.2
  | userUpdate body => trivial
  | userResetPassword body => exact h.2.passwordNew.2

structure RequestsSound (settings : SettingsState) (token : Option String) (events : List AccountEvent)
    (s : AccountApp) : Prop where
  kept : KeptPasswords s.user
  startup : ∀ user ∈ s.startup, KeptPassword user.password
  held : ∀ request ∈ s.waiting, request.IsHeld s.fields
  valid : ∀ request ∈ s.waiting, request.PasswordValid
  sent : ∀ request ∈ s.posted, request.SentIn settings token events

namespace RequestsSound

variable {settings : SettingsState} {token : Option String} {events : List AccountEvent} {s s' : AccountApp}
  {e : AccountEvent}

theorem start : RequestsSound settings token [] (.installed token) where
  kept := ⟨by rintro user ⟨⟩; exact .none, by simp [installed]⟩
  startup := by simp [installed]
  held := by simp [installed]
  valid := by simp [installed]
  sent := by simp [installed]

/-- What was sent is sent, and a new request is sent by this event. -/
theorem sent_concat (h : RequestsSound settings token events s)
    (hrun : (accounts settings).run (.installed token) events = some s) {sent : Option AccountRequest}
    (hposted : s'.posted = s.posted ++ sent.toList)
    (hsent : ∀ request ∈ sent, request.SentBy s e) :
    ∀ request ∈ s'.posted, request.SentIn settings token (events ++ [e]) := by
  intro request hrequest
  rcases List.mem_append.1 (hposted ▸ hrequest) with hbefore | hnew
  · exact (h.sent request hbefore).concat e
  · exact ⟨events, e, [], s, rfl, hrun, hsent request (Option.mem_toList.1 hnew)⟩

/-- Nothing is sent. -/
theorem sent_nothing (h : RequestsSound settings token events s) (hposted : s'.posted = s.posted) :
    ∀ request ∈ s'.posted, request.SentIn settings token (events ++ [e]) := by
  intro request hrequest
  exact (h.sent request (hposted ▸ hrequest)).concat e

theorem screen (h : RequestsSound settings token events s)
    (hrun : (accounts settings).run (.installed token) events = some s) (hscreen : e.OfScreen)
    (hstep : s.step settings e = some s') : RequestsSound settings token (events ++ [e]) s' := by
  obtain ⟨sent, hsends, htap, hsaved⟩ := step_screen hscreen hstep
  have hentered (request : AccountRequest) (hrequest : request ∈ sent) : e.IsTap ∧ request.Entered s :=
    ⟨(htap (Option.ne_none_iff_exists'.2 ⟨request, hrequest⟩)).1, (hsends.entered request hrequest).1⟩
  refine {
    kept := hsends.user ▸ h.kept
    startup := hsends.startup ▸ h.startup
    held := held_of_screen hsends hsaved h.held
    valid := ?_
    sent := h.sent_concat hrun hsends.posted fun request hrequest => .inl (hentered request hrequest) }
  intro request hrequest
  rw [hsends.waiting] at hrequest
  cases sent with
  | some sent => exact (hsends.entered request hrequest).1.passwordValid
  | none => exact h.valid request hrequest

theorem restart (h : RequestsSound settings token events s)
    (hrun : (accounts settings).run (.installed token) events = some s) :
    RequestsSound settings token (events ++ [.restart]) s.restart := by
  cases htable : s.user.table with
  | nil =>
      rw [restart_nil htable]
      exact {
        kept := by
          rw [fresh_user]
          exact .of_stored h.kept.stored
        startup := by simp [fresh]
        held := by simp [fresh]
        valid := by simp [fresh]
        sent := h.sent_nothing rfl }
  | cons row rest =>
      rw [restart_cons htable]
      have hkept := h.kept.stored row (htable ▸ List.mem_cons_self)
      have hagain : ∀ request ∈ some (AccountRequest.login
          { phone := some row.phone, password := row.password, token := s.token }),
          request.SentBy s .restart := by
        rintro request ⟨⟩
        exact .inr (.inl ⟨rfl, row, by rw [htable, List.head?_cons], hkept, rfl⟩)
      refine {
        kept := by
          change KeptPasswords s.fresh.user
          rw [fresh_user]
          exact .of_stored h.kept.stored
        startup := ?_
        held := by simp [fresh]
        valid := by simp [fresh]
        sent := h.sent_concat hrun rfl hagain }
      rintro user ⟨⟩
      exact hkept

theorem startAnswer (h : RequestsSound settings token events s) {answer : Except DartError Json}
    (hstep : s.step settings (.startAnswer answer) = some s') :
    RequestsSound settings token (events ++ [.startAnswer answer]) s' := by
  obtain ⟨currentUser, hstartup, rfl⟩ := Option.map_eq_some_iff.1 hstep
  exact {
    kept := h.kept.startAnswered (h.startup currentUser hstartup)
    startup := by simp
    held := h.held
    valid := h.valid
    sent := h.sent_nothing rfl }

/-- What an answer stores as the password is what the request held. -/
theorem answered (h : RequestsSound settings token events s) {request : AccountRequest}
    (hwaiting : s.waiting = some request) (answer : Except DartError Json) :
    KeptPasswords ((AccountApp.answered settings answer s request).exec s.user).2 := by
  have hheld := h.held request hwaiting
  have hvalid := h.valid request hwaiting
  unfold AccountApp.answered
  split
  · exact h.kept.signedIn (.valid ((congrArg passwordValidator hheld).trans hvalid))
  · exact h.kept.signedIn (.valid ((congrArg passwordValidator hheld).trans hvalid))
  · exact h.kept.profileUpdated
  · split
    · exact h.kept.passwordReset ((congrArg passwordValidator hheld).trans hvalid)
    · exact h.kept
  · exact h.kept

theorem answer (h : RequestsSound settings token events s) {answer : Except DartError Json}
    (hstep : s.step settings (.answer answer) = some s') :
    RequestsSound settings token (events ++ [.answer answer]) s' := by
  obtain ⟨request, hwaiting, rfl⟩ := Option.map_eq_some_iff.1 hstep
  exact {
    kept := h.answered hwaiting answer
    startup := h.startup
    held := by simp
    valid := by simp
    sent := h.sent_nothing rfl }

/-- Without a current user an activation throws before it posts. -/
theorem activated (h : RequestsSound settings token events s)
    (hrun : (accounts settings).run (.installed token) events = some s) {phone : String}
    (hstep : s.step settings (.activated phone) = some s') :
    RequestsSound settings token (events ++ [.activated phone]) s' := by
  obtain rfl := Option.some.inj hstep
  refine { h with
    kept := h.kept.activated phone
    sent := h.sent_concat hrun rfl ?_ }
  intro request hrequest
  cases hcurrent : s.user.currentUser with
  | none => simp [UserController.exec_activateUserAccount_none phone hcurrent, Except.toOption] at hrequest
  | some user =>
      obtain rfl : _ = request := by
        simpa [UserController.exec_activateUserAccount phone hcurrent, Except.toOption] using hrequest
      exact .inr (.inr ⟨phone, rfl, user, hcurrent, rfl⟩)

theorem step (h : RequestsSound settings token events s)
    (hrun : (accounts settings).run (.installed token) events = some s) (hstep : s.step settings e = some s') :
    RequestsSound settings token (events ++ [e]) s' := by
  cases e with
  | openPage | edit | phoneChanged | genderTapped | submitTapped | passwordTapped => exact h.screen hrun trivial hstep
  | restart =>
      obtain rfl := Option.some.inj hstep
      exact h.restart hrun
  | startAnswer answer => exact h.startAnswer hstep
  | answer answer => exact h.answer hstep
  | activated phone => exact h.activated hrun hstep
  | logOut =>
      obtain ⟨-, hstep⟩ := Option.ite_none_right_eq_some.1 hstep
      obtain rfl := Option.some.inj hstep
      exact { h with
        kept := h.kept.logOut
        sent := h.sent_nothing rfl }

end RequestsSound

/-- **The requests of the account screens.** Whatever is opened, typed, tapped and answered, in any order: every request
    that was sent holds what stood in the fields when its button was tapped, as the validators accepted it, or it is
    the log-in of a start for the first stored user, or the profile of the current user at an activation. -/
theorem account_requests_are_entered {settings : SettingsState} {token : Option String} {events : List AccountEvent}
    {s : AccountApp} (hrun : (accounts settings).run (.installed token) events = some s) :
    ∀ request ∈ s.posted, request.SentIn settings token events :=
  (Machine.inv_of_run (RequestsSound settings token) .start (fun _ _ _ _ hrun h hstep => h.step hrun hstep) hrun).sent

/-! ## A run -/

/-- The answer to a guest who signs in. -/
def sampleAccountAnswer (id : Int) : Except DartError Json :=
  .ok (.obj [("message", .str "welcome"), ("success", .bool true), ("survey", .bool false),
    ("data", .arr [.obj [("id", .num (.int id)), ("language_id", .num (.int 1)), ("gender", .num (.int 1)),
      ("first_name", .str "A"), ("last_name", .str "B"), ("phone", .str "+20100"), ("email", .str "a@b.cd"),
      ("password", .null), ("status", .num (.int 1)), ("role", .num (.int 2)), ("activation", .num (.int 1)),
      ("phone_verification", .num (.int 0))]])])

/-- A guest logs in, the phone is verified, and the app is started anew. -/
def guestLogsIn : List AccountEvent :=
  [.restart, .openPage .login true, .edit .password "secret", .phoneChanged (some "+20100") (some "EG"), .submitTapped,
    .answer (sampleAccountAnswer 7), .activated "+20100", .restart]

theorem account_requests_are_entered_sample :
    ∃ s, (accounts {}).run (.installed none) guestLogsIn = some s ∧ s.posted.length = 3 ∧
      ∀ request ∈ s.posted, request.SentIn {} none guestLogsIn := by
  have hrun : ((accounts {}).run (.installed none) guestLogsIn).any (fun s => decide (s.posted.length = 3)) = true := by
    decide
  obtain ⟨s, hrun, hposted⟩ := Machine.reaches hrun
  exact ⟨s, hrun, hposted, account_requests_are_entered hrun⟩

end Nourgomla
