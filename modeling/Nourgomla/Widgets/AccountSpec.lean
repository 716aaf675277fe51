import Nourgomla.Widgets.AccountScreens

set_option autoImplicit false

/-! # What each event of the account screens does

A button that sends nothing changes no more than fields, complaints and the mode of editing; one that sends something
sends what stands in the fields, and the validators of the fields have accepted it (`Entered`). -/

namespace Nourgomla

open AccountApp

/-- A value is what stands in a field, and its validator accepts it. -/
def AccountApp.Holds (s : AccountApp) (field : AccountField) (validator : Option String → Option String)
    (value : Option String) : Prop :=
  value = some (s.fields.text field) ∧ validator value = none

/-! ## What the requests hold -/

structure RegisterBody.Entered (body : RegisterBody) (s : AccountApp) : Prop where
  firstName : s.Holds .firstName fnLnValidator body.firstName
  lastName : s.Holds .lastName fnLnValidator body.lastName
  email : s.Holds .email emailValidator body.email
  password : s.Holds .password passwordValidator body.password
  /-- the password was typed twice -/
  confirmed : s.fields.text .confirmNewPassword = s.fields.text .password
  /-- the number that was reported last; it may be the empty one -/
  phone : body.phone = s.phone.confirmedNumber ∧ body.phone ≠ none
  gender : body.gender = s.gender
  token : body.token = s.token

structure LoginBody.Entered (body : LoginBody) (s : AccountApp) : Prop where
  password : s.Holds .password passwordValidator body.password
  phone : body.phone = s.phone.confirmedNumber ∧ body.phone ≠ none
  token : body.token = s.token

structure UpdateProfileBody.Entered (body : UpdateProfileBody) (s : AccountApp) : Prop where
  firstName : s.Holds .firstName fnLnValidator body.firstName
  lastName : s.Holds .lastName fnLnValidator body.lastName
  email : s.Holds .email emailValidator body.email
  /-- it is for the current user, and everything else is the user's own or chosen -/
  user : ∃ currentUser, s.user.currentUser = some currentUser ∧ body.id = currentUser.id ∧
    body.updatedBy = currentUser.id ∧ body.gender = (s.gender <|> currentUser.gender) ∧
    body.phone = (s.phone.confirmedNumber <|> currentUser.phone)
  /-- the profile was being edited -/
  edited : s.edit.editMood = true

structure ResetPasswordBody.Entered (body : ResetPasswordBody) (s : AccountApp) : Prop where
  password : s.Holds .oldPassword passwordValidator body.password
  passwordNew : s.Holds .newPassword passwordValidator body.passwordNew
  confirmed : s.fields.text .confirmNewPassword = s.fields.text .newPassword
  user : ∃ currentUser, s.user.currentUser = some currentUser ∧ body.userId = currentUser.id
  edited : s.edit.passwordEditMood = true

/-- What a request holds that a screen sends. -/
def AccountRequest.Entered (s : AccountApp) : AccountRequest → Prop
  | .registration body => s.page = some .signUp ∧ body.Entered s
  | .login body => s.page = some .login ∧ body.Entered s
  | .userUpdate body => s.page = some .profile ∧ body.Entered s
  | .userResetPassword body => s.page = some .profile ∧ body.Entered s

/-- The password that the screen holds while a request is answered. -/
def AccountRequest.IsHeld (fields : FormState AccountField String String) : AccountRequest → Prop
  | .registration body => fields.saved .password = body.password
  | .login body => fields.saved .password = body.password
  | .userUpdate _ => True
  | .userResetPassword body => fields.saved .newPassword = body.passwordNew

/-! ## What a button does -/

/-- A button sends at most one request. -/
structure AccountApp.Sends (s s' : AccountApp) (sent : Option AccountRequest) : Prop where
  user : s'.user = s.user
  startup : s'.startup = s.startup
  waiting : s'.waiting = sent.or s.waiting
  posted : s'.posted = s.posted ++ sent.toList
  entered : ∀ request ∈ sent, request.Entered s ∧ request.IsHeld s'.fields

namespace AccountApp

variable {s : AccountApp}

variable {fields : FormState AccountField String String} {form : AccountForm}

/-- A valid form has saved what stands in the fields, and its validators accept it. -/
theorem saved_submit (hsubmit : s.fields.submit form = (true, fields)) {name : AccountField}
    {validator : Option String → Option String}
    (hfield : { name, validator := fun _ val => validator (some val) } ∈ form) :
    s.Holds name validator (fields.saved name) := by
  obtain ⟨hsaved, hnone⟩ := FormState.submit_accepted hsubmit hfield
  exact ⟨hsaved, hsaved ▸ hnone⟩

/-- Two passwords are the same if the second one is accepted. -/
theorem eq_of_confirmPasswordValidator {val : String} {password : Option String}
    (h : confirmPasswordValidator (some val) password = none) : password = some val := by
  unfold confirmPasswordValidator at h
  split at h
  · nomatch h
  · split at h
    · nomatch h
    · rename_i hsame
      exact (not_not.1 hsame).symm

theorem confirmed_submit (hsubmit : s.fields.submit form = (true, fields)) {name : AccountField}
    (hname : name ∈ form.names)
    (hfield : { name := .confirmNewPassword
                validator := fun saved val => confirmPasswordValidator (some val) (saved name) } ∈ form) :
    s.fields.text .confirmNewPassword = s.fields.text name := by
  obtain ⟨-, hnone⟩ := FormState.submit_accepted hsubmit hfield
  have hsaved := FormState.saved_submit (s := s.fields) hname
  rw [hsubmit] at hsaved
  exact (Option.some.inj (hsaved.symm.trans (eq_of_confirmPasswordValidator hnone))).symm

/-- Looking at the phone changes no more than what is complained about. -/
theorem checkPhone_eq (s : AccountApp) :
    ∃ phone, s.checkPhone = { s with phone } ∧ phone.confirmedNumber = s.phone.confirmedNumber := by
  unfold checkPhone
  split
  · exact ⟨s.phone.setErrMsg, rfl, rfl⟩
  · exact ⟨s.phone, rfl, rfl⟩

/-- A button that sends nothing. -/
theorem Sends.quiet {s' : AccountApp} (huser : s'.user = s.user) (hstartup : s'.startup = s.startup)
    (hwaiting : s'.waiting = s.waiting) (hposted : s'.posted = s.posted) : s.Sends s' none :=
  ⟨huser, hstartup, hwaiting, hposted.trans (List.append_nil _).symm,
    fun request hrequest => absurd hrequest (Option.not_mem_none request)⟩

theorem signUpTapped_sends (settings : SettingsState) (hpage : s.page = some .signUp) :
    ∃ sent, s.Sends (s.signUpTapped settings) sent := by
  obtain ⟨phone, hphone, hnumber⟩ := s.checkPhone_eq
  rcases hsubmit : s.fields.submit signUpForm with ⟨valid, fields⟩
  simp only [signUpTapped, hphone, submit, hsubmit]
  split
  · rename_i hsend
    obtain ⟨rfl, hgiven⟩ := Bool.and_eq_true_iff.1 hsend
    cases settings.phoneAuthRequired with
    | error e => exact ⟨none, .quiet rfl rfl rfl rfl⟩
    | ok forceVerify =>
        refine ⟨some _, rfl, rfl, rfl, rfl, ?_⟩
        rintro request ⟨⟩
        refine ⟨⟨hpage, ?_⟩, rfl⟩
        exact {
          firstName := saved_submit hsubmit (by simp [signUpForm])
          lastName := saved_submit hsubmit (by simp [signUpForm])
          email := saved_submit hsubmit (by simp [signUpForm])
          password := saved_submit hsubmit (by simp [signUpForm])
          confirmed := confirmed_submit hsubmit (by simp [Form.names, signUpForm]) (by simp [signUpForm])
          phone := ⟨hnumber, Option.isSome_iff_ne_none.1 hgiven⟩
          gender := rfl
          token := rfl }
  · exact ⟨none, .quiet rfl rfl rfl rfl⟩

theorem loginTapped_sends (hpage : s.page = some .login) : ∃ sent, s.Sends s.loginTapped sent := by
  obtain ⟨phone, hphone, hnumber⟩ := s.checkPhone_eq
  rcases hsubmit : s.fields.submit loginForm with ⟨valid, fields⟩
  simp only [loginTapped, hphone, submit, hsubmit]
  split
  · rename_i hsend
    obtain ⟨rfl, hgiven⟩ := Bool.and_eq_true_iff.1 hsend
    refine ⟨some _, rfl, rfl, rfl, rfl, ?_⟩
    rintro request ⟨⟩
    refine ⟨⟨hpage, ?_⟩, rfl⟩
    exact {
      password := saved_submit hsubmit (by simp [loginForm])
      phone := ⟨hnumber, Option.isSome_iff_ne_none.1 hgiven⟩
      token := rfl }
  · exact ⟨none, .quiet rfl rfl rfl rfl⟩

/-- A value that a form has saved is never replaced by the user's own. -/
theorem saved_orElse (hsubmit : s.fields.submit form = (true, fields)) {name : AccountField}
    (hname : name ∈ form.names) (own : Option String) : (fields.saved name <|> own) = fields.saved name := by
  have hsaved := FormState.saved_submit (s := s.fields) hname
  rw [hsubmit] at hsaved
  rw [hsaved]
  rfl

theorem editTapped_sends (hpage : s.page = some .profile) : ∃ sent, s.Sends s.editTapped sent := by
  rcases hsubmit : s.fields.submit profileForm with ⟨valid, fields⟩
  simp only [editTapped, submit, hsubmit]
  split
  · exact ⟨none, .quiet rfl rfl rfl rfl⟩
  rename_i hmood
  split
  · rename_i hvalid
    obtain rfl : valid = true := hvalid
    split
    · rename_i currentUser huser
      refine ⟨some _, rfl, rfl, rfl, rfl, ?_⟩
      rintro request ⟨⟩
      refine ⟨⟨hpage, ?_⟩, trivial⟩
      have hown (name : AccountField) (hname : name ∈ profileForm.names) (own : Option String) :=
        saved_orElse hsubmit hname own
      exact {
        firstName := by
          rw [PostedUser.toJsonUpdateProfile, editedUser, hown .firstName (by simp [Form.names, profileForm])]
          exact saved_submit hsubmit (by simp [profileForm])
        lastName := by
          rw [PostedUser.toJsonUpdateProfile, editedUser, hown .lastName (by simp [Form.names, profileForm])]
          exact saved_submit hsubmit (by simp [profileForm])
        email := by
          rw [PostedUser.toJsonUpdateProfile, editedUser, hown .email (by simp [Form.names, profileForm])]
          exact saved_submit hsubmit (by simp [profileForm])
        user := ⟨currentUser, huser, rfl, rfl, rfl, rfl⟩
        edited := by simpa [EditProfileController.toggle] using hmood }
    · exact ⟨none, .quiet rfl rfl rfl rfl⟩
  · exact ⟨none, .quiet rfl rfl rfl rfl⟩

theorem passwordTapped_sends (hpage : s.page = some .profile) : ∃ sent, s.Sends s.passwordTapped sent := by
  rcases hsubmit : s.fields.submit passwordForm with ⟨valid, fields⟩
  simp only [passwordTapped, submit, hsubmit]
  split
  · exact ⟨none, .quiet rfl rfl rfl rfl⟩
  rename_i hmood
  split
  · rename_i hvalid
    obtain rfl : valid = true := hvalid
    split
    · rename_i currentUser huser
      refine ⟨some _, rfl, rfl, rfl, rfl, ?_⟩
      rintro request ⟨⟩
      refine ⟨⟨hpage, ?_⟩, rfl⟩
      exact {
        password := saved_submit hsubmit (by simp [passwordForm])
        passwordNew := saved_submit hsubmit (by simp [passwordForm])
        confirmed := confirmed_submit hsubmit (by simp [Form.names, passwordForm]) (by simp [passwordForm])
        user := ⟨currentUser, huser, rfl⟩
        edited := by simpa [EditProfileController.togglePasswordEditMode] using hmood }
    · exact ⟨none, .quiet rfl rfl rfl rfl⟩
  · exact ⟨none, .quiet rfl rfl rfl rfl⟩

end AccountApp

/-! ## What happens on a screen -/

/-- The events of a screen. -/
def AccountEvent.OfScreen : AccountEvent → Prop
  | .openPage _ _ | .edit _ _ | .phoneChanged _ _ | .genderTapped _ | .submitTapped | .passwordTapped => True
  | .restart | .startAnswer _ | .answer _ | .activated _ | .logOut => False

/-- The buttons that may send a request. -/
def AccountEvent.IsTap : AccountEvent → Prop
  | .submitTapped | .passwordTapped => True
  | _ => False

namespace AccountApp

variable {settings : SettingsState} {s s' : AccountApp} {e : AccountEvent}

/-- Nothing is sent over a request that is waited for. -/
theorem step_screen (hscreen : e.OfScreen) (h : s.step settings e = some s') :
    ∃ sent, s.Sends s' sent ∧ (sent ≠ none → e.IsTap ∧ s.waiting = none) ∧
      (s.waiting ≠ none → s'.fields.saved = s.fields.saved) := by
  cases e with
  | openPage page fresh =>
      obtain ⟨⟨hwaiting, -⟩, h⟩ := Option.ite_none_right_eq_some.1 h
      obtain rfl := Option.some.inj h
      have hquiet : s.Sends (s.openPage page fresh) none := by
        unfold openPage
        split
        · exact .quiet rfl rfl rfl rfl
        · exact .quiet rfl rfl rfl rfl
      exact ⟨none, hquiet, fun hsent => absurd rfl hsent, fun hnot => absurd hwaiting hnot⟩
  | edit field text =>
      obtain rfl := Option.some.inj h
      exact ⟨none, .quiet rfl rfl rfl rfl, fun hsent => absurd rfl hsent, fun _ => rfl⟩
  | phoneChanged number isoCode =>
      obtain rfl := Option.some.inj h
      exact ⟨none, .quiet rfl rfl rfl rfl, fun hsent => absurd rfl hsent, fun _ => rfl⟩
  | genderTapped index =>
      obtain rfl := Option.some.inj h
      exact ⟨none, .quiet rfl rfl rfl rfl, fun hsent => absurd rfl hsent, fun _ => rfl⟩
  | submitTapped =>
      obtain ⟨hwaiting, h⟩ := Option.ite_none_right_eq_some.1 h
      obtain ⟨page, hpage, rfl⟩ := Option.map_eq_some_iff.1 h
      cases page with
      | signUp =>
          obtain ⟨sent, hsends⟩ := signUpTapped_sends settings hpage
          exact ⟨sent, hsends, fun _ => ⟨trivial, hwaiting⟩, fun hnot => absurd hwaiting hnot⟩
      | login =>
          obtain ⟨sent, hsends⟩ := loginTapped_sends hpage
          exact ⟨sent, hsends, fun _ => ⟨trivial, hwaiting⟩, fun hnot => absurd hwaiting hnot⟩
      | profile =>
          obtain ⟨sent, hsends⟩ := editTapped_sends hpage
          exact ⟨sent, hsends, fun _ => ⟨trivial, hwaiting⟩, fun hnot => absurd hwaiting hnot⟩
  | passwordTapped =>
      obtain ⟨⟨hwaiting, hpage⟩, h⟩ := Option.ite_none_right_eq_some.1 h
      obtain rfl := Option.some.inj h
      obtain ⟨sent, hsends⟩ := passwordTapped_sends hpage
      exact ⟨sent, hsends, fun _ => ⟨trivial, hwaiting⟩, fun hnot => absurd hwaiting hnot⟩
  | restart | startAnswer | answer | activated | logOut => exact hscreen.elim

/-- A request that is waited for finds its password on the screen. -/
theorem held_of_screen {sent : Option AccountRequest} (hsends : s.Sends s' sent)
    (hsaved : s.waiting ≠ none → s'.fields.saved = s.fields.saved)
    (hheld : ∀ request ∈ s.waiting, request.IsHeld s.fields) :
    ∀ request ∈ s'.waiting, request.IsHeld s'.fields := by
  intro request hrequest
  rw [hsends.waiting] at hrequest
  cases sent with
  | some sent => exact (hsends.entered request hrequest).2
  | none =>
      have hbefore := hheld request hrequest
      have hsame := hsaved (Option.ne_none_iff_exists'.2 ⟨request, hrequest⟩)
      cases request with
      | registration body => exact (congrFun hsame _).trans hbefore
      | login body => exact (congrFun hsame _).trans hbefore
      | userUpdate body => trivial
      | userResetPassword body => exact (congrFun hsame _).trans hbefore

/-! ## What an answer does to the user -/

section
open UserController UserDbHelper Method

theorem exec_signedIn (userData : UserAccount) (password : Option String) (u : UserState) :
    ((signedIn userData password).exec u).2 =
      let table := insertUserData { userData with password } u.table
      { currentUser := some (getUserData table)
        loggedIn := (getUserData table).id.isSome || (userData.id.isSome || u.loggedIn)
        table } := by
  simp [signedIn, exec_bind, exec_setUserData, exec_getUserData]

/-- Without a current user a profile that comes back is dropped. -/
theorem exec_profileUpdated_none {userFromJson : UserAccount} {u : UserState} (hnone : u.currentUser = none) :
    ((profileUpdated userFromJson).exec u).2 = u := by
  simp [profileUpdated, exec_bind, hnone, notNull]

theorem exec_profileUpdated {userFromJson currentUser : UserAccount} {u : UserState}
    (hcurrent : u.currentUser = some currentUser) :
    ((profileUpdated userFromJson).exec u).2 =
      let user := { userFromJson with password := currentUser.password }
      { currentUser := some user
        loggedIn := userFromJson.id.isSome || u.loggedIn
        table := updateUserData user u.table } := by
  simp [profileUpdated, exec_bind, hcurrent, notNull, exec_updateUserData]

/-- Nothing happens without a current user. -/
theorem exec_passwordReset_none {newPassword : Option String} {u : UserState} (hnone : u.currentUser = none) :
    ((passwordReset newPassword).exec u).2 = u := by
  cases newPassword with
  | none => simp [passwordReset, exec_bind, notNull]
  | some newPassword => simp [passwordReset, exec_bind, notNull, exec_updatePassword_none _ hnone]

theorem exec_passwordReset {newPassword : String} {currentUser : UserAccount} {u : UserState}
    (hcurrent : u.currentUser = some currentUser) :
    ((passwordReset (some newPassword)).exec u).2 =
      let table := UserDbHelper.updatePassword currentUser.id newPassword u.table
      { currentUser := some (getUserData table)
        loggedIn := (getUserData table).id.isSome || u.loggedIn
        table } := by
  simp [passwordReset, exec_bind, notNull, exec_updatePassword _ hcurrent, exec_getUserData]

theorem exec_startAnswered {answer : Except DartError Json} {currentUser userData : UserAccount}
    (hanswer : (returned (UserApiCalls.userLogin true answer)).join = some userData) (u : UserState) :
    ((startAnswered answer currentUser).exec u).2 =
      let user := { userData with password := currentUser.password }
      { currentUser := some user
        loggedIn := userData.id.isSome || u.loggedIn
        table := insertUserData user u.table } := by
  simp [startAnswered, hanswer, exec_setUserData]

theorem exec_startAnswered_none {answer : Except DartError Json} {currentUser : UserAccount}
    (hanswer : (returned (UserApiCalls.userLogin true answer)).join = none) (u : UserState) :
    ((startAnswered answer currentUser).exec u).2 = u := by
  simp [startAnswered, hanswer]

end

/-- What is left after a start is the table, and what is read back from it. -/
theorem fresh_user (s : AccountApp) :
    s.fresh.user =
      { currentUser := some (UserDbHelper.getUserData s.user.table)
        loggedIn := (UserDbHelper.getUserData s.user.table).id.isSome
        table := s.user.table } := by
  simp [fresh, UserController.exec_getUserData]

/-- A start with a stored user logs in with the first row of the table. -/
theorem restart_cons {row : UserRow} {rest : List UserRow} (htable : s.user.table = row :: rest) :
    s.restart = { s.fresh with
      startup := some row.toUser
      posted := s.posted ++
        [.login { phone := some row.phone, password := row.password, token := s.token }] } := by
  unfold restart
  simp only [fresh_user, htable]
  rfl

theorem restart_nil (htable : s.user.table = []) : s.restart = s.fresh := by
  unfold restart
  simp only [fresh_user, htable]
  rfl

end AccountApp
end Nourgomla
