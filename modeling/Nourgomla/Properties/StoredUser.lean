import Nourgomla.Controllers.UserController

set_option autoImplicit false

/-! # The stored user is the current user

The profile the server accepted last, with the latest password, should be the one in memory and the
one `getUserData` reads back; after `logOut` it should read the empty user. What is read is the first
row, and `setUserData` always adds one at the end; `updatePassword` never gets to memory and
`activateUserAccount` never to the table. So the property survives only what changes nothing: the
guard `KeepsStored` is exact (`stored_iff_keepsStored`). -/

namespace Nourgomla

open Method UserController

/-- The profile the server accepted last, with the latest password; none before the first one and
    after a `logOut`. -/
def acceptedProfile (s : UserState) (e : UserEvent) (accepted : Option UserAccount) :
    Option UserAccount :=
  match e with
  | .setUserData user => some user
  | .updateUserData user => some user
  | .updatePassword password => accepted.map fun user => { user with password := some password }
  | .activateUserAccount phone isAccepted =>
    -- the profile that is posted is accepted or not
    match ((PhoneAuthServices.activateUserAccount phone).exec s).1, isAccepted with
    | .ok posted, true => some posted
    | _, _ => accepted
  | .getUserData => accepted
  | .logOut => none

/-- The session, with the profile accepted last. -/
def profileSession : Machine (UserState × Option UserAccount) UserEvent :=
  userSession.track acceptedProfile

/-- What `getUserData` returns: the accepted profile, which is the current user, or the empty one. -/
def StoredIsCurrent (s : UserState × Option UserAccount) : Prop :=
  match s.2 with
  | some profile =>
    (UserController.getUserData.exec s.1).1 = .ok profile ∧ s.1.currentUser = some profile
  | none => (UserController.getUserData.exec s.1).1 = .ok {}

/-- The calls, with profiles that have all `NOT NULL` columns. -/
@[reducible] def ProfileCall : UserEvent → Prop
  | .setUserData user | .updateUserData user => user.toRow.isSome = true
  | .updatePassword _ | .activateUserAccount _ _ | .logOut => True
  | .getUserData => False

instance (s : UserState × Option UserAccount) : Decidable (StoredIsCurrent s) := by
  unfold StoredIsCurrent
  cases s.2 <;> infer_instance

/-- A profile is set if the table is empty or its first row is that profile, and updated if the first
    row has its id; a password is set that the profile has; an account is activated if there is no
    user, or the profile is already verified with the phone, or there is no profile and the server
    rejects it. -/
@[reducible] def KeepsStored (s : UserState × Option UserAccount) : UserEvent → Prop
  | .setUserData user => ∀ row ∈ s.1.table.head?, row.toUser = user
  | .updateUserData user => (s.1.table.head?.map fun row => row.id) = user.id
  | .updatePassword password => ∀ profile ∈ s.2, profile.password = some password
  | .activateUserAccount phone isAccepted => s.1.currentUser = none ∨
    (∀ profile ∈ s.2, profile.phoneVerified = some 1 ∧ profile.phone = some phone) ∧
      (s.2 = none → isAccepted = false)
  | .getUserData | .logOut => True

instance decidableProfileCall (e : UserEvent) : Decidable (ProfileCall e) := by
  apply @UserEvent.casesOn (fun e => Decidable (ProfileCall e)) e <;> intros <;> infer_instance

instance decidableKeepsStored (s : UserState × Option UserAccount) (e : UserEvent) :
    Decidable (KeepsStored s e) := by
  apply @UserEvent.casesOn (fun e => Decidable (KeepsStored s e)) e <;> intros <;> infer_instance

/-! ## The invariant -/

/-- What the table and the memory hold for the accepted profile, and that no row is another user's. -/
structure StoredProfile (s : UserState) (accepted : Option UserAccount) : Prop where
  stored : UserDbHelper.getUserData s.table = accepted.getD {}
  current : ∀ profile ∈ accepted, s.currentUser = some profile ∧ profile.id.isSome = true
  sameUser : ∀ row ∈ s.table, ∀ first ∈ s.table.head?, row.id = first.id

theorem storedIsCurrent_iff {s : UserState} {accepted : Option UserAccount} :
    StoredIsCurrent (s, accepted) ↔ UserDbHelper.getUserData s.table = accepted.getD {} ∧
      ∀ profile ∈ accepted, s.currentUser = some profile := by
  unfold StoredIsCurrent
  cases accepted with
  | none => simp [exec_getUserData]
  | some profile => simp [exec_getUserData]

theorem StoredProfile.storedIsCurrent {s : UserState} {accepted : Option UserAccount}
    (h : StoredProfile s accepted) : StoredIsCurrent (s, accepted) :=
  storedIsCurrent_iff.2 ⟨h.stored, fun profile hp => (h.current profile hp).1⟩

/-- Without an accepted profile the table is empty. -/
theorem StoredProfile.table_nil {s : UserState} (h : StoredProfile s none) : s.table = [] := by
  cases htable : s.table with
  | nil => rfl
  | cons row rows =>
      have hread := h.stored
      rw [htable] at hread
      have hid := congrArg (fun user : UserAccount => user.id) hread
      simp [UserDbHelper.getUserData, UserRow.toUser] at hid

/-- The first row holds the accepted profile, and every row is of its user. -/
theorem StoredProfile.first {s : UserState} {profile : UserAccount}
    (h : StoredProfile s (some profile)) : ∃ first rest, s.table = first :: rest ∧
      first.toUser = profile ∧ ∀ row ∈ s.table, some row.id = profile.id := by
  have hread := h.stored
  cases htable : s.table with
  | nil =>
      obtain ⟨-, hid⟩ := h.current profile rfl
      rw [htable] at hread
      obtain rfl : {} = profile := hread
      simp at hid
  | cons first rest =>
      rw [htable] at hread
      obtain rfl : first.toUser = profile := hread
      refine ⟨first, rest, rfl, rfl, fun row hrow => ?_⟩
      rw [h.sameUser row (htable ▸ hrow) first (by simp [htable])]
      rfl

/-! ## One call -/

/-- A profile as it is stored. -/
theorem id_of_toRow {user : UserAccount} {row : UserRow} (h : user.toRow = some row) :
    user.id = some row.id := by
  rw [← UserAccount.toUser_of_toRow h]
  rfl

theorem stored_setUserData {s : UserState} {accepted : Option UserAccount} {user : UserAccount}
    (h : StoredProfile s accepted) (huser : user.toRow.isSome = true)
    (hkeeps : ∀ row ∈ s.table.head?, row.toUser = user) :
    StoredProfile ((setUserData user).exec s).2 (some user) := by
  obtain ⟨row, hrow⟩ := Option.isSome_iff_exists.1 huser
  have hid := id_of_toRow hrow
  rw [exec_setUserData]
  constructor
  · show UserDbHelper.getUserData (s.table ++ user.toRow.toList) = user
    rw [hrow]
    cases htable : s.table with
    | nil => exact UserAccount.toUser_of_toRow hrow
    | cons first rest => exact hkeeps first (by simp [htable])
  · intro profile hprofile
    obtain rfl := Option.some.inj hprofile
    exact ⟨rfl, by simp [hid]⟩
  · show ∀ r ∈ s.table ++ user.toRow.toList, ∀ first ∈ (s.table ++ user.toRow.toList).head?, _
    rw [hrow]
    intro r hr first hfirst
    cases htable : s.table with
    | nil =>
        rw [htable] at hr hfirst
        obtain rfl : row = first := by simpa using hfirst
        obtain rfl : r = row := by simpa using hr
        rfl
    | cons first' rest =>
        obtain rfl : first' = first := by simpa [htable] using hfirst
        have hfirst' : first' ∈ s.table.head? := by simp [htable]
        rcases List.mem_append.1 hr with hr | hr
        · exact h.sameUser r hr first' hfirst'
        · -- the row that is added is of the user of the first one
          obtain rfl : r = row := by simpa using hr
          have hsame := congrArg (fun user : UserAccount => user.id) (hkeeps first' hfirst')
          exact Option.some.inj (hid.symm.trans hsame.symm)

theorem stored_updateUserData {s : UserState} {accepted : Option UserAccount} {user : UserAccount}
    (h : StoredProfile s accepted) (huser : user.toRow.isSome = true)
    (hkeeps : (s.table.head?.map fun row => row.id) = user.id) :
    StoredProfile ((updateUserData user).exec s).2 (some user) := by
  obtain ⟨row, hrow⟩ := Option.isSome_iff_exists.1 huser
  have hid := id_of_toRow hrow
  -- every row has the id, and is replaced
  have hall : UserDbHelper.updateUserData user s.table = s.table.map fun _ => row := by
    rw [UserDbHelper.updateUserData, hrow]
    refine List.map_congr_left fun old hold => if_pos ?_
    obtain ⟨first, hfirst, hfirstId⟩ := Option.map_eq_some_iff.1 (hkeeps.trans hid)
    rw [h.sameUser old hold first hfirst, hfirstId, hid]
  rw [exec_updateUserData, hall]
  constructor
  · cases htable : s.table with
    | nil => simp [htable, hid] at hkeeps
    | cons first rest => exact UserAccount.toUser_of_toRow hrow
  · intro profile hprofile
    obtain rfl := Option.some.inj hprofile
    exact ⟨rfl, by simp [hid]⟩
  · intro r hr first hfirst
    obtain ⟨-, -, rfl⟩ := List.mem_map.1 hr
    obtain ⟨-, -, rfl⟩ := List.mem_map.1 (List.mem_of_mem_head? hfirst)
    rfl

theorem stored_updatePassword {s : UserState} {accepted : Option UserAccount} {password : String}
    (h : StoredProfile s accepted)
    (hkeeps : ∀ profile ∈ accepted, profile.password = some password) :
    StoredProfile ((updatePassword password).exec s).2
      (accepted.map fun user => { user with password := some password }) := by
  -- the profile has the password already
  have haccepted : (accepted.map fun user => { user with password := some password }) = accepted := by
    cases accepted with
    | none => rfl
    | some profile =>
        have hpassword := hkeeps profile rfl
        simp [← hpassword]
  rw [haccepted]
  cases huser : s.currentUser with
  | none =>
      rw [exec_updatePassword_none password huser]
      exact h
  | some user =>
      rw [exec_updatePassword password huser]
      cases accepted with
      | none =>
          have htable := h.table_nil
          constructor
          · simp [htable, UserDbHelper.updatePassword, UserDbHelper.getUserData]
          · simp
          · simp [htable, UserDbHelper.updatePassword]
      | some profile =>
          obtain ⟨first, rest, htable, hfirst, -⟩ := h.first
          have hsame : ∀ row : UserRow, (if some row.id = user.id then
              { row with password := some password } else row).id = row.id := by
            intro row
            split <;> rfl
          constructor
          · -- the first row has the password
            have hpassword : first.password = some password := by
              rw [← hkeeps profile rfl, ← hfirst]
              rfl
            show UserDbHelper.getUserData (UserDbHelper.updatePassword user.id password s.table)
              = profile
            rw [htable, ← hfirst]
            simp [UserDbHelper.updatePassword, UserDbHelper.getUserData, ← hpassword]
          · intro q hq
            obtain rfl := Option.some.inj hq
            exact ⟨(h.current profile rfl).1, (h.current profile rfl).2⟩
          · intro r hr head hhead
            obtain ⟨row, hrow, rfl⟩ := List.mem_map.1 hr
            obtain ⟨old, hold, rfl⟩ : ∃ old ∈ s.table.head?, _ = head := by
              simpa [UserDbHelper.updatePassword] using hhead
            show UserRow.id (ite _ _ _) = UserRow.id (ite _ _ _)
            rw [hsame, hsame]
            exact h.sameUser row hrow old hold

/-- After a `logOut` no row is left: all of them were of the user, or there was none. -/
theorem stored_logOut {s : UserState} {accepted : Option UserAccount}
    (h : StoredProfile s accepted) : StoredProfile (logOut.exec s).2 none := by
  have htable : (logOut.exec s).2.table = [] := by
    cases huser : s.currentUser with
    | none =>
        cases accepted with
        | none =>
            rw [exec_logOut_none huser]
            exact h.table_nil
        | some profile => simp [(h.current profile rfl).1] at huser
    | some user =>
        rw [exec_logOut huser]
        show UserDbHelper.deleteUserData user.id s.table = []
        cases accepted with
        | none => simp [h.table_nil, UserDbHelper.deleteUserData]
        | some profile =>
            obtain ⟨first, rest, -, -, hids⟩ := h.first
            obtain rfl : profile = user := by
              simpa [(h.current profile rfl).1] using huser
            simpa [UserDbHelper.deleteUserData] using hids
  constructor
  · rw [htable]
    rfl
  · simp
  · simp [htable]

/-- What an activation with a user leaves, whether or not it is accepted. -/
theorem acceptedProfile_activate {s : UserState} {user : UserAccount} {phone : String}
    {isAccepted : Bool} {accepted : Option UserAccount} (huser : s.currentUser = some user) :
    acceptedProfile s (.activateUserAccount phone isAccepted) accepted
      = if isAccepted then some { user with phoneVerified := some 1, phone := some phone }
        else accepted := by
  cases isAccepted <;> simp [acceptedProfile, exec_activateUserAccount phone huser]

theorem stored_activate {s : UserState} {accepted : Option UserAccount} {phone : String}
    {isAccepted : Bool} (h : StoredProfile s accepted)
    (hkeeps : KeepsStored (s, accepted) (.activateUserAccount phone isAccepted)) :
    StoredProfile ((PhoneAuthServices.activateUserAccount phone).exec s).2
      (acceptedProfile s (.activateUserAccount phone isAccepted) accepted) := by
  cases huser : s.currentUser with
  | none =>
      have hthrows := exec_activateUserAccount_none phone huser
      have hsame : acceptedProfile s (.activateUserAccount phone isAccepted) accepted = accepted := by
        simp [acceptedProfile, hthrows]
      rw [hthrows, hsame]
      exact h
  | some user =>
      obtain ⟨hverified, hrejected⟩ := hkeeps.resolve_left (by simp [huser])
      rw [acceptedProfile_activate huser, exec_activateUserAccount phone huser]
      cases accepted with
      | none =>
          rw [hrejected rfl]
          exact ⟨h.stored, by simp, h.sameUser⟩
      | some profile =>
          obtain rfl : profile = user := by
            simpa [(h.current profile rfl).1] using huser
          obtain ⟨hverified, hphone⟩ := hverified profile rfl
          have hposted : { profile with phoneVerified := some 1, phone := some phone } = profile := by
            rw [← hverified, ← hphone]
          rw [hposted, ite_self]
          refine ⟨h.stored, fun q hq => ?_, h.sameUser⟩
          obtain rfl := Option.some.inj hq
          exact ⟨rfl, (h.current profile rfl).2⟩

/-- The state an activation leaves, as the step of the session has it. -/
theorem exec_activate_method {s : UserState} {phone : String} {isAccepted : Bool} :
    ((UserEvent.activateUserAccount phone isAccepted).method.exec s).2
      = ((PhoneAuthServices.activateUserAccount phone).exec s).2 := by
  rw [UserEvent.method, exec_bind]
  cases hexec : (PhoneAuthServices.activateUserAccount phone).exec s with
  | mk result t => cases result <;> rfl

/-- A call that keeps the table keeps the invariant. -/
theorem profile_step {s s' : UserState × Option UserAccount} {e : UserEvent}
    (h : StoredProfile s.1 s.2) (hcall : ProfileCall e) (hkeeps : KeepsStored s e)
    (hstep : profileSession.step s e = some s') : StoredProfile s'.1 s'.2 := by
  obtain ⟨s, accepted⟩ := s
  obtain ⟨s', accepted'⟩ := s'
  obtain ⟨hnext, haccepted⟩ := Machine.track_step.1 hstep
  obtain rfl := Option.some.inj hnext
  obtain rfl : accepted' = acceptedProfile s e accepted := haccepted
  cases e with
  | setUserData user => exact stored_setUserData h hcall hkeeps
  | updateUserData user => exact stored_updateUserData h hcall hkeeps
  | updatePassword password => exact stored_updatePassword h hkeeps
  | activateUserAccount phone isAccepted =>
      show StoredProfile (UserEvent.method _ |>.exec s).2 _
      rw [exec_activate_method]
      exact stored_activate h hkeeps
  | getUserData => exact hcall.elim
  | logOut => exact stored_logOut h

/-! ## The guard is exact -/

theorem keepsStored_setUserData {s : UserState} {accepted : Option UserAccount}
    {user : UserAccount} (hread : UserDbHelper.getUserData
      (UserDbHelper.insertUserData user s.table) = user) :
    KeepsStored (s, accepted) (.setUserData user) := by
  intro row hrow
  cases htable : s.table with
  | nil => simp [htable] at hrow
  | cons first rest =>
      obtain rfl : first = row := by simpa [htable] using hrow
      rw [htable] at hread
      exact hread

theorem keepsStored_updateUserData {s : UserState} {accepted : Option UserAccount}
    {user : UserAccount} (huser : user.toRow.isSome = true) (hread : UserDbHelper.getUserData
      (UserDbHelper.updateUserData user s.table) = user) :
    KeepsStored (s, accepted) (.updateUserData user) := by
  obtain ⟨row, hrow⟩ := Option.isSome_iff_exists.1 huser
  have hid := id_of_toRow hrow
  show (s.table.head?.map fun row => row.id) = user.id
  cases htable : s.table with
  | nil =>
      have hempty : {} = user := by simpa [htable, UserDbHelper.updateUserData, hrow,
        UserDbHelper.getUserData] using hread
      simp [← hempty] at hid
  | cons first rest =>
      by_cases hfirst : some first.id = user.id
      · exact hfirst
      · -- the first row is another user's, and stays
        have hstays : first.toUser = user := by
          simpa [htable, UserDbHelper.updateUserData, hrow, UserDbHelper.getUserData, hfirst]
            using hread
        exact absurd (congrArg (fun user : UserAccount => user.id) hstays) hfirst

theorem keepsStored_activate {s s' : UserState} {accepted : Option UserAccount} {phone : String}
    {isAccepted : Bool} (h : StoredProfile s accepted)
    (hs' : ((PhoneAuthServices.activateUserAccount phone).exec s).2 = s')
    (hgood : StoredIsCurrent
      (s', acceptedProfile s (.activateUserAccount phone isAccepted) accepted)) :
    KeepsStored (s, accepted) (.activateUserAccount phone isAccepted) := by
  cases huser : s.currentUser with
  | none => exact .inl huser
  | some user =>
      rw [exec_activateUserAccount phone huser] at hs'
      rw [acceptedProfile_activate huser, storedIsCurrent_iff, ← hs'] at hgood
      obtain ⟨hstored, hcurrent⟩ := hgood
      refine .inr ⟨fun profile hprofile => ?_, fun hnone => ?_⟩
      · obtain rfl : accepted = some profile := hprofile
        obtain rfl : profile = user := by
          simpa [(h.current profile rfl).1] using huser
        have hposted : { profile with phoneVerified := some 1, phone := some phone } = profile := by
          cases isAccepted with
          | true => exact (h.stored.symm.trans hstored).symm
          | false => exact Option.some.inj (hcurrent profile rfl)
        rw [← hposted]
        exact ⟨rfl, rfl⟩
      · -- without a profile the table is empty, and an accepted one has a phone
        obtain rfl : accepted = none := hnone
        cases isAccepted with
        | false => rfl
        | true =>
            have hposted : ({} : UserAccount) = { user with phoneVerified := some 1, phone := some phone } :=
              h.stored.symm.trans hstored
            have hphone := congrArg (fun user : UserAccount => user.phone) hposted
            simp at hphone

theorem keepsStored_step {s s' : UserState × Option UserAccount} {e : UserEvent}
    (h : StoredProfile s.1 s.2) (hcall : ProfileCall e) (hstep : profileSession.step s e = some s')
    (hgood : StoredIsCurrent s') : KeepsStored s e := by
  obtain ⟨s, accepted⟩ := s
  obtain ⟨s', accepted'⟩ := s'
  obtain ⟨hnext, haccepted⟩ := Machine.track_step.1 hstep
  have hs' : (e.method.exec s).2 = s' := Option.some.inj hnext
  obtain rfl : accepted' = acceptedProfile s e accepted := haccepted
  cases e with
  | setUserData user =>
      obtain ⟨hstored, -⟩ := storedIsCurrent_iff.1 hgood
      rw [← hs', UserEvent.method, exec_setUserData] at hstored
      exact keepsStored_setUserData hstored
  | updateUserData user =>
      obtain ⟨hstored, -⟩ := storedIsCurrent_iff.1 hgood
      rw [← hs', UserEvent.method, exec_updateUserData] at hstored
      exact keepsStored_updateUserData hcall hstored
  | updatePassword password =>
      intro profile hprofile
      obtain rfl : accepted = some profile := hprofile
      have huser := (h.current profile rfl).1
      obtain ⟨-, hcurrent⟩ := storedIsCurrent_iff.1 hgood
      have hcurrent' := hcurrent _ rfl
      rw [← hs', UserEvent.method, exec_updatePassword password huser] at hcurrent'
      -- memory still has the old password
      have hsame : profile = { profile with password := some password } :=
        Option.some.inj (huser.symm.trans hcurrent')
      exact congrArg (fun user : UserAccount => user.password) hsame
  | activateUserAccount phone isAccepted =>
      exact keepsStored_activate h (exec_activate_method.symm.trans hs') hgood
  | getUserData => exact trivial
  | logOut => exact trivial

/-! ## Every run -/

/-- Every state of a run reads back the profile accepted last, which is the current user, exactly if
    every call keeps what is stored. -/
theorem stored_iff_keepsStored {events : List UserEvent}
    (hcalls : profileSession.Meets (fun _ e => ProfileCall e) ({}, none) events) :
    profileSession.Throughout StoredIsCurrent ({}, none) events ↔
      profileSession.Meets KeepsStored ({}, none) events := by
  have hstart : StoredProfile ({} : UserState) none := ⟨rfl, by simp, by simp⟩
  exact Machine.throughout_iff_meets (fun s => StoredProfile s.1 s.2)
    (fun _ h => h.storedIsCurrent)
    (fun _ _ _ h hcall hkeeps hstep => profile_step h hcall hkeeps hstep)
    (fun _ _ _ h hcall hstep hgood => keepsStored_step h hcall hstep hgood) events hstart hcalls

/-! ## A new password, and a second start -/

/-- `updatePassword` leaves the old password in memory; and when a start gets a changed profile from
    the server, the old row is still the first. -/
theorem not_storedIsCurrent_of_sample :
    (∃ s, profileSession.run ({}, none)
        [.setUserData (sampleAccount 1 "010" "a"), .updatePassword "b"] = some s ∧
      (s.1.currentUser.map fun user => user.password) = some (some "a") ∧
      (s.1.table.map fun row => row.password) = [some "b"] ∧ ¬ StoredIsCurrent s) ∧
    ∃ s, profileSession.run ({}, none)
        [.setUserData (sampleAccount 1 "010" "a"), .setUserData (sampleAccount 1 "011" "a")]
        = some s ∧
      (s.1.table.map fun row => row.phone) = ["010", "011"] ∧ ¬ StoredIsCurrent s := by
  refine ⟨Machine.reaches ?_, Machine.reaches ?_⟩
  · decide +kernel
  · decide +kernel

/-- Two logins with the same profile, an update, the password it has, a log-out and another user. -/
def sampleProfileCalls : List UserEvent :=
  [.setUserData (sampleAccount 1 "010" "a"), .setUserData (sampleAccount 1 "010" "a"),
    .updateUserData (sampleAccount 1 "011" "a"), .updatePassword "a", .logOut,
    .activateUserAccount "012" true, .setUserData (sampleAccount 2 "012" "b")]

theorem stored_of_sampleProfileCalls :
    profileSession.Throughout StoredIsCurrent ({}, none) sampleProfileCalls :=
  (@stored_iff_keepsStored sampleProfileCalls (by decide +kernel)).2 (by decide +kernel)

end Nourgomla
