import Nourgomla.Controllers.UserController

set_option autoImplicit false

/-! # Logged in means a user with an id

`loggedIn` and `currentUser` are set apart in four methods. After a `logOut` the user is null, and
another `logOut`, which the drawer's log-in button makes, dereferences it; and `getUserData` never
turns `loggedIn` off, though it may read the empty user. These two are the only ways in which a call
throws or the two fields part (`coherent_iff_guarded`). -/

namespace Nourgomla

open Method UserController

/-- `loggedIn` says whether there is a user with an id. -/
def UserState.LoggedInIsUser (s : UserState) : Prop :=
  s.loggedIn = s.currentUser.any fun user => user.id.isSome

instance (s : UserState) : Decidable s.LoggedInIsUser := inferInstanceAs (Decidable (_ = _))

/-- The last call returned, and the two fields agree. -/
def CoherentSession (s : UserState × Except DartError Unit) : Prop :=
  s.2 = .ok () ∧ s.1.LoggedInIsUser

instance (s : UserState × Except DartError Unit) : Decidable (CoherentSession s) :=
  inferInstanceAs (Decidable (_ ∧ _))

/-- The four calls, with users that have an id. -/
@[reducible] def SessionCall : UserEvent → Prop
  | .setUserData user | .updateUserData user => user.id.isSome = true
  | .getUserData | .logOut => True
  | .updatePassword _ | .activateUserAccount _ _ => False

/-- Nobody logs out twice, and nobody logged in is read back from an empty table. -/
@[reducible] def GuardedCall (s : UserState × Except DartError Unit) : UserEvent → Prop
  | .logOut => s.1.currentUser ≠ none
  | .getUserData => s.1.loggedIn = true → s.1.table ≠ []
  | _ => True

/-- The session, with the outcome of the last call. -/
def trackedSession : Machine (UserState × Except DartError Unit) UserEvent :=
  userSession.track fun s e _ => e.outcome s

/-- After an assignment the fields agree if the user has an id or nobody was logged in. -/
theorem loggedInIsUser_assigned {user : UserAccount} {loggedIn : Bool} {table : List UserRow} :
    UserState.LoggedInIsUser
      { currentUser := some user, loggedIn := user.id.isSome || loggedIn, table := table } ↔
    (loggedIn = true → user.id.isSome = true) := by
  unfold UserState.LoggedInIsUser
  cases loggedIn <;> cases hid : user.id <;> simp [hid]

/-- The user that is read from a table has an id unless the table is empty. -/
theorem id_getUserData (table : List UserRow) :
    (UserDbHelper.getUserData table).id.isSome = true ↔ table ≠ [] := by
  cases table with
  | nil => simp [UserDbHelper.getUserData]
  | cons row rows => simp [UserDbHelper.getUserData, UserRow.toUser]

/-- A call leaves a coherent session coherent exactly if it is guarded. -/
theorem session_step {s s' : UserState × Except DartError Unit} {e : UserEvent}
    (hs : CoherentSession s) (hcall : SessionCall e) (hstep : trackedSession.step s e = some s') :
    CoherentSession s' ↔ GuardedCall s e := by
  obtain ⟨s, last⟩ := s
  obtain ⟨s', last'⟩ := s'
  obtain ⟨hnext, hlast⟩ := Machine.track_step.1 hstep
  obtain rfl := Option.some.inj hnext
  obtain rfl : last' = e.outcome s := hlast
  cases e with
  | setUserData user =>
      have hcoherent : CoherentSession
          (((setUserData user).exec s).2, ((setUserData user).exec s).1) := by
        rw [exec_setUserData]
        exact ⟨rfl, loggedInIsUser_assigned.2 fun _ => hcall⟩
      exact iff_of_true hcoherent trivial
  | updateUserData user =>
      have hcoherent : CoherentSession
          (((updateUserData user).exec s).2, ((updateUserData user).exec s).1) := by
        rw [exec_updateUserData]
        exact ⟨rfl, loggedInIsUser_assigned.2 fun _ => hcall⟩
      exact iff_of_true hcoherent trivial
  | getUserData =>
      have hread : UserEvent.getUserData.method.exec s = (.ok (), {
          s with
          currentUser := some (UserDbHelper.getUserData s.table)
          loggedIn := (UserDbHelper.getUserData s.table).id.isSome || s.loggedIn }) := by
        rw [UserEvent.method, exec_bind_ok (exec_getUserData s)]
        rfl
      rw [UserEvent.outcome, hread, GuardedCall, ← id_getUserData]
      exact (and_iff_right rfl).trans loggedInIsUser_assigned
  | logOut =>
      show CoherentSession ((logOut.exec s).2, (logOut.exec s).1) ↔ s.currentUser ≠ none
      cases huser : s.currentUser with
      | none =>
          rw [exec_logOut_none huser]
          simp [CoherentSession]
      | some user =>
          rw [exec_logOut huser]
          simp [CoherentSession, UserState.LoggedInIsUser]
  | _ => exact hcall.elim

/-- A second `logOut` leaves the state of the first: it throws before it writes anything. -/
theorem logOut_twice (s : UserState) :
    (logOut.exec (logOut.exec s).2).2 = (logOut.exec s).2 := by
  cases huser : s.currentUser with
  | none => rw [exec_logOut_none huser, exec_logOut_none huser]
  | some user => rw [exec_logOut huser, exec_logOut_none rfl]

/-! ## Every run -/

/-- From a fresh start over any table, every call returns and the two fields agree throughout a run
    exactly if `logOut` is called only while there is a user, and `getUserData` with somebody logged
    in only while the table has a row. A second `logOut` always leaves the state of the first. -/
theorem coherent_iff_guarded {table : List UserRow} {events : List UserEvent}
    (hcalls : trackedSession.Meets (fun _ e => SessionCall e) ({ table := table }, .ok ()) events) :
    (trackedSession.Throughout CoherentSession ({ table := table }, .ok ()) events ↔
      trackedSession.Meets GuardedCall ({ table := table }, .ok ()) events) ∧
    ∀ s, (logOut.exec (logOut.exec s).2).2 = (logOut.exec s).2 := by
  refine ⟨?_, logOut_twice⟩
  have hstart : CoherentSession ({ table := table }, .ok ()) := by
    simp [CoherentSession, UserState.LoggedInIsUser]
  exact Machine.throughout_iff_of_good_step (fun _ _ _ hs hcall hstep => session_step hs hcall hstep)
    events hstart hcalls

/-! ## The drawer's button twice, and a lost row -/

/-- The second `logOut` throws; and after an update of a row that is not there, `getUserData` leaves an
    empty user logged in. -/
theorem not_coherent_of_sample :
    (∃ s, trackedSession.run ({}, .ok ()) [.logOut, .logOut] = some s ∧
      s.2 = .error .noSuchMethod ∧ ¬ CoherentSession s) ∧
    ∃ s, trackedSession.run ({}, .ok ())
        [.updateUserData (sampleAccount 1 "010" "a"), .getUserData] = some s ∧
      s.1.loggedIn = true ∧ (s.1.currentUser.map fun user => user.id) = some none ∧
      ¬ CoherentSession s := by
  refine ⟨Machine.reaches ?_, Machine.reaches ?_⟩
  · decide +kernel
  · decide +kernel

/-- A login, a restart's reading and login, and a log-out. -/
def sampleSessionCalls : List UserEvent :=
  [.getUserData, .setUserData (sampleAccount 1 "010" "a"), .getUserData,
    .setUserData (sampleAccount 1 "010" "a"), .logOut, .getUserData]

instance (e : UserEvent) : Decidable (SessionCall e) := by
  apply @UserEvent.casesOn (fun e => Decidable (SessionCall e)) e <;> intros <;> infer_instance

instance (s : UserState × Except DartError Unit) (e : UserEvent) : Decidable (GuardedCall s e) := by
  apply @UserEvent.casesOn (fun e => Decidable (GuardedCall s e)) e <;> intros <;> infer_instance

theorem coherent_of_sampleSessionCalls :
    trackedSession.Throughout CoherentSession ({}, .ok ()) sampleSessionCalls :=
  (@coherent_iff_guarded [] sampleSessionCalls (by decide +kernel)).1.2 (by decide +kernel)

end Nourgomla
