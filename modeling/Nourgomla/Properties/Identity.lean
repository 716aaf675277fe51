import Nourgomla.Controllers.SearchController
import Nourgomla.Properties.SessionCoherence
import Nourgomla.Services.HomeServices
import Nourgomla.Services.ProductsService

set_option autoImplicit false

/-! # One identity per session state

The searches name the caller by `currentUser != null`, the products and the home screen by `loggedIn`.
The two tests part on the user that a fresh start, an empty table or a profile without an id leaves:
it is not null, and it has no id. On every other state that the session can reach they agree
(`oneIdentity_iff`). -/

namespace Nourgomla

open Method UserController

/-- Who a request is from: the role, and the id as a text. -/
structure Identity where
  role : Option Int
  id : Option String
deriving DecidableEq

def SearchBody.identity (body : SearchBody) : Identity :=
  { role := body.userRoleId, id := some body.userId }

def ProductsBody.identity (body : ProductsBody) : Identity :=
  { role := body.userRoleId, id := body.userId.asText }

def HomeBody.identity (body : HomeBody) : Identity :=
  { role := body.userRoleId, id := some body.userId }

/-- A guest has role 1 and an empty id. -/
def Identity.guest : Identity := { role := some 1, id := some "" }

/-- Every request of a session state is from the same caller, whatever else goes into it: the first
    pages and the further pages of a search, the products, and the home screen; and while nobody is
    logged in the caller is a guest. -/
structure SameIdentity (s : UserState) (caller : Identity) : Prop where
  firstPage : ∀ {α : Type} (langId : String) (sortBy : String) (barCode : Option String)
    (con : SearchController α),
    (con.firstBody { user := s, langId := langId, sortBy := sortBy } barCode).identity = caller
  furtherPage : ∀ {α : Type} (langId : String) (sortBy : String) (con : SearchController α),
    (con.moreBody { user := s, langId := langId, sortBy := sortBy }).identity = caller
  products : ∀ (langId : String) (call : ProductsCall),
    ∃ body, ProductsService.productsBody s langId call = .ok body ∧ body.identity = caller
  home : ∀ locationCon : LocationController,
    (HomeServices.homeBody s locationCon).identity = caller
  guest : s.loggedIn = false → caller = Identity.guest

def OneIdentity (s : UserState) : Prop := ∃ caller, SameIdentity s caller

/-! ## The session -/

/-- The app is started, or a method of the controller is called. -/
inductive SessionInput
  | appStart
  | call (e : UserEvent)

/-- The user controller over the life of a table; a start makes a new controller. -/
def appSession : Machine UserState SessionInput where
  step s
    | .appStart => some { table := s.table }
    | .call e => userSession.step s e

/-- A user with an id is logged in, and without a user nobody is. -/
structure SessionInv (s : UserState) : Prop where
  known : ∀ user ∈ s.currentUser, user.id.isSome → s.loggedIn = true
  nobody : s.currentUser = none → s.loggedIn = false

/-- The user, if there is one, has an id. -/
def UserHasId (s : UserState) : Prop := ∀ user ∈ s.currentUser, user.id.isSome

instance (s : UserState) : Decidable (UserHasId s) :=
  inferInstanceAs (Decidable (∀ user ∈ s.currentUser, user.id.isSome))

/-- The call does not assign a user without an id. -/
@[reducible] def AssignsId (s : UserState) : SessionInput → Prop
  | .appStart => False
  | .call (.setUserData user) | .call (.updateUserData user) => user.id.isSome
  | .call .getUserData => s.table ≠ []
  | .call _ => True

/-! ## One state -/

/-- Logged in with an id: every request names the user. -/
theorem sameIdentity_user {s : UserState} {user : UserAccount} {id : Int}
    (huser : s.currentUser = some user) (hid : user.id = some id) (hlogged : s.loggedIn = true) :
    SameIdentity s { role := user.role, id := some (toString id) } := by
  have hrole : userRole s = user.role := by simp [userRole, huser]
  have hname : userId s = toString id := by simp [userId, huser, hid, nullableText, Num.text]
  constructor
  · intro α langId sortBy barCode con
    simp [SearchController.firstBody, SearchBody.identity, hrole, hname]
  · intro α langId sortBy con
    simp [SearchController.moreBody, SearchBody.identity, hrole, hname]
  · intro langId call
    obtain ⟨hposted, hnamed⟩ := ProductsService.caller_of_loggedIn hlogged huser
    obtain ⟨body, hbody, hbodyRole, hbodyId⟩ :=
      ProductsService.exists_productsBody langId call hposted hnamed
    refine ⟨body, hbody, ?_⟩
    simp [ProductsBody.identity, IntOrText.asText, hbodyRole, hbodyId, hid]
  · intro locationCon
    simp [HomeServices.homeBody, HomeBody.identity, hlogged, hrole, hname]
  · intro hguest
    rw [hlogged] at hguest
    cases hguest

/-- Without a user every request is from a guest. -/
theorem sameIdentity_guest {s : UserState} (huser : s.currentUser = none)
    (hlogged : s.loggedIn = false) : SameIdentity s Identity.guest := by
  have hrole : userRole s = some 1 := by simp [userRole, huser]
  have hname : userId s = "" := by simp [userId, huser]
  constructor
  · intro α langId sortBy barCode con
    simp [SearchController.firstBody, SearchBody.identity, hrole, hname, Identity.guest]
  · intro α langId sortBy con
    simp [SearchController.moreBody, SearchBody.identity, hrole, hname, Identity.guest]
  · intro langId call
    obtain ⟨hposted, hnamed⟩ := ProductsService.caller_of_guest hlogged
    obtain ⟨body, hbody, hbodyRole, hbodyId⟩ :=
      ProductsService.exists_productsBody langId call hposted hnamed
    refine ⟨body, hbody, ?_⟩
    simp [ProductsBody.identity, IntOrText.asText, hbodyRole, hbodyId, Identity.guest]
  · intro locationCon
    simp [HomeServices.homeBody, HomeBody.identity, hlogged, Identity.guest]
  · intro _
    rfl

/-- A user without an id is searched for as `null`, and nowhere else. -/
theorem not_oneIdentity {s : UserState} {user : UserAccount} (huser : s.currentUser = some user)
    (hid : user.id = none) : ¬ OneIdentity s := by
  rintro ⟨caller, h⟩
  have hsearch := h.furtherPage "1" "" ({} : SearchController Unit)
  have hname : userId s = "null" := by simp [userId, huser, hid, nullableText]
  have hcaller : caller.id = some "null" := by
    rw [← hsearch]
    simp [SearchController.moreBody, SearchBody.identity, hname]
  cases hlogged : s.loggedIn with
  | false =>
      rw [h.guest hlogged] at hcaller
      exact absurd hcaller (by decide)
  | true =>
      obtain ⟨body, hbody, hsame⟩ := h.products "1"
        { startIndex := 0, categoryId := 0, itemsPerPage := 10
          filter := { order := none, company := none, trademark := none, type := none } }
      obtain ⟨-, -, hposted⟩ := ProductsService.of_productsBody hbody
      have hnull := (ProductsService.caller_of_loggedIn hlogged huser).2.symm.trans hposted
      rw [← hsame] at hcaller
      simp [ProductsBody.identity, ← Except.ok.inj hnull, IntOrText.asText, hid] at hcaller

theorem oneIdentity_iff_hasId {s : UserState} (h : SessionInv s) : OneIdentity s ↔ UserHasId s := by
  constructor
  · intro hone user huser
    cases hid : user.id with
    | none => exact absurd hone (not_oneIdentity huser hid)
    | some id => rfl
  · intro hhas
    cases huser : s.currentUser with
    | none => exact ⟨_, sameIdentity_guest huser (h.nobody huser)⟩
    | some user =>
        have hsome := hhas user huser
        obtain ⟨id, hid⟩ := Option.isSome_iff_exists.1 hsome
        exact ⟨_, sameIdentity_user huser hid (h.known user huser hsome)⟩

/-! ## One call -/

/-- An assignment keeps the invariant, and leaves one identity exactly if the user has an id. -/
theorem session_assigned {user : UserAccount} {loggedIn : Bool} {table : List UserRow} :
    SessionInv {
      currentUser := some user, loggedIn := user.id.isSome || loggedIn, table := table } ∧
    (UserHasId {
      currentUser := some user, loggedIn := user.id.isSome || loggedIn, table := table } ↔
      user.id.isSome = true) := by
  refine ⟨⟨?_, fun hnone => by cases hnone⟩, ?_⟩
  · intro assigned hassigned hid
    obtain rfl := Option.some.inj hassigned
    simp [hid]
  · constructor
    · exact fun h => h user rfl
    · intro hid assigned hassigned
      obtain rfl := Option.some.inj hassigned
      exact hid

theorem session_logOut {s : UserState} (h : SessionInv s) :
    SessionInv (logOut.exec s).2 ∧ (UserHasId s → UserHasId (logOut.exec s).2) := by
  cases huser : s.currentUser with
  | none =>
      rw [exec_logOut_none huser]
      exact ⟨h, id⟩
  | some user =>
      rw [exec_logOut huser]
      refine ⟨⟨?_, fun _ => rfl⟩, ?_⟩
      · intro u hu
        cases hu
      · intro _ u hu
        cases hu

/-- A new password only goes to the table. -/
theorem session_updatePassword {s : UserState} (h : SessionInv s) (password : String) :
    SessionInv ((updatePassword password).exec s).2 ∧
      (UserHasId s → UserHasId ((updatePassword password).exec s).2) := by
  cases huser : s.currentUser with
  | none =>
      rw [exec_updatePassword_none password huser]
      exact ⟨h, id⟩
  | some user =>
      rw [exec_updatePassword password huser]
      exact ⟨⟨h.known, h.nobody⟩, id⟩

/-- The profile that is posted has the id of the user. -/
theorem session_activate {s : UserState} (h : SessionInv s) (phone : String) (accepted : Bool) :
    SessionInv ((UserEvent.activateUserAccount phone accepted).method.exec s).2 ∧
      (UserHasId s →
        UserHasId ((UserEvent.activateUserAccount phone accepted).method.exec s).2) := by
  simp only [UserEvent.method]
  cases huser : s.currentUser with
  | none =>
      rw [exec_bind_error (exec_activateUserAccount_none phone huser)]
      exact ⟨h, id⟩
  | some user =>
      rw [exec_bind_ok (exec_activateUserAccount phone huser)]
      refine ⟨⟨?_, fun hnone => by cases hnone⟩, ?_⟩
      · intro posted hposted hid
        obtain rfl := Option.some.inj hposted
        exact h.known user huser hid
      · intro hall posted hposted
        obtain rfl := Option.some.inj hposted
        exact hall user huser

/-- Every call keeps the invariant; from a state with one identity it leads to another one exactly if
    it does not assign a user without an id. -/
theorem session_call {s : UserState} {e : UserEvent} (h : SessionInv s) :
    SessionInv (e.method.exec s).2 ∧
      (UserHasId s → (UserHasId (e.method.exec s).2 ↔ AssignsId s (.call e))) := by
  cases e with
  | setUserData user =>
      simp only [UserEvent.method, exec_setUserData]
      exact ⟨session_assigned.1, fun _ => session_assigned.2⟩
  | updateUserData user =>
      simp only [UserEvent.method, exec_updateUserData]
      exact ⟨session_assigned.1, fun _ => session_assigned.2⟩
  | getUserData =>
      rw [UserEvent.method, exec_bind_ok (exec_getUserData s)]
      exact ⟨session_assigned.1, fun _ => session_assigned.2.trans (id_getUserData s.table)⟩
  | logOut =>
      obtain ⟨hinv, hkeeps⟩ := session_logOut h
      exact ⟨hinv, fun hall => iff_of_true (hkeeps hall) trivial⟩
  | updatePassword password =>
      obtain ⟨hinv, hkeeps⟩ := session_updatePassword h password
      exact ⟨hinv, fun hall => iff_of_true (hkeeps hall) trivial⟩
  | activateUserAccount phone accepted =>
      obtain ⟨hinv, hkeeps⟩ := session_activate h phone accepted
      exact ⟨hinv, fun hall => iff_of_true (hkeeps hall) trivial⟩

theorem sessionInv_start (table : List UserRow) : SessionInv ({ table := table } : UserState) where
  known user huser hid := by
    obtain rfl := Option.some.inj huser
    cases hid
  nobody hnone := by cases hnone

/-- The same for every input: a start assigns the empty user. -/
theorem session_input {s s' : UserState} {i : SessionInput} (h : SessionInv s)
    (hstep : appSession.step s i = some s') :
    SessionInv s' ∧ (UserHasId s → (UserHasId s' ↔ AssignsId s i)) := by
  cases i with
  | appStart =>
      obtain rfl := Option.some.inj hstep
      refine ⟨sessionInv_start s.table, fun _ => iff_of_false (fun hall => ?_) id⟩
      cases hall {} rfl
  | call e =>
      obtain rfl := Option.some.inj hstep
      exact session_call h

/-! ## Every run -/

/-- The invariant holds in every state the session can reach. -/
theorem sessionInv_of_run {table : List UserRow} {inputs : List SessionInput} {s : UserState}
    (hrun : appSession.run { table := table } inputs = some s) : SessionInv s := by
  have hstep : ∀ s i s', SessionInv s → True → appSession.step s i = some s' → SessionInv s' :=
    fun _ _ _ h _ hstep => (session_input h hstep).1
  exact Machine.inv_of_meets hstep (sessionInv_start table) (Machine.meets_true inputs) hrun

/-- From an app start over any table, in every state that any sequence of starts and calls reaches: the
    requests are from one caller exactly if there is no user or the user has an id. Where they are,
    they stay so throughout a run exactly if it has no start, and no call that assigns a user without
    an id. -/
theorem oneIdentity_iff {table : List UserRow} {inputs : List SessionInput} {s : UserState}
    (hrun : appSession.run { table := table } inputs = some s) :
    (OneIdentity s ↔ UserHasId s) ∧
      (OneIdentity s → ∀ later : List SessionInput,
        appSession.Throughout OneIdentity s later ↔ appSession.Meets AssignsId s later) := by
  have hinv := sessionInv_of_run hrun
  refine ⟨oneIdentity_iff_hasId hinv, fun hone later => ?_⟩
  refine Machine.throughout_iff_of_step SessionInv ?_ later hinv hone (Machine.meets_true later)
  intro s i s' h hone _ hstep
  obtain ⟨hinv', hkeeps⟩ := session_input h hstep
  have hassigns := hkeeps ((oneIdentity_iff_hasId h).1 hone)
  exact ⟨hinv', (oneIdentity_iff_hasId hinv').trans hassigns⟩

/-- On a fresh start nobody is logged in, and the search is from `null` without a role while the home
    screen is from a guest. -/
theorem not_oneIdentity_of_start : ∃ s, appSession.run {} [] = some s ∧ ¬ OneIdentity s ∧
    ((({} : SearchController Unit).moreBody { user := s, langId := "1", sortBy := "" }).identity
      = { role := none, id := some "null" }) ∧
    (HomeServices.homeBody s {}).identity = Identity.guest :=
  ⟨{}, rfl, not_oneIdentity rfl rfl, rfl, rfl⟩

instance (s : UserState) (i : SessionInput) : Decidable (AssignsId s i) :=
  match i with
  | .appStart => inferInstanceAs (Decidable False)
  | .call e => by
    apply @UserEvent.casesOn (fun e => Decidable (AssignsId s (.call e))) e <;>
      intros <;> infer_instance

/-- A user who logs in after a start, and later a guest who logged out. -/
theorem oneIdentity_of_sampleLogin :
    appSession.Throughout OneIdentity
      { currentUser := some (sampleAccount 1 "010" "a"), loggedIn := true
        table := (sampleAccount 1 "010" "a").toRow.toList }
      [.call .getUserData, .call .logOut, .call .logOut] := by
  have hrun : appSession.run {} [.call .getUserData,
      .call (.setUserData (sampleAccount 1 "010" "a"))] = some
        { currentUser := some (sampleAccount 1 "010" "a"), loggedIn := true
          table := (sampleAccount 1 "010" "a").toRow.toList } := by decide +kernel
  have hiff := oneIdentity_iff hrun
  exact (hiff.2 (hiff.1.2 (by decide +kernel)) _).2 (by decide +kernel)

end Nourgomla
