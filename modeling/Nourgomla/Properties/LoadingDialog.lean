import Nourgomla.Services.UserApiCalls

set_option autoImplicit false

/-! # The loading dialog is closed once

A call should close the loading dialogs it has opened, each once, and no other route. It closes what is on top,
and on some of its paths only, so each call is first shown to be a list of operations on the routes, whose
closes are then counted. -/

namespace Nourgomla

open Method LoggedStack

/-- What a call finds: routes that were there before it. -/
def Navigator.atop (base : List EarlierRoute) : Navigator :=
  LoggedStack.atop (base.map .earlier)

/-- The loading dialogs that were opened have been closed, each once, and nothing else. -/
def ClosesLoading (nav : Navigator) : Prop := nav.TakesOff LoginRoute.isLoading

/-! ## The operations of a call -/

/-- A call that makes these operations on the routes closes its dialogs as the count says. -/
theorem closesLoading_iff {nav : Navigator} {base : List EarlierRoute}
    {ops : List (StackOp LoginRoute)} (h : nav = (Navigator.atop base).applyAll ops) :
    ClosesLoading nav ↔ ∃ others,
      tallyAll LoginRoute.isLoading (some ⟨0, base.length⟩) ops = some ⟨0, others⟩ := by
  have hbase : ∀ route ∈ base.map LoginRoute.earlier, route.isLoading = false := by simp [LoginRoute.isLoading]
  rw [h, ClosesLoading, Navigator.atop, takesOff_iff_tally hbase, List.length_map]

@[simp] theorem exec_act (op : StackOp LoginRoute) (nav : Navigator) :
    (Navigator.act op).exec nav = (.ok (), nav.apply op) := rfl

theorem exec_firstUser (data : Json) (nav : Navigator) :
    (UserApiCalls.firstUser data).exec nav
      = ((data.first >>= UserAccount.fromJson).map some, nav) := by
  unfold UserApiCalls.firstUser
  cases hfirst : data.first with
  | error e => rfl
  | ok first =>
      rw [exec_bind_ok (exec_ofExcept _ _)]
      change _ = ((UserAccount.fromJson first).map some, nav)
      cases UserAccount.fromJson first with
      | error e => rfl
      | ok user => rfl

/-- A handler that only returns leaves the state. -/
theorem snd_exec_tryCatch_return {ε σ α : Type} (m : Method ε σ α) (a : α) (s : σ) :
    ((tryCatch m fun _ => pure a : Method ε σ α).exec s).2 = (m.exec s).2 := by
  rw [exec_tryCatch]
  rcases m.exec s with ⟨_ | _, s'⟩ <;> rfl

/-! ## What each call does to the routes -/

/-- The answer was read, and passes the test that closes the dialog. -/
def Passes (test : UserResponse → Bool) (response : Except DartError UserResponse) : Prop :=
  ∃ r, response = .ok r ∧ test r = true

/-- The operations from the answer on: with `test` the top route makes room for a notice, and `late` is
    what a later throw does; `caught` is what an earlier one does. -/
def answerOps (test : UserResponse → Bool) (notice : UserResponse → LoginRoute)
    (late : UserResponse → List (StackOp LoginRoute)) (caught : List (StackOp LoginRoute)) :
    Except DartError UserResponse → List (StackOp LoginRoute)
  | .ok r => if test r then .pop :: .push (notice r) :: late r else []
  | .error _ => caught

/-- The handler shows a dialog, or none. -/
def OnlyError (ops : List (StackOp LoginRoute)) : Prop :=
  ops = [] ∨ ∃ errMsg, ops = [.push (.error errMsg)]

section Count

variable {n : Nat} {test : UserResponse → Bool} {notice : UserResponse → LoginRoute}
  {late : UserResponse → List (StackOp LoginRoute)} {caught : List (StackOp LoginRoute)}

theorem tally_notice {route : LoginRoute} (hnotice : route.isLoading = false)
    (ops : List (StackOp LoginRoute)) :
    tallyAll LoginRoute.isLoading (some ⟨1, n⟩) (.pop :: .push route :: ops)
      = tallyAll LoginRoute.isLoading (some ⟨0, n + 1⟩) ops := by
  simp [tallyAll, Tally.after, hnotice]

/-- After its dialog was opened a call closes it exactly if the answer passes the test. -/
theorem tally_answerOps (hnotice : ∀ r, (notice r).isLoading = false)
    (hlate : ∀ r, OnlyError (late r)) (hcaught : OnlyError caught)
    (response : Except DartError UserResponse) :
    (∃ others, tallyAll LoginRoute.isLoading (some ⟨1, n⟩)
        (answerOps test notice late caught response) = some ⟨0, others⟩) ↔
      Passes test response := by
  cases response with
  | error e =>
      refine iff_of_false ?_ (by simp [Passes])
      rcases hcaught with hnone | ⟨errMsg, herror⟩
      · simp [answerOps, hnone, tallyAll]
      · -- the error lies on the loading dialog
        simp [answerOps, herror, tallyAll, Tally.after, LoginRoute.isLoading]
  | ok r =>
      cases htest : test r with
      | false =>
          refine iff_of_false ?_ (by simp [Passes, htest])
          simp [answerOps, htest, tallyAll]
      | true =>
          refine iff_of_true ?_ ⟨r, rfl, htest⟩
          rw [answerOps, if_pos htest, tally_notice (hnotice r)]
          rcases hlate r with hnone | ⟨errMsg, herror⟩
          · exact ⟨n + 1, by rw [hnone]; rfl⟩
          · exact ⟨n + 2, by rw [herror]; rfl⟩

/-- The same for the routes: a call that opens its dialog and goes on like this. -/
theorem closesLoading_answerOps {nav : Navigator} {base : List EarlierRoute}
    {response : Except DartError UserResponse} (hnotice : ∀ r, (notice r).isLoading = false)
    (hlate : ∀ r, OnlyError (late r)) (hcaught : OnlyError caught)
    (h : nav = (Navigator.atop base).applyAll
      (.push .loading :: answerOps test notice late caught response)) :
    ClosesLoading nav ↔ Passes test response := by
  rw [closesLoading_iff h]
  exact tally_answerOps hnotice hlate hcaught response

end Count

/-- A call without a loading dialog that leaves the routes as they were. -/
theorem closesLoading_atop (base : List EarlierRoute) : ClosesLoading (Navigator.atop base) :=
  List.Perm.nil

section Calls

open UserApiCalls

theorem userSignUp_routes {settings : SettingsState} {forceVerify : Bool}
    (hverify : settings.phoneAuthRequired = .ok forceVerify) (user : UserAccount)
    (answer : Except DartError Json) (nav : Navigator) :
    ((userSignUp settings user answer).exec nav).2
      = nav.applyAll (.push .loading :: answerOps UserResponse.hasData
          (fun r => .normal r.message (.signedUp r.success forceVerify user.phone) false)
          (fun _ => []) [] (readSignUp answer)) := by
  unfold userSignUp
  rw [hverify, exec_bind_ok (exec_ofExcept _ _), snd_exec_tryCatch_return]
  cases readSignUp answer with
  | error e => rfl
  | ok response =>
      cases hdata : response.hasData with
      | false => simp [answerOps, hdata, Navigator.showLoadingDialog, exec_bind, applyAll]
      | true =>
          simp [answerOps, hdata, Navigator.showLoadingDialog, exec_bind, applyAll, Navigator.back,
            Navigator.showNormalDialog, exec_firstUser]

theorem userLogin_routes (answer : Except DartError Json) (nav : Navigator) :
    ((userLogin false answer).exec nav).2
      = nav.applyAll (.push .loading :: answerOps UserResponse.hasData
          (fun r => .normal r.message (.loggedIn r.success) true) (fun _ => []) []
          (readLogin answer)) := by
  unfold userLogin
  rw [snd_exec_tryCatch_return]
  cases readLogin answer with
  | error e => rfl
  | ok response =>
      cases hdata : response.hasData with
      | false => simp [answerOps, hdata, Navigator.showLoadingDialog, exec_bind, applyAll]
      | true =>
          simp [answerOps, hdata, Navigator.showLoadingDialog, exec_bind, applyAll, Navigator.back,
            Navigator.showNormalDialog, exec_firstUser]

/-- From the splash there is no dialog. -/
theorem userLogin_fromSplash (answer : Except DartError Json) (nav : Navigator) :
    ((userLogin true answer).exec nav).2 = nav := by
  unfold userLogin
  rw [snd_exec_tryCatch_return]
  cases readLogin answer with
  | error e => rfl
  | ok response =>
      cases hdata : response.hasData with
      | false => simp [exec_bind, hdata]
      | true => simp [exec_bind, hdata, exec_firstUser]

/-- What a profile that cannot be read makes of the notice. -/
def lateUpdate (r : UserResponse) : List (StackOp LoginRoute) :=
  match r.data.first >>= UserAccount.fromJson with
  | .ok _ => []
  | .error _ => [.push (.error "Error Updating Profile")]

def updateNotice (isForPhoneVerification : Bool) (r : UserResponse) : LoginRoute :=
  if isForPhoneVerification then
    .normal (some "your_account_activated_successfully") .openMainScreen true
  else .normal r.message .back true

def updateOps (isForPhoneVerification : Bool) (answer : Except DartError Json) :
    List (StackOp LoginRoute) :=
  answerOps UserResponse.hasData (updateNotice isForPhoneVerification) lateUpdate
    [.push (.error "Error Updating Profile")] (readUpdate answer)

theorem updateProfileAnswered_routes (isForPhoneVerification : Bool)
    (answer : Except DartError Json) (nav : Navigator) :
    ((updateProfileAnswered isForPhoneVerification answer).exec nav).2
      = nav.applyAll (updateOps isForPhoneVerification answer) := by
  unfold updateProfileAnswered updateOps
  cases readUpdate answer with
  | error e => rfl
  | ok response =>
      cases hdata : response.hasData with
      | false => simp [answerOps, hdata, exec_bind, applyAll]
      | true =>
          cases hfirst : response.data.first >>= UserAccount.fromJson with
          | ok user =>
              cases isForPhoneVerification <;>
                simp [answerOps, hdata, hfirst, lateUpdate, updateNotice, exec_bind, applyAll,
                  Navigator.back, Navigator.showNormalDialog, exec_firstUser, Except.map]
          | error e =>
              cases isForPhoneVerification <;>
                simp [answerOps, hdata, hfirst, lateUpdate, updateNotice, exec_bind, applyAll,
                  Navigator.back, Navigator.showNormalDialog, Navigator.showErrorDialog,
                  exec_firstUser, Except.map]

/-- What a null success makes of the notice. -/
def lateReset (r : UserResponse) : List (StackOp LoginRoute) :=
  if r.success.isSome then [] else [.push (.error "Error Updating Password")]

theorem resetPassword_routes (answer : Except DartError Json) (nav : Navigator) :
    ((resetPassword answer).exec nav).2
      = nav.applyAll (.push .loading :: answerOps UserResponse.isNotEmpty
          (fun r => .normal r.message .back true) lateReset
          [.push (.error "Error Updating Password")] (readReset answer)) := by
  unfold resetPassword
  cases readReset answer with
  | error e => rfl
  | ok response =>
      cases hdata : response.isNotEmpty with
      | false => simp [answerOps, hdata, Navigator.showLoadingDialog, exec_bind, applyAll]
      | true =>
          cases hsuccess : response.success with
          | none =>
              simp [answerOps, hdata, hsuccess, lateReset, exec_bind, applyAll, notNull,
                Navigator.back, Navigator.showLoadingDialog, Navigator.showNormalDialog,
                Navigator.showErrorDialog]
          | some success =>
              cases success <;>
                simp [answerOps, hdata, hsuccess, lateReset, exec_bind, applyAll, notNull,
                  Navigator.back, Navigator.showLoadingDialog, Navigator.showNormalDialog]

theorem onlyError_lateUpdate (r : UserResponse) : OnlyError (lateUpdate r) := by
  unfold lateUpdate
  split
  · exact .inl rfl
  · exact .inr ⟨_, rfl⟩

theorem onlyError_lateReset (r : UserResponse) : OnlyError (lateReset r) := by
  unfold lateReset
  split
  · exact .inl rfl
  · exact .inr ⟨_, rfl⟩

theorem isLoading_updateNotice (isForPhoneVerification : Bool) (r : UserResponse) :
    (updateNotice isForPhoneVerification r).isLoading = false := by
  cases isForPhoneVerification <;> rfl

theorem userSignUp_closes_iff (settings : SettingsState) (user : UserAccount)
    (answer : Except DartError Json) (base : List EarlierRoute) :
    ClosesLoading ((userSignUp settings user answer).exec (Navigator.atop base)).2 ↔
      settings.phoneAuthRequired.isOk = false ∨ Passes UserResponse.hasData (readSignUp answer) := by
  cases hverify : settings.phoneAuthRequired with
  | error e =>
      -- it throws before there is a dialog
      have hexec : (userSignUp settings user answer).exec (Navigator.atop base)
          = (.error e, Navigator.atop base) := by
        rw [userSignUp, hverify]
        rfl
      rw [hexec]
      exact ⟨fun _ => .inl rfl, fun _ => closesLoading_atop base⟩
  | ok forceVerify =>
      have hok : ¬ ((Except.ok forceVerify : Except DartError Bool).isOk = false) := by
        simp [Except.isOk, Except.toBool]
      rw [or_iff_right hok]
      exact closesLoading_answerOps (fun _ => rfl) (fun _ => .inl rfl) (.inl rfl)
        (userSignUp_routes hverify user answer _)

theorem userLogin_closes_iff (fromSplash : Bool) (answer : Except DartError Json)
    (base : List EarlierRoute) :
    ClosesLoading ((userLogin fromSplash answer).exec (Navigator.atop base)).2 ↔
      fromSplash = true ∨ Passes UserResponse.hasData (readLogin answer) := by
  cases fromSplash with
  | true =>
      rw [userLogin_fromSplash]
      exact iff_of_true (closesLoading_atop base) (.inl rfl)
  | false =>
      rw [or_iff_right Bool.false_ne_true]
      exact closesLoading_answerOps (fun _ => rfl) (fun _ => .inl rfl) (.inl rfl)
        (userLogin_routes answer _)

theorem updateProfile_closes_iff (isForPhoneVerification : Bool) (answer : Except DartError Json)
    (base : List EarlierRoute) :
    ClosesLoading ((updateProfile isForPhoneVerification answer).exec (Navigator.atop base)).2 ↔
      Passes UserResponse.hasData (readUpdate answer) :=
  closesLoading_answerOps (isLoading_updateNotice isForPhoneVerification) onlyError_lateUpdate
    (.inr ⟨_, rfl⟩) (updateProfileAnswered_routes isForPhoneVerification answer _)

theorem resetPassword_closes_iff (answer : Except DartError Json) (base : List EarlierRoute) :
    ClosesLoading ((resetPassword answer).exec (Navigator.atop base)).2 ↔
      Passes UserResponse.isNotEmpty (readReset answer) :=
  closesLoading_answerOps (fun _ => rfl) onlyError_lateReset (.inr ⟨_, rfl⟩)
    (resetPassword_routes answer _)

end Calls

/-! ## The verification -/

section Verify

open PhoneAuthServices

def phoneAuthName : Option String := some "/PhoneAuthScreen"

/-- The operations of an event; `inFront` says that the screen for the code is the page in front. -/
def PhoneAuthServices.VerifyEvent.ops (number : Option String) (inFront : Bool) :
    VerifyEvent → List (StackOp LoginRoute)
  | .codeSent verId => if inFront then [.pop] else [.pop, .push (.phoneAuthScreen verId number)]
  | .verificationFailed | .codeAutoRetrievalTimeout | .returned => []
  | .verificationCompleted activates => if activates then [.push .loading] else []
  | .thrown => [.pop]
  | .profileAnswer answer => updateOps true answer

def PhoneAuthServices.VerifyEvent.isCodeSent : VerifyEvent → Bool
  | .codeSent _ => true
  | _ => false

theorem method_routes (number : Option String) (e : VerifyEvent) (nav : Navigator) :
    ((e.method number).exec nav).2
      = nav.applyAll (e.ops number (pageName nav.pop.stack = phoneAuthName)) := by
  cases e with
  | codeSent verId =>
      by_cases hname : pageName nav.pop.stack = phoneAuthName
      · have hname' : pageName (nav.apply .pop).stack = some "/PhoneAuthScreen" := hname
        simp [VerifyEvent.method, VerifyEvent.ops, hname, Navigator.back, exec_bind,
          Navigator.toPhoneAuthScreen, hname', applyAll]
      · have hname' : ¬ pageName (nav.apply .pop).stack = some "/PhoneAuthScreen" := hname
        simp [VerifyEvent.method, VerifyEvent.ops, hname, Navigator.back, exec_bind,
          Navigator.toPhoneAuthScreen, hname', applyAll]
  | verificationFailed => rfl
  | verificationCompleted activates => cases activates <;> rfl
  | codeAutoRetrievalTimeout => rfl
  | returned => rfl
  | thrown => rfl
  | profileAnswer answer =>
      rw [VerifyEvent.ops, ← updateProfileAnswered_routes, VerifyEvent.method]
      rcases hexec : (UserApiCalls.updateProfileAnswered true answer).exec nav with ⟨_ | _, nav'⟩
      · simp [hexec]
      · simp [hexec]

/-! ### The page in front -/

/-- Dialogs are opened and closed over the page in front. -/
def LeavesPage : StackOp LoginRoute → Prop
  | .pop => True
  | .push route => ∀ rest, pageName (route :: rest) = pageName rest

theorem pageName_apply {nav : Navigator} {t t' : Tally} (h : nav.Counted LoginRoute.isLoading t)
    {op : StackOp LoginRoute} (hop : LeavesPage op)
    (hafter : t.after LoginRoute.isLoading op = some t') :
    pageName (nav.apply op).stack = pageName nav.stack := by
  cases op with
  | push route => exact hop nav.stack
  | pop =>
      obtain ⟨⟨top, rest, hstack, htop, hrest, hloading, -⟩, -⟩ := h
      rcases nav with ⟨stack, pushed, popped⟩
      obtain rfl : stack = top ++ rest := hstack
      cases top with
      | cons route top =>
          -- a loading dialog
          have hroute := hloading route List.mem_cons_self
          cases route <;> first | rfl | cases hroute
      | nil =>
          cases rest with
          | nil => rfl
          | cons route rest =>
              have hzero : t.marked = 0 := htop.symm
              have hsome : t.others ≠ 0 := by rw [← hrest]; simp
              simp [Tally.after, hzero, hsome] at hafter

theorem pageName_applyAll {nav : Navigator} {t t' : Tally}
    (h : nav.Counted LoginRoute.isLoading t) {ops : List (StackOp LoginRoute)}
    (hops : ∀ op ∈ ops, LeavesPage op)
    (hafter : tallyAll LoginRoute.isLoading (some t) ops = some t') :
    pageName (nav.applyAll ops).stack = pageName nav.stack := by
  induction ops generalizing nav t with
  | nil => rfl
  | cons op ops ih =>
      obtain ⟨hop, hops⟩ := List.forall_mem_cons.1 hops
      rcases counted_apply h op with ⟨u, hu, hcounted⟩ | ⟨hnone, -⟩
      · have hrest : tallyAll LoginRoute.isLoading (some u) ops = some t' := by
          rw [← hafter, tallyAll, tallyAll, List.foldl_cons, Option.bind_some, hu]
        exact (ih hcounted hops hrest).trans (pageName_apply h hop hu)
      · have hspoilt : tallyAll LoginRoute.isLoading (none : Option Tally) ops = some t' := by
          rw [← hafter, tallyAll, tallyAll, List.foldl_cons, Option.bind_some, hnone]
        rw [tallyAll_none] at hspoilt
        cases hspoilt

theorem leavesPage_answerOps {test : UserResponse → Bool} {notice : UserResponse → LoginRoute}
    {late : UserResponse → List (StackOp LoginRoute)} {caught : List (StackOp LoginRoute)}
    (hnotice : ∀ r, LeavesPage (.push (notice r))) (hlate : ∀ r, OnlyError (late r))
    (hcaught : OnlyError caught) (response : Except DartError UserResponse) :
    ∀ op ∈ answerOps test notice late caught response, LeavesPage op := by
  have herror : ∀ ops, OnlyError ops → ∀ op ∈ ops, LeavesPage op := by
    rintro ops (rfl | ⟨errMsg, rfl⟩) op hop
    · cases hop
    · obtain rfl := List.mem_singleton.1 hop
      exact fun _ => rfl
  cases response with
  | error e => exact herror caught hcaught
  | ok r =>
      rw [answerOps]
      split
      · exact List.forall_mem_cons.2 ⟨trivial, List.forall_mem_cons.2 ⟨hnotice r, herror _ (hlate r)⟩⟩
      · simp

theorem leavesPage_ops {number : Option String} {inFront : Bool} {e : VerifyEvent}
    (h : e.isCodeSent = false) : ∀ op ∈ e.ops number inFront, LeavesPage op := by
  cases e with
  | codeSent verId => cases h
  | verificationFailed => simp [VerifyEvent.ops]
  | codeAutoRetrievalTimeout => simp [VerifyEvent.ops]
  | returned => simp [VerifyEvent.ops]
  | thrown => simp [VerifyEvent.ops, LeavesPage]
  | verificationCompleted activates =>
      cases activates with
      | false => simp [VerifyEvent.ops]
      | true => simp [VerifyEvent.ops, LeavesPage, pageName]
  | profileAnswer answer =>
      exact leavesPage_answerOps (fun _ _ => rfl) onlyError_lateUpdate (.inr ⟨_, rfl⟩) _

/-! ### Counting along a run -/

/-- The count of an event: whether the screen for the code is in front, and the dialogs. -/
def PhoneAuthServices.VerifyEvent.account (number : Option String) (c : Bool × Tally)
    (e : VerifyEvent) : Option (Bool × Tally) :=
  (tallyAll LoginRoute.isLoading (some c.2) (e.ops number c.1)).map fun t => (c.1 || e.isCodeSent, t)

def accountAll (number : Option String) (c : Option (Bool × Tally)) (events : List VerifyEvent) :
    Option (Bool × Tally) :=
  events.foldl (fun c e => c.bind fun c => e.account number c) c

/-- Starting with one dialog open, every close finds one open, nothing is shown over an open one, and none
    is open in the end. -/
def Balanced (number : Option String) (base : List EarlierRoute) (events : List VerifyEvent) : Prop :=
  ∃ inFront others, accountAll number
    (some (decide (pageName (base.map .earlier) = phoneAuthName), ⟨1, base.length⟩)) events
      = some (inFront, ⟨0, others⟩)

/-- The count is right about the routes and the page in front, or it has stopped for good. -/
def Tracks (nav : Navigator) : Option (Bool × Tally) → Prop
  | some (inFront, t) => nav.Counted LoginRoute.isLoading t ∧
      inFront = decide (pageName nav.stack = phoneAuthName)
  | none => nav.Spoilt LoginRoute.isLoading

/-- The close of `codeSent` leaves the page in front as it is, or it closes too much. -/
theorem ops_after_pop {nav : Navigator} {t : Tally} (h : nav.Counted LoginRoute.isLoading t)
    (number : Option String) (e : VerifyEvent) :
    tallyAll LoginRoute.isLoading (some t)
        (e.ops number (pageName nav.pop.stack = phoneAuthName))
      = tallyAll LoginRoute.isLoading (some t)
        (e.ops number (pageName nav.stack = phoneAuthName)) := by
  cases e with
  | codeSent verId =>
      rcases counted_apply h .pop with ⟨u, hu, -⟩ | ⟨hnone, -⟩
      · have hpop : LeavesPage .pop := trivial
        have hname : pageName nav.pop.stack = pageName nav.stack := pageName_apply h hpop hu
        rw [hname]
      · have hspoilt : ∀ ops : List (StackOp LoginRoute),
            tallyAll LoginRoute.isLoading (some t) (.pop :: ops) = none := by
          intro ops
          rw [tallyAll, List.foldl_cons, Option.bind_some, hnone]
          exact tallyAll_none _ ops
        simp only [VerifyEvent.ops]
        split <;> split <;> simp only [hspoilt]
  | verificationFailed => rfl
  | verificationCompleted activates => rfl
  | codeAutoRetrievalTimeout => rfl
  | returned => rfl
  | thrown => rfl
  | profileAnswer answer => rfl

theorem verify_step_nav {number : Option String} {s s' : Verification} {e : VerifyEvent}
    (h : (verification number).step s e = some s') : s'.nav = ((e.method number).exec s.nav).2 := by
  cases e with
  | codeSent verId => exact (Option.some.inj h) ▸ rfl
  | verificationFailed => exact (Option.some.inj h) ▸ rfl
  | verificationCompleted activates => exact (Option.some.inj h) ▸ rfl
  | codeAutoRetrievalTimeout => exact (Option.some.inj h) ▸ rfl
  | returned =>
      obtain ⟨-, h⟩ := Option.ite_none_right_eq_some.1 h
      exact (Option.some.inj h) ▸ rfl
  | thrown =>
      obtain ⟨-, h⟩ := Option.ite_none_right_eq_some.1 h
      exact (Option.some.inj h) ▸ rfl
  | profileAnswer answer =>
      obtain ⟨-, h⟩ := Option.ite_none_right_eq_some.1 h
      exact (Option.some.inj h) ▸ rfl

/-- The page in front after an event that closed nothing wrong. -/
theorem pageName_after {nav : Navigator} {t t' : Tally} (h : nav.Counted LoginRoute.isLoading t)
    (number : Option String) (e : VerifyEvent)
    (hafter : tallyAll LoginRoute.isLoading (some t)
      (e.ops number (pageName nav.pop.stack = phoneAuthName)) = some t') :
    decide (pageName (nav.applyAll
        (e.ops number (pageName nav.pop.stack = phoneAuthName))).stack = phoneAuthName)
      = (decide (pageName nav.stack = phoneAuthName) || e.isCodeSent) := by
  cases hsent : e.isCodeSent with
  | false =>
      rw [pageName_applyAll h (leavesPage_ops hsent) hafter, Bool.or_false]
  | true =>
      obtain ⟨verId, rfl⟩ : ∃ verId, e = .codeSent verId := by
        cases e <;> first | exact ⟨_, rfl⟩ | cases hsent
      rw [Bool.or_true]
      refine decide_eq_true ?_
      by_cases hname : pageName nav.pop.stack = phoneAuthName
      · simp only [VerifyEvent.ops, hname, decide_true, if_true]
        exact hname
      · simp only [VerifyEvent.ops, hname, decide_false]
        rfl

theorem tracks_step {number : Option String} {s s' : Verification} {e : VerifyEvent}
    {c : Option (Bool × Tally)} (hc : Tracks s.nav c)
    (h : (verification number).step s e = some s') :
    Tracks s'.nav (c.bind fun c => e.account number c) := by
  rw [verify_step_nav h, method_routes]
  cases c with
  | none =>
      have hfollows := @follows_applyAll _ _ s.nav none hc
        (e.ops number (pageName s.nav.pop.stack = phoneAuthName))
      rwa [tallyAll_none] at hfollows
  | some c =>
      obtain ⟨inFront, t⟩ := c
      obtain ⟨hcounted, rfl⟩ := hc
      have hfollows := @follows_applyAll _ _ s.nav (some t) hcounted
        (e.ops number (pageName s.nav.pop.stack = phoneAuthName))
      simp only [Option.bind_some, VerifyEvent.account]
      rw [← ops_after_pop hcounted number e]
      cases hafter : tallyAll LoginRoute.isLoading (some t)
          (e.ops number (pageName s.nav.pop.stack = phoneAuthName)) with
      | none =>
          rw [hafter] at hfollows
          exact hfollows
      | some t' =>
          rw [hafter] at hfollows
          exact ⟨hfollows, (pageName_after hcounted number e hafter).symm⟩

theorem tracks_run {number : Option String} {s t : Verification} {events : List VerifyEvent}
    {c : Option (Bool × Tally)} (hc : Tracks s.nav c) (hs : s.nav.Conserves LoginRoute.isLoading)
    (h : (verification number).run s events = some t) :
    Tracks t.nav (accountAll number c events) ∧ t.nav.Conserves LoginRoute.isLoading := by
  induction events generalizing s c with
  | nil =>
      obtain rfl := Option.some.inj h
      exact ⟨hc, hs⟩
  | cons e events ih =>
      obtain ⟨s', hstep, hrun⟩ := Machine.run_cons.1 h
      have hconserves : s'.nav.Conserves LoginRoute.isLoading := by
        rw [verify_step_nav hstep, method_routes]
        exact conserves_applyAll hs _
      exact ih (tracks_step hc hstep) hconserves hrun

theorem verifyPhoneNumber_closes_iff {number : Option String} {base : List EarlierRoute}
    {events : List VerifyEvent} {t : Verification}
    (h : (verification number).run (verifyPhoneNumber (Navigator.atop base)) events = some t) :
    ClosesLoading t.nav ↔ Balanced number base events := by
  have hbase : ∀ route ∈ base.map LoginRoute.earlier, route.isLoading = false := by
    simp [LoginRoute.isLoading]
  have hstart : Tracks (verifyPhoneNumber (Navigator.atop base)).nav
      (some (decide (pageName (base.map .earlier) = phoneAuthName), ⟨1, base.length⟩)) := by
    have hopened := @follows_applyAll _ _ _ (some ⟨0, _⟩) (counted_atop hbase) [.push .loading]
    rw [List.length_map] at hopened
    exact ⟨hopened, rfl⟩
  have hconserves : (verifyPhoneNumber (Navigator.atop base)).nav.Conserves
      LoginRoute.isLoading := conserves_apply (conserves_atop hbase) (.push .loading)
  obtain ⟨htracks, hconserves⟩ := tracks_run hstart hconserves h
  rw [Balanced]
  cases hc : accountAll number
      (some (decide (pageName (base.map .earlier) = phoneAuthName), ⟨1, base.length⟩)) events with
  | none =>
      rw [hc] at htracks
      rw [ClosesLoading, @takesOff_iff_follows _ _ _ none hconserves htracks]
      simp
  | some c =>
      obtain ⟨inFront, tally⟩ := c
      rw [hc] at htracks
      rw [ClosesLoading, @takesOff_iff_follows _ _ _ (some tally) hconserves htracks.1]
      simp

end Verify

open UserApiCalls PhoneAuthServices in
/-- **Loading dialogs.** Each call closes its loading dialog once, and nothing else, exactly if its answer
    could be read and has data (for a password: is not empty), or it opened no dialog. A verification does
    so exactly if its closes and dialogs are balanced. -/
theorem loadingDialogs_iff (base : List EarlierRoute) :
    (∀ settings user answer,
      ClosesLoading ((userSignUp settings user answer).exec (Navigator.atop base)).2 ↔
        settings.phoneAuthRequired.isOk = false ∨
          Passes UserResponse.hasData (readSignUp answer)) ∧
    (∀ fromSplash answer,
      ClosesLoading ((userLogin fromSplash answer).exec (Navigator.atop base)).2 ↔
        fromSplash = true ∨ Passes UserResponse.hasData (readLogin answer)) ∧
    (∀ isForPhoneVerification answer,
      ClosesLoading ((updateProfile isForPhoneVerification answer).exec (Navigator.atop base)).2 ↔
        Passes UserResponse.hasData (readUpdate answer)) ∧
    (∀ answer, ClosesLoading ((resetPassword answer).exec (Navigator.atop base)).2 ↔
      Passes UserResponse.isNotEmpty (readReset answer)) ∧
    ∀ number events t,
      (verification number).run (verifyPhoneNumber (Navigator.atop base)) events = some t →
        (ClosesLoading t.nav ↔ Balanced number base events) :=
  ⟨fun settings user answer => userSignUp_closes_iff settings user answer base,
    fun fromSplash answer => userLogin_closes_iff fromSplash answer base,
    fun isForPhoneVerification answer => updateProfile_closes_iff isForPhoneVerification answer base,
    fun answer => resetPassword_closes_iff answer base,
    fun _ _ _ h => verifyPhoneNumber_closes_iff h⟩

open PhoneAuthServices in
/-- The code is sent: the dialog is closed, and the screen for the code comes. -/
theorem loadingDialogs_codeSent : ∃ t,
    (verification (some "0100")).run (verifyPhoneNumber (Navigator.atop []))
      [.codeSent "id", .returned] = some t ∧
    Balanced (some "0100") [] [.codeSent "id", .returned] ∧
    (ClosesLoading t.nav ↔ Balanced (some "0100") [] [.codeSent "id", .returned]) :=
  ⟨_, rfl, ⟨true, 1, rfl⟩, (loadingDialogs_iff []).2.2.2.2 _ _ _ rfl⟩

open UserApiCalls PhoneAuthServices in
/-- The dialog stays after a log-in that the server did not answer, and after a verification that failed. -/
theorem loadingDialogs_stay :
    ¬ ClosesLoading ((userLogin false (.error .httpFailure)).exec (Navigator.atop [])).2 ∧
    ∃ t, (verification (some "0100")).run (verifyPhoneNumber (Navigator.atop []))
        [.returned, .verificationFailed] = some t ∧ ¬ ClosesLoading t.nav := by
  refine ⟨fun h => ?_, _, rfl, fun h => ?_⟩
  · have hlength : 0 = 1 := h.length_eq
    cases hlength
  · have hlength : 0 = 1 := h.length_eq
    cases hlength

end Nourgomla
