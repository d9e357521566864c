import TweetDb.Auth.Server

/-! # Subjects and their users

An active session belongs to the user its subject is bound to.  A callback
decides on the binding it has looked up, which is never taken back, and a
registration binds the subject in the transaction that activates the session.
-/

namespace TweetDb.Auth

open Relational Transition

/-- The subject is bound to the user. -/
def Bound (iam : Iam) (userId ssoSubjectId : Uuid) : Prop :=
  ∃ subject ∈ iam.subjects.rows, subject.userId = userId ∧ subject.ssoSubjectId = ssoSubjectId

/-- Every active session has a user, the one bound to its subject. -/
def SessionsBound (iam : Iam) : Prop :=
  ∀ session ∈ iam.sessions.rows, session.registrationState = "active" →
    ∃ userId, session.userId = some userId ∧ Bound iam userId session.ssoSubjectId

/-- A subject has one binding. -/
theorem bound_unique {iam : Iam} {userId userId' ssoSubjectId : Uuid}
    (bound : Bound iam userId ssoSubjectId) (bound' : Bound iam userId' ssoSubjectId) :
    userId = userId' := by
  obtain ⟨subject, present, isUser, isSubject⟩ := bound
  obtain ⟨subject', present', isUser', isSubject'⟩ := bound'
  have same : subject = subject' :=
    Table.eq_of_clash present present' (.inr (isSubject.trans isSubject'.symm))
  rw [← isUser, same, isUser']

theorem findSubjectBinding_bound {iam : Iam} {ssoSubjectId : Uuid} {binding : SubjectBinding}
    (found : iam.findSubjectBinding ssoSubjectId = some binding) :
    Bound iam binding.user.id ssoSubjectId := by
  obtain ⟨subject, isSubject, joined⟩ := Option.bind_eq_some_iff.mp found
  obtain ⟨user, isUser, rfl⟩ := Option.map_eq_some_iff.mp joined
  have same := List.find?_some isSubject
  have userId : user.id = subject.userId := Table.find_key isUser
  exact ⟨subject, List.mem_of_find?_eq_some isSubject, userId.symm, by simpa using same⟩

/-- The active sessions are bound, and so is what callbacks have looked up. -/
structure WellBound (s : Server) : Prop where
  tracked : Tracked s
  bindings : ∀ call exchange binding, (s.calls call).binding = some (exchange, some binding) →
    Bound s.iam binding.user.id exchange.subjectId
  sessions : SessionsBound s.iam

section Steps

variable {config : SessionConfig} {s t : Server} {action : Action}

theorem Bound.step {userId ssoSubjectId : Uuid} (bound : Bound s.iam userId ssoSubjectId)
    (taken : Step config s action t) : Bound t.iam userId ssoSubjectId := by
  obtain ⟨subject, present, same⟩ := bound
  exact ⟨subject, step_subjects taken subject present, same⟩

theorem WellBound.step (well : WellBound s) (taken : Step config s action t) : WellBound t := by
  refine ⟨well.tracked.step taken, ?_, ?_⟩
  · intro call exchange binding holds
    have before : Bound s.iam binding.user.id exchange.subjectId := by
      rcases step_call taken call with same | origin
      · rw [same] at holds
        exact well.bindings call exchange binding holds
      · rcases origin.binding exchange (some binding) holds with earlier | found
        · exact well.bindings call exchange binding earlier
        · exact findSubjectBinding_bound found.symm
    exact before.step taken
  · intro row present active
    cases step_session taken present with
    | kept stored =>
      obtain ⟨userId, isUser, bound⟩ := well.sessions row stored active
      exact ⟨userId, isUser, bound.step taken⟩
    | touched _ stored _ isNew =>
      subst isNew
      obtain ⟨userId, isUser, bound⟩ := well.sessions _ stored active
      exact ⟨userId, isUser, bound.step taken⟩
    | @activated call request session generated old handling stored same isNew bound =>
      -- The record still has the subject of the session it activates.
      have holds : (s.calls call).record = some (request, session) := by
        rw [handling]
        rfl
      have subject := ((well.tracked.records call request session holds).2.2 old stored same).1
      subst isNew
      exact ⟨generated.userId, rfl, _, bound, rfl, subject.symm⟩
    | @opened call exchange now createdAt existing selector verifierHash authorized _ _ _ isNew =>
      subst isNew
      cases existing with
      | none =>
        -- Without a binding the session is pending.
        simp [SsoExchangeResponse.session] at active
      | some binding =>
        have holds : (s.calls call).binding = some (exchange, some binding) := by
          rw [authorized]
          rfl
        exact ⟨binding.user.id, rfl, (well.bindings call exchange binding holds).step taken⟩

theorem WellBound.of_starts (starts : Starts s) : WellBound s := by
  refine ⟨.of_starts starts, ?_, ?_⟩
  · intro call exchange binding holds
    rw [starts.idle] at holds
    cases holds
  · intro session present
    rw [starts.noSessions] at present
    cases present

theorem WellBound.run {start : Server} {actions : List Action} (starts : Starts start)
    (ran : Run (Step config) start actions s) : WellBound s :=
  ran.invariant (fun _ _ _ well taken => well.step taken) (.of_starts starts)

/-- A registration that fails leaves the tables as they were. -/
theorem register_error {call : Nat} {username : String} {generated : Generated}
    {failing : Option RegistrationStatement} {error : AuthError}
    (taken : Step config s (.register call username generated failing) t)
    (failed : t.calls call = .answered (.error error)) : t.iam = s.iam := by
  simp only [Step, Takes, next] at taken
  split at taken
  next request session handling =>
    split at taken
    next => cases taken; rfl
    next => cases taken; rfl
    next record username pending _ =>
      cases taken
      cases ran : bindUsernameToSubject s.iam username record.ssoSubjectId record.authorizationId
        record.selector generated failing with
      | mk result iam =>
        cases result with
        | error => exact bindUsernameToSubject_error ran
        | ok user => simp [Server.answer, ran, Except.map] at failed
  next => cases taken

end Steps

/-- In every reachable state a subject is bound to at most one user and an active session has the
user its subject is bound to; a registration that fails has written nothing. -/
theorem identity_binding {config : SessionConfig} {start s : Server} {actions : List Action}
    (starts : Starts start) (ran : Run (Step config) start actions s) :
    (∀ userId userId' ssoSubjectId, Bound s.iam userId ssoSubjectId →
      Bound s.iam userId' ssoSubjectId → userId = userId') ∧
    SessionsBound s.iam ∧
    ∀ call username generated failing error t,
      Step config s (.register call username generated failing) t →
      t.calls call = .answered (.error error) → t.iam = s.iam := by
  refine ⟨?_, (WellBound.run starts ran).sessions, ?_⟩
  · intro userId userId' ssoSubjectId bound bound'
    exact bound_unique bound bound'
  · intro call username generated failing error t taken failed
    exact register_error taken failed

/-- Two logins of subject 7, of which each tries to register. -/
def twoLogins : List Action :=
  signIn 0 ⟨7, 70⟩ 1 0 ++ signIn 1 ⟨7, 71⟩ 2 0 ++ resolve 2 1 false ++ resolve 3 2 false ++
    [.register 2 "alice" ⟨10, 11, 0⟩ none, .register 3 "bob" ⟨20, 21, 0⟩ none]

/-- The second registration finds the subject bound. -/
theorem identity_binding_twoLogins : ∃ s,
    exec (next ⟨300, 24, 72, true⟩) emptyServer twoLogins = some s ∧
      s.calls 3 = .answered (.error .database) ∧
      s.iam.sessions.rows.map (fun session => (session.userId, session.registrationState)) =
        [(some 10, "active"), (none, "pending")] ∧ SessionsBound s.iam := by
  refine ⟨_, rfl, rfl, rfl, ?_⟩
  exact (@identity_binding ⟨300, 24, 72, true⟩ emptyServer _ twoLogins emptyServer_starts
    (run_of_exec rfl)).2.1

end TweetDb.Auth
