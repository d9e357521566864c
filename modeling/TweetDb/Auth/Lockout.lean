import TweetDb.Auth.Binding

/-! # Disabled accounts

Between a commit that disables or registers a user and the next one that
enables it the row of the user has `disabled_at`.  A request carries what its
one read of the session has joined with that row, so which session it uses,
and what happens after the read, makes no difference.
-/

namespace TweetDb.Auth

open Relational Transition

/-- The user is disabled, or does not exist. -/
def Locked (iam : Iam) (userId : Uuid) : Prop :=
  ∀ user ∈ iam.users.find userId, user.disabledAt ≠ none

/-- The step commits a transaction that disables or registers the user. -/
def Locks (t : Server) (userId : Uuid) : Action → Prop
  | .disableUser call _ _ _ _ => t.calls call = .answered (.ok (.disabled userId))
  | .register call _ _ _ =>
    ∃ username, t.calls call = .answered (.ok (.registered ⟨userId, username⟩))
  | _ => False

/-- The step commits a transaction that enables the user. -/
def Unlocks (t : Server) (userId : Uuid) : Action → Prop
  | .enableUser call _ _ _ => t.calls call = .answered (.ok (.enabled userId))
  | _ => False

/-- The steps that do not enable the user. -/
def WhileLocked (config : SessionConfig) (userId : Uuid) (s : Server) (action : Action)
    (t : Server) : Prop :=
  Step config s action t ∧ ¬ Unlocks t userId action

section Rows

variable {config : SessionConfig} {s t : Server} {action : Action} {userId : Uuid}

theorem Locked.of_users {iam iam' : Iam} (locked : Locked iam userId)
    (same : iam'.users.find userId = iam.users.find userId) : Locked iam' userId := by
  intro user isUser
  rw [same] at isUser
  exact locked user isUser

theorem Registered.find {iam iam' : Iam} {username : String} {ssoSubjectId selector : Uuid}
    {generated : Generated} (written : Registered username ssoSubjectId selector generated iam iam')
    (id : Uuid) : iam'.users.find id =
      if generated.userId = id then
        some ⟨generated.userId, username, false, some generated.now, none⟩
      else iam.users.find id :=
  Table.find_insert written.users id

theorem Registered.locked {iam iam' : Iam} {username : String} {ssoSubjectId selector : Uuid}
    {generated : Generated} (written : Registered username ssoSubjectId selector generated iam iam') :
    Locked iam' generated.userId := by
  intro user isUser
  rw [written.find, if_pos rfl, Option.mem_some_iff] at isUser
  subst isUser
  simp

theorem Locked.step (locked : Locked s.iam userId) (taken : WhileLocked config userId s action t) :
    Locked t.iam userId := by
  cases step_effect taken.1 with
  | tick | deleted | touched => exact locked
  | moved _ same =>
    refine locked.of_users ?_
    rw [Server.become_iam, Server.store_iam, same.users]
  | opened _ _ _ created =>
    refine locked.of_users ?_
    rw [Server.become_iam, Server.store_iam, (createSession_eq created).2.1]
  | @registered _ _ _ _ username generated iam _ written =>
    by_cases same : generated.userId = userId
    · subst same
      exact written.locked
    · refine locked.of_users ?_
      rw [Server.become_iam, Server.store_iam, written.find, if_neg same]
  | @disabled _ _ disabledId iam written =>
    by_cases same : userId = disabledId
    · subst same
      exact written.user
    · exact locked.of_users (written.others userId same)
  | @enabled call _ enabledId _ iam written =>
    -- Only a commit that enables this very user would take the mark away.
    by_cases same : userId = enabledId
    · subst same
      refine absurd ?_ taken.2
      simp [Unlocks]
    · exact locked.of_users (written.others userId same)

theorem locked_of_locks {locking : Action} (taken : Step config s locking t)
    (locks : Locks t userId locking) : Locked t.iam userId := by
  -- Only a transaction that commits answers with the user, and what it has written is the mark.
  cases locking with
  | disableUser call api disabledId unseen fails =>
    simp only [Step, Takes, next] at taken
    split at taken
    next =>
      split at taken
      -- The guard of the handler has refused the caller.
      next error _ =>
        cases taken
        simp [Locks] at locks
      next admin _ =>
        cases taken
        cases ran : disableUser s.iam admin disabledId s.now unseen fails with
        | mk result iam =>
          cases result with
          | error => simp [Locks, Server.answer, ran, Except.map] at locks
          | ok answer =>
            obtain ⟨rfl, written⟩ := disableUser_ok ran
            have same : answer = userId := by
              simpa [Locks, Server.answer, ran, Except.map] using locks
            subst same
            simp only [Server.answer, Server.become_iam, Server.store_iam]
            exact written.user
    next => cases taken
  | register call username generated failing =>
    obtain ⟨name, answered⟩ := locks
    simp only [Step, Takes, next] at taken
    split at taken
    next =>
      split at taken
      next =>
        cases taken
        simp at answered
      next =>
        cases taken
        simp at answered
      next record normalized _ _ =>
        cases taken
        cases ran : bindUsernameToSubject s.iam normalized record.ssoSubjectId
          record.authorizationId record.selector generated failing with
        | mk result iam =>
          cases result with
          | error => simp [Server.answer, ran, Except.map] at answered
          | ok user =>
            obtain ⟨rfl, written⟩ := bindUsernameToSubject_ok ran
            have same : generated.userId = userId ∧ normalized = name := by
              simpa [Server.answer, ran, Except.map] using answered
            obtain ⟨rfl, _⟩ := same
            simp only [Server.answer, Server.become_iam, Server.store_iam]
            exact written.locked
    next => cases taken
  | _ => exact locks.elim

end Rows

/-! ## What a request has read -/

/-- An active record has a user, and shows that this user is disabled. -/
structure ReadLocked (userId : Uuid) (session : SessionRecord) : Prop where
  hasUser : session.registrationState = "active" → session.userId ≠ none
  disabled : session.userId = some userId → session.userDisabledAt ≠ none

theorem ReadLocked.of_fixed {userId : Uuid} {held session : SessionRecord}
    (read : ReadLocked userId held) (same : session.fixed = held.fixed) :
    ReadLocked userId session := by
  obtain ⟨_, user, _, state, disabledAt, _⟩ := SessionRecord.of_fixed same
  constructor
  · rw [state, user]
    exact read.hasUser
  · rw [user, disabledAt]
    exact read.disabled

theorem readLocked_findSession {iam : Iam} {userId selector : Uuid} {session : SessionRecord}
    (locked : Locked iam userId) (bound : SessionsBound iam)
    (found : iam.findSession selector = some session) : ReadLocked userId session := by
  obtain ⟨row, stored, _, read⟩ := findSession_row found
  constructor
  · intro active
    rw [read.registrationState] at active
    obtain ⟨owner, isUser, _⟩ := bound row stored active
    rw [read.userId, isUser]
    simp
  · intro isUser
    rw [read.userId] at isUser
    rw [read.disabledAt, isUser, Option.bind_some]
    -- The foreign key: the user the session names is there.
    have exists_ := (iam.references row stored).user userId isUser
    obtain ⟨user, userFound⟩ := Option.ne_none_iff_exists'.mp exists_
    rw [userFound, Option.bind_some]
    exact locked user userFound

/-- The call has made its read, and goes on with a record that shows the mark. -/
structure GoesOn (s : Server) (call : Nat) (userId : Uuid) : Prop where
  started : s.calls call ≠ .idle
  notArrived : ∀ request, s.calls call ≠ .arrived request
  record : ∀ request session, (s.calls call).record = some (request, session) →
    ReadLocked userId session

section Reads

variable {config : SessionConfig} {s t : Server} {action : Action} {userId : Uuid} {call : Nat}

theorem GoesOn.step (goesOn : GoesOn s call userId) (taken : Step config s action t) :
    GoesOn t call userId := by
  -- The session is read once: a call that is past the read never arrives again.
  rcases step_call taken call with same | origin
  · constructor
    · rw [same]
      exact goesOn.started
    · rw [same]
      exact goesOn.notArrived
    · rw [same]
      exact goesOn.record
  · refine ⟨origin.started, ?_, ?_⟩
    · intro request arrived
      exact goesOn.started (origin.arrives request arrived)
    · intro request session holds
      rcases origin.record request session holds with ⟨held, before, same⟩ | reads
      · exact (goesOn.record request held before).of_fixed same
      · exact absurd reads.arrived (goesOn.notArrived request)

theorem goesOn_findSession (locked : Locked s.iam userId) (bound : SessionsBound s.iam)
    (read : Step config s (.findSession call) t) : GoesOn t call userId := by
  simp only [Step, Takes, next] at read
  split at read <;> cases read
  next request arrived =>
    have origin : Origin s call (request.find (s.iam.findSession request.selector)) :=
      .find arrived
    constructor
    · simpa using origin.started
    · intro request' again
      have idle := origin.arrives request' (by simpa using again)
      rw [arrived] at idle
      cases idle
    · intro request' session holds
      rcases origin.record request' session (by simpa using holds) with ⟨_, before, _⟩ | reads
      · rw [arrived] at before
        cases before
      · exact readLocked_findSession locked bound reads.found

end Reads

/-- A request that reads its session after a commit that disables or registers the user, and
before one that enables it, is let in for another user only, if at all. -/
theorem disabled_user_locked_out {config : SessionConfig} {start s t r r' w : Server}
    {before during after : List Action} {locking : Action} {userId : Uuid} {reader : Nat}
    {request : Arrival} {session : Option SessionRecord} (starts : Starts start)
    (reached : Run (Step config) start before s) (locked : Step config s locking t)
    (locks : Locks t userId locking) (notEnabled : Run (WhileLocked config userId) t during r)
    (read : Step config r (.findSession reader) r') (later : Run (Step config) r' after w)
    (handling : w.calls reader = .handling request session) :
    ∀ guard record, Guard.admit guard session = .ok record →
      ∃ other, record.userId = some other ∧ other ≠ userId := by
  -- Up to the read the mark stays in the table; from then on it stays in the record of the call.
  have staysLocked : ∀ s action t, Locked s.iam userId → WhileLocked config userId s action t →
      Locked t.iam userId := fun _ _ _ locked taken => locked.step taken
  have lockedAtRead := Run.invariant staysLocked notEnabled (locked_of_locks locked locks)
  have atRead : WellBound r := by
    refine (notEnabled.mono fun _ _ _ taken => taken.1).invariant
      (fun _ _ _ well taken => well.step taken) ?_
    exact (WellBound.run starts reached).step locked
  have staysRead : ∀ s action t, GoesOn s reader userId → Step config s action t →
      GoesOn t reader userId := fun _ _ _ goesOn taken => goesOn.step taken
  have goesOn := Run.invariant staysRead later
    (goesOn_findSession lockedAtRead atRead.sessions read)
  intro guard record admitted
  -- A guard only lets an active record without the mark through.
  obtain ⟨rfl, active, enabled⟩ := registered_of_admit admitted
  have shows := goesOn.record request record (by rw [handling]; rfl)
  obtain ⟨other, isUser⟩ := Option.ne_none_iff_exists'.mp (shows.hasUser active)
  refine ⟨other, isUser, ?_⟩
  intro same
  rw [same] at isUser
  exact shows.disabled isUser enabled

def Action.isEnable : Action → Bool
  | .enableUser .. => true
  | _ => false

theorem run_whileLocked {config : SessionConfig} {userId : Uuid} {s t : Server}
    {actions : List Action} (noEnable : ∀ action ∈ actions, action.isEnable = false)
    (executed : exec (next config) s actions = some t) :
    Run (WhileLocked config userId) s actions t := by
  induction actions generalizing s with
  | nil =>
    cases executed
    exact .nil
  | cons action actions inductionHypothesis =>
    obtain ⟨middle, taken, rest⟩ := Option.bind_eq_some_iff.mp executed
    have stays : ¬ Unlocks middle userId action := by
      have notEnable := noEnable action List.mem_cons_self
      cases action with
      | enableUser => cases notEnable
      | _ => exact not_false
    exact .cons ⟨taken, stays⟩
      (inductionHypothesis (fun other later => noEnable other (List.mem_cons_of_mem _ later)) rest)

/-- An administrator, bound to subject 100. -/
def adminServer : Server where
  now := 0
  iam :=
    { users := ⟨[⟨1, "root", true, none, none⟩], List.pairwise_singleton _ _⟩
      subjects := ⟨[⟨2, 1, 100⟩], List.pairwise_singleton _ _⟩
      authorizations := .empty
      sessions := .empty
      auditEvents := []
      disabledBy := by decide
      subjectUsers := by decide
      authorizationUsers := by decide
      references := by decide }
  issued := []
  calls := fun _ => .idle

/-- Alice registers, is enabled and disabled again, and then signs in once more. -/
def beforeDisable : List Action :=
  signIn 0 ⟨100, 50⟩ 1 0 ++ signIn 1 ⟨7, 70⟩ 2 0 ++ resolve 2 2 false ++
    [.register 2 "alice" ⟨10, 11, 0⟩ none] ++ resolve 3 1 false ++
    [.enableUser 3 .v2 10 false] ++ resolve 4 1 false

def afterDisable : List Action :=
  signIn 5 ⟨7, 71⟩ 3 0 ++ [.arrive 6 3 [] false]

/-- The session opened after the disable is active, and its request is refused. -/
theorem disabled_user_locked_out_alice : ∃ s t r r' w session,
    exec (next ⟨300, 24, 72, true⟩) adminServer beforeDisable = some s ∧
      next ⟨300, 24, 72, true⟩ s (.disableUser 4 .v1 10 [] false) = some t ∧
      exec (next ⟨300, 24, 72, true⟩) t afterDisable = some r ∧
      next ⟨300, 24, 72, true⟩ r (.findSession 6) = some r' ∧
      exec (next ⟨300, 24, 72, true⟩) r' [.checkCache 6, .handOver 6] = some w ∧
      w.calls 6 = .handling ⟨3, [], false, 0⟩ (some session) ∧
      session.registrationState = "active" ∧ session.userId = some 10 ∧
      ∀ guard record, Guard.admit guard (some session) = .ok record →
        ∃ other, record.userId = some other ∧ other ≠ 10 := by
  refine ⟨_, _, _, _, _, _, rfl, rfl, rfl, rfl, rfl, rfl, rfl, rfl, ?_⟩
  exact @disabled_user_locked_out ⟨300, 24, 72, true⟩ adminServer _ _ _ _ _ beforeDisable
    afterDisable [.checkCache 6, .handOver 6] (.disableUser 4 .v1 10 [] false) 10 6 _ _
    ⟨fun _ => rfl, rfl⟩ (run_of_exec rfl) rfl rfl (run_whileLocked (by decide) rfl) rfl
    (run_of_exec rfl) rfl

end TweetDb.Auth
