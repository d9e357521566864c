import Mathlib.Logic.Function.Basic
import TweetDb.Auth.Accounts
import TweetDb.Transition.Run

/-! # Callbacks and requests side by side

Any number of SSO callbacks, requests and revocation webhooks on one database.
Each statement outside a transaction is a step of its own, so a request goes on
with the record its one `find_session` returned, and a callback with the
binding it has looked up, whatever is written in between.
-/

namespace TweetDb.Auth

open Relational Transition

structure SsoExchangeResponse where
  subjectId : Uuid
  authorizationId : Uuid
deriving DecidableEq, Repr

/-- A request with a well-formed session cookie, and the time it read on arrival. -/
structure Arrival where
  selector : Uuid
  expectedHash : List UInt8
  autoRenewSession : Bool
  now : Timestamp
deriving DecidableEq, Repr

/-- What a call that has ended has answered. -/
inductive Answer where
  | signedIn
  | registered (user : SessionUser)
  | loggedOut
  | disabled (userId : Uuid)
  | enabled (userId : Uuid)
  | notified
  | other
deriving DecidableEq, Repr

/-- The two routes to `disable_user` and `enable_user`, with a guard each. -/
inductive AdminApi where
  | v1
  | v2
deriving DecidableEq, Repr

def AdminApi.guard : AdminApi → Guard
  | .v1 => .admin
  | .v2 => .capability .identityWrite

/-- How far a call has come. -/
inductive Call where
  | idle
  /-- `sso_callback`, from `exchange_code` to its audit event. -/
  | exchanged (exchange : SsoExchangeResponse) (now : Timestamp)
  | looked (exchange : SsoExchangeResponse) (now : Timestamp) (existing : Option SubjectBinding)
  | authorized (exchange : SsoExchangeResponse) (now : Timestamp)
      (existing : Option SubjectBinding)
  | opened (existing : Option SubjectBinding) (selector : Uuid)
  /-- `resolve_request_session`. -/
  | arrived (request : Arrival)
  | expired (request : Arrival)
  | verified (request : Arrival) (session : SessionRecord)
  | asking (request : Arrival) (session : SessionRecord)
  | checked (request : Arrival) (session : SessionRecord) (now : Timestamp)
      (answer : Option AuthorizationStatusResponse)
  | revoking (request : Arrival) (authorizationId : Uuid)
  | resolved (request : Arrival) (session : SessionRecord)
  /-- The handler runs, with the `ActiveSession` of the request. -/
  | handling (request : Arrival) (session : Option SessionRecord)
  | loggedOut (session : SessionRecord)
  /-- `revocation_webhook`. -/
  | notified (authorizationId : Uuid) (now : Timestamp)
      (answer : Option AuthorizationStatusResponse)
  | ending (authorizationId : Uuid)
  | answered (answer : Except AuthError Answer)

/-- The clock, the tables, the selectors issued so far and the calls. -/
structure Server where
  now : Timestamp
  iam : Iam
  issued : List Uuid
  calls : Nat → Call

inductive Action where
  | tick (now : Timestamp)
  | callback (call : Nat) (exchange : SsoExchangeResponse)
  | findSubjectBinding (call : Nat)
  | upsertAuthorization (call : Nat)
  | createSession (call : Nat) (selector : Uuid) (verifierHash : List UInt8)
      (createdAt : Timestamp)
  | auditCallback (call : Nat)
  | arrive (call : Nat) (selector : Uuid) (expectedHash : List UInt8) (autoRenewSession : Bool)
  | findSession (call : Nat)
  | deleteExpired (call : Nat)
  | checkCache (call : Nat)
  | checkAuthorization (call : Nat) (answer : Option AuthorizationStatusResponse)
  | updateStatus (call : Nat)
  | deleteRevoked (call : Nat)
  | handOver (call : Nat)
  | register (call : Nat) (username : String) (generated : Generated)
      (failing : Option RegistrationStatement)
  | logout (call : Nat)
  | auditLogout (call : Nat)
  | disableUser (call : Nat) (api : AdminApi) (userId : Uuid) (unseen : List Uuid) (fails : Bool)
  | enableUser (call : Nat) (api : AdminApi) (userId : Uuid) (fails : Bool)
  | handle (call : Nat)
  | webhook (call : Nat) (authorizationId : Uuid) (answer : Option AuthorizationStatusResponse)
  | webhookUpdate (call : Nat)
  | webhookDelete (call : Nat)
  /-- A statement or the SSO server fails, or the call is given up. -/
  | fail (call : Nat)
deriving DecidableEq, Repr

namespace Server

def become (s : Server) (call : Nat) (stage : Call) : Server :=
  { s with calls := Function.update s.calls call stage }

def store (s : Server) (iam : Iam) : Server :=
  { s with iam := iam }

@[simp] theorem become_iam (s : Server) (call : Nat) (stage : Call) :
    (s.become call stage).iam = s.iam := rfl

@[simp] theorem become_now (s : Server) (call : Nat) (stage : Call) :
    (s.become call stage).now = s.now := rfl

@[simp] theorem become_issued (s : Server) (call : Nat) (stage : Call) :
    (s.become call stage).issued = s.issued := rfl

@[simp] theorem become_calls (s : Server) (call : Nat) (stage : Call) :
    (s.become call stage).calls = Function.update s.calls call stage := rfl

@[simp] theorem store_iam (s : Server) (iam : Iam) : (s.store iam).iam = iam := rfl

@[simp] theorem store_now (s : Server) (iam : Iam) : (s.store iam).now = s.now := rfl

@[simp] theorem store_issued (s : Server) (iam : Iam) : (s.store iam).issued = s.issued := rfl

@[simp] theorem store_calls (s : Server) (iam : Iam) : (s.store iam).calls = s.calls := rfl

/-- The call runs a statement; one that fails ends it with an error. -/
def run (s : Server) (call : Nat) (written : Option Iam) (stage : Call) : Server :=
  match written with
  | none => s.become call (.answered (.error .database))
  | some iam => (s.store iam).become call stage

/-- The call answers with the result of its transaction. -/
def answer {α : Type} (s : Server) (call : Nat) (result : Except AuthError α × Iam)
    (answer : α → Answer) : Server :=
  (s.store result.2).become call (.answered (result.1.map answer))

end Server

/-- The checks on the row that `find_session` returns. -/
def Arrival.find (request : Arrival) : Option SessionRecord → Call
  | none => .handling request none
  | some session =>
    if session.verifierHash ≠ request.expectedHash then .handling request none
    else if session.expiresAt ≤ request.now ∨ session.authorizationStatus ≠ "active" then
      .expired request
    else .verified request session

/-- The row that `sso_callback` proposes to `upsert_authorization`. -/
def SsoExchangeResponse.authorization (exchange : SsoExchangeResponse) (now : Timestamp)
    (existing : Option SubjectBinding) : Authorization where
  authorizationId := exchange.authorizationId
  ssoSubjectId := exchange.subjectId
  userId := existing.map fun binding => binding.user.id
  status := "active"
  lastCheckedAt := now
  remoteExpiresAt := none
  revokedAt := none

/-- The row that `sso_callback` proposes to `create_session`; `createdAt` is its `NOW()`. -/
def SsoExchangeResponse.session (config : SessionConfig) (exchange : SsoExchangeResponse)
    (now : Timestamp) (existing : Option SubjectBinding) (selector : Uuid)
    (verifierHash : List UInt8) (createdAt : Timestamp) : Session where
  selector := selector
  verifierHash := verifierHash
  userId := existing.map fun binding => binding.user.id
  ssoSubjectId := exchange.subjectId
  authorizationId := exchange.authorizationId
  registrationState := if existing.isSome then "active" else "pending"
  expiresAt := sessionExpiresAt config now now
  lastSeenAt := createdAt
  createdAt := createdAt

/-- `update_authorization_status` with the answer of the SSO server. -/
def Iam.storeStatus (iam : Iam) (authorizationId : Uuid) (now : Timestamp) :
    Option AuthorizationStatusResponse → Option Iam
  | none => iam.updateAuthorizationStatus authorizationId "revoked" now none (some now)
  | some status =>
    iam.updateAuthorizationStatus authorizationId
      (if status.active then "active" else status.status) now status.expiresAt
      (if status.active then none else status.revokedAt.or (some now))

/-- What `refresh_authorization_if_needed` does next. -/
def Call.afterStatus (request : Arrival) (session : SessionRecord) (now : Timestamp) :
    Option AuthorizationStatusResponse → Call
  | none => .revoking request session.authorizationId
  | some status =>
    if status.active then .resolved request (session.refreshed (.active now status.expiresAt))
    else .revoking request session.authorizationId

def next (config : SessionConfig) (s : Server) : Action → Option Server
  | .tick now => if s.now ≤ now then some { s with now := now } else none
  | .callback call exchange =>
    match s.calls call with
    | .idle => some (s.become call (.exchanged exchange s.now))
    | _ => none
  | .findSubjectBinding call =>
    match s.calls call with
    | .exchanged exchange now =>
      some (s.become call (.looked exchange now (s.iam.findSubjectBinding exchange.subjectId)))
    | _ => none
  | .upsertAuthorization call =>
    match s.calls call with
    | .looked exchange now existing =>
      some (s.run call (s.iam.upsertAuthorization (exchange.authorization now existing))
        (.authorized exchange now existing))
    | _ => none
  | .createSession call selector verifierHash createdAt =>
    match s.calls call with
    | .authorized exchange now existing =>
      if selector ∉ s.issued ∧ now ≤ createdAt ∧ createdAt ≤ s.now then
        match s.iam.createSession
            (exchange.session config now existing selector verifierHash createdAt) with
        | none => some (s.become call (.answered (.error .database)))
        | some iam =>
          some (({ s with issued := selector :: s.issued }.store iam).become call
            (.opened existing selector))
      else none
    | _ => none
  | .auditCallback call =>
    match s.calls call with
    | .opened existing selector =>
      some (s.run call (s.iam.insertAuditEvent
        ⟨existing.map fun binding => binding.user.id, "auth.sso_callback", "session", some selector⟩)
        (.answered (.ok .signedIn)))
    | _ => none
  | .arrive call selector expectedHash autoRenewSession =>
    match s.calls call with
    | .idle => some (s.become call (.arrived ⟨selector, expectedHash, autoRenewSession, s.now⟩))
    | _ => none
  | .findSession call =>
    match s.calls call with
    | .arrived request =>
      some (s.become call (request.find (s.iam.findSession request.selector)))
    | _ => none
  | .deleteExpired call =>
    match s.calls call with
    | .expired request =>
      some ((s.store (s.iam.deleteSession request.selector)).become call (.handling request none))
    | _ => none
  | .checkCache call =>
    match s.calls call with
    | .verified request session =>
      if session.authorizationLastCheckedAt + seconds config.authorizationCacheTtlSeconds > s.now
      then some (s.become call (.resolved request session))
      else some (s.become call (.asking request session))
    | _ => none
  | .checkAuthorization call answer =>
    match s.calls call with
    | .asking request session => some (s.become call (.checked request session s.now answer))
    | _ => none
  | .updateStatus call =>
    match s.calls call with
    | .checked request session now answer =>
      some (s.run call (s.iam.storeStatus session.authorizationId now answer)
        (.afterStatus request session now answer))
    | _ => none
  | .deleteRevoked call =>
    match s.calls call with
    | .revoking request authorizationId =>
      some ((s.store (s.iam.deleteSessionsByAuthorization authorizationId)).become call
        (.handling request none))
    | _ => none
  | .handOver call =>
    match s.calls call with
    | .resolved request session =>
      if config.autoRenew && request.autoRenewSession then
        let expiresAt := sessionExpiresAt config session.createdAt request.now
        some ((s.store (s.iam.touchSession request.selector request.now expiresAt)).become call
          (.handling request (some { session with expiresAt := expiresAt })))
      else some (s.become call (.handling request (some session)))
    | _ => none
  | .register call username generated failing =>
    match s.calls call with
    | .handling _ session =>
      match requirePendingRegistration session, normalizeUsername username with
      | .error error, _ => some (s.become call (.answered (.error error)))
      | .ok _, .error error => some (s.become call (.answered (.error error)))
      | .ok session, .ok username =>
        some (s.answer call (bindUsernameToSubject s.iam username session.ssoSubjectId
          session.authorizationId session.selector generated failing) .registered)
    | _ => none
  | .logout call =>
    match s.calls call with
    | .handling _ (some session) =>
      some ((s.store (s.iam.deleteSession session.selector)).become call (.loggedOut session))
    | .handling _ none => some (s.become call (.answered (.ok .loggedOut)))
    | _ => none
  | .auditLogout call =>
    match s.calls call with
    | .loggedOut session =>
      some (s.run call (s.iam.insertAuditEvent
        ⟨session.userId, "session.logout", "session", some session.selector⟩)
        (.answered (.ok .loggedOut)))
    | _ => none
  | .disableUser call api userId unseen fails =>
    match s.calls call with
    | .handling _ session =>
      match api.guard.admit session with
      | .error error => some (s.become call (.answered (.error error)))
      | .ok admin =>
        some (s.answer call (disableUser s.iam admin userId s.now unseen fails) .disabled)
    | _ => none
  | .enableUser call api userId fails =>
    match s.calls call with
    | .handling _ session =>
      match api.guard.admit session with
      | .error error => some (s.become call (.answered (.error error)))
      | .ok admin => some (s.answer call (enableUser s.iam admin userId fails) .enabled)
    | _ => none
  | .handle call =>
    match s.calls call with
    | .handling _ _ => some (s.become call (.answered (.ok .other)))
    | _ => none
  | .webhook call authorizationId answer =>
    match s.calls call with
    | .idle => some (s.become call (.notified authorizationId s.now answer))
    | _ => none
  | .webhookUpdate call =>
    match s.calls call with
    | .notified authorizationId now answer =>
      if (answer.map AuthorizationStatusResponse.active).getD false then
        some (s.become call (.answered (.ok .notified)))
      else some (s.run call (s.iam.storeStatus authorizationId now answer)
        (.ending authorizationId))
    | _ => none
  | .webhookDelete call =>
    match s.calls call with
    | .ending authorizationId =>
      some ((s.store (s.iam.deleteSessionsByAuthorization authorizationId)).become call
        (.answered (.ok .notified)))
    | _ => none
  | .fail call =>
    match s.calls call with
    | .idle | .answered _ => none
    | _ => some (s.become call (.answered (.error .database)))

abbrev Step (config : SessionConfig) : Server → Action → Server → Prop :=
  Takes (next config)

/-- No call has begun and there is no session; there may be users and bindings. -/
structure Starts (s : Server) : Prop where
  idle : ∀ call, s.calls call = .idle
  noSessions : s.iam.sessions.rows = []

/-- An empty database. -/
def emptyServer : Server where
  now := 0
  iam :=
    { users := .empty
      subjects := .empty
      authorizations := .empty
      sessions := .empty
      auditEvents := []
      disabledBy := disabledBy_empty
      subjectUsers := subjectUsers_empty
      authorizationUsers := by decide
      references := by decide }
  issued := []
  calls := fun _ => .idle

theorem emptyServer_starts : Starts emptyServer := ⟨fun _ => rfl, rfl⟩

/-- The statements of a callback, one after the other. -/
def signIn (call : Nat) (exchange : SsoExchangeResponse) (selector : Uuid)
    (createdAt : Timestamp) : List Action :=
  [.callback call exchange, .findSubjectBinding call, .upsertAuthorization call,
    .createSession call selector [] createdAt, .auditCallback call]

/-- The statements of a request whose authorization has been checked lately. -/
def resolve (call : Nat) (selector : Uuid) (autoRenewSession : Bool) : List Action :=
  [.arrive call selector [] autoRenewSession, .findSession call, .checkCache call, .handOver call]

/-! ## What a step can do -/

/-- The record a request goes on with. -/
def Call.record : Call → Option (Arrival × SessionRecord)
  | .verified request session | .asking request session | .checked request session _ _
  | .resolved request session => some (request, session)
  | .handling request session => session.map fun session => (request, session)
  | _ => none

/-- The binding a callback goes on with. -/
def Call.binding : Call → Option (SsoExchangeResponse × Option SubjectBinding)
  | .looked exchange _ existing | .authorized exchange _ existing => some (exchange, existing)
  | _ => none

/-- The call does not only wait for its first statement. -/
def Call.begun : Call → Bool
  | .idle | .arrived _ => false
  | _ => true

theorem Call.ne_idle {stage : Call} (begun : stage.begun = true) : stage ≠ .idle := by
  rintro rfl
  cases begun

theorem Call.ne_arrived {stage : Call} (begun : stage.begun = true) (request : Arrival) :
    stage ≠ .arrived request := by
  rintro rfl
  cases begun

/-- What the refresh and the renewal leave alone in a record. -/
def SessionRecord.fixed (session : SessionRecord) : SessionRecord :=
  { session with
    expiresAt := 0
    authorizationStatus := ""
    authorizationLastCheckedAt := 0
    authorizationRemoteExpiresAt := none }

@[simp] theorem SessionRecord.fixed_refreshed (session : SessionRecord)
    (outcome : AuthorizationRefreshOutcome) : (session.refreshed outcome).fixed = session.fixed := by
  cases outcome <;> rfl

theorem SessionRecord.of_fixed {a b : SessionRecord} (same : a.fixed = b.fixed) :
    a.selector = b.selector ∧ a.userId = b.userId ∧ a.ssoSubjectId = b.ssoSubjectId ∧
      a.registrationState = b.registrationState ∧ a.userDisabledAt = b.userDisabledAt ∧
      a.createdAt = b.createdAt := by
  simp only [SessionRecord.fixed, SessionRecord.mk.injEq] at same
  simp only [same, true_and]

/-- The request has read this record, which had not expired when it arrived. -/
structure Reads (s : Server) (call : Nat) (request : Arrival) (session : SessionRecord) : Prop where
  arrived : s.calls call = .arrived request
  found : s.iam.findSession request.selector = some session
  unexpired : request.now < session.expiresAt

/-- Where a call that comes to a stage has its data from. -/
structure Origin (s : Server) (call : Nat) (stage : Call) : Prop where
  started : stage ≠ .idle
  arrives : ∀ request, stage = .arrived request → s.calls call = .idle
  record : ∀ request session, stage.record = some (request, session) →
    (∃ held, (s.calls call).record = some (request, held) ∧ session.fixed = held.fixed) ∨
      Reads s call request session
  binding : ∀ exchange existing, stage.binding = some (exchange, existing) →
    (s.calls call).binding = some (exchange, existing) ∨
      existing = s.iam.findSubjectBinding exchange.subjectId

/-- The stages that carry nothing on. -/
theorem Origin.quiet {s : Server} {call : Nat} {stage : Call} (begun : stage.begun = true)
    (noRecord : stage.record = none) (noBinding : stage.binding = none) :
    Origin s call stage := by
  constructor
  · exact Call.ne_idle begun
  · intro request arrived
    exact absurd arrived (Call.ne_arrived begun request)
  · intro request session held
    rw [noRecord] at held
    cases held
  · intro exchange existing held
    rw [noBinding] at held
    cases held

theorem Origin.ended {s : Server} {call : Nat} (answer : Except AuthError Answer) :
    Origin s call (.answered answer) :=
  .quiet rfl rfl rfl

/-- A request without a session. -/
theorem Origin.withoutSession {s : Server} {call : Nat} (request : Arrival) :
    Origin s call (.handling request none) :=
  .quiet rfl rfl rfl

theorem Origin.begins {s : Server} {call : Nat} {request : Arrival}
    (idle : s.calls call = .idle) : Origin s call (.arrived request) := by
  constructor
  · simp
  · intro _ _
    exact idle
  · intro _ _ held
    cases held
  · intro _ _ held
    cases held

theorem Origin.find {s : Server} {call : Nat} {request : Arrival}
    (arrived : s.calls call = .arrived request) :
    Origin s call (request.find (s.iam.findSession request.selector)) := by
  cases found : s.iam.findSession request.selector with
  | none => exact .withoutSession request
  | some session =>
    simp only [Arrival.find]
    split
    · exact .withoutSession request
    · split
      · exact .quiet rfl rfl rfl
      -- What is read here is what all later stages of the call hold.
      · next live =>
        simp only [not_or, not_le] at live
        refine ⟨nofun, nofun, ?_, nofun⟩
        intro request' session' held
        cases held
        exact .inr ⟨arrived, found, live.1⟩

/-- The record goes on to the next stage. -/
theorem Origin.carries {s : Server} {call : Nat} {request : Arrival} {held session : SessionRecord}
    {stage : Call} (before : (s.calls call).record = some (request, held))
    (after : stage.record = some (request, session)) (same : session.fixed = held.fixed)
    (begun : stage.begun = true) (noBinding : stage.binding = none) : Origin s call stage := by
  refine ⟨Call.ne_idle begun,
    fun request' arrived => absurd arrived (Call.ne_arrived begun request'), ?_, ?_⟩
  · intro request' session' isRecord
    rw [after] at isRecord
    cases isRecord
    exact .inl ⟨held, before, same⟩
  · intro exchange existing isBinding
    rw [noBinding] at isBinding
    cases isBinding

/-- The binding is the one just looked up, or goes on to the next stage. -/
theorem Origin.binds {s : Server} {call : Nat} {exchange : SsoExchangeResponse}
    {existing : Option SubjectBinding} {stage : Call}
    (after : stage.binding = some (exchange, existing))
    (origin : (s.calls call).binding = some (exchange, existing) ∨
      existing = s.iam.findSubjectBinding exchange.subjectId)
    (begun : stage.begun = true) (noRecord : stage.record = none) : Origin s call stage := by
  refine ⟨Call.ne_idle begun,
    fun request arrived => absurd arrived (Call.ne_arrived begun request), ?_, ?_⟩
  · intro request session isRecord
    rw [noRecord] at isRecord
    cases isRecord
  · intro exchange' existing' isBinding
    rw [after] at isBinding
    cases isBinding
    exact origin

/-- What a step does to the tables, and to the call that takes it. -/
inductive Effect (config : SessionConfig) (s : Server) : Action → Server → Prop where
  | tick {now : Timestamp} (later : s.now ≤ now) : Effect config s (.tick now) { s with now := now }
  | moved {action : Action} {call : Nat} {iam : Iam} {stage : Call} (origin : Origin s call stage)
      (same : SameAccounts s.iam iam) : Effect config s action ((s.store iam).become call stage)
  | deleted {action : Action} {call : Nat} {stage : Call} (condition : Session → Bool)
      (origin : Origin s call stage) :
      Effect config s action ((s.store (s.iam.deleteSessions condition)).become call stage)
  | touched {action : Action} {call : Nat} {request : Arrival} {session : SessionRecord}
      {stage : Call} (resolved : s.calls call = .resolved request session)
      (origin : Origin s call stage) :
      Effect config s action ((s.store (s.iam.touchSession request.selector request.now
        (sessionExpiresAt config session.createdAt request.now))).become call stage)
  | opened {action : Action} {call : Nat} {exchange : SsoExchangeResponse}
      {now createdAt : Timestamp} {existing : Option SubjectBinding} {selector : Uuid}
      {verifierHash : List UInt8} {iam : Iam}
      (authorized : s.calls call = .authorized exchange now existing)
      (fresh : selector ∉ s.issued) (begun : now ≤ createdAt)
      (created : s.iam.createSession
        (exchange.session config now existing selector verifierHash createdAt) = some iam) :
      Effect config s action (({ s with issued := selector :: s.issued }.store iam).become call
        (.opened existing selector))
  | registered {action : Action} {call : Nat} {request : Arrival} {session : SessionRecord}
      {username : String} {generated : Generated} {iam : Iam}
      (handling : s.calls call = .handling request (some session))
      (written : Registered username session.ssoSubjectId session.selector generated s.iam iam) :
      Effect config s action ((s.store iam).become call
        (.answered (.ok (.registered ⟨generated.userId, username⟩))))
  | disabled {action : Action} {call : Nat} {userId : Uuid} {iam : Iam}
      (written : Disabled userId s.iam iam) :
      Effect config s action ((s.store iam).become call (.answered (.ok (.disabled userId))))
  | enabled {call : Nat} {api : AdminApi} {userId : Uuid} {fails : Bool} {iam : Iam}
      (written : Enabled userId s.iam iam) :
      Effect config s (.enableUser call api userId fails)
        ((s.store iam).become call (.answered (.ok (.enabled userId))))

section Steps

variable {config : SessionConfig} {s t : Server} {action : Action} {call : Nat}

theorem Effect.moves {stage : Call} (origin : Origin s call stage) :
    Effect config s action (s.become call stage) :=
  .moved origin (.refl s.iam)

theorem Effect.runs {written : Option Iam} {stage : Call} (origin : Origin s call stage)
    (same : ∀ iam, written = some iam → SameAccounts s.iam iam) :
    Effect config s action (s.run call written stage) := by
  cases written with
  | none => exact .moves (.ended _)
  | some iam => exact .moved origin (same iam rfl)

theorem storeStatus_same {iam iam' : Iam} {authorizationId : Uuid} {now : Timestamp}
    {answer : Option AuthorizationStatusResponse}
    (written : iam.storeStatus authorizationId now answer = some iam') : SameAccounts iam iam' := by
  cases answer with
  | none | some => exact updateAuthorizationStatus_same written

theorem effect_createSession {selector : Uuid} {verifierHash : List UInt8} {createdAt : Timestamp}
    (taken : Step config s (.createSession call selector verifierHash createdAt) t) :
    Effect config s action t := by
  simp only [Step, Takes, next] at taken
  split at taken
  next exchange now existing authorized =>
    split at taken
    next allowed =>
      split at taken <;> cases taken
      · exact .moves (.ended _)
      · next iam created => exact .opened authorized allowed.1 allowed.2.1 created
    next => cases taken
  next => cases taken

theorem effect_handOver (taken : Step config s (.handOver call) t) : Effect config s action t := by
  simp only [Step, Takes, next] at taken
  split at taken
  next request session resolved =>
    have before : (s.calls call).record = some (request, session) := by rw [resolved]; rfl
    split at taken <;> cases taken
    · exact .touched resolved (.carries before rfl rfl rfl rfl)
    · exact .moves (.carries before rfl rfl rfl rfl)
  next => cases taken

theorem effect_register {username : String} {generated : Generated}
    {failing : Option RegistrationStatement}
    (taken : Step config s (.register call username generated failing) t) :
    Effect config s action t := by
  simp only [Step, Takes, next] at taken
  split at taken
  next request session handling =>
    split at taken
    next => cases taken; exact .moves (.ended _)
    next => cases taken; exact .moves (.ended _)
    next record username pending _ =>
      -- The guard hands on the record it has checked.
      have isRecord : session = some record := by
        unfold requirePendingRegistration at pending
        split at pending
        next => cases pending
        next =>
          split at pending <;> cases pending
          rfl
      subst isRecord
      cases taken
      cases ran : bindUsernameToSubject s.iam username record.ssoSubjectId record.authorizationId
        record.selector generated failing with
      | mk result iam =>
        cases result with
        | error error =>
          cases bindUsernameToSubject_error ran
          exact .moves (.ended _)
        | ok user =>
          obtain ⟨rfl, written⟩ := bindUsernameToSubject_ok ran
          exact .registered handling written
  next => cases taken

theorem effect_disableUser {api : AdminApi} {userId : Uuid} {unseen : List Uuid} {fails : Bool}
    (taken : Step config s (.disableUser call api userId unseen fails) t) :
    Effect config s action t := by
  simp only [Step, Takes, next] at taken
  split at taken
  next =>
    split at taken <;> cases taken
    · exact .moves (.ended _)
    · next admin _ =>
      cases ran : disableUser s.iam admin userId s.now unseen fails with
      -- A transaction that fails is rolled back, and the call only ends.
      | mk result iam =>
        cases result with
        | error error =>
          cases disableUser_error ran
          exact .moves (.ended _)
        | ok answer =>
          obtain ⟨rfl, written⟩ := disableUser_ok ran
          exact .disabled written
  next => cases taken

theorem effect_enableUser {api : AdminApi} {userId : Uuid} {fails : Bool}
    (taken : Step config s (.enableUser call api userId fails) t) :
    Effect config s (.enableUser call api userId fails) t := by
  simp only [Step, Takes, next] at taken
  split at taken
  next =>
    split at taken <;> cases taken
    · exact .moves (.ended _)
    · next admin _ =>
      cases ran : enableUser s.iam admin userId fails with
      | mk result iam =>
        cases result with
        | error error =>
          cases transaction_error ran
          exact .moves (.ended _)
        | ok answer =>
          obtain ⟨rfl, written⟩ := enableUser_ok ran
          exact .enabled written
  next => cases taken

theorem origin_afterStatus {request : Arrival} {session : SessionRecord} {now : Timestamp}
    {answer : Option AuthorizationStatusResponse}
    (checked : s.calls call = .checked request session now answer) :
    Origin s call (.afterStatus request session now answer) := by
  have before : (s.calls call).record = some (request, session) := by rw [checked]; rfl
  cases answer with
  | none => exact .quiet rfl rfl rfl
  | some status =>
    simp only [Call.afterStatus]
    split
    · exact .carries before rfl (SessionRecord.fixed_refreshed _ _) rfl rfl
    · exact .quiet rfl rfl rfl

theorem step_effect (taken : Step config s action t) : Effect config s action t := by
  cases action with
  | createSession => exact effect_createSession taken
  | handOver => exact effect_handOver taken
  | register => exact effect_register taken
  | disableUser => exact effect_disableUser taken
  | enableUser => exact effect_enableUser taken
  | tick now =>
    simp only [Step, Takes, next] at taken
    split at taken <;> cases taken
    next later => exact .tick later
  -- These steps only note what has come in from outside.
  | callback call exchange | webhook call authorizationId answer | handle call =>
    simp only [Step, Takes, next] at taken
    split at taken <;> cases taken
    exact .moves (.quiet rfl rfl rfl)
  | findSubjectBinding call =>
    simp only [Step, Takes, next] at taken
    split at taken <;> cases taken
    exact .moves (.binds rfl (.inr rfl) rfl rfl)
  | upsertAuthorization call =>
    simp only [Step, Takes, next] at taken
    split at taken <;> cases taken
    next exchange now existing looked =>
      have before : (s.calls call).binding = some (exchange, existing) := by rw [looked]; rfl
      exact .runs (.binds rfl (.inl before) rfl rfl) fun iam => upsertAuthorization_same
  -- The audit trail is no table of accounts.
  | auditCallback call | auditLogout call =>
    simp only [Step, Takes, next] at taken
    split at taken <;> cases taken
    exact .runs (.ended _) fun iam => insertAuditEvent_same
  | arrive call selector expectedHash autoRenewSession =>
    simp only [Step, Takes, next] at taken
    split at taken <;> cases taken
    next idle => exact .moves (.begins idle)
  | findSession call =>
    simp only [Step, Takes, next] at taken
    split at taken <;> cases taken
    next request arrived => exact .moves (.find arrived)
  -- A request whose session has expired or was revoked goes on without one.
  | deleteExpired call | deleteRevoked call =>
    simp only [Step, Takes, next] at taken
    split at taken <;> cases taken
    exact .deleted _ (.withoutSession _)
  -- From here the record is handed on from stage to stage; only its status may be refreshed.
  | checkCache call =>
    simp only [Step, Takes, next] at taken
    split at taken
    next request session verified =>
      have before : (s.calls call).record = some (request, session) := by rw [verified]; rfl
      split at taken <;> cases taken
      · exact .moves (.carries before rfl rfl rfl rfl)
      · exact .moves (.carries before rfl rfl rfl rfl)
    next => cases taken
  | checkAuthorization call answer =>
    simp only [Step, Takes, next] at taken
    split at taken <;> cases taken
    next request session asking =>
      have before : (s.calls call).record = some (request, session) := by rw [asking]; rfl
      exact .moves (.carries before rfl rfl rfl rfl)
  | updateStatus call =>
    simp only [Step, Takes, next] at taken
    split at taken <;> cases taken
    next request session now answer checked =>
      exact .runs (origin_afterStatus checked) fun iam => storeStatus_same
  | logout call =>
    simp only [Step, Takes, next] at taken
    split at taken <;> cases taken
    · exact .deleted _ (.quiet rfl rfl rfl)
    · exact .moves (.ended _)
  | webhookUpdate call =>
    simp only [Step, Takes, next] at taken
    split at taken
    next =>
      split at taken <;> cases taken
      · exact .moves (.ended _)
      · exact .runs (.quiet rfl rfl rfl) fun iam => storeStatus_same
    next => cases taken
  | webhookDelete call =>
    simp only [Step, Takes, next] at taken
    split at taken <;> cases taken
    exact .deleted _ (.ended _)
  | fail call =>
    simp only [Step, Takes, next] at taken
    split at taken <;> cases taken
    exact .moves (.ended _)

/-! ## The tables and the calls after a step -/

/-- Where a stored session comes from. -/
inductive SessionOrigin (config : SessionConfig) (s t : Server) (row : Session) : Prop where
  | kept (present : row ∈ s.iam.sessions.rows)
  | touched {call : Nat} {request : Arrival} {session : SessionRecord} {old : Session}
      (resolved : s.calls call = .resolved request session)
      (present : old ∈ s.iam.sessions.rows) (same : old.selector = request.selector)
      (isNew : row = { old with
        lastSeenAt := request.now
        expiresAt := sessionExpiresAt config session.createdAt request.now })
  | activated {call : Nat} {request : Arrival} {session : SessionRecord} {generated : Generated}
      {old : Session} (handling : s.calls call = .handling request (some session))
      (present : old ∈ s.iam.sessions.rows) (same : old.selector = session.selector)
      (isNew : row = { old with userId := some generated.userId, registrationState := "active" })
      (bound : ⟨generated.subjectId, generated.userId, session.ssoSubjectId⟩ ∈
        t.iam.subjects.rows)
  | opened {call : Nat} {exchange : SsoExchangeResponse} {now createdAt : Timestamp}
      {existing : Option SubjectBinding} {selector : Uuid} {verifierHash : List UInt8}
      (authorized : s.calls call = .authorized exchange now existing)
      (fresh : selector ∉ s.issued) (issued : selector ∈ t.issued) (begun : now ≤ createdAt)
      (isNew : row = exchange.session config now existing selector verifierHash createdAt)

theorem step_session {row : Session} (taken : Step config s action t)
    (present : row ∈ t.iam.sessions.rows) : SessionOrigin config s t row := by
  cases step_effect taken with
  | tick => exact .kept present
  | moved _ same =>
    rw [Server.become_iam, Server.store_iam, same.sessions] at present
    exact .kept present
  | deleted => exact .kept (Table.mem_delete.mp present).1
  | touched resolved =>
    obtain ⟨old, stored, isNew⟩ := (Iam.mem_touchSession _).mp present
    -- The update writes the row of the request and keeps all others.
    unfold Table.setWhere at isNew
    split at isNew
    next isSession => exact .touched resolved stored (by simpa using isSession) isNew.symm
    next => exact .kept (isNew ▸ stored)
  | opened authorized fresh begun created =>
    have inserted := (createSession_eq created).1
    rw [Server.become_iam, Server.store_iam, Table.insert_rows inserted, List.mem_append,
      List.mem_singleton] at present
    -- Only this step inserts a row.
    rcases present with old | isNew
    · exact .kept old
    · exact .opened authorized fresh List.mem_cons_self begun isNew
  | registered handling written =>
    rw [Server.become_iam, Server.store_iam, written.sessions] at present
    obtain ⟨old, stored, isNew⟩ := List.mem_map.mp present
    unfold Session.activate Table.setWhere at isNew
    split at isNew
    next isSession =>
      refine .activated handling stored (by simpa using isSession) isNew.symm ?_
      rw [Server.become_iam, Server.store_iam, Table.insert_rows written.subjects]
      exact List.mem_append_right _ List.mem_cons_self
    next => exact .kept (isNew ▸ stored)
  | disabled written => exact .kept (written.sessions row present)
  | enabled written =>
    rw [Server.become_iam, Server.store_iam, written.sessions] at present
    exact .kept present

/-- Bindings are only added. -/
theorem step_subjects (taken : Step config s action t) :
    ∀ subject ∈ s.iam.subjects.rows, subject ∈ t.iam.subjects.rows := by
  intro subject present
  cases step_effect taken with
  | tick | deleted | touched => exact present
  | moved _ same =>
    rw [Server.become_iam, Server.store_iam, same.subjects]
    exact present
  | opened _ _ _ created =>
    rw [Server.become_iam, Server.store_iam, (createSession_eq created).2.2]
    exact present
  | registered _ written =>
    rw [Server.become_iam, Server.store_iam, Table.insert_rows written.subjects]
    exact List.mem_append_left _ present
  | disabled written | enabled written =>
    rw [Server.become_iam, Server.store_iam, written.subjects]
    exact present

theorem step_issued (taken : Step config s action t) :
    ∀ selector ∈ s.issued, selector ∈ t.issued := by
  intro selector present
  cases step_effect taken with
  | opened => exact List.mem_cons_of_mem _ present
  | _ => exact present

theorem step_call (taken : Step config s action t) (call : Nat) :
    t.calls call = s.calls call ∨ Origin s call (t.calls call) := by
  have updated : ∀ other stage, Origin s other stage →
      Function.update s.calls other stage call = s.calls call ∨
        Origin s call (Function.update s.calls other stage call) := by
    intro other stage origin
    by_cases same : call = other
    · subst same
      rw [Function.update_self]
      exact .inr origin
    · rw [Function.update_of_ne same]
      exact .inl rfl
  -- A step writes the stage of its own call only.
  cases step_effect taken with
  | tick => exact .inl rfl
  | moved origin => exact updated _ _ origin
  | deleted _ origin => exact updated _ _ origin
  | touched _ origin => exact updated _ _ origin
  | opened => exact updated _ _ (.quiet rfl rfl rfl)
  | registered | disabled | enabled => exact updated _ _ (.ended _)

/-- A request goes on with its record, or has just read it. -/
theorem step_record (taken : Step config s action t) {call : Nat} {request : Arrival}
    {session : SessionRecord} (holds : (t.calls call).record = some (request, session)) :
    (∃ held, (s.calls call).record = some (request, held) ∧ session.fixed = held.fixed) ∨
      Reads s call request session := by
  rcases step_call taken call with same | origin
  · rw [same] at holds
    exact .inl ⟨session, holds, rfl⟩
  · exact origin.record request session holds

/-! ## Records and the sessions they were read from -/

/-- The row a record was read from. -/
structure ReadFrom (iam : Iam) (row : Session) (session : SessionRecord) : Prop where
  selector : session.selector = row.selector
  userId : session.userId = row.userId
  ssoSubjectId : session.ssoSubjectId = row.ssoSubjectId
  registrationState : session.registrationState = row.registrationState
  expiresAt : session.expiresAt = row.expiresAt
  createdAt : session.createdAt = row.createdAt
  disabledAt : session.userDisabledAt = (row.userId.bind iam.users.find).bind User.disabledAt

theorem findSession_row {iam : Iam} {selector : Uuid} {session : SessionRecord}
    (found : iam.findSession selector = some session) :
    ∃ row ∈ iam.sessions.rows, row.selector = selector ∧ ReadFrom iam row session := by
  obtain ⟨row, isRow, joined⟩ := Option.bind_eq_some_iff.mp found
  obtain ⟨authorization, _, rfl⟩ := Option.map_eq_some_iff.mp joined
  exact ⟨row, Table.mem_of_find isRow, Table.find_key isRow, ⟨rfl, rfl, rfl, rfl, rfl, rfl, rfl⟩⟩

/-- A selector is given to one session only, so the row with the selector of a record is, as far
as it still exists, the row the record was read from. -/
structure Tracked (s : Server) : Prop where
  sessions : ∀ row ∈ s.iam.sessions.rows, row.selector ∈ s.issued
  records : ∀ call request session, (s.calls call).record = some (request, session) →
    session.selector = request.selector ∧ session.selector ∈ s.issued ∧
      ∀ row ∈ s.iam.sessions.rows, row.selector = session.selector →
        row.ssoSubjectId = session.ssoSubjectId ∧ row.createdAt = session.createdAt

/-- A session keeps its selector, its subject and its creation time. -/
theorem step_identity {row : Session} (taken : Step config s action t)
    (present : row ∈ t.iam.sessions.rows) :
    (∃ old ∈ s.iam.sessions.rows, old.selector = row.selector ∧
      old.ssoSubjectId = row.ssoSubjectId ∧ old.createdAt = row.createdAt) ∨
      row.selector ∉ s.issued ∧ row.selector ∈ t.issued := by
  cases step_session taken present with
  | kept stored => exact .inl ⟨row, stored, rfl, rfl, rfl⟩
  | touched _ stored _ isNew | activated _ stored _ isNew =>
    subst isNew
    exact .inl ⟨_, stored, rfl, rfl, rfl⟩
  | opened _ fresh issued _ isNew =>
    subst isNew
    exact .inr ⟨fresh, issued⟩

theorem Tracked.step (tracked : Tracked s) (taken : Step config s action t) : Tracked t := by
  constructor
  · intro row present
    rcases step_identity taken present with ⟨old, stored, selector, _, _⟩ | ⟨_, issued⟩
    · rw [← selector]
      exact step_issued taken _ (tracked.sessions old stored)
    · exact issued
  · intro call request session holds
    -- Before the step the record belongs to a selector in use, and to its row.
    have before : session.selector = request.selector ∧ session.selector ∈ s.issued ∧
        ∀ row ∈ s.iam.sessions.rows, row.selector = session.selector →
          row.ssoSubjectId = session.ssoSubjectId ∧ row.createdAt = session.createdAt := by
      rcases step_record taken holds with ⟨held, holds, same⟩ | reads
      · have earlier := tracked.records call request held holds
        obtain ⟨selector, _, subject, _, _, created⟩ := SessionRecord.of_fixed same
        rw [selector, subject, created]
        exact earlier
      · obtain ⟨row, stored, isSelector, read⟩ := findSession_row reads.found
        refine ⟨read.selector.trans isSelector, ?_, ?_⟩
        · rw [read.selector]
          exact tracked.sessions row stored
        · intro other otherStored same
          have isRow : other = row :=
            Table.eq_of_key otherStored stored (same.trans read.selector)
          subst isRow
          exact ⟨read.ssoSubjectId.symm, read.createdAt.symm⟩
    refine ⟨before.1, step_issued taken _ before.2.1, ?_⟩
    intro row present same
    rcases step_identity taken present with ⟨old, stored, selector, subject, created⟩ | ⟨fresh, _⟩
    · rw [← subject, ← created]
      exact before.2.2 old stored (selector.trans same)
    · rw [same] at fresh
      exact absurd before.2.1 fresh

theorem Tracked.of_starts (starts : Starts s) : Tracked s := by
  constructor
  · intro row present
    rw [starts.noSessions] at present
    cases present
  · intro call request session holds
    rw [starts.idle] at holds
    cases holds

end Steps

end TweetDb.Auth
