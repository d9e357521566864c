import TweetDb.Basic
import TweetDb.Relational.Table

/-! # Sessions and authorizations

The tables of `iam` that a session is resolved from, and the statements the
request middleware and the revocation webhook run on them.
-/

namespace TweetDb.Auth

open Relational

/-! ## Tables -/

/-- What `citext` compares; usernames are ASCII. -/
def citext (text : String) : List Char :=
  text.toList.map Char.toLower

/-- A row of `iam.users`. -/
structure User where
  id : Uuid
  username : String
  isAdmin : Bool
  disabledAt : Option Timestamp
  disabledByUserId : Option Uuid
deriving DecidableEq, Repr

instance : Row User Uuid where
  key := User.id
  clash a b := a.id = b.id ∨ citext a.username = citext b.username
  clash_of_key := .inl
  clash_symm := Or.imp Eq.symm Eq.symm
  decidableKey := inferInstance
  decidableClash := fun a b =>
    inferInstanceAs (Decidable (a.id = b.id ∨ citext a.username = citext b.username))

/-- A row of `iam.user_sso_subjects`. -/
structure UserSsoSubject where
  id : Uuid
  userId : Uuid
  ssoSubjectId : Uuid
deriving DecidableEq, Repr

instance : Row UserSsoSubject Uuid where
  key := UserSsoSubject.id
  clash a b := a.id = b.id ∨ a.ssoSubjectId = b.ssoSubjectId
  clash_of_key := .inl
  clash_symm := Or.imp Eq.symm Eq.symm
  decidableKey := inferInstance
  decidableClash := fun a b =>
    inferInstanceAs (Decidable (a.id = b.id ∨ a.ssoSubjectId = b.ssoSubjectId))

/-- A row of `iam.user_sso_authorizations`. -/
structure Authorization where
  authorizationId : Uuid
  ssoSubjectId : Uuid
  userId : Option Uuid
  status : String
  lastCheckedAt : Timestamp
  remoteExpiresAt : Option Timestamp
  revokedAt : Option Timestamp
deriving DecidableEq, Repr

instance : Row Authorization Uuid := .ofKey Authorization.authorizationId

/-- A row of `iam.sessions`. -/
structure Session where
  selector : Uuid
  verifierHash : List UInt8
  userId : Option Uuid
  ssoSubjectId : Uuid
  authorizationId : Uuid
  registrationState : String
  expiresAt : Timestamp
  lastSeenAt : Timestamp
  createdAt : Timestamp
deriving DecidableEq, Repr

instance : Row Session Uuid := .ofKey Session.selector

/-- A row of `audit.audit_events`; nothing here reads its details. -/
structure AuditEvent where
  actorUserId : Option Uuid
  eventType : String
  resourceType : String
  resourceId : Option Uuid
deriving DecidableEq, Repr

/-- `CHECK (status IN ('active', 'revoked', 'expired'))`. -/
def validStatus (status : String) : Bool :=
  status == "active" || status == "revoked" || status == "expired"

/-- A nullable foreign key to `iam.users`. -/
def UserExists (users : Table User) (userId : Option Uuid) : Prop :=
  ∀ id ∈ userId, users.find id ≠ none

instance (users : Table User) (userId : Option Uuid) : Decidable (UserExists users userId) :=
  inferInstanceAs (Decidable (∀ id ∈ userId, users.find id ≠ none))

/-- The foreign keys of a session. -/
structure SessionRefers (users : Table User) (authorizations : Table Authorization)
    (session : Session) : Prop where
  user : UserExists users session.userId
  authorization : authorizations.find session.authorizationId ≠ none

instance (users : Table User) (authorizations : Table Authorization) (session : Session) :
    Decidable (SessionRefers users authorizations session) :=
  decidable_of_iff (UserExists users session.userId ∧
      authorizations.find session.authorizationId ≠ none)
    ⟨fun both => ⟨both.1, both.2⟩, fun refers => ⟨refers.user, refers.authorization⟩⟩

/-- The tables, with their foreign keys. -/
structure Iam where
  users : Table User
  subjects : Table UserSsoSubject
  authorizations : Table Authorization
  sessions : Table Session
  auditEvents : List AuditEvent
  disabledBy : ∀ user ∈ users.rows, UserExists users user.disabledByUserId
  subjectUsers : ∀ subject ∈ subjects.rows, UserExists users (some subject.userId)
  authorizationUsers : ∀ authorization ∈ authorizations.rows,
    UserExists users authorization.userId
  references : ∀ session ∈ sessions.rows, SessionRefers users authorizations session

theorem disabledBy_empty : ∀ user ∈ (Table.empty : Table User).rows,
    UserExists .empty user.disabledByUserId := by
  decide

theorem subjectUsers_empty : ∀ subject ∈ (Table.empty : Table UserSsoSubject).rows,
    UserExists .empty (some subject.userId) := by
  decide

/-! ## Statements -/

/-- `SessionRecord`, as `find_session` joins it. -/
structure SessionRecord where
  selector : Uuid
  verifierHash : List UInt8
  userId : Option Uuid
  username : Option String
  userIsAdmin : Bool
  userDisabledAt : Option Timestamp
  userDisabledByUserId : Option Uuid
  ssoSubjectId : Uuid
  authorizationId : Uuid
  registrationState : String
  expiresAt : Timestamp
  lastSeenAt : Timestamp
  createdAt : Timestamp
  authorizationStatus : String
  authorizationLastCheckedAt : Timestamp
  authorizationRemoteExpiresAt : Option Timestamp
deriving DecidableEq, Repr

namespace Iam

variable (iam : Iam)

/-- `find_session`. -/
def findSession (selector : Uuid) : Option SessionRecord :=
  (iam.sessions.find selector).bind fun session =>
    let user := session.userId.bind iam.users.find
    (iam.authorizations.find session.authorizationId).map fun authorization =>
      { selector := session.selector
        verifierHash := session.verifierHash
        userId := session.userId
        username := user.map User.username
        userIsAdmin := (user.map User.isAdmin).getD false
        userDisabledAt := user.bind User.disabledAt
        userDisabledByUserId := user.bind User.disabledByUserId
        ssoSubjectId := session.ssoSubjectId
        authorizationId := session.authorizationId
        registrationState := session.registrationState
        expiresAt := session.expiresAt
        lastSeenAt := session.lastSeenAt
        createdAt := session.createdAt
        authorizationStatus := authorization.status
        authorizationLastCheckedAt := authorization.lastCheckedAt
        authorizationRemoteExpiresAt := authorization.remoteExpiresAt }

def setSessions (sessions : Table Session)
    (references : ∀ session ∈ sessions.rows, SessionRefers iam.users iam.authorizations session) :
    Iam :=
  { iam with sessions := sessions, references := references }

@[simp] theorem setSessions_sessions {sessions : Table Session}
    (references : ∀ session ∈ sessions.rows, SessionRefers iam.users iam.authorizations session) :
    (iam.setSessions sessions references).sessions = sessions := rfl

/-- `DELETE FROM iam.sessions WHERE …`. -/
def deleteSessions (condition : Session → Bool) : Iam :=
  iam.setSessions (iam.sessions.delete condition) fun session present =>
    iam.references session (Table.mem_delete.mp present).1

/-- `delete_session`. -/
def deleteSession (selector : Uuid) : Iam :=
  iam.deleteSessions fun session => session.selector == selector

/-- `delete_sessions_by_authorization`. -/
def deleteSessionsByAuthorization (authorizationId : Uuid) : Iam :=
  iam.deleteSessions fun session => session.authorizationId == authorizationId

/-- `touch_session`. -/
def touchSession (selector : Uuid) (lastSeenAt expiresAt : Timestamp) : Iam :=
  iam.setSessions
    (iam.sessions.update (fun session => session.selector == selector)
      (fun session => { session with lastSeenAt := lastSeenAt, expiresAt := expiresAt })
      ⟨fun _ => rfl, fun _ _ => Iff.rfl⟩)
    fun session present => by
      obtain ⟨old, stored, isSession⟩ := Table.mem_update.mp present
      subst isSession
      have referenced := iam.references old stored
      unfold Table.setWhere
      split
      · exact ⟨referenced.user, referenced.authorization⟩
      · exact referenced

theorem mem_touchSession {selector : Uuid} {lastSeenAt expiresAt : Timestamp} {row : Session} :
    row ∈ (iam.touchSession selector lastSeenAt expiresAt).sessions.rows ↔
      ∃ old ∈ iam.sessions.rows, Table.setWhere (fun session => session.selector == selector)
        (fun session => { session with lastSeenAt := lastSeenAt, expiresAt := expiresAt }) old =
          row := by
  simp only [touchSession, setSessions_sessions, Table.mem_update]

/-- The authorizations are rewritten; none disappears. -/
def setAuthorizations (authorizations : Table Authorization)
    (kept : ∀ id, iam.authorizations.find id ≠ none → authorizations.find id ≠ none)
    (authorizationUsers : ∀ authorization ∈ authorizations.rows,
      UserExists iam.users authorization.userId) : Iam :=
  { iam with
    authorizations := authorizations
    authorizationUsers := authorizationUsers
    references := fun session present =>
      ⟨(iam.references session present).user,
        kept _ (iam.references session present).authorization⟩ }

@[simp] theorem setAuthorizations_authorizations {authorizations : Table Authorization}
    (kept : ∀ id, iam.authorizations.find id ≠ none → authorizations.find id ≠ none)
    (authorizationUsers : ∀ authorization ∈ authorizations.rows,
      UserExists iam.users authorization.userId) :
    (iam.setAuthorizations authorizations kept authorizationUsers).authorizations =
      authorizations := rfl

/-- The columns `update_authorization_status` sets. -/
def setStatus (status : String) (lastCheckedAt : Timestamp)
    (remoteExpiresAt revokedAt : Option Timestamp) (authorization : Authorization) :
    Authorization :=
  { authorization with
    status := status
    lastCheckedAt := lastCheckedAt
    remoteExpiresAt := remoteExpiresAt
    revokedAt := revokedAt }

/-- The statement fails on a text with U+0000, and on a row that would violate the check. -/
def refusesStatus (authorizationId : Uuid) (status : String) : Bool :=
  status.toList.contains (Char.ofNat 0) ||
    (iam.authorizations.find authorizationId).isSome && !validStatus status

/-- `update_authorization_status`; `none` is a statement that fails. -/
def updateAuthorizationStatus (authorizationId : Uuid) (status : String)
    (lastCheckedAt : Timestamp) (remoteExpiresAt revokedAt : Option Timestamp) : Option Iam :=
  if iam.refusesStatus authorizationId status then none
  else some (iam.setAuthorizations
    (iam.authorizations.update
      (fun authorization => authorization.authorizationId == authorizationId)
      (setStatus status lastCheckedAt remoteExpiresAt revokedAt)
      ⟨fun _ => rfl, fun _ _ => Iff.rfl⟩)
    (fun id => by simp)
    fun authorization present => by
      obtain ⟨old, stored, isNew⟩ := Table.mem_update.mp present
      subst isNew
      have referenced := iam.authorizationUsers old stored
      simpa [Table.setWhere, setStatus, apply_ite Authorization.userId] using referenced)

end Iam

/-! ## The answers of the SSO server -/

/-- `AuthorizationStatusResponse`. -/
structure AuthorizationStatusResponse where
  active : Bool
  status : String
  expiresAt : Option Timestamp
  revokedAt : Option Timestamp
deriving DecidableEq, Repr

/-- `revocation_webhook`, with the answer of `check_authorization`; `none` is a failed request. -/
def revocationWebhook (iam : Iam) (now : Timestamp) (authorizationId : Uuid)
    (answer : Option AuthorizationStatusResponse) : Option Unit × Iam :=
  match answer with
  | some status =>
    if !status.active then
      match iam.updateAuthorizationStatus authorizationId status.status now status.expiresAt
          (status.revokedAt.or (some now)) with
      | none => (none, iam)
      | some iam => (some (), iam.deleteSessionsByAuthorization authorizationId)
    else (some (), iam)
  | none =>
    match iam.updateAuthorizationStatus authorizationId "revoked" now none (some now) with
    | none => (none, iam)
    | some iam => (some (), iam.deleteSessionsByAuthorization authorizationId)

inductive AuthorizationRefreshOutcome where
  | unchanged
  | active (lastCheckedAt : Timestamp) (remoteExpiresAt : Option Timestamp)
  | revoked
deriving DecidableEq, Repr

/-- The part of the configuration that sessions depend on, in seconds and hours. -/
structure SessionConfig where
  authorizationCacheTtlSeconds : Int
  ttlHours : Int
  absoluteTtlHours : Int
  autoRenew : Bool
deriving DecidableEq, Repr

def seconds (count : Int) : Int := count * 1000000

def hours (count : Int) : Int := seconds (count * 3600)

/-- `refresh_authorization_if_needed`; the SSO server is asked only when the last check is too long
ago, and `now` is the time after its answer. -/
def refreshAuthorizationIfNeeded (config : SessionConfig) (iam : Iam) (session : SessionRecord)
    (begun now : Timestamp) (answer : Option AuthorizationStatusResponse) :
    Option AuthorizationRefreshOutcome × Iam :=
  if session.authorizationLastCheckedAt + seconds config.authorizationCacheTtlSeconds > begun then
    (some .unchanged, iam)
  else
    match answer with
    | some status =>
      let newStatus := if status.active then "active" else status.status
      let revokedAt := if status.active then none else status.revokedAt.or (some now)
      match iam.updateAuthorizationStatus session.authorizationId newStatus now status.expiresAt
          revokedAt with
      | none => (none, iam)
      | some iam =>
        if !status.active then
          (some .revoked, iam.deleteSessionsByAuthorization session.authorizationId)
        else (some (.active now status.expiresAt), iam)
    | none =>
      match iam.updateAuthorizationStatus session.authorizationId "revoked" now none
          (some now) with
      | none => (none, iam)
      | some iam => (some .revoked, iam.deleteSessionsByAuthorization session.authorizationId)

/-! ## Requests -/

/-- `session_expires_at`. -/
def sessionExpiresAt (config : SessionConfig) (createdAt now : Timestamp) : Timestamp :=
  let expiresAt := now + hours config.ttlHours
  if config.absoluteTtlHours > 0 then
    let absolute := createdAt + hours config.absoluteTtlHours
    if expiresAt > absolute then absolute else expiresAt
  else expiresAt

/-- The session after the refresh. -/
def SessionRecord.refreshed (session : SessionRecord) : AuthorizationRefreshOutcome → SessionRecord
  | .active lastCheckedAt remoteExpiresAt => { session with
      authorizationStatus := "active"
      authorizationLastCheckedAt := lastCheckedAt
      authorizationRemoteExpiresAt := remoteExpiresAt }
  | _ => session

end TweetDb.Auth
