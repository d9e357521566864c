import TweetDb.Auth.Sessions
import TweetDb.Relational.Upsert
import TweetDb.Text

/-! # Accounts

The statements of the SSO callback, and the transactions that register, disable
and enable a user.  A transaction holds the locks of the rows it has written
until it ends, so it takes effect at its commit as one step, or not at all.
-/

namespace TweetDb.Auth

open Relational

/-- `AppError`, as far as these paths raise it. -/
inductive AuthError where
  | unauthorized (message : String)
  | forbidden (message : String)
  | badRequest (message : String)
  | notFound (message : String)
  | conflict (message : String)
  | database
deriving DecidableEq, Repr

structure SessionUser where
  id : Uuid
  username : String
deriving DecidableEq, Repr

structure SubjectBinding where
  user : SessionUser
  ssoSubjectId : Uuid
deriving DecidableEq, Repr

/-! ## Guards -/

inductive Capability where
  | identityRead
  | identityWrite
  | tweetRead
  | mediaRead
  | mediaTransferWrite
  | storageRead
  | transferWrite
  | searchRead
  | searchWrite
  | auditRead
  | systemRead
deriving DecidableEq, Repr

def requireRegisteredSession (session : Option SessionRecord) : Except AuthError SessionRecord :=
  match session with
  | none => .error (.unauthorized "session required")
  | some session =>
    if session.registrationState ≠ "active" then
      .error (.unauthorized "registration must be completed")
    else if session.userDisabledAt.isSome then .error (.forbidden "account is disabled")
    else .ok session

def requireAdminSession (session : Option SessionRecord) : Except AuthError SessionRecord :=
  (requireRegisteredSession session).bind fun session =>
    if session.userIsAdmin then .ok session else .error (.forbidden "admin access required")

def userCapabilities (session : SessionRecord) : List Capability :=
  if session.userIsAdmin then
    [.identityRead, .identityWrite, .tweetRead, .mediaRead, .mediaTransferWrite, .storageRead,
      .transferWrite, .searchRead, .searchWrite, .auditRead, .systemRead]
  else [.tweetRead, .mediaRead, .storageRead, .systemRead]

def requireCapability (session : Option SessionRecord) (capability : Capability) :
    Except AuthError SessionRecord :=
  (requireRegisteredSession session).bind fun session =>
    if session.userIsAdmin || (userCapabilities session).contains capability then .ok session
    else .error (.forbidden "capability required")

def requirePendingRegistration (session : Option SessionRecord) :
    Except AuthError SessionRecord :=
  match session with
  | none => .error (.unauthorized "session required")
  | some session =>
    if session.registrationState ≠ "pending" then
      .error (.badRequest "session is not pending registration")
    else .ok session

/-- The guards that only let a registered user in. -/
inductive Guard where
  | registered
  | admin
  | capability (needed : Capability)
deriving DecidableEq, Repr

def Guard.admit : Guard → Option SessionRecord → Except AuthError SessionRecord
  | .registered, session => requireRegisteredSession session
  | .admin, session => requireAdminSession session
  | .capability needed, session => requireCapability session needed

/-- Every guard asks `require_registered_session` first. -/
theorem registered_of_admit {guard : Guard} {session : Option SessionRecord}
    {record : SessionRecord} (admitted : guard.admit session = .ok record) :
    session = some record ∧ record.registrationState = "active" ∧ record.userDisabledAt = none := by
  -- `require_registered_session` refuses a pending session before it looks at the user.
  have ofRegistered : requireRegisteredSession session = .ok record →
      session = some record ∧ record.registrationState = "active" ∧
        record.userDisabledAt = none := by
    intro registered
    unfold requireRegisteredSession at registered
    split at registered
    next => cases registered
    next session =>
      split at registered
      next => cases registered
      next active =>
        split at registered
        next => cases registered
        next enabled =>
          cases registered
          exact ⟨rfl, not_not.mp active, by simpa using enabled⟩
  cases guard with
  | registered => exact ofRegistered admitted
  | admin | capability =>
    obtain ⟨session', registered, further⟩ := bind_eq_ok admitted
    split at further
    next =>
      cases further
      exact ofRegistered registered
    next => cases further

/-- `normalize_username`. -/
def normalizeUsername (raw : String) : Except AuthError String :=
  let username := trim raw
  if ¬ (3 ≤ username.utf8ByteSize ∧ username.utf8ByteSize ≤ 32) then
    .error (.badRequest "username length must be between 3 and 32 characters")
  else if ¬ username.toList.all fun ch => ch.isAlphanum || ch == '_' then
    .error (.badRequest "username may only contain letters, digits, and underscores")
  else .ok username

/-! ## Statements -/

/-- The conflict of `upsert_authorization`. -/
def authorizationConflict : OnConflict Authorization where
  set stored excluded := { excluded with
    authorizationId := stored.authorizationId
    userId := excluded.userId.or stored.userId }
  condition _ _ := true
  keeps _ := ⟨fun _ => rfl, fun _ _ => Iff.rfl⟩

def authorizationConstraints : Constraints Authorization where
  checks authorization := validStatus authorization.status
  references _ := true

namespace Iam

variable (iam : Iam)

/-- `find_subject_binding`. -/
def findSubjectBinding (ssoSubjectId : Uuid) : Option SubjectBinding :=
  (iam.subjects.rows.find? fun subject => subject.ssoSubjectId == ssoSubjectId).bind
    fun subject => (iam.users.find subject.userId).map fun user =>
      ⟨⟨user.id, user.username⟩, subject.ssoSubjectId⟩

theorem upserted_exists {iam : Iam} {proposed : Authorization} {returned : List Uuid}
    {authorizations : Table Authorization}
    (upserted : authorizationConflict.upsertRow authorizationConstraints iam.authorizations
      proposed = some (returned, authorizations)) (id : Uuid)
    (known : iam.authorizations.find id ≠ none) : authorizations.find id ≠ none := by
  rw [OnConflict.find_upsertRow upserted]
  split
  · simp
  · exact known

theorem upserted_users {iam : Iam} {proposed : Authorization} {returned : List Uuid}
    {authorizations : Table Authorization}
    (upserted : authorizationConflict.upsertRow authorizationConstraints iam.authorizations
      proposed = some (returned, authorizations))
    (refers : UserExists iam.users proposed.userId) :
    ∀ authorization ∈ authorizations.rows, UserExists iam.users authorization.userId := by
  refine OnConflict.forall_upsertRow iam.authorizationUsers (fun _ _ => refers) ?_ upserted
  intro old stored id isUser
  -- `COALESCE` takes the proposed user if there is one.
  have either : id ∈ proposed.userId ∨ id ∈ old.userId := by
    have isUser : proposed.userId.or old.userId = some id := isUser
    cases given : proposed.userId with
    | none => simpa [given] using isUser
    | some other => exact .inl (by simpa [given] using isUser)
  cases either with
  | inl proposedUser => exact refers id proposedUser
  | inr oldUser => exact iam.authorizationUsers old stored id oldUser

/-- `upsert_authorization`; `none` is a statement that fails. -/
def upsertAuthorization (proposed : Authorization) : Option Iam :=
  if refers : UserExists iam.users proposed.userId then
    match upserted : authorizationConflict.upsertRow authorizationConstraints iam.authorizations
        proposed with
    | none => none
    | some (_, authorizations) => some (iam.setAuthorizations authorizations
        (upserted_exists upserted) (upserted_users upserted refers))
  else none

/-- `CHECK (registration_state IN ('pending', 'active'))`. -/
def validRegistrationState (registrationState : String) : Bool :=
  registrationState == "pending" || registrationState == "active"

/-- An `INSERT` with its checks; `put` is the database with the new rows of the table. -/
def insertRow {α κ : Type} [Row α κ] (checks : Prop) [Decidable checks] (table : Table α) (row : α)
    (put : checks → ∀ rows, table.insert row = some rows → Iam) : Option Iam :=
  if checked : checks then
    match inserted : table.insert row with
    | none => none
    | some rows => some (put checked rows inserted)
  else none

/-- `create_session`. -/
def createSession (session : Session) : Option Iam :=
  insertRow (validRegistrationState session.registrationState = true ∧
      SessionRefers iam.users iam.authorizations session) iam.sessions session
    fun refers sessions inserted => iam.setSessions sessions fun row present => by
      rw [Table.insert_rows inserted, List.mem_append, List.mem_singleton] at present
      rcases present with old | isNew
      · exact iam.references row old
      · rw [isNew]
        exact refers.2

/-- `insert_audit_event`; the actor is a foreign key. -/
def insertAuditEvent (event : AuditEvent) : Option Iam :=
  if UserExists iam.users event.actorUserId then
    some { iam with auditEvents := iam.auditEvents ++ [event] }
  else none

/-- Users are added and rewritten; none disappears. -/
def setUsers (users : Table User)
    (kept : ∀ id, iam.users.find id ≠ none → users.find id ≠ none)
    (disabledBy : ∀ user ∈ users.rows, UserExists users user.disabledByUserId) : Iam :=
  { iam with
    users := users
    disabledBy := disabledBy
    subjectUsers := fun subject present id isUser =>
      kept id (iam.subjectUsers subject present id isUser)
    authorizationUsers := fun authorization present id isUser =>
      kept id (iam.authorizationUsers authorization present id isUser)
    references := fun session present =>
      ⟨fun id isUser => kept id ((iam.references session present).user id isUser),
        (iam.references session present).authorization⟩ }

@[simp] theorem setUsers_users {users : Table User}
    (kept : ∀ id, iam.users.find id ≠ none → users.find id ≠ none)
    (disabledBy : ∀ user ∈ users.rows, UserExists users user.disabledByUserId) :
    (iam.setUsers users kept disabledBy).users = users := rfl

theorem inserted_exists {users users' : Table User} {user : User}
    (inserted : users.insert user = some users') (id : Uuid) (known : users.find id ≠ none) :
    users'.find id ≠ none := by
  rw [Table.find_insert inserted]
  split
  · simp
  · exact known

/-- `INSERT INTO iam.users`. -/
def insertUser (user : User) : Option Iam :=
  insertRow (UserExists iam.users user.disabledByUserId) iam.users user
    fun refers users inserted =>
      iam.setUsers users (inserted_exists inserted) fun row present => by
        rw [Table.insert_rows inserted, List.mem_append, List.mem_singleton] at present
        intro id isUser
        rcases present with old | isNew
        · exact inserted_exists inserted id (iam.disabledBy row old id isUser)
        · rw [isNew] at isUser
          exact inserted_exists inserted id (refers id isUser)

/-- `UPDATE iam.users SET disabled_at, disabled_by_user_id WHERE id`. -/
def setDisabled (userId : Uuid) (disabledAt : Option Timestamp) (disabledByUserId : Option Uuid) :
    Option Iam :=
  if refers : UserExists iam.users disabledByUserId then
    some (iam.setUsers
      (iam.users.update (fun user => user.id == userId)
        (fun user => { user with disabledAt := disabledAt, disabledByUserId := disabledByUserId })
        ⟨fun _ => rfl, fun _ _ => Iff.rfl⟩)
      (fun id => by simp)
      fun user present => by
        obtain ⟨old, stored, isNew⟩ := Table.mem_update.mp present
        subst isNew
        intro id isUser
        have known : iam.users.find id ≠ none := by
          unfold Table.setWhere at isUser
          split at isUser
          · exact refers id isUser
          · exact iam.disabledBy old stored id isUser
        simpa using known)
  else none

/-- `INSERT INTO iam.user_sso_subjects`. -/
def insertSubject (subject : UserSsoSubject) : Option Iam :=
  insertRow (UserExists iam.users (some subject.userId)) iam.subjects subject
    fun refers subjects inserted =>
      { iam with
        subjects := subjects
        subjectUsers := fun row present => by
          rw [Table.insert_rows inserted, List.mem_append, List.mem_singleton] at present
          rcases present with old | isNew
          · exact iam.subjectUsers row old
          · rw [isNew]
            exact refers }

/-- `UPDATE iam.user_sso_authorizations SET user_id WHERE authorization_id`. -/
def setAuthorizationUser (authorizationId userId : Uuid) : Option Iam :=
  if refers : UserExists iam.users (some userId) then
    some (iam.setAuthorizations
      (iam.authorizations.update
        (fun authorization => authorization.authorizationId == authorizationId)
        (fun authorization => { authorization with userId := some userId })
        ⟨fun _ => rfl, fun _ _ => Iff.rfl⟩)
      (fun id => by simp)
      fun authorization present => by
        obtain ⟨old, stored, isNew⟩ := Table.mem_update.mp present
        subst isNew
        unfold Table.setWhere
        split
        · exact refers
        · exact iam.authorizationUsers old stored)
  else none

/-- `UPDATE iam.sessions SET user_id, registration_state = 'active' WHERE selector`. -/
def activateSession (selector userId : Uuid) : Option Iam :=
  if refers : UserExists iam.users (some userId) then
    some (iam.setSessions
      (iam.sessions.update (fun session => session.selector == selector)
        (fun session => { session with userId := some userId, registrationState := "active" })
        ⟨fun _ => rfl, fun _ _ => Iff.rfl⟩)
      fun session present => by
        obtain ⟨old, stored, isNew⟩ := Table.mem_update.mp present
        subst isNew
        have referenced := iam.references old stored
        unfold Table.setWhere
        split
        · exact ⟨refers, referenced.authorization⟩
        · exact referenced)
  else none

end Iam

/-! ## Transactions -/

/-- What the body has written is there after the commit; an error rolls it back. -/
def transaction {α : Type} (iam : Iam) (body : Iam → Except AuthError (α × Iam)) :
    Except AuthError α × Iam :=
  match body iam with
  | .ok (answer, iam) => (.ok answer, iam)
  | .error error => (.error error, iam)

/-- The statements of `bind_username_to_subject`, in order. -/
inductive RegistrationStatement where
  | user
  | subject
  | authorization
  | session
  | audit
  | commit
deriving DecidableEq, Repr

/-- A statement runs unless it is the one that fails; a refusal is a violated constraint. -/
def attempt (failing : Option RegistrationStatement) (statement : RegistrationStatement)
    (refusal : AuthError) (written : Option Iam) : Except AuthError Iam :=
  if failing = some statement then .error .database
  else
    match written with
    | none => .error refusal
    | some iam => .ok iam

/-- The ids and the time that `bind_username_to_subject` generates. -/
structure Generated where
  userId : Uuid
  subjectId : Uuid
  now : Timestamp
deriving DecidableEq, Repr

/-- `bind_username_to_subject`. -/
def bindUsernameToSubject (iam : Iam) (username : String)
    (ssoSubjectId authorizationId selector : Uuid) (generated : Generated)
    (failing : Option RegistrationStatement) : Except AuthError SessionUser × Iam :=
  transaction iam fun iam => do
    let iam ← attempt failing .user (.conflict "username is already taken")
      (iam.insertUser ⟨generated.userId, username, false, some generated.now, none⟩)
    let iam ← attempt failing .subject .database
      (iam.insertSubject ⟨generated.subjectId, generated.userId, ssoSubjectId⟩)
    let iam ← attempt failing .authorization .database
      (iam.setAuthorizationUser authorizationId generated.userId)
    let iam ← attempt failing .session .database (iam.activateSession selector generated.userId)
    let iam ← attempt failing .audit .database (iam.insertAuditEvent
      ⟨some generated.userId, "user.registered", "user", some generated.userId⟩)
    let iam ← attempt failing .commit .database (some iam)
    return (⟨generated.userId, username⟩, iam)

/-- `disable_user`; `unseen` are sessions that the `DELETE` does not see yet. -/
def disableUser (iam : Iam) (admin : SessionRecord) (userId : Uuid) (now : Timestamp)
    (unseen : List Uuid) (fails : Bool) : Except AuthError Uuid × Iam :=
  if admin.userId = some userId then
    (.error (.badRequest "cannot disable current admin account"), iam)
  else transaction iam fun iam =>
    match iam.users.find userId with
    | none => .error (.notFound "user not found")
    | some user =>
      if fails then .error .database
      else if user.disabledAt.isSome then .ok (userId, iam)
      else
        match (iam.setDisabled userId (some now) admin.userId).bind fun iam =>
          (iam.deleteSessions fun session =>
            session.userId == some userId && !unseen.contains session.selector).insertAuditEvent
              ⟨admin.userId, "user.disabled", "user", some userId⟩ with
        | none => .error .database
        | some iam => .ok (userId, iam)

/-- `enable_user`. -/
def enableUser (iam : Iam) (admin : SessionRecord) (userId : Uuid) (fails : Bool) :
    Except AuthError Uuid × Iam :=
  transaction iam fun iam =>
    match iam.users.find userId with
    | none => .error (.notFound "user not found")
    | some user =>
      if fails then .error .database
      else if user.disabledAt.isNone then .ok (userId, iam)
      else
        match (iam.setDisabled userId none none).bind fun iam =>
          iam.insertAuditEvent ⟨admin.userId, "user.enabled", "user", some userId⟩ with
        | none => .error .database
        | some iam => .ok (userId, iam)

/-! ## What the statements change -/

/-- The users, the bindings and the sessions are the same. -/
structure SameAccounts (iam iam' : Iam) : Prop where
  users : iam'.users = iam.users
  subjects : iam'.subjects = iam.subjects
  sessions : iam'.sessions = iam.sessions

section Changes

variable {iam iam' : Iam}

theorem SameAccounts.refl (iam : Iam) : SameAccounts iam iam := ⟨rfl, rfl, rfl⟩

theorem upsertAuthorization_same {proposed : Authorization}
    (written : iam.upsertAuthorization proposed = some iam') : SameAccounts iam iam' := by
  unfold Iam.upsertAuthorization at written
  split at written
  next =>
    split at written
    next => cases written
    next =>
      cases written
      exact ⟨rfl, rfl, rfl⟩
  next => cases written

theorem updateAuthorizationStatus_same {authorizationId : Uuid} {status : String}
    {lastCheckedAt : Timestamp} {remoteExpiresAt revokedAt : Option Timestamp}
    (written : iam.updateAuthorizationStatus authorizationId status lastCheckedAt remoteExpiresAt
      revokedAt = some iam') : SameAccounts iam iam' := by
  unfold Iam.updateAuthorizationStatus at written
  split at written
  next => cases written
  next =>
    cases written
    exact ⟨rfl, rfl, rfl⟩

theorem insertAuditEvent_same {event : AuditEvent}
    (written : iam.insertAuditEvent event = some iam') : SameAccounts iam iam' := by
  unfold Iam.insertAuditEvent at written
  split at written
  next =>
    cases written
    exact ⟨rfl, rfl, rfl⟩
  next => cases written

theorem setAuthorizationUser_same {authorizationId userId : Uuid}
    (written : iam.setAuthorizationUser authorizationId userId = some iam') :
    SameAccounts iam iam' := by
  unfold Iam.setAuthorizationUser at written
  split at written
  next =>
    cases written
    exact ⟨rfl, rfl, rfl⟩
  next => cases written

theorem insertRow_eq {α κ : Type} [Row α κ] {checks : Prop} [Decidable checks] {table : Table α}
    {row : α} {put : checks → ∀ rows, table.insert row = some rows → Iam}
    (written : Iam.insertRow checks table row put = some iam') :
    ∃ checked rows inserted, iam' = put checked rows inserted := by
  unfold Iam.insertRow at written
  split at written
  next checked =>
    split at written
    next => cases written
    next rows inserted => exact ⟨checked, rows, inserted, (Option.some.inj written).symm⟩
  next => cases written

theorem createSession_eq {session : Session} (written : iam.createSession session = some iam') :
    iam.sessions.insert session = some iam'.sessions ∧ iam'.users = iam.users ∧
      iam'.subjects = iam.subjects := by
  obtain ⟨_, sessions, inserted, rfl⟩ := insertRow_eq written
  exact ⟨inserted, rfl, rfl⟩

theorem insertUser_eq {user : User} (written : iam.insertUser user = some iam') :
    iam.users.insert user = some iam'.users ∧ iam'.subjects = iam.subjects ∧
      iam'.sessions = iam.sessions := by
  obtain ⟨_, users, inserted, rfl⟩ := insertRow_eq written
  exact ⟨inserted, rfl, rfl⟩

theorem insertSubject_eq {subject : UserSsoSubject}
    (written : iam.insertSubject subject = some iam') :
    iam.subjects.insert subject = some iam'.subjects ∧ iam'.users = iam.users ∧
      iam'.sessions = iam.sessions := by
  obtain ⟨_, subjects, inserted, rfl⟩ := insertRow_eq written
  exact ⟨inserted, rfl, rfl⟩

/-- What registration makes of a session. -/
def Session.activate (selector userId : Uuid) : Session → Session :=
  Table.setWhere (fun session => session.selector == selector)
    fun session => { session with userId := some userId, registrationState := "active" }

theorem activateSession_eq {selector userId : Uuid}
    (written : iam.activateSession selector userId = some iam') :
    iam'.sessions.rows = iam.sessions.rows.map (Session.activate selector userId) ∧
      iam'.users = iam.users ∧ iam'.subjects = iam.subjects := by
  unfold Iam.activateSession at written
  split at written
  next =>
    cases written
    exact ⟨rfl, rfl, rfl⟩
  next => cases written

theorem setDisabled_eq {userId : Uuid} {disabledAt : Option Timestamp}
    {disabledByUserId : Option Uuid}
    (written : iam.setDisabled userId disabledAt disabledByUserId = some iam') :
    (∀ id, iam'.users.find id = (iam.users.find id).map
      (Table.setWhere (fun user => user.id == userId) fun user =>
        { user with disabledAt := disabledAt, disabledByUserId := disabledByUserId })) ∧
      iam'.subjects = iam.subjects ∧ iam'.sessions = iam.sessions := by
  unfold Iam.setDisabled at written
  split at written
  next =>
    cases written
    exact ⟨fun id => by rw [Iam.setUsers_users, Table.find_update], rfl, rfl⟩
  next => cases written

end Changes

/-! ## What the transactions change -/

section Transactions

variable {α : Type} {iam iam' : Iam}

theorem transaction_error {body : Iam → Except AuthError (α × Iam)} {error : AuthError}
    (ran : transaction iam body = (.error error, iam')) : iam' = iam := by
  unfold transaction at ran
  split at ran
  next => simp at ran
  next =>
    cases ran
    rfl

theorem transaction_ok {body : Iam → Except AuthError (α × Iam)} {answer : α}
    (ran : transaction iam body = (.ok answer, iam')) : body iam = .ok (answer, iam') := by
  unfold transaction at ran
  split at ran
  next same =>
    cases ran
    exact same
  next => simp at ran

theorem attempt_ok {failing : Option RegistrationStatement} {statement : RegistrationStatement}
    {refusal : AuthError} {written : Option Iam}
    (ran : attempt failing statement refusal written = .ok iam') : written = some iam' := by
  unfold attempt at ran
  split at ran
  next => cases ran
  next =>
    split at ran
    next => cases ran
    next =>
      cases ran
      rfl

/-- What a registration that commits has written. -/
structure Registered (username : String) (ssoSubjectId selector : Uuid) (generated : Generated)
    (iam iam' : Iam) : Prop where
  users : iam.users.insert ⟨generated.userId, username, false, some generated.now, none⟩ =
    some iam'.users
  subjects : iam.subjects.insert ⟨generated.subjectId, generated.userId, ssoSubjectId⟩ =
    some iam'.subjects
  sessions : iam'.sessions.rows =
    iam.sessions.rows.map (Session.activate selector generated.userId)

theorem bindUsernameToSubject_ok {username : String} {ssoSubjectId authorizationId selector : Uuid}
    {generated : Generated} {failing : Option RegistrationStatement} {user : SessionUser}
    (ran : bindUsernameToSubject iam username ssoSubjectId authorizationId selector generated
      failing = (.ok user, iam')) :
    user = ⟨generated.userId, username⟩ ∧
      Registered username ssoSubjectId selector generated iam iam' := by
  obtain ⟨afterUser, userRan, ran⟩ := bind_eq_ok (transaction_ok ran)
  obtain ⟨afterSubject, subjectRan, ran⟩ := bind_eq_ok ran
  obtain ⟨afterAuthorization, authorizationRan, ran⟩ := bind_eq_ok ran
  obtain ⟨afterSession, sessionRan, ran⟩ := bind_eq_ok ran
  obtain ⟨afterAudit, auditRan, ran⟩ := bind_eq_ok ran
  obtain ⟨afterCommit, commitRan, ran⟩ := bind_eq_ok ran
  -- All six have gone through; only the inserts of the user and of the binding, and the update of
  -- the session, touch these tables.
  cases ran
  cases attempt_ok commitRan
  have userWritten := insertUser_eq (attempt_ok userRan)
  have subjectWritten := insertSubject_eq (attempt_ok subjectRan)
  have authorizationWritten := setAuthorizationUser_same (attempt_ok authorizationRan)
  have sessionWritten := activateSession_eq (attempt_ok sessionRan)
  have auditWritten := insertAuditEvent_same (attempt_ok auditRan)
  refine ⟨rfl, ?_, ?_, ?_⟩
  · rw [auditWritten.users, sessionWritten.2.1, authorizationWritten.users, subjectWritten.2.1]
    exact userWritten.1
  · rw [auditWritten.subjects, sessionWritten.2.2, authorizationWritten.subjects,
      ← userWritten.2.1]
    exact subjectWritten.1
  · rw [auditWritten.sessions, sessionWritten.1, authorizationWritten.sessions,
      subjectWritten.2.2, userWritten.2.2]

/-- A registration that does not commit leaves everything as it was. -/
theorem bindUsernameToSubject_error {username : String}
    {ssoSubjectId authorizationId selector : Uuid} {generated : Generated}
    {failing : Option RegistrationStatement} {error : AuthError}
    (ran : bindUsernameToSubject iam username ssoSubjectId authorizationId selector generated
      failing = (.error error, iam')) : iam' = iam :=
  transaction_error ran

/-- What `disable_user` has written when it commits. -/
structure Disabled (userId : Uuid) (iam iam' : Iam) : Prop where
  user : ∀ user ∈ iam'.users.find userId, user.disabledAt ≠ none
  others : ∀ id, id ≠ userId → iam'.users.find id = iam.users.find id
  subjects : iam'.subjects = iam.subjects
  sessions : ∀ session ∈ iam'.sessions.rows, session ∈ iam.sessions.rows

/-- The columns of the other users are left alone. -/
theorem find_setDisabled_other {userId id : Uuid} {disabledAt : Option Timestamp}
    {disabledByUserId : Option Uuid}
    (written : iam.setDisabled userId disabledAt disabledByUserId = some iam')
    (other : id ≠ userId) : iam'.users.find id = iam.users.find id := by
  rw [(setDisabled_eq written).1]
  cases found : iam.users.find id with
  | none => rfl
  | some user =>
    have isUser : user.id = id := Table.find_key found
    simp [Table.setWhere, isUser, other]

/-- What the three statements of a disable have written. -/
theorem disabled_of_written {userId : Uuid} {user : User} {now : Timestamp}
    {disabledByUserId : Option Uuid} {condition : Session → Bool} {event : AuditEvent}
    {middle : Iam} (found : iam.users.find userId = some user)
    (updated : iam.setDisabled userId (some now) disabledByUserId = some middle)
    (audited : (middle.deleteSessions condition).insertAuditEvent event = some iam') :
    Disabled userId iam iam' := by
  have same := insertAuditEvent_same audited
  have users := setDisabled_eq updated
  constructor
  · intro user' isUser
    rw [same.users] at isUser
    have isUser : middle.users.find userId = some user' := isUser
    have isId : user.id = userId := Table.find_key found
    rw [users.1, found, Option.map_some, Option.some.injEq] at isUser
    subst isUser
    simp [Table.setWhere, isId]
  · intro id other
    have kept : middle.users.find id = iam.users.find id := find_setDisabled_other updated other
    rw [same.users]
    exact kept
  · rw [same.subjects]
    exact users.2.1
  · intro session present
    rw [same.sessions] at present
    rw [← users.2.2]
    exact (Table.mem_delete.mp present).1

theorem disableUser_ok {admin : SessionRecord} {userId answer : Uuid} {now : Timestamp}
    {unseen : List Uuid} {fails : Bool}
    (ran : disableUser iam admin userId now unseen fails = (.ok answer, iam')) :
    answer = userId ∧ Disabled userId iam iam' := by
  unfold disableUser at ran
  split at ran
  next => simp at ran
  next =>
    have ran := transaction_ok ran
    split at ran
    next => cases ran
    next user found =>
      split at ran
      next => cases ran
      next =>
        split at ran
        next already =>
          -- A user that is disabled already keeps its row, and the mark it has.
          cases ran
          refine ⟨rfl, ?_, fun _ _ => rfl, rfl, fun _ present => present⟩
          intro user' isUser
          rw [found, Option.mem_some_iff] at isUser
          subst isUser
          exact Option.isSome_iff_ne_none.mp already
        next =>
          split at ran
          next => cases ran
          next written =>
            cases ran
            obtain ⟨middle, updated, audited⟩ := Option.bind_eq_some_iff.mp written
            exact ⟨rfl, disabled_of_written found updated audited⟩

/-- What `enable_user` has written when it commits. -/
structure Enabled (userId : Uuid) (iam iam' : Iam) : Prop where
  others : ∀ id, id ≠ userId → iam'.users.find id = iam.users.find id
  subjects : iam'.subjects = iam.subjects
  sessions : iam'.sessions = iam.sessions

theorem enableUser_ok {admin : SessionRecord} {userId answer : Uuid} {fails : Bool}
    (ran : enableUser iam admin userId fails = (.ok answer, iam')) :
    answer = userId ∧ Enabled userId iam iam' := by
  have ran := transaction_ok ran
  split at ran
  next => cases ran
  next user found =>
    split at ran
    next => cases ran
    next =>
      split at ran
      next =>
        cases ran
        exact ⟨rfl, fun _ _ => rfl, rfl, rfl⟩
      next =>
        split at ran
        next => cases ran
        next written =>
          cases ran
          obtain ⟨middle, updated, audited⟩ := Option.bind_eq_some_iff.mp written
          have same := insertAuditEvent_same audited
          have users := setDisabled_eq updated
          refine ⟨rfl, ?_, ?_, ?_⟩
          · intro id other
            rw [same.users]
            exact find_setDisabled_other updated other
          · rw [same.subjects, users.2.1]
          · rw [same.sessions, users.2.2]

/-- A transition that fails leaves everything as it was. -/
theorem disableUser_error {admin : SessionRecord} {userId : Uuid} {now : Timestamp}
    {unseen : List Uuid} {fails : Bool} {error : AuthError}
    (ran : disableUser iam admin userId now unseen fails = (.error error, iam')) : iam' = iam := by
  unfold disableUser at ran
  split at ran
  next =>
    cases ran
    rfl
  next => exact transaction_error ran

end Transactions

end TweetDb.Auth
