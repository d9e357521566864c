import TweetDb.Auth.Sessions

/-! # Revocation

Both paths store the status the SSO server answers and then delete the sessions
of the authorization.  A status the table does not take fails the first
statement, and the second is not run.
-/

namespace TweetDb.Auth

open Relational

/-- No session of the authorization is left, and its stored status is not `active`. -/
def Ended (iam : Iam) (authorizationId : Uuid) : Prop :=
  (∀ session ∈ iam.sessions.rows, session.authorizationId ≠ authorizationId) ∧
    ∀ authorization ∈ iam.authorizations.find authorizationId, authorization.status ≠ "active"

/-- The answer says that the authorization is not active, or unknown. -/
def SaysEnded (answer : Option AuthorizationStatusResponse) : Prop :=
  ∀ status ∈ answer, status.active = false

/-- The status both paths store for such an answer. -/
def endedStatus (answer : Option AuthorizationStatusResponse) : String :=
  (answer.map AuthorizationStatusResponse.status).getD "revoked"

/-- The table takes the status and it is not `active`; or there is nothing to end. -/
def StatusEnds (iam : Iam) (authorizationId : Uuid) (status : String) : Prop :=
  status = "revoked" ∨ status = "expired" ∨ iam.authorizations.find authorizationId = none ∨
    (status ≠ "active" ∧ Ended iam authorizationId)

/-- The two statements of both paths. -/
def endAuthorization (iam : Iam) (authorizationId : Uuid) (status : String) (now : Timestamp)
    (remoteExpiresAt revokedAt : Option Timestamp) : Iam :=
  match iam.updateAuthorizationStatus authorizationId status now remoteExpiresAt revokedAt with
  | none => iam
  | some iam => iam.deleteSessionsByAuthorization authorizationId

section End

variable {iam iam' : Iam} {authorizationId : Uuid} {status : String} {now : Timestamp}
  {remoteExpiresAt revokedAt : Option Timestamp}

/-- A session always has its authorization. -/
theorem ended_of_unknown (unknown : iam.authorizations.find authorizationId = none) :
    Ended iam authorizationId := by
  constructor
  · intro session present same
    subst same
    exact (iam.references session present).authorization unknown
  · simp [unknown]

theorem validStatus_iff :
    validStatus status = true ↔ status = "active" ∨ status = "revoked" ∨ status = "expired" := by
  simp [validStatus, or_assoc]

/-- A status the check allows has no U+0000. -/
theorem refusesStatus_of_known {authorization : Authorization}
    (known : iam.authorizations.find authorizationId = some authorization) :
    iam.refusesStatus authorizationId status = !validStatus status := by
  unfold Iam.refusesStatus
  rw [known]
  cases valid : validStatus status with
  | false => simp
  | true =>
    have noZero : Char.ofNat 0 ∉ status.toList := by
      rcases validStatus_iff.mp valid with same | same | same <;> simp [same]
    simp [noZero]

theorem updated_find
    (updated : iam.updateAuthorizationStatus authorizationId status now remoteExpiresAt revokedAt =
      some iam') :
    iam'.authorizations.find authorizationId =
      (iam.authorizations.find authorizationId).map
        (Iam.setStatus status now remoteExpiresAt revokedAt) := by
  unfold Iam.updateAuthorizationStatus at updated
  split at updated
  · cases updated
  · cases updated
    rw [Iam.setAuthorizations_authorizations, Table.find_update]
    cases found : iam.authorizations.find authorizationId with
    | none => rfl
    | some authorization =>
      have same : authorization.authorizationId = authorizationId := Table.find_key found
      simp [Table.setWhere, same]

theorem ended_deleteSessions_iff :
    Ended (iam.deleteSessionsByAuthorization authorizationId) authorizationId ↔
      ∀ authorization ∈ iam.authorizations.find authorizationId, authorization.status ≠ "active" := by
  have noneLeft : ∀ session ∈ (iam.deleteSessionsByAuthorization authorizationId).sessions.rows,
      session.authorizationId ≠ authorizationId := by
    intro session present
    have kept := (Table.mem_delete.mp present).2
    simpa using kept
  constructor
  · intro ended
    exact ended.2
  · intro notActive
    exact ⟨noneLeft, notActive⟩

theorem endAuthorization_ended_iff :
    Ended (endAuthorization iam authorizationId status now remoteExpiresAt revokedAt)
        authorizationId ↔ StatusEnds iam authorizationId status := by
  unfold endAuthorization StatusEnds
  cases found : iam.authorizations.find authorizationId with
  | none =>
    -- There is nothing to end, whether the status is refused or not.
    cases updated : iam.updateAuthorizationStatus authorizationId status now remoteExpiresAt
        revokedAt with
    | none => simp [ended_of_unknown found]
    | some iam' =>
      have unknown := updated_find updated
      rw [found] at unknown
      simp [ended_deleteSessions_iff, unknown]
  | some authorization =>
    have refuses := @refusesStatus_of_known iam authorizationId status authorization found
    cases updated : iam.updateAuthorizationStatus authorizationId status now remoteExpiresAt
        revokedAt with
    | none =>
      -- The sessions are not deleted, and the stored status is what it was.
      have invalid : validStatus status = false := by
        unfold Iam.updateAuthorizationStatus at updated
        rw [refuses] at updated
        cases valid : validStatus status <;> simp [valid] at updated ⊢
      have notAllowed : ¬ (status = "active" ∨ status = "revoked" ∨ status = "expired") := by
        rw [← validStatus_iff, invalid]
        simp
      simp only [not_or] at notAllowed
      simp [notAllowed]
    | some iam' =>
      have valid : validStatus status = true := by
        unfold Iam.updateAuthorizationStatus at updated
        rw [refuses] at updated
        cases valid : validStatus status <;> simp [valid] at updated ⊢
      have known := updated_find updated
      rw [found, Option.map_some] at known
      simp only [ended_deleteSessions_iff, known, Option.mem_some_iff, forall_eq', Iam.setStatus]
      rcases validStatus_iff.mp valid with same | same | same <;> simp [same]

end End

section Paths

variable {iam : Iam} {answer : Option AuthorizationStatusResponse}

theorem revocationWebhook_ends (saysEnded : SaysEnded answer) (now : Timestamp)
    (authorizationId : Uuid) : ∃ remoteExpiresAt revokedAt,
    (revocationWebhook iam now authorizationId answer).2 =
      endAuthorization iam authorizationId (endedStatus answer) now remoteExpiresAt revokedAt := by
  cases answer with
  | none =>
    refine ⟨none, some now, ?_⟩
    simp only [revocationWebhook, endAuthorization, endedStatus, Option.map_none, Option.getD_none]
    cases iam.updateAuthorizationStatus authorizationId "revoked" now none (some now) <;> rfl
  | some status =>
    have inactive := saysEnded status rfl
    refine ⟨status.expiresAt, status.revokedAt.or (some now), ?_⟩
    simp only [revocationWebhook, endAuthorization, endedStatus, inactive, Option.map_some,
      Option.getD_some, Bool.not_false, if_true]
    cases iam.updateAuthorizationStatus authorizationId status.status now status.expiresAt
      (status.revokedAt.or (some now)) <;> rfl

theorem refreshAuthorization_ends {config : SessionConfig} {session : SessionRecord}
    {begun : Timestamp} (saysEnded : SaysEnded answer)
    (due : session.authorizationLastCheckedAt + seconds config.authorizationCacheTtlSeconds ≤ begun)
    (now : Timestamp) : ∃ remoteExpiresAt revokedAt,
    (refreshAuthorizationIfNeeded config iam session begun now answer).2 =
      endAuthorization iam session.authorizationId (endedStatus answer) now remoteExpiresAt
        revokedAt := by
  have asks : ¬ session.authorizationLastCheckedAt +
      seconds config.authorizationCacheTtlSeconds > begun := not_lt.mpr due
  cases answer with
  | none =>
    refine ⟨none, some now, ?_⟩
    simp only [refreshAuthorizationIfNeeded, asks, endAuthorization, endedStatus, Option.map_none,
      Option.getD_none, if_false]
    cases iam.updateAuthorizationStatus session.authorizationId "revoked" now none (some now) <;> rfl
  | some status =>
    have inactive := saysEnded status rfl
    refine ⟨status.expiresAt, status.revokedAt.or (some now), ?_⟩
    simp only [refreshAuthorizationIfNeeded, asks, endAuthorization, endedStatus, inactive,
      Option.map_some, Option.getD_some, Bool.not_false, Bool.false_eq_true, if_true, if_false]
    cases iam.updateAuthorizationStatus session.authorizationId status.status now status.expiresAt
      (status.revokedAt.or (some now)) <;> rfl

end Paths

/-- The webhook and the refresh end an authorization exactly if the table takes the answered status
and the status is not `active`, or there is nothing to end. -/
theorem revocation_ends_sessions_iff {iam : Iam} {authorizationId : Uuid}
    {answer : Option AuthorizationStatusResponse} (saysEnded : SaysEnded answer) :
    (∀ now, Ended (revocationWebhook iam now authorizationId answer).2 authorizationId ↔
      StatusEnds iam authorizationId (endedStatus answer)) ∧
    ∀ config session begun now, session.authorizationId = authorizationId →
      session.authorizationLastCheckedAt + seconds config.authorizationCacheTtlSeconds ≤ begun →
      (Ended (refreshAuthorizationIfNeeded config iam session begun now answer).2
          authorizationId ↔
        StatusEnds iam authorizationId (endedStatus answer)) := by
  constructor
  · intro now
    obtain ⟨remoteExpiresAt, revokedAt, ends⟩ :=
      @revocationWebhook_ends iam answer saysEnded now authorizationId
    rw [ends, endAuthorization_ended_iff]
  · intro config session begun now same due
    subst same
    obtain ⟨remoteExpiresAt, revokedAt, ends⟩ :=
      @refreshAuthorization_ends iam answer config session begun saysEnded due now
    rw [ends, endAuthorization_ended_iff]

/-- Authorization 7 with one session, last checked at time 0. -/
def oneSession : Iam where
  users := .empty
  subjects := .empty
  authorizations := ⟨[⟨7, 5, none, "active", 0, none, none⟩], List.pairwise_singleton _ _⟩
  sessions := ⟨[⟨1, [], none, 5, 7, "pending", 1000, 0, 0⟩], List.pairwise_singleton _ _⟩
  auditEvents := []
  disabledBy := disabledBy_empty
  subjectUsers := subjectUsers_empty
  authorizationUsers := by decide
  references := by decide

/-- The server answers `suspended`: the status is refused, and the session stays. -/
theorem refused_status_keeps_sessions : SaysEnded (some ⟨false, "suspended", none, none⟩) ∧
    ¬ Ended (revocationWebhook oneSession 10 7 (some ⟨false, "suspended", none, none⟩)).2 7 := by
  refine ⟨by simp [SaysEnded], ?_⟩
  intro ended
  have deleted := ended.1 ⟨1, [], none, 5, 7, "pending", 1000, 0, 0⟩ (by decide)
  exact deleted rfl

theorem revocation_ends_sessions_revoked :
    Ended (revocationWebhook oneSession 10 7 (some ⟨false, "revoked", none, none⟩)).2 7 ∧
      ∃ session ∈ oneSession.findSession 1,
        Ended (refreshAuthorizationIfNeeded ⟨0, 24, 0, false⟩ oneSession session 10 10
          (some ⟨false, "revoked", none, none⟩)).2 7 := by
  have saysEnded : SaysEnded (some ⟨false, "revoked", none, none⟩) := by simp [SaysEnded]
  have paths := @revocation_ends_sessions_iff oneSession 7 _ saysEnded
  refine ⟨(paths.1 10).mpr (.inl rfl), _, rfl, ?_⟩
  exact (paths.2 ⟨0, 24, 0, false⟩ _ 10 10 rfl (by decide)).mpr (.inl rfl)

end TweetDb.Auth
