import TweetDb.Auth.Server

/-! # The absolute lifetime of a session

A renewal computes the new expiry from the creation time in the record the
request has read, which is still the creation time of the session it touches.
-/

namespace TweetDb.Auth

open Relational Transition

/-- The end of the absolute lifetime. -/
def SessionConfig.absoluteEnd (config : SessionConfig) (createdAt : Timestamp) : Timestamp :=
  createdAt + hours config.absoluteTtlHours

theorem sessionExpiresAt_le {config : SessionConfig} (absolute : 0 < config.absoluteTtlHours)
    (createdAt now : Timestamp) :
    sessionExpiresAt config createdAt now ≤ config.absoluteEnd createdAt := by
  simp only [sessionExpiresAt, SessionConfig.absoluteEnd, gt_iff_lt, absolute, if_true]
  split
  · exact le_refl _
  next below => exact not_lt.mp below

theorem absoluteEnd_mono (config : SessionConfig) {earlier later : Timestamp}
    (before : earlier ≤ later) : config.absoluteEnd earlier ≤ config.absoluteEnd later :=
  Int.add_le_add_right before _

/-- No session outlives the bound, and no request that has arrived after it goes on. -/
structure Bounded (config : SessionConfig) (s : Server) : Prop where
  tracked : Tracked s
  sessions : ∀ session ∈ s.iam.sessions.rows,
    session.expiresAt ≤ config.absoluteEnd session.createdAt
  records : ∀ call request session, (s.calls call).record = some (request, session) →
    request.now < config.absoluteEnd session.createdAt

section Steps

variable {config : SessionConfig} {s t : Server} {action : Action}

theorem Bounded.step (absolute : 0 < config.absoluteTtlHours) (bounded : Bounded config s)
    (taken : Step config s action t) : Bounded config t := by
  refine ⟨bounded.tracked.step taken, ?_, ?_⟩
  · intro row present
    cases step_session taken present with
    | kept stored => exact bounded.sessions row stored
    | @touched call request session old resolved stored same isNew =>
      have holds : (s.calls call).record = some (request, session) := by
        rw [resolved]
        rfl
      have tracked := bounded.tracked.records call request session holds
      -- The touched row is the one the record was read from.
      have created := (tracked.2.2 old stored (same.trans tracked.1.symm)).2
      subst isNew
      have renewed := sessionExpiresAt_le absolute session.createdAt request.now
      rw [← created] at renewed ⊢
      exact renewed
    | activated _ stored _ isNew =>
      subst isNew
      have bound := bounded.sessions _ stored
      exact bound
    | @opened call exchange now createdAt existing selector verifierHash _ _ _ begun isNew =>
      subst isNew
      -- The application reads its clock before the database does.
      calc sessionExpiresAt config now now
          ≤ config.absoluteEnd now := sessionExpiresAt_le absolute now now
        _ ≤ config.absoluteEnd createdAt := absoluteEnd_mono config begun
  · intro call request session holds
    rcases step_record taken holds with ⟨held, before, same⟩ | reads
    · obtain ⟨_, _, _, _, _, created⟩ := SessionRecord.of_fixed same
      rw [created]
      exact bounded.records call request held before
    · obtain ⟨row, stored, _, read⟩ := findSession_row reads.found
      have bound := bounded.sessions row stored
      rw [← read.expiresAt, ← read.createdAt] at bound
      exact lt_of_lt_of_le reads.unexpired bound

theorem Bounded.of_starts (starts : Starts s) : Bounded config s := by
  refine ⟨.of_starts starts, ?_, ?_⟩
  · intro session present
    rw [starts.noSessions] at present
    cases present
  · intro call request session holds
    rw [starts.idle] at holds
    cases holds

end Steps

/-- However often sessions are renewed, none expires after its absolute lifetime, and a request that
arrives after it is given no session. -/
theorem session_lifetime_bounded {config : SessionConfig} (absolute : 0 < config.absoluteTtlHours)
    {start s : Server} {actions : List Action} (starts : Starts start)
    (ran : Run (Step config) start actions s) :
    (∀ session ∈ s.iam.sessions.rows,
      session.expiresAt ≤ session.createdAt + hours config.absoluteTtlHours) ∧
    ∀ call request session, s.calls call = .handling request (some session) →
      request.now < session.createdAt + hours config.absoluteTtlHours ∧
        ∀ row ∈ s.iam.sessions.rows, row.selector = request.selector →
          row.createdAt = session.createdAt := by
  have bounded : Bounded config s :=
    ran.invariant (fun _ _ _ bounded taken => bounded.step absolute taken) (.of_starts starts)
  refine ⟨bounded.sessions, ?_⟩
  intro call request session handling
  have holds : (s.calls call).record = some (request, session) := by
    rw [handling]
    rfl
  have tracked := bounded.tracked.records call request session holds
  refine ⟨bounded.records call request session holds, ?_⟩
  intro row stored same
  exact (tracked.2.2 row stored (same.trans tracked.1.symm)).2

/-- A session of 24 hours, renewed after 23 hours, of which the whole lifetime is 30 hours. -/
def renewed : List Action :=
  signIn 0 ⟨7, 70⟩ 1 0 ++ [.tick (hours 23)] ++
    [.arrive 1 1 [] true, .findSession 1, .checkCache 1, .checkAuthorization 1
      (some ⟨true, "active", none, none⟩), .updateStatus 1, .handOver 1]

theorem session_lifetime_bounded_renewed : ∃ s session,
    exec (next ⟨300, 24, 30, true⟩) emptyServer renewed = some s ∧
      s.calls 1 = .handling ⟨1, [], true, hours 23⟩ (some session) ∧
      session.expiresAt = hours 30 ∧
      ∀ row ∈ s.iam.sessions.rows, row.expiresAt ≤ row.createdAt + hours 30 := by
  refine ⟨_, _, rfl, rfl, rfl, ?_⟩
  exact (@session_lifetime_bounded ⟨300, 24, 30, true⟩ (by decide) emptyServer _ renewed
    emptyServer_starts (run_of_exec rfl)).1

end TweetDb.Auth
