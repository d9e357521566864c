import TweetDb.Search.RowInvariants
import TweetDb.Transfer.RowInvariants

/-! # The two work queues

Transfer tasks and index tasks are leased by the same columns, although reports
are fenced in one queue only.  Both keep their rows well formed and their
attempts bounded all the same.
-/

namespace TweetDb.Queues

open Leasing Relational Transition Transfer Search

section Runs

variable {W : Type} [DecidableEq W] {config : Transfer.Config W} {maxAttempts : Int}
  {transferActions : List (Transfer.Action W)} {indexActions : List QueueAction}

/-- Rows fit their status in both queues, and a completed transfer has an object of its own. -/
theorem rows_well_formed {s : Transfer.System W} {q : QueueSystem}
    (transferRun : Run (Transfer.Step config) .start transferActions s)
    (indexRun : Run (QueueStep maxAttempts) .start indexActions q) :
    (∀ id row, s.task id = some row →
      (row.status = .processing ↔
        row.lease.claimedBy ≠ none ∧ row.lease.claimedAt ≠ none) ∧
      (row.lease.claimedBy ≠ none ↔ row.lease.claimedAt ≠ none) ∧
      (row.lease.completedAt ≠ none ↔
        row.status = .completed ∨ row.status = .failed ∨ row.status = .canceled) ∧
      (row.status = .completed → ∃ object stored, row.storageObjectId = some object ∧
        s.media.storageObject.find object = some stored)) ∧
    (∀ id id' row row' object, s.task id = some row → s.task id' = some row' →
      row.storageObjectId = some object → row'.storageObjectId = some object → id = id') ∧
    (∀ id row, q.queue.find id = some row →
      (row.status = .processing ↔
        row.lease.claimedBy ≠ none ∧ row.lease.claimedAt ≠ none) ∧
      (row.lease.claimedBy ≠ none ↔ row.lease.claimedAt ≠ none) ∧
      (row.lease.completedAt ≠ none ↔ row.status = .completed ∨ row.status = .failed)) := by
  have leases := run_leasesWellFormed transferRun
  have objects := run_objectsReferred transferRun
  have tasks := run_queueWellFormed indexRun
  refine ⟨?_, objects.apart, ?_⟩
  · intro id row found
    have lease := leases id row found
    refine ⟨lease.processing_iff, lease.claimedBy.trans lease.claimedAt.symm, lease.completedAt,
      fun completed => ?_⟩
    obtain ⟨object, refers⟩ :=
      Option.ne_none_iff_exists'.mp (objects.completed id row found completed)
    have stored := objects.stored id row object found refers
    obtain ⟨storedObject, isStored⟩ := Option.ne_none_iff_exists'.mp stored
    exact ⟨object, storedObject, refers, isStored⟩
  · intro id row found
    have lease := (tasks id row found).lease
    exact ⟨lease.processing_iff, lease.claimedBy.trans lease.claimedAt.symm, lease.completedAt⟩

end Runs

/-- A task taken over and completed in one queue, one refreshed while claimed in the other. -/
theorem rows_well_formed_takenOver :
    (∃ object stored, (afterTakeover.task 7).bind TransferTask.storageObjectId = some object ∧
      afterTakeover.media.storageObject.find object = some stored) ∧
    ∀ row, afterRefresh.queue.find 7 = some row → row.lease.completedAt ≠ none := by
  have wellFormed := @rows_well_formed _ _ twoWorkers 5 takenOver refreshedWhileClaimed
    afterTakeover afterRefresh (run_of_exec rfl) (run_of_exec rfl)
  constructor
  · obtain ⟨object, stored, refers, isStored⟩ := (wellFormed.1 7 _ rfl).2.2.2 rfl
    exact ⟨object, stored, refers, isStored⟩
  · intro row found
    have completed : row.status = .completed := by
      cases found
      rfl
    exact (wellFormed.2.2 7 row found).2.2.mpr (.inl completed)

section Attempts

variable {W : Type} [DecidableEq W] {config : Transfer.Config W} {maxAttempts : Int}
  {transferActions : List (Transfer.Action W)} {indexActions : List QueueAction}

/-- No row is attempted more often than allowed, every row that waits has an attempt left, and
every stale claim is either taken over or expired. -/
theorem attempts_bounded {s : Transfer.System W} {count : Uuid → Nat} {q : QueueSystem}
    (allowed : 1 ≤ config.maxAttempts) (indexAllowed : 1 ≤ maxAttempts)
    (transferRun :
      Run (Takes (countedNext config)) (.start, fun _ => 0) transferActions (s, count))
    (indexRun : Run (QueueStep maxAttempts) .start indexActions q) :
    (∀ id row, s.task id = some row →
      row.attemptCount ≤ config.maxAttempts + count id ∧
      (row.status = .pending → row.attemptCount < config.maxAttempts + count id) ∧
      (row.status = .processing →
        ∃ claimedAt, row.lease.claimedAt = some claimedAt ∧ ∀ staleCutoff,
          (claimedAt ≤ staleCutoff → (row.lease.claimable staleCutoff config.maxAttempts = true ↔
            ¬ row.lease.expirable staleCutoff config.maxAttempts = true)) ∧
          (staleCutoff < claimedAt →
            row.lease.claimable staleCutoff config.maxAttempts = false ∧
            row.lease.expirable staleCutoff config.maxAttempts = false))) ∧
    (∀ id row, q.queue.find id = some row →
      row.lease.attemptCount ≤ maxAttempts ∧
      (row.status = .pending → row.lease.attemptCount < maxAttempts) ∧
      (row.status = .processing →
        ∃ claimedAt, row.lease.claimedAt = some claimedAt ∧ ∀ staleCutoff,
          (claimedAt ≤ staleCutoff → (row.lease.claimable staleCutoff maxAttempts = true ↔
            ¬ row.lease.expirable staleCutoff maxAttempts = true)) ∧
          (staleCutoff < claimedAt → row.lease.claimable staleCutoff maxAttempts = false ∧
            row.lease.expirable staleCutoff maxAttempts = false))) := by
  have leases := run_leasesWellFormed (run_of_counted transferRun)
  have bounded := run_attemptsBounded (by omega) transferRun
  have tasks := run_queueWellFormed indexRun
  constructor
  · intro id row found
    have within := bounded id row found
    exact ⟨within.le, within.waiting, fun processing =>
      (leases id row found).claim_fate transferTerminal processing _⟩
  · intro id row found
    have wellFormed := tasks id row found
    have within := wellFormed.attempts (by omega)
    exact ⟨within.le, within.waiting, fun processing =>
      wellFormed.lease.claim_fate indexTerminal processing _⟩

end Attempts

def oneAttempt : Transfer.Config Unit where
  maxAttempts := 1
  workerName _ := "transfer-worker-1"

/-- The only attempt fails, an administrator retries, and a second one is taken. -/
def failedAndRetried : List (Transfer.Action Unit) :=
  [.enqueue [⟨7, 1, 0, "https://pbs.twimg.com/a.jpg", "photo", none⟩] 0, .claim () 0 [] 10,
    .processFails () "timeout", .markFailed () 20, .retry 7 30, .claim () 0 [] 40]

def afterRetry : Transfer.System Unit × (Uuid → Nat) :=
  (exec (countedNext oneAttempt) (.start, fun _ => 0) failedAndRetried).getD (.start, fun _ => 0)

theorem attempts_bounded_retried :
    (afterRetry.1.task 7).map TransferTask.attemptCount = some 2 ∧ (2 : Int) ≤ 1 + afterRetry.2 7 ∧
      afterRetry.2 7 = 1 := by
  have bounded := (@attempts_bounded _ _ oneAttempt 5 failedAndRetried refreshedWhileClaimed
    afterRetry.1 afterRetry.2 afterRefresh (by decide) (by decide) (run_of_exec rfl)
    (run_of_exec rfl)).1 7 _ rfl
  exact ⟨rfl, bounded.1, rfl⟩

end TweetDb.Queues
