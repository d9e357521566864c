import TweetDb.Leasing.WellFormed
import TweetDb.Transfer.Workers

/-! # Invariants of the transfer tasks

What holds of every row of `media.transfer_task` in every interleaving, late
reports and admin transitions included.  A report writes all columns that
depend on the status, so the row it finds makes no difference.
-/

namespace TweetDb.Transfer

open Leasing Relational Transition

variable {W : Type}

def TransferStatus.terminal (status : TransferStatus) : Prop :=
  status = .completed ∨ status = .failed ∨ status = .canceled

theorem transferTerminal : Terminal TransferStatus.terminal := by
  constructor <;> simp [TransferStatus.terminal]

/-! ## Leases -/

section Leases

variable {config : Config W} {s t : System W} {action : Action W} {id : Uuid}
  {row row' : TransferTask}

theorem RowChange.wellFormed (change : RowChange config s id action row row')
    (wellFormed : row.lease.WellFormed TransferStatus.terminal) :
    row'.lease.WellFormed TransferStatus.terminal := by
  cases change with
  | expired => exact Lease.wellFormed_expire transferTerminal _ _
  | claimed _ claimable => exact wellFormed.claim transferTerminal claimable _ _
  | completed => exact Lease.wellFormed_complete transferTerminal _
  | failed => exact Lease.wellFormed_fail transferTerminal _ _ _
  | retried | released => exact Lease.wellFormed_requeue transferTerminal _ _
  | canceled => exact .done transferTerminal rfl rfl nofun (.inr (.inr rfl))

/-- The claim columns and the completion time of every task fit its status. -/
def LeasesWellFormed (s : System W) : Prop :=
  ∀ id row, s.task id = some row → row.lease.WellFormed TransferStatus.terminal

theorem LeasesWellFormed.step [DecidableEq W] (wellFormed : LeasesWellFormed s)
    (taken : Step config s action t) : LeasesWellFormed t := by
  intro id row' found
  cases step_row taken id with
  | kept same => exact wellFormed id row' (same ▸ found)
  | added _ _ isNew =>
    rw [isNew, Option.some.injEq] at found
    subst found
    exact Lease.wellFormed_created transferTerminal _
  | changed before after change =>
    rw [after, Option.some.injEq] at found
    subst found
    exact change.wellFormed (wellFormed id _ before)

theorem run_leasesWellFormed [DecidableEq W] {actions : List (Action W)}
    (run : Run (Step config) .start actions s) : LeasesWellFormed s := by
  refine run.invariant (fun _ _ _ wellFormed taken => wellFormed.step taken) ?_
  intro id row found
  cases found

end Leases

/-! ## Storage objects -/

section Objects

variable {config : Config W} {s t : System W} {action : Action W}

/-- Storage objects are only added. -/
theorem step_objects [DecidableEq W] (taken : Step config s action t) (object : Uuid)
    (stored : s.media.storageObject.find object ≠ none) :
    t.media.storageObject.find object ≠ none := by
  cases action with
  | enqueue items now =>
    obtain ⟨tasks, _, rfl⟩ := Option.map_eq_some_iff.mp taken
    exact stored
  | persist worker uploaded databaseError now =>
    simp only [Step, Takes, next] at taken
    split at taken
    next task _ =>
      split at taken <;> cases taken
      · next media persisted =>
        -- The transaction inserts the row of the uploaded object and updates the task.
        unfold persistCompletedTask at persisted
        split at persisted
        next => cases persisted
        next =>
          obtain ⟨objects, inserted, rfl⟩ := Option.map_eq_some_iff.mp persisted
          have found := Table.find_insert inserted object
          show objects.find object ≠ none
          rw [found]
          split
          · exact Option.some_ne_none _
          · exact stored
      · exact stored
    next => cases taken
  | claim worker staleCutoff locked now =>
    simp only [Step, Takes, next] at taken
    split at taken
    next => split at taken <;> cases taken <;> exact stored
    next => cases taken
  | processFails | markFailed | markFailedLost =>
    simp only [Step, Takes, next] at taken
    split at taken <;> cases taken
    exact stored
  | expireStale | crash =>
    cases taken
    exact stored
  | retry id now | cancel id now | release id now =>
    cases taken
    unfold System.transition
    split <;> exact stored

/-- The task refers to the object, or did so before the step. -/
inductive ObjectOrigin (s t : System W) (action : Action W) (id object : Uuid) : Prop where
  | kept {row : TransferTask} (found : s.task id = some row)
      (refers : row.storageObjectId = some object)
  | persisted {worker : W} {task : ClaimedTransferTask} {uploaded : StoredObjectMetadata}
      {databaseError : String} {now : Timestamp}
      (isPersist : action = .persist worker uploaded databaseError now)
      (transferring : s.workers worker = .transferring task) (same : task.id = id)
      (isNew : s.media.storageObject.find object = none)
      (stored : t.media.storageObject.find object ≠ none)

theorem persisted_object [DecidableEq W] {worker : W} {task : ClaimedTransferTask}
    {uploaded : StoredObjectMetadata} {databaseError : String} {now : Timestamp}
    {media : MediaSchema}
    (taken : Step config s (.persist worker uploaded databaseError now) t)
    (transferring : s.workers worker = .transferring task)
    (persisted : persistCompletedTask task.id uploaded now s.media = some media) :
    s.media.storageObject.find uploaded.id = none ∧
      t.media.storageObject.find uploaded.id ≠ none := by
  simp only [Step, Takes, next, transferring, persisted] at taken
  cases taken
  unfold persistCompletedTask at persisted
  split at persisted
  next => cases persisted
  next =>
    obtain ⟨objects, inserted, rfl⟩ := Option.map_eq_some_iff.mp persisted
    constructor
    · exact Table.insert_fresh inserted
    · have found := Table.find_insert inserted uploaded.id
      show objects.find uploaded.id ≠ none
      rw [found]
      split
      · exact Option.some_ne_none _
      next different => exact absurd rfl different

theorem step_object [DecidableEq W] {id object : Uuid} {row' : TransferTask}
    (taken : Step config s action t) (found : t.task id = some row')
    (refers : row'.storageObjectId = some object) :
    ObjectOrigin s t action id object := by
  cases step_row taken id with
  | kept same =>
    rw [same] at found
    exact .kept found refers
  | added _ _ isNew =>
    rw [isNew, Option.some.injEq] at found
    subst found
    cases refers
  | changed before after change =>
    rw [after, Option.some.injEq] at found
    subst found
    cases change with
    -- No other change of a row writes `storage_object_id`.
    | completed transferring same persisted =>
      cases refers
      obtain ⟨isNew, stored⟩ := persisted_object taken transferring persisted
      exact .persisted rfl transferring same isNew stored
    | expired | claimed | failed | retried | canceled | released => exact .kept before refers

/-- A completed task has an object, every object referred to exists, and only one task refers to
it. -/
structure ObjectsReferred (s : System W) : Prop where
  completed : ∀ id row, s.task id = some row → row.status = .completed →
    row.storageObjectId ≠ none
  stored : ∀ id row object, s.task id = some row → row.storageObjectId = some object →
    s.media.storageObject.find object ≠ none
  apart : ∀ id id' row row' object, s.task id = some row → s.task id' = some row' →
    row.storageObjectId = some object → row'.storageObjectId = some object → id = id'

/-- Only a report of success completes a task, and it names the object. -/
theorem RowChange.object {id : Uuid} {row row' : TransferTask}
    (change : RowChange config s id action row row') (isCompleted : row'.status = .completed) :
    row'.storageObjectId ≠ none := by
  cases change with
  | completed => nofun
  | failed =>
    rcases Lease.fail_status row.lease _ _ _ with isFailed | pending
    · exact absurd (isFailed.symm.trans isCompleted) (by simp)
    · exact absurd (pending.symm.trans isCompleted) (by simp)
  | expired | claimed | retried | canceled | released => cases isCompleted

theorem ObjectsReferred.step [DecidableEq W] (referred : ObjectsReferred s)
    (taken : Step config s action t) : ObjectsReferred t := by
  constructor
  · intro id row' found isCompleted
    cases step_row taken id with
    | kept same => exact referred.completed id row' (same ▸ found) isCompleted
    | added _ _ isNew =>
      rw [isNew, Option.some.injEq] at found
      subst found
      cases isCompleted
    | changed before after change =>
      rw [after, Option.some.injEq] at found
      subst found
      exact change.object isCompleted
  · intro id row' object found refers
    cases step_object taken found refers with
    | kept before refers =>
      exact step_objects taken object (referred.stored id _ object before refers)
    | persisted _ _ _ _ stored => exact stored
  · intro id id' row row' object found found' refers refers'
    -- An object just uploaded is one that no task has referred to.
    cases step_object taken found refers with
    | kept before refers =>
      cases step_object taken found' refers' with
      | kept before' refers' => exact referred.apart id id' _ _ object before before' refers refers'
      | persisted _ _ _ isNew _ => exact absurd isNew (referred.stored id _ object before refers)
    | persisted isPersist transferring same isNew _ =>
      cases step_object taken found' refers' with
      | kept before' refers' =>
        exact absurd isNew (referred.stored id' _ object before' refers')
      -- Both come from the one report of this step, which is about one task.
      | persisted isPersist' transferring' same' _ _ =>
        rw [isPersist] at isPersist'
        cases isPersist'
        rw [transferring] at transferring'
        cases transferring'
        exact same.symm.trans same'

theorem run_objectsReferred [DecidableEq W] {actions : List (Action W)}
    (run : Run (Step config) .start actions s) : ObjectsReferred s := by
  refine run.invariant (fun _ _ _ referred taken => referred.step taken) ?_
  constructor
  · intro id row found
    cases found
  · intro id row object found
    cases found
  · intro id id' row row' object found
    cases found

end Objects

/-! ## Attempts -/

section Attempts

variable {config : Config W} {s t : System W} {action : Action W}

/-- The step is an admin retry or release of the task that is not refused. -/
def System.requeues (s : System W) (id : Uuid) : Action W → Bool
  | .retry target now => decide (target = id) && (retryTask target now s.media.transferTask).isOk
  | .release target now =>
    decide (target = id) && (releaseTask target now s.media.transferTask).isOk
  | _ => false

/-- The system with the number of admin retries and releases of each task so far. -/
def countedNext [DecidableEq W] (config : Config W) (s : System W × (Uuid → Nat))
    (action : Action W) : Option (System W × (Uuid → Nat)) :=
  (next config s.1 action).map fun t =>
    (t, fun id => if s.1.requeues id action then s.2 id + 1 else s.2 id)

/-- The attempts of each task are within those allowed and one more for each time an
administrator sent it back. -/
def AttemptsBounded (config : Config W) (s : System W × (Uuid → Nat)) : Prop :=
  ∀ id row, s.1.task id = some row → row.lease.AttemptsWithin (config.maxAttempts + s.2 id)

theorem System.requeues_retry {id : Uuid} {row : TransferTask} {now : Timestamp}
    (found : s.task id = some row) (finished : row.status = .failed ∨ row.status = .canceled) :
    s.requeues id (.retry id now) = true := by
  simp only [System.task] at found
  simp [System.requeues, retryTask, transitionLockedTask, found, finished, Except.isOk,
    Except.toBool]

theorem System.requeues_release {id : Uuid} {row : TransferTask} {now : Timestamp}
    (found : s.task id = some row) (processing : row.status = .processing) :
    s.requeues id (.release id now) = true := by
  simp only [System.task] at found
  simp [System.requeues, releaseTask, transitionLockedTask, found, processing, Except.isOk,
    Except.toBool]

theorem RowChange.attempts {id : Uuid} {row row' : TransferTask} {count : Nat}
    (change : RowChange config s id action row row') (found : s.task id = some row)
    (within : row.lease.AttemptsWithin (config.maxAttempts + count)) :
    row'.lease.AttemptsWithin
      (config.maxAttempts + (if s.requeues id action then count + 1 else count : Nat)) := by
  have atLeast : config.maxAttempts ≤ config.maxAttempts + (count : Int) := by omega
  have oneMore : config.maxAttempts + ((count + 1 : Nat) : Int) =
      config.maxAttempts + count + 1 := by omega
  -- A claim adds an attempt, and only below the limit; an administrator may add one beyond it.
  cases change with
  | claimed _ claimable =>
    show Lease.AttemptsWithin (config.maxAttempts + (count : Int)) _
    exact within.claim transferTerminal atLeast claimable _ _
  | failed =>
    show Lease.AttemptsWithin (config.maxAttempts + (count : Int)) _
    exact within.fail transferTerminal atLeast _ _
  | expired | completed | canceled =>
    show Lease.AttemptsWithin (config.maxAttempts + (count : Int)) _
    exact within.of_done rfl nofun
  | retried finished =>
    rw [System.requeues_retry found finished, if_pos rfl, oneMore]
    exact within.requeue _ _
  | released processing =>
    rw [System.requeues_release found processing, if_pos rfl, oneMore]
    exact within.requeue _ _

theorem AttemptsBounded.step [DecidableEq W] {s t : System W × (Uuid → Nat)}
    (positive : 0 < config.maxAttempts) (bounded : AttemptsBounded config s)
    (taken : Takes (countedNext config) s action t) :
    AttemptsBounded config t := by
  obtain ⟨next, moved, rfl⟩ := Option.map_eq_some_iff.mp taken
  intro id row' found
  cases step_row moved id with
  | kept same =>
    apply (bounded id row' (same ▸ found)).mono
    show config.maxAttempts + (s.2 id : Int) ≤
      config.maxAttempts + ((if s.1.requeues id action then s.2 id + 1 else s.2 id : Nat) : Int)
    split <;> omega
  | added _ _ isNew =>
    simp only [isNew, Option.some.injEq] at found
    subst found
    exact (Lease.attemptsWithin_created positive _).mono (by omega)
  -- A retry or release that changes the row is one that has been counted.
  | changed before after change =>
    simp only [after, Option.some.injEq] at found
    subst found
    exact change.attempts before (bounded id _ before)

theorem run_attemptsBounded [DecidableEq W] {actions : List (Action W)} {count : Uuid → Nat}
    (positive : 0 < config.maxAttempts)
    (run : Run (Takes (countedNext config)) (.start, fun _ => 0) actions (s, count)) :
    AttemptsBounded config (s, count) := by
  have stays : ∀ (s : System W × (Uuid → Nat)) action t, AttemptsBounded config s →
      Takes (countedNext config) s action t → AttemptsBounded config t :=
    fun _ _ _ bounded taken => bounded.step positive taken
  refine Run.invariant stays run ?_
  intro id row found
  cases found

theorem run_of_counted [DecidableEq W] {actions : List (Action W)}
    {s t : System W × (Uuid → Nat)} (run : Run (Takes (countedNext config)) s actions t) :
    Run (Step config) s.1 actions t.1 := by
  induction run with
  | nil => exact .nil
  | snoc _ taken inductionHypothesis =>
    obtain ⟨next, moved, rfl⟩ := Option.map_eq_some_iff.mp taken
    exact .snoc inductionHypothesis moved

end Attempts

end TweetDb.Transfer
