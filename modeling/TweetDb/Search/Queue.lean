import Mathlib.Data.List.Dedup
import TweetDb.Basic
import TweetDb.Leasing.Queue

/-! # The search index queue

`search.index_queue` and the statements of `search/queue.rs` and
`search.enqueue_targets`.  Every report carries the worker and the time of its
claim, and its `WHERE` clause asks for both.
-/

namespace TweetDb.Search

open Leasing Relational

inductive IndexTargetKind where
  | user
  | tweet
deriving DecidableEq, Repr

structure IndexTarget where
  kind : IndexTargetKind
  id : Int
deriving DecidableEq, Repr

/-- `search.index_task_status`. -/
inductive IndexTaskStatus where
  | pending
  | processing
  | completed
  | failed
deriving DecidableEq, Repr

instance : TaskStatus IndexTaskStatus := ⟨.pending, .processing, .completed, .failed⟩

@[simp] theorem pending_eq : (TaskStatus.pending : IndexTaskStatus) = .pending := rfl
@[simp] theorem processing_eq : (TaskStatus.processing : IndexTaskStatus) = .processing := rfl
@[simp] theorem completed_eq : (TaskStatus.completed : IndexTaskStatus) = .completed := rfl
@[simp] theorem failed_eq : (TaskStatus.failed : IndexTaskStatus) = .failed := rfl

/-- A row of `search.index_queue`. -/
structure IndexTask where
  id : Uuid
  target : IndexTarget
  lease : Lease IndexTaskStatus
deriving DecidableEq, Repr

namespace IndexTask

def status (task : IndexTask) : IndexTaskStatus := task.lease.status

/-- The primary key and `uq_index_queue_target`. -/
instance : Row IndexTask Uuid where
  key := IndexTask.id
  clash a b := a.id = b.id ∨ a.target = b.target
  clash_of_key := .inl
  clash_symm := by
    rintro a b (same | same)
    · exact .inl same.symm
    · exact .inr same.symm
  decidableKey := inferInstance
  decidableClash := fun a b => inferInstanceAs (Decidable (a.id = b.id ∨ a.target = b.target))

@[simp] theorem key_eq (task : IndexTask) : Row.key task = task.id := rfl

def setLease (set : Lease IndexTaskStatus → Lease IndexTaskStatus) (task : IndexTask) : IndexTask :=
  { task with lease := set task.lease }

instance : LeasedRow IndexTask IndexTaskStatus where
  lease := IndexTask.lease
  setLease := setLease
  setLease_keeps _ := ⟨fun _ => rfl, fun _ _ => Iff.rfl⟩
  lease_setLease _ _ := rfl

end IndexTask

/-- The columns `claim_next_tasks` returns. -/
structure ClaimedIndexTask where
  id : Uuid
  target : IndexTarget
  attemptCount : Int
  claimedBy : String
  claimedAt : Timestamp
deriving DecidableEq, Repr

inductive EnqueueStatus where
  | enqueued
  | refreshed
deriving DecidableEq, Repr

/-! ## Statements -/

/-- The `DO UPDATE` of `enqueue_targets` with `p_force_refresh`. -/
def refreshLease (now : Timestamp) (lease : Lease IndexTaskStatus) : Lease IndexTaskStatus :=
  { lease with
    status := .pending
    attemptCount := 0
    lastError := none
    claimedBy := none
    claimedAt := none
    completedAt := none
    updatedAt := now }

def hasTarget (queue : Table IndexTask) (target : IndexTarget) : Bool :=
  queue.rows.any fun row => decide (row.target = target)

/-- One row of the upsert; a generated id that is already taken fails it. -/
def enqueueTarget (forceRefresh : Bool) (newId : IndexTarget → Uuid) (now : Timestamp)
    (queue : Table IndexTask) (target : IndexTarget) :
    Option (EnqueueStatus × Table IndexTask) :=
  if hasTarget queue target then
    some (.refreshed, updateLease queue (fun row => decide (row.target = target))
      fun lease => if forceRefresh then refreshLease now lease else lease)
  else
    (queue.insert ⟨newId target, target, .created now⟩).map fun queue => (.enqueued, queue)

def enqueueTargets (targets : List IndexTarget) (forceRefresh : Bool)
    (newId : IndexTarget → Uuid) (now : Timestamp) (queue : Table IndexTask) :
    Option (List (IndexTarget × EnqueueStatus) × Table IndexTask) :=
  targets.dedup.foldlM (fun (statuses, queue) target =>
    (enqueueTarget forceRefresh newId now queue target).map fun (status, queue) =>
      (statuses ++ [(target, status)], queue)) ([], queue)

/-- The columns a claim returns; the row has just been given the two stamps. -/
def ClaimedIndexTask.ofRow (workerName : String) (now : Timestamp) (row : IndexTask) :
    ClaimedIndexTask where
  id := row.id
  target := row.target
  attemptCount := row.lease.attemptCount
  claimedBy := workerName
  claimedAt := now

def claimNextTasks (staleCutoff : Timestamp) (maxAttempts : Int) (workerName : String)
    (batchSize : Nat) (locked : List Uuid) (now : Timestamp) (queue : Table IndexTask) :
    List ClaimedIndexTask × Table IndexTask :=
  let candidates := claimCandidates staleCutoff maxAttempts locked batchSize queue
  let claimed := claimRows candidates workerName now queue
  (claimed.1.map (.ofRow workerName now), claimed.2)

/-- `WHERE id = … AND status = 'processing' AND claimed_by = … AND claimed_at = …`. -/
def ClaimedIndexTask.holds (task : ClaimedIndexTask) (row : IndexTask) : Bool :=
  decide (row.id = task.id) && row.lease.heldUnder task.claimedBy task.claimedAt

def markTasksCompleted (tasks : List ClaimedIndexTask) (now : Timestamp)
    (queue : Table IndexTask) : Nat × Table IndexTask :=
  let held := fun row => tasks.any fun task => task.holds row
  (queue.rows.countP held, updateLease queue held fun lease => lease.complete now)

/-- `truncate_error_message`, to `MAX_QUERY_CHARS * 8` characters. -/
def truncateErrorMessage (value : String) : String :=
  String.ofList (value.toList.take (256 * 8))

def markTaskFailed (task : ClaimedIndexTask) (errorMessage : String) (maxAttempts : Int)
    (now : Timestamp) (queue : Table IndexTask) : Bool × Table IndexTask :=
  (queue.rows.any task.holds,
    updateLease queue task.holds fun lease =>
      lease.fail (truncateErrorMessage errorMessage) maxAttempts now)

def expireStaleTasks (staleCutoff : Timestamp) (maxAttempts : Int) (now : Timestamp)
    (queue : Table IndexTask) : Table IndexTask :=
  expireStale staleCutoff maxAttempts "attempt_timeout" now queue

/-! ## What each statement does to a row -/

section Rows

variable {queue queue' : Table IndexTask} {targets : List IndexTarget} {forceRefresh : Bool}
  {newId : IndexTarget → Uuid} {now staleCutoff : Timestamp} {maxAttempts : Int}

/-- What `enqueue_targets` makes of a stored row. -/
def refreshRow (targets : List IndexTarget) (forceRefresh : Bool) (now : Timestamp)
    (row : IndexTask) : IndexTask :=
  if row.target ∈ targets ∧ forceRefresh = true then row.setLease (refreshLease now) else row

theorem refreshRow_of_mem {row : IndexTask} (named : row.target ∈ targets) :
    refreshRow targets true now row = row.setLease (refreshLease now) :=
  if_pos ⟨named, rfl⟩

theorem refreshRow_of_not_mem {row : IndexTask} (notNamed : row.target ∉ targets) :
    refreshRow targets forceRefresh now row = row :=
  if_neg fun both => notNamed both.1

@[simp] theorem refreshRow_false (row : IndexTask) : refreshRow targets false now row = row :=
  if_neg (by simp)

@[simp] theorem refreshRow_created (id : Uuid) (target : IndexTarget) :
    refreshRow targets forceRefresh now ⟨id, target, .created now⟩ =
      ⟨id, target, .created now⟩ := by
  unfold refreshRow
  split <;> rfl

theorem refreshRow_cons (target : IndexTarget) (row : IndexTask) :
    refreshRow targets forceRefresh now (refreshRow [target] forceRefresh now row) =
      refreshRow (target :: targets) forceRefresh now row := by
  cases forceRefresh with
  | false => simp
  | true =>
    by_cases first : row.target = target
    · have once : refreshRow [target] true now row = row.setLease (refreshLease now) :=
        refreshRow_of_mem (List.mem_singleton.mpr first)
      have both : refreshRow (target :: targets) true now row = row.setLease (refreshLease now) :=
        refreshRow_of_mem (List.mem_cons.mpr (.inl first))
      rw [once, both]
      unfold refreshRow
      split <;> rfl
    · have notFirst : refreshRow [target] true now row = row :=
        refreshRow_of_not_mem fun named => first (List.mem_singleton.mp named)
      rw [notFirst]
      simp [refreshRow, first]

/-- A refresh keeps stored rows up to their lease; it adds pending rows only for
the targets it names. -/
structure Enqueued (targets : List IndexTarget) (forceRefresh : Bool) (now : Timestamp)
    (queue queue' : Table IndexTask) : Prop where
  stored : ∀ id row, queue.find id = some row →
    queue'.find id = some (refreshRow targets forceRefresh now row)
  fresh : ∀ id, queue.find id = none → queue'.find id = none ∨
    ∃ target ∈ targets, queue'.find id = some ⟨id, target, .created now⟩

theorem find_enqueueTarget {target : IndexTarget} {status : EnqueueStatus}
    (upserted : enqueueTarget forceRefresh newId now queue target = some (status, queue')) :
    Enqueued [target] forceRefresh now queue queue' := by
  unfold enqueueTarget at upserted
  split at upserted
  next present =>
    cases upserted
    constructor
    · intro id row found
      rw [find_updateLease, found, Option.map_some]
      cases forceRefresh <;> simp [refreshRow, LeasedRow.setLease, IndexTask.setLease]
    · intro id absent
      rw [find_updateLease, absent, Option.map_none]
      exact .inl rfl
  next absent =>
    obtain ⟨inserted, result, same⟩ := Option.map_eq_some_iff.mp upserted
    cases same
    have noTarget : ∀ row ∈ queue.rows, row.target ≠ target := by
      simpa [hasTarget] using absent
    constructor
    · intro id row found
      rw [Table.find_insert result, if_neg, refreshRow_of_not_mem]
      · exact found
      · simpa using noTarget row (Table.mem_of_find found)
      · intro same
        rw [← same, Table.insert_fresh result] at found
        cases found
    · intro id missing
      rw [Table.find_insert result]
      split
      next same =>
        subst same
        exact .inr ⟨target, List.mem_singleton_self _, rfl⟩
      next => exact .inl missing

theorem Enqueued.trans {target : IndexTarget} {middle : Table IndexTask}
    (first : Enqueued [target] forceRefresh now queue middle)
    (rest : Enqueued targets forceRefresh now middle queue') :
    Enqueued (target :: targets) forceRefresh now queue queue' where
  stored id row found := by
    rw [← refreshRow_cons]
    exact rest.stored _ _ (first.stored _ _ found)
  fresh id absent := by
    rcases first.fresh id absent with missing | ⟨named, member, found⟩
    · rcases rest.fresh id missing with missing' | ⟨named, member, found⟩
      · exact .inl missing'
      · exact .inr ⟨named, List.mem_cons_of_mem _ member, found⟩
    · refine .inr ⟨named, List.mem_cons.mpr (.inl (List.mem_singleton.mp member)), ?_⟩
      rw [rest.stored _ _ found, refreshRow_created]

theorem find_enqueueTargets {statuses : List (IndexTarget × EnqueueStatus)}
    (upserted : enqueueTargets targets forceRefresh newId now queue = some (statuses, queue')) :
    Enqueued targets forceRefresh now queue queue' := by
  have fold : ∀ (list : List IndexTarget) (before after : List (IndexTarget × EnqueueStatus))
      (queue : Table IndexTask),
      list.foldlM (fun (statuses, queue) target =>
        (enqueueTarget forceRefresh newId now queue target).map fun (status, queue) =>
          (statuses ++ [(target, status)], queue)) (before, queue) = some (after, queue') →
      Enqueued list forceRefresh now queue queue' := by
    intro list
    induction list with
    | nil =>
      intro before after queue result
      cases result
      exact ⟨fun id row found => by rwa [refreshRow_of_not_mem List.not_mem_nil],
        fun id absent => .inl absent⟩
    | cons target list inductionHypothesis =>
      intro before after queue result
      simp only [List.foldlM_cons, Option.bind_eq_bind, Option.bind_eq_some_iff] at result
      obtain ⟨⟨statuses, middle⟩, first, rest⟩ := result
      obtain ⟨⟨status, table⟩, upsertedFirst, same⟩ := Option.map_eq_some_iff.mp first
      cases same
      exact (find_enqueueTarget upsertedFirst).trans (inductionHypothesis _ _ _ rest)
  have distinct := fold _ _ _ _ upserted
  refine ⟨fun id row found => ?_, fun id absent => ?_⟩
  · rw [distinct.stored id row found]
    simp [refreshRow]
  · simpa using distinct.fresh id absent

theorem claimNextTasks_cases {workerName : String} {batchSize : Nat} {locked : List Uuid}
    {claimed : List ClaimedIndexTask}
    (result : claimNextTasks staleCutoff maxAttempts workerName batchSize locked now queue =
      (claimed, queue')) :
    (∀ task ∈ claimed, ∃ row, queue.find task.id = some row ∧
      row.lease.claimable staleCutoff maxAttempts = true ∧
      task = .ofRow workerName now (row.setLease fun lease => lease.claim workerName now)) ∧
    ∀ id, queue'.find id =
      if id ∈ claimed.map ClaimedIndexTask.id
      then (queue.find id).map (.setLease fun lease => lease.claim workerName now)
      else queue.find id := by
  simp only [claimNextTasks, Prod.mk.injEq] at result
  obtain ⟨rfl, rfl⟩ := result
  have sameIds : ((claimRows (claimCandidates staleCutoff maxAttempts locked batchSize queue)
      workerName now queue).1.map (ClaimedIndexTask.ofRow workerName now)).map
        ClaimedIndexTask.id =
      (claimCandidates staleCutoff maxAttempts locked batchSize queue).map Row.key := by
    simp only [claimRows, List.map_map]
    rfl
  constructor
  · intro task member
    simp only [claimRows, List.map_map, List.mem_map] at member
    obtain ⟨row, candidate, rfl⟩ := member
    obtain ⟨found, claimable, _⟩ := mem_claimCandidates candidate
    exact ⟨row, found, claimable, rfl⟩
  · intro id
    rw [sameIds, find_claimRows]
    rfl

theorem find_markTasksCompleted {tasks : List ClaimedIndexTask} {id : Uuid} :
    (markTasksCompleted tasks now queue).2.find id =
      (queue.find id).map fun row =>
        if tasks.any fun task => task.holds row
        then row.setLease fun lease => lease.complete now else row :=
  find_updateLease _ _ _ _

theorem find_markTaskFailed {task : ClaimedIndexTask} {errorMessage : String} {id : Uuid} :
    (markTaskFailed task errorMessage maxAttempts now queue).2.find id =
      (queue.find id).map fun row =>
        if task.holds row
        then row.setLease fun lease =>
          lease.fail (truncateErrorMessage errorMessage) maxAttempts now
        else row :=
  find_updateLease _ _ _ _

theorem find_expireStaleTasks {id : Uuid} :
    (expireStaleTasks staleCutoff maxAttempts now queue).find id =
      (queue.find id).map fun row =>
        if row.lease.expirable staleCutoff maxAttempts
        then row.setLease fun lease => lease.expire "attempt_timeout" now else row :=
  find_updateLease _ _ _ _

end Rows

end TweetDb.Search
