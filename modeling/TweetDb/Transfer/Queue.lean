import TweetDb.Basic
import TweetDb.Leasing.Queue

/-! # The media transfer queue

`media.transfer_task`, `media.storage_object` and the statements that read and
write them: the worker's statements of `transfer/queue.rs` and the admin
transitions of `internal_api/v2/transfer.rs`.  The lease columns of a task are
the shared `Leasing.Lease`; what each statement updates is decided by the
`WHERE` clause written here.
-/

namespace TweetDb.Transfer

open Leasing Relational

/-- `media.transfer_status`, with the value added by the admin migration. -/
inductive TransferStatus where
  | pending
  | processing
  | completed
  | failed
  | canceled
deriving DecidableEq, Repr

instance : TaskStatus TransferStatus := ⟨.pending, .processing, .completed, .failed⟩

namespace TransferStatus

def asDbStr : TransferStatus → String
  | .pending => "pending"
  | .processing => "processing"
  | .completed => "completed"
  | .failed => "failed"
  | .canceled => "canceled"

@[simp] theorem pending_eq : (TaskStatus.pending : TransferStatus) = .pending := rfl
@[simp] theorem processing_eq : (TaskStatus.processing : TransferStatus) = .processing := rfl
@[simp] theorem completed_eq : (TaskStatus.completed : TransferStatus) = .completed := rfl
@[simp] theorem failed_eq : (TaskStatus.failed : TransferStatus) = .failed := rfl

end TransferStatus

/-- A row of `media.transfer_task`. -/
structure TransferTask where
  id : Uuid
  mediaId : Int
  sourceRecordedAt : Timestamp
  sourceUrl : String
  sourceKind : String
  sourceContentType : Option String
  lease : Lease TransferStatus
  storageObjectId : Option Uuid
deriving DecidableEq, Repr

namespace TransferTask

def status (task : TransferTask) : TransferStatus := task.lease.status

def attemptCount (task : TransferTask) : Int := task.lease.attemptCount

/-- `uq_transfer_task_media_resource`. -/
def sameSource (a b : TransferTask) : Prop :=
  a.mediaId = b.mediaId ∧ a.sourceRecordedAt = b.sourceRecordedAt

instance : DecidableRel sameSource := fun a b =>
  inferInstanceAs (Decidable (a.mediaId = b.mediaId ∧ a.sourceRecordedAt = b.sourceRecordedAt))

instance : Row TransferTask Uuid where
  key := TransferTask.id
  clash a b := a.id = b.id ∨ a.sameSource b
  clash_of_key := .inl
  clash_symm := by
    rintro a b (same | ⟨media, recorded⟩)
    · exact .inl same.symm
    · exact .inr ⟨media.symm, recorded.symm⟩
  decidableKey := inferInstance
  decidableClash := fun a b => inferInstanceAs (Decidable (a.id = b.id ∨ a.sameSource b))

@[simp] theorem key_eq (task : TransferTask) : Row.key task = task.id := rfl

/-- An update of the lease columns. -/
def setLease (set : Lease TransferStatus → Lease TransferStatus) (task : TransferTask) :
    TransferTask :=
  { task with lease := set task.lease }

instance : LeasedRow TransferTask TransferStatus where
  lease := TransferTask.lease
  setLease := setLease
  setLease_keeps _ := ⟨fun _ => rfl, fun _ _ => Iff.rfl⟩
  lease_setLease _ _ := rfl

end TransferTask

/-- `StoredObjectMetadata`, what a finished upload reports. -/
structure StoredObjectMetadata where
  id : Uuid
  provider : String
  bucket : String
  objectKey : String
  contentType : String
  contentLength : Int
  etag : Option String
  sha256Hex : String
deriving DecidableEq, Repr

/-- A row of `media.storage_object`. -/
structure StorageObject where
  metadata : StoredObjectMetadata
  createdAt : Timestamp
deriving DecidableEq, Repr

namespace StorageObject

/-- `uq_storage_object_provider_bucket_key`. -/
def sameObject (a b : StorageObject) : Prop :=
  a.metadata.provider = b.metadata.provider ∧ a.metadata.bucket = b.metadata.bucket ∧
    a.metadata.objectKey = b.metadata.objectKey

instance : DecidableRel sameObject := fun a b =>
  inferInstanceAs (Decidable (a.metadata.provider = b.metadata.provider ∧
    a.metadata.bucket = b.metadata.bucket ∧ a.metadata.objectKey = b.metadata.objectKey))

instance : Row StorageObject Uuid where
  key object := object.metadata.id
  clash a b := a.metadata.id = b.metadata.id ∨ a.sameObject b
  clash_of_key := .inl
  clash_symm := by
    rintro a b (same | ⟨provider, bucket, objectKey⟩)
    · exact .inl same.symm
    · exact .inr ⟨provider.symm, bucket.symm, objectKey.symm⟩
  decidableKey := inferInstance
  decidableClash := fun a b =>
    inferInstanceAs (Decidable (a.metadata.id = b.metadata.id ∨ a.sameObject b))

end StorageObject

/-- The two tables of schema `media`. -/
structure MediaSchema where
  transferTask : Table TransferTask
  storageObject : Table StorageObject

/-- `ClaimedTransferTask`, the columns `claim_next_task` returns. -/
structure ClaimedTransferTask where
  id : Uuid
  mediaId : Int
  sourceRecordedAt : Timestamp
  sourceUrl : String
  sourceKind : String
  sourceContentType : Option String
  attemptCount : Int
deriving DecidableEq, Repr

/-- The columns given to the `INSERT` of `enqueue_tasks`. -/
structure NewTransferTask where
  id : Uuid
  mediaId : Int
  sourceRecordedAt : Timestamp
  sourceUrl : String
  sourceKind : String
  sourceContentType : Option String
deriving DecidableEq, Repr

def NewTransferTask.row (item : NewTransferTask) (now : Timestamp) : TransferTask where
  id := item.id
  mediaId := item.mediaId
  sourceRecordedAt := item.sourceRecordedAt
  sourceUrl := item.sourceUrl
  sourceKind := item.sourceKind
  sourceContentType := item.sourceContentType
  lease := .created now
  storageObjectId := none

/-! ## The worker's statements -/

/-- `INSERT … ON CONFLICT (media_id, source_recorded_at) DO NOTHING`; a repeated
`id` is not covered by the conflict clause and fails the statement. -/
def insertTask (tasks : Table TransferTask) (task : TransferTask) : Option (Table TransferTask) :=
  if ∃ stored ∈ tasks.rows, stored.sameSource task then some tasks else tasks.insert task

def insertTasks (now : Timestamp) (items : List NewTransferTask) (tasks : Table TransferTask) :
    Option (Table TransferTask) :=
  items.foldlM (fun tasks item => insertTask tasks (item.row now)) tasks

def expireStaleTasks (staleCutoff : Timestamp) (maxAttempts : Int) (now : Timestamp)
    (tasks : Table TransferTask) : Table TransferTask :=
  expireStale staleCutoff maxAttempts "attempt_timeout" now tasks

def ClaimedTransferTask.ofRow (task : TransferTask) : ClaimedTransferTask where
  id := task.id
  mediaId := task.mediaId
  sourceRecordedAt := task.sourceRecordedAt
  sourceUrl := task.sourceUrl
  sourceKind := task.sourceKind
  sourceContentType := task.sourceContentType
  attemptCount := task.attemptCount

def claimNextTask (staleCutoff : Timestamp) (maxAttempts : Int) (workerName : String)
    (locked : List Uuid) (now : Timestamp) (tasks : Table TransferTask) :
    Option ClaimedTransferTask × Table TransferTask :=
  let candidates := claimCandidates staleCutoff maxAttempts locked 1 tasks
  let claimed := claimRows candidates workerName now tasks
  (claimed.1.head?.map .ofRow, claimed.2)

/-- The assignment of `persist_completed_task`. -/
def TransferTask.completeWith (uploaded : StoredObjectMetadata) (now : Timestamp)
    (task : TransferTask) : TransferTask :=
  { task with lease := task.lease.complete now, storageObjectId := some uploaded.id }

/-- One transaction; `none` when the `INSERT` violates a constraint and the
transaction rolls back.  The `UPDATE` asks for nothing but the id. -/
def persistCompletedTask (taskId : Uuid) (uploaded : StoredObjectMetadata) (now : Timestamp)
    (media : MediaSchema) : Option MediaSchema :=
  if uploaded.contentLength < 0 then none
  else (media.storageObject.insert ⟨uploaded, now⟩).map fun storageObject =>
    { storageObject
      transferTask := media.transferTask.update (fun task => decide (task.id = taskId))
        (.completeWith uploaded now) ⟨fun _ => rfl, fun _ _ => Iff.rfl⟩ }

def markTaskFailed (taskId : Uuid) (errorMessage : String) (maxAttempts : Int) (now : Timestamp)
    (tasks : Table TransferTask) : Table TransferTask :=
  updateLease tasks (fun task => decide (task.id = taskId))
    fun lease => lease.fail errorMessage maxAttempts now

/-- `truncate_error_message(value, 2048)`. -/
def truncateErrorMessage (value : String) (maxChars : Nat) : String :=
  String.ofList (value.toList.take maxChars)

/-! ## The admin transitions -/

inductive TransitionError where
  | notFound (message : String)
  | badRequest (message : String)
deriving DecidableEq, Repr

def transitionLockedTask (taskId : Uuid) (allowedStatuses : List TransferStatus)
    (set : Lease TransferStatus → Lease TransferStatus) (tasks : Table TransferTask) :
    Except TransitionError (Table TransferTask) :=
  match tasks.find taskId with
  | none => .error (.notFound "transfer task not found")
  | some row =>
    if row.status ∈ allowedStatuses then
      .ok (updateLease tasks (fun task => decide (task.id = taskId)) set)
    else
      .error (.badRequest ("task status must be one of " ++
        String.intercalate ", " (allowedStatuses.map TransferStatus.asDbStr)))

def retryTask (taskId : Uuid) (now : Timestamp) :
    Table TransferTask → Except TransitionError (Table TransferTask) :=
  transitionLockedTask taskId [.failed, .canceled] fun lease => lease.requeue none now

def cancelLease (now : Timestamp) (lease : Lease TransferStatus) : Lease TransferStatus :=
  { lease with
    status := .canceled
    lastError := some "canceled_by_admin"
    claimedBy := none
    claimedAt := none
    completedAt := some now
    updatedAt := now }

def cancelTask (taskId : Uuid) (now : Timestamp) :
    Table TransferTask → Except TransitionError (Table TransferTask) :=
  transitionLockedTask taskId [.pending] (cancelLease now)

def releaseTask (taskId : Uuid) (now : Timestamp) :
    Table TransferTask → Except TransitionError (Table TransferTask) :=
  transitionLockedTask taskId [.processing] fun lease =>
    lease.requeue (some "released_by_admin") now

/-! ## What each statement does to a row -/

section Rows

variable {tasks tasks' : Table TransferTask} {task : TransferTask} {taskId id : Uuid}
  {now staleCutoff : Timestamp} {maxAttempts : Int}

theorem find_expireStaleTasks :
    (expireStaleTasks staleCutoff maxAttempts now tasks).find id =
      (tasks.find id).map fun row =>
        if row.lease.expirable staleCutoff maxAttempts
        then row.setLease fun lease => lease.expire "attempt_timeout" now else row :=
  find_updateLease _ _ _ _

theorem claimNextTask_cases {workerName : String} {locked : List Uuid}
    {claimed : Option ClaimedTransferTask}
    (result : claimNextTask staleCutoff maxAttempts workerName locked now tasks =
      (claimed, tasks')) :
    (claimed = none ∧ ∀ id, tasks'.find id = tasks.find id) ∨
      ∃ row, tasks.find row.id = some row ∧
        row.lease.claimable staleCutoff maxAttempts = true ∧ row.id ∉ locked ∧
        claimed = some (.ofRow (row.setLease fun lease => lease.claim workerName now)) ∧
        ∀ id, tasks'.find id =
          if id = row.id
          then (tasks.find id).map (.setLease fun lease => lease.claim workerName now)
          else tasks.find id := by
  simp only [claimNextTask, Prod.mk.injEq] at result
  obtain ⟨rfl, rfl⟩ := result
  have atMostOne : (claimCandidates staleCutoff maxAttempts locked 1 tasks).length ≤ 1 := by
    simp only [claimCandidates, List.length_take]
    omega
  cases chosen : claimCandidates staleCutoff maxAttempts locked 1 tasks with
  | nil => exact .inl ⟨rfl, fun id => by simp [find_claimRows]⟩
  | cons row rest =>
    have restEmpty : rest = [] := by
      rw [chosen, List.length_cons] at atMostOne
      exact List.length_eq_zero_iff.mp (by omega)
    subst restEmpty
    obtain ⟨found, claimable, unlocked⟩ :=
      mem_claimCandidates (chosen ▸ List.mem_singleton_self row)
    refine .inr ⟨row, found, claimable, unlocked, rfl, fun id => ?_⟩
    simp [find_claimRows, LeasedRow.setLease]

theorem find_markTaskFailed {errorMessage : String} :
    (markTaskFailed taskId errorMessage maxAttempts now tasks).find id =
      if id = taskId
      then (tasks.find id).map (.setLease fun lease => lease.fail errorMessage maxAttempts now)
      else tasks.find id :=
  find_updateLease_id tasks taskId _ id

theorem find_persistCompletedTask {uploaded : StoredObjectMetadata} {media media' : MediaSchema}
    (persisted : persistCompletedTask taskId uploaded now media = some media') :
    media'.transferTask.find id =
      if id = taskId then (media.transferTask.find id).map (.completeWith uploaded now)
      else media.transferTask.find id := by
  unfold persistCompletedTask at persisted
  split at persisted
  · cases persisted
  · obtain ⟨storageObject, _, rfl⟩ := Option.map_eq_some_iff.mp persisted
    simp only [Table.find_update]
    cases found : media.transferTask.find id with
    | none => simp
    | some row =>
      have same : row.id = id := Table.find_key found
      by_cases hit : id = taskId <;> simp [Table.setWhere, same, hit]

theorem find_transitionLockedTask {allowedStatuses : List TransferStatus}
    {set : Lease TransferStatus → Lease TransferStatus}
    (changed : transitionLockedTask taskId allowedStatuses set tasks = .ok tasks') :
    (∃ row, tasks.find taskId = some row ∧ row.status ∈ allowedStatuses) ∧
      ∀ id, tasks'.find id =
        if id = taskId then (tasks.find id).map (.setLease set) else tasks.find id := by
  unfold transitionLockedTask at changed
  cases found : tasks.find taskId with
  | none => simp [found] at changed
  | some row =>
    simp only [found] at changed
    split at changed
    next allowed =>
      cases changed
      exact ⟨⟨row, rfl, allowed⟩, fun id => find_updateLease_id tasks taskId set id⟩
    next refused => cases changed

/-- An insert keeps every row that is there; the new row is pending. -/
theorem find_insertTask {row : TransferTask} (inserted : insertTask tasks row = some tasks')
    (id : Uuid) : tasks'.find id = tasks.find id ∨ (tasks.find id = none ∧ tasks'.find id = some row) := by
  unfold insertTask at inserted
  split at inserted
  · cases inserted
    exact .inl rfl
  · rw [Table.find_insert inserted]
    split
    next same =>
      right
      exact ⟨same ▸ Table.insert_fresh inserted, rfl⟩
    next different => exact .inl rfl

theorem find_insertTasks {items : List NewTransferTask}
    (inserted : insertTasks now items tasks = some tasks') (id : Uuid) :
    tasks'.find id = tasks.find id ∨
      (tasks.find id = none ∧ ∃ item ∈ items, tasks'.find id = some (item.row now)) := by
  induction items generalizing tasks with
  | nil =>
    simp only [insertTasks, List.foldlM_nil, Option.pure_def, Option.some.injEq] at inserted
    exact .inl (by rw [inserted])
  | cons item items inductionHypothesis =>
    simp only [insertTasks, List.foldlM_cons, Option.bind_eq_bind,
      Option.bind_eq_some_iff] at inserted
    obtain ⟨middle, first, rest⟩ := inserted
    rcases inductionHypothesis rest with same | ⟨absent, new, member, found⟩
    · rcases find_insertTask first id with unchanged | ⟨absent, found⟩
      · exact .inl (same.trans unchanged)
      · exact .inr ⟨absent, item, List.mem_cons_self, same.trans found⟩
    · rcases find_insertTask first id with unchanged | ⟨_, found'⟩
      · exact .inr ⟨unchanged ▸ absent, new, List.mem_cons_of_mem _ member, found⟩
      · rw [found'] at absent
        cases absent

end Rows

end TweetDb.Transfer
