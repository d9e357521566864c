import TweetDb.Transfer.ObjectKeys
import TweetDb.Transfer.RowInvariants
import TweetDb.Transfer.Upload

/-! # The tasks that stored objects belong to

`media.storage_object` is unique by provider, bucket and key, and the key names
the task.  So its rows belong to the tasks of the queue, and what refuses a
report is an earlier report about the same task.
-/

namespace TweetDb.Transfer

open Relational Transition

variable {W : Type}

/-! ## What a worker reports -/

/-- The arguments `process_task` gives to `transfer_source_to_storage`. -/
structure TransferRequest.IsFor (urlPath : String → Option String) (storage : StorageSection)
    (task : ClaimedTransferTask) (id : Uuid) (request : TransferRequest) : Prop where
  prepareUpload : request.prepareUpload =
    Transfer.prepareUpload urlPath storage id task.mediaId task.id task.sourceUrl
  sourceUrl : request.sourceUrl = task.sourceUrl
  sourceContentType : request.sourceContentType = task.sourceContentType

/-- Identifiers have 128 bits, and a report is the result of a transfer for the claimed task,
under an identifier that no object has. -/
def Prepared (urlPath : String → Option String) (storage : StorageSection) (s : System W) :
    Action W → Prop
  | .enqueue items _ => ∀ item ∈ items, item.id < 2 ^ 128
  | .persist worker uploaded _ _ => ∀ task, s.workers worker = .transferring task →
      s.media.storageObject.find uploaded.id = none ∧
      ∃ request body result, request.IsFor urlPath storage task uploaded.id ∧
        TransferSourceToStorage request body result ∧ result.metadata = uploaded
  | _ => True

/-- The object is stored where the uploads of the task go. -/
structure StoredObjectMetadata.IsUnder (storage : StorageSection) (mediaId : Int) (taskId : Uuid)
    (uploaded : StoredObjectMetadata) : Prop where
  provider : uploaded.provider = storage.provider
  bucket : uploaded.bucket = storage.bucket
  objectKey : ∃ extension, uploaded.objectKey =
    buildObjectKey storage.objectKeyPrefix mediaId taskId extension

section Reports

variable {request : TransferRequest} {body : Bytes} {result : Transferred}
  {urlPath : String → Option String} {storage : StorageSection} {task : ClaimedTransferTask}
  {uploaded : StoredObjectMetadata} {id : Uuid}

/-- Every path reports the object that was prepared, and a length. -/
theorem transferred_metadata (transferred : TransferSourceToStorage request body result) :
    ∃ (contentLength : Nat) (sha256Hex : String),
      result.metadata = request.object.metadata contentLength request.etag sha256Hex := by
  have multipart : ∀ {upload : MultipartUpload} {length : Nat} {hasher : Bytes},
      completeMultipartWithHash request.sha256 request.object request.etag upload length hasher =
        .ok result → ∃ (contentLength : Nat) (sha256Hex : String),
          result.metadata = request.object.metadata contentLength request.etag sha256Hex := by
    intro upload length hasher completed
    obtain ⟨contentLength, converted, completed⟩ := bind_eq_ok completed
    dsimp only at completed
    split at completed
    next => cases completed
    next =>
      cases completed
      rw [objectLength_ok converted]
      exact ⟨length, _, rfl⟩
  cases transferred with
  | single _ put =>
    obtain ⟨contentLength, converted, rfl⟩ := map_eq_ok put
    rw [objectLength_ok converted]
    exact ⟨_, _, rfl⟩
  | range _ _ _ _ completed =>
    unfold finishRange at completed
    split at completed
    next => cases completed
    next => exact multipart completed
  | sequential _ _ _ _ completed => exact multipart completed

theorem isUnder_metadata {object : PreparedStorageObject} {mediaId : Int} {taskId : Uuid}
    {contentLength : Int} {etag : Option String} {sha256Hex : String}
    (location : object.provider = storage.provider ∧ object.bucket = storage.bucket ∧
      ∃ extension, object.objectKey =
        buildObjectKey storage.objectKeyPrefix mediaId taskId extension) :
    (object.metadata contentLength etag sha256Hex).IsUnder storage mediaId taskId where
  provider := location.1
  bucket := location.2.1
  objectKey := location.2.2

theorem isUnder_of_transfer (isFor : request.IsFor urlPath storage task id)
    (transferred : TransferSourceToStorage request body result) :
    result.metadata.IsUnder storage task.mediaId task.id ∧ 0 ≤ result.metadata.contentLength := by
  obtain ⟨contentLength, sha256Hex, metadata_eq⟩ := transferred_metadata transferred
  rw [metadata_eq, TransferRequest.object, isFor.prepareUpload]
  constructor
  · exact isUnder_metadata prepareUpload_location
  · show (0 : Int) ≤ contentLength
    omega

end Reports

/-! ## What a step does to the objects -/

section Steps

variable [DecidableEq W] {config : Config W} {s t : System W} {action : Action W}

/-- Only a report writes to `media.storage_object`, and then in its transaction. -/
theorem step_storageObject (taken : Step config s action t) :
    t.media.storageObject = s.media.storageObject ∨
      ∃ worker task uploaded databaseError now,
        action = .persist worker uploaded databaseError now ∧
          s.workers worker = .transferring task ∧
          s.media.storageObject.insert ⟨uploaded, now⟩ = some t.media.storageObject ∧
          t.task task.id = (s.task task.id).map (.completeWith uploaded now) := by
  cases action with
  | enqueue items now =>
    obtain ⟨tasks, _, rfl⟩ := Option.map_eq_some_iff.mp taken
    exact .inl rfl
  | persist worker uploaded databaseError now =>
    simp only [Step, Takes, next] at taken
    split at taken
    next task transferring =>
      split at taken
      next media persisted =>
        cases taken
        have updated := @find_persistCompletedTask task.id task.id now uploaded _ _ persisted
        rw [if_pos rfl] at updated
        unfold persistCompletedTask at persisted
        split at persisted
        next => cases persisted
        next =>
          obtain ⟨objects, inserted, rfl⟩ := Option.map_eq_some_iff.mp persisted
          exact .inr ⟨worker, task, uploaded, databaseError, now, rfl, transferring, inserted,
            updated⟩
      next =>
        cases taken
        exact .inl rfl
    next => cases taken
  | claim worker staleCutoff locked now =>
    simp only [Step, Takes, next] at taken
    split at taken
    next => split at taken <;> cases taken <;> exact .inl rfl
    next => cases taken
  | processFails | markFailed | markFailedLost =>
    simp only [Step, Takes, next] at taken
    split at taken <;> cases taken
    exact .inl rfl
  | expireStale | crash =>
    cases taken
    exact .inl rfl
  | retry id now | cancel id now | release id now =>
    cases taken
    unfold System.transition
    split <;> exact .inl rfl

/-- A task stays in the queue, for the same media, and keeps an object once it has one. -/
theorem step_keeps_task {id : Uuid} {row : TransferTask} (taken : Step config s action t)
    (found : s.task id = some row) :
    ∃ row', t.task id = some row' ∧ row'.mediaId = row.mediaId ∧
      (row.storageObjectId ≠ none → row'.storageObjectId ≠ none) := by
  cases step_row taken id with
  | kept same => exact ⟨row, same.trans found, rfl, fun has => has⟩
  | added _ absent _ =>
    rw [found] at absent
    cases absent
  | @changed before after old new change =>
    rw [found, Option.some.injEq] at old
    subst old
    refine ⟨_, new, ?_⟩
    cases change with
    | completed => exact ⟨rfl, fun _ => Option.some_ne_none _⟩
    | expired | claimed | failed | retried | canceled | released => exact ⟨rfl, fun has => has⟩

theorem step_keeps_object {object : Uuid} {stored : StorageObject} (taken : Step config s action t)
    (found : s.media.storageObject.find object = some stored) :
    t.media.storageObject.find object = some stored := by
  rcases step_storageObject taken with same | ⟨_, _, uploaded, _, now, _, _, inserted, _⟩
  · rwa [same]
  · rw [Table.find_insert inserted]
    split
    next same =>
      have fresh := Table.insert_fresh inserted
      rw [same, found] at fresh
      cases fresh
    next => exact found

end Steps

/-! ## Owned objects -/

/-- Every object is under a key of a task that has an object, and a task refers to an object
under its own key. -/
structure ObjectsOwned (storage : StorageSection) (s : System W) : Prop where
  bounded : ∀ id row, s.task id = some row → id < 2 ^ 128
  claimed : ∀ worker task, (s.workers worker).claim = some task →
    ∃ row, s.task task.id = some row ∧ row.mediaId = task.mediaId
  owned : ∀ stored ∈ s.media.storageObject.rows, ∃ id row, s.task id = some row ∧
    row.storageObjectId ≠ none ∧ stored.metadata.IsUnder storage row.mediaId id
  referred : ∀ id row object, s.task id = some row → row.storageObjectId = some object →
    ∃ stored, s.media.storageObject.find object = some stored ∧
      stored.metadata.IsUnder storage row.mediaId id

theorem StoredObjectMetadata.IsUnder.unique {storage : StorageSection} {mediaId mediaId' : Int}
    {id id' : Uuid} {a b : StoredObjectMetadata} (isUnder : a.IsUnder storage mediaId id)
    (isUnder' : b.IsUnder storage mediaId' id') (same : a.objectKey = b.objectKey)
    (bound : id < 2 ^ 128) (bound' : id' < 2 ^ 128) : id = id' := by
  obtain ⟨extension, key⟩ := isUnder.objectKey
  obtain ⟨extension', key'⟩ := isUnder'.objectKey
  rw [key, key'] at same
  exact (buildObjectKey_injective bound bound' same).1

section Owned

variable {config : Config W} {s t : System W} {action : Action W}
  {urlPath : String → Option String} {storage : StorageSection}

/-- The claim of a worker still names a task of the queue, so its report goes under the key of
that task. -/
theorem ObjectsOwned.report (owned : ObjectsOwned storage s) {worker : W}
    {task : ClaimedTransferTask} {uploaded : StoredObjectMetadata} {databaseError : String}
    {now : Timestamp} (transferring : s.workers worker = .transferring task)
    (prepared : Prepared urlPath storage s (.persist worker uploaded databaseError now)) :
    ∃ row, s.task task.id = some row ∧ task.id < 2 ^ 128 ∧
      uploaded.IsUnder storage row.mediaId task.id ∧ 0 ≤ uploaded.contentLength ∧
      s.media.storageObject.find uploaded.id = none := by
  obtain ⟨fresh, request, body, result, isFor, transferred, rfl⟩ := prepared task transferring
  obtain ⟨row, found, sameMedia⟩ := owned.claimed worker task (by simp [transferring,
    WorkerState.claim])
  obtain ⟨isUnder, length⟩ := isUnder_of_transfer isFor transferred
  rw [← sameMedia] at isUnder
  exact ⟨row, found, owned.bounded _ _ found, isUnder, length, fresh⟩

theorem bounded_step [DecidableEq W] (bounded : ∀ id row, s.task id = some row → id < 2 ^ 128)
    (taken : Restrict (Step config) (Prepared urlPath storage) s action t) :
    ∀ id row, t.task id = some row → id < 2 ^ 128 := by
  intro id row' found
  obtain ⟨prepared, taken⟩ := taken
  cases step_row taken id with
  | kept same => exact bounded id row' (same ▸ found)
  | changed before _ _ => exact bounded id _ before
  | added enqueued absent _ =>
    subst enqueued
    obtain ⟨tasks, inserted, rfl⟩ := Option.map_eq_some_iff.mp taken
    rcases find_insertTasks inserted id with same | ⟨_, item, member, isNew⟩
    · rw [System.task_setTasks, same] at found
      exact bounded id row' found
    · have sameId : item.id = id := Table.find_key isNew
      rw [← sameId]
      exact prepared item member

theorem claimed_step [DecidableEq W]
    (claimed : ∀ worker task, (s.workers worker).claim = some task →
      ∃ row, s.task task.id = some row ∧ row.mediaId = task.mediaId)
    (taken : Step config s action t) :
    ∀ worker task, (t.workers worker).claim = some task →
      ∃ row, t.task task.id = some row ∧ row.mediaId = task.mediaId := by
  intro worker task isClaim
  rcases step_claim taken isClaim with old | ⟨row, row', _, _, _, _, _, found, rfl, rfl⟩
  · obtain ⟨row, found, sameMedia⟩ := claimed worker task old
    obtain ⟨row', found', kept, _⟩ := step_keeps_task taken found
    exact ⟨row', found', kept.trans sameMedia⟩
  · exact ⟨_, found, rfl⟩

theorem owned_step [DecidableEq W] (owned : ObjectsOwned storage s)
    (taken : Restrict (Step config) (Prepared urlPath storage) s action t) :
    ∀ stored ∈ t.media.storageObject.rows, ∃ id row, t.task id = some row ∧
      row.storageObjectId ≠ none ∧ stored.metadata.IsUnder storage row.mediaId id := by
  intro stored present
  obtain ⟨prepared, taken⟩ := taken
  have old : stored ∈ s.media.storageObject.rows → ∃ id row, t.task id = some row ∧
      row.storageObjectId ≠ none ∧ stored.metadata.IsUnder storage row.mediaId id := by
    intro before
    obtain ⟨id, row, found, has, isUnder⟩ := owned.owned stored before
    obtain ⟨row', found', sameMedia, keeps⟩ := step_keeps_task taken found
    exact ⟨id, row', found', keeps has, sameMedia ▸ isUnder⟩
  rcases step_storageObject taken with
    same | ⟨worker, task, uploaded, _, now, rfl, transferring, inserted, updated⟩
  · exact old (same ▸ present)
  · rw [Table.insert_rows inserted] at present
    rcases List.mem_append.mp present with before | isNew
    · exact old before
    · rw [List.mem_singleton.mp isNew]
      -- The object just stored is under the key of the task it completes.
      obtain ⟨row, found, _, isUnder, _⟩ := owned.report transferring prepared
      rw [found, Option.map_some] at updated
      exact ⟨task.id, _, updated, Option.some_ne_none _, isUnder⟩

theorem referred_step [DecidableEq W] (owned : ObjectsOwned storage s)
    (taken : Restrict (Step config) (Prepared urlPath storage) s action t) :
    ∀ id row object, t.task id = some row → row.storageObjectId = some object →
      ∃ stored, t.media.storageObject.find object = some stored ∧
        stored.metadata.IsUnder storage row.mediaId id := by
  intro id row' object found' refers
  obtain ⟨prepared, taken⟩ := taken
  cases step_object taken found' refers with
  | @kept row found refers =>
    obtain ⟨stored, present, isUnder⟩ := owned.referred id row object found refers
    obtain ⟨after, found, sameMedia, _⟩ := step_keeps_task taken found
    rw [found', Option.some.injEq] at found
    subst found
    exact ⟨stored, step_keeps_object taken present, sameMedia ▸ isUnder⟩
  | @persisted worker task uploaded databaseError now isPersist transferring same isNew stored =>
    subst isPersist same
    rcases step_storageObject taken with
      unchanged | ⟨_, _, _, _, _, ⟨⟩, transferring', inserted, updated⟩
    · rw [unchanged] at stored
      exact absurd isNew stored
    · rw [transferring] at transferring'
      cases transferring'
      obtain ⟨row, found, _, isUnder, _⟩ := owned.report transferring prepared
      rw [found, Option.map_some, found', Option.some.injEq] at updated
      subst updated
      rw [TransferTask.completeWith, Option.some.injEq] at refers
      subst refers
      refine ⟨⟨uploaded, now⟩, ?_, isUnder⟩
      rw [Table.find_insert inserted]
      simp [Row.key]

theorem ObjectsOwned.step [DecidableEq W] (owned : ObjectsOwned storage s)
    (taken : Restrict (Step config) (Prepared urlPath storage) s action t) :
    ObjectsOwned storage t where
  bounded := bounded_step owned.bounded taken
  claimed := claimed_step owned.claimed taken.2
  owned := owned_step owned taken
  referred := referred_step owned taken

theorem run_objectsOwned [DecidableEq W] {actions : List (Action W)}
    (run : Run (Restrict (Step config) (Prepared urlPath storage)) .start actions s) :
    ObjectsOwned storage s := by
  apply run.invariant fun _ _ _ owned taken => owned.step taken
  constructor
  · intro id row found
    cases found
  · intro worker task claimed
    cases claimed
  · intro stored present
    cases present
  · intro id row object found
    cases found

/-- What refuses a report is an object of the same task. -/
theorem ObjectsOwned.refused (owned : ObjectsOwned storage s) {worker : W}
    {task : ClaimedTransferTask} {uploaded : StoredObjectMetadata} {databaseError : String}
    {now : Timestamp} (transferring : s.workers worker = .transferring task)
    (prepared : Prepared urlPath storage s (.persist worker uploaded databaseError now))
    (refused : persistCompletedTask task.id uploaded now s.media = none) :
    ∃ row, s.task task.id = some row ∧ row.storageObjectId ≠ none := by
  obtain ⟨row, found, bound, isUnder, length, fresh⟩ := owned.report transferring prepared
  unfold persistCompletedTask at refused
  rw [if_neg (by omega), Option.map_eq_none_iff, Table.insert_eq_none] at refused
  obtain ⟨stored, present, clashes⟩ := refused
  rcases clashes with sameId | ⟨_, _, sameKey⟩
  · exact absurd sameId (Table.find_eq_none.mp fresh stored present)
  · obtain ⟨id, other, found', has, isUnder'⟩ := owned.owned stored present
    have sameTask := isUnder'.unique isUnder sameKey (owned.bounded _ _ found') bound
    subst sameTask
    exact ⟨other, found', has⟩

theorem ObjectsOwned.recorded [DecidableEq W] (owned : ObjectsOwned storage s) {worker : W}
    {task : ClaimedTransferTask} {uploaded : StoredObjectMetadata} {databaseError : String}
    {now : Timestamp} {row : TransferTask} (transferring : s.workers worker = .transferring task)
    (prepared : Prepared urlPath storage s (.persist worker uploaded databaseError now))
    (found : s.task task.id = some row) (hasNone : row.storageObjectId = none) :
    ∃ t, Step config s (.persist worker uploaded databaseError now) t ∧
      t.task task.id = some (row.completeWith uploaded now) := by
  cases persisted : persistCompletedTask task.id uploaded now s.media with
  | none =>
    obtain ⟨row', found', has⟩ := owned.refused transferring prepared persisted
    rw [found, Option.some.injEq] at found'
    rw [← found'] at has
    exact absurd hasNone has
  | some media =>
    refine ⟨{ s with media }.setWorker worker .idle, ?_, ?_⟩
    · simp only [Step, Takes, next, transferring, persisted]
    · show media.transferTask.find task.id = _
      rw [find_persistCompletedTask persisted, if_pos rfl]
      exact congrArg _ found

/-- Every stored object is under a key of exactly one task of the queue, which has an object; a
task refers to an object under its own key; and the report on a task without an object is never
refused. -/
theorem stored_objects_belong_to_tasks [DecidableEq W] {actions : List (Action W)}
    (run : Run (Restrict (Step config) (Prepared urlPath storage)) .start actions s) :
    (∀ stored ∈ s.media.storageObject.rows, ∃ id row, s.task id = some row ∧
      row.storageObjectId ≠ none ∧ stored.metadata.IsUnder storage row.mediaId id ∧
      ∀ id' row', s.task id' = some row' →
        stored.metadata.IsUnder storage row'.mediaId id' → id' = id) ∧
    (∀ id row object, s.task id = some row → row.storageObjectId = some object →
      ∃ stored, s.media.storageObject.find object = some stored ∧
        stored.metadata.IsUnder storage row.mediaId id) ∧
    ∀ worker task uploaded databaseError now row, s.workers worker = .transferring task →
      Prepared urlPath storage s (.persist worker uploaded databaseError now) →
      s.task task.id = some row → row.storageObjectId = none →
      ∃ t, Step config s (.persist worker uploaded databaseError now) t ∧
        t.task task.id = some (row.completeWith uploaded now) := by
  have owned := run_objectsOwned run
  refine ⟨?_, owned.referred, ?_⟩
  · intro stored present
    obtain ⟨id, row, found, has, isUnder⟩ := owned.owned stored present
    refine ⟨id, row, found, has, isUnder, ?_⟩
    intro id' row' found' isUnder'
    exact isUnder'.unique isUnder rfl (owned.bounded _ _ found') (owned.bounded _ _ found)
  · intro worker task uploaded databaseError now row transferring prepared found hasNone
    exact owned.recorded transferring prepared found hasNone

end Owned

/-- The upload of the three bytes of a photo for a claimed task. -/
def photoTransfer (urlPath : String → Option String) (storage : StorageSection)
    (task : ClaimedTransferTask) (id : Uuid) : TransferRequest where
  options := smallOptions 8 (by decide)
  sha256 _ := "00"
  prepareUpload := prepareUpload urlPath storage id task.mediaId task.id task.sourceUrl
  sourceUrl := task.sourceUrl
  sourceContentType := task.sourceContentType
  initial := ⟨[[1, 2], [3]], some "image/jpeg", some 3, false⟩
  etag := none

def photoStorage : StorageSection := ⟨"s3", "media", "/media/"⟩

def photoPath (_ : String) : Option String := some "/a.jpg"

/-- The row that the transfer reports. -/
def photoReport (task : ClaimedTransferTask) (id : Uuid) : StoredObjectMetadata :=
  (photoTransfer photoPath photoStorage task id).object.metadata 3 none "00"

theorem photoTransfer_reports (task : ClaimedTransferTask) (id : Uuid) :
    TransferSourceToStorage (photoTransfer photoPath photoStorage task id) [1, 2, 3]
      ⟨photoReport task id, [1, 2, 3], none⟩ :=
  @TransferSourceToStorage.single _ _ [1, 2, 3] _ rfl rfl

def photoClaim (id : Uuid) (sourceRecordedAt : Timestamp) : ClaimedTransferTask :=
  ⟨id, 1, sourceRecordedAt, "https://pbs.twimg.com/a.jpg", "photo", none, 1⟩

/-- Two tasks about one media; the first is completed while the second is being transferred. -/
def photoActions : List (Action (Fin 2)) :=
  [.enqueue [⟨7, 1, 0, "https://pbs.twimg.com/a.jpg", "photo", none⟩,
      ⟨8, 1, 5, "https://pbs.twimg.com/a.jpg", "photo", none⟩] 0,
    .claim ⟨0, Nat.two_pos⟩ 0 [] 10, .claim ⟨1, Nat.one_lt_two⟩ 0 [] 20,
    .persist ⟨0, Nat.two_pos⟩ (photoReport (photoClaim 7 0) 100) "" 30]

def afterPhoto : System (Fin 2) := (exec (next twoWorkers) .start photoActions).getD .start

theorem photoReport_prepared {s : System (Fin 2)} {worker : Fin 2} {task : ClaimedTransferTask}
    {id : Uuid} {now : Timestamp} (transferring : s.workers worker = .transferring task)
    (fresh : s.media.storageObject.find id = none) :
    Prepared photoPath photoStorage s (.persist worker (photoReport task id) "" now) := by
  intro claimed isClaimed
  rw [transferring] at isClaimed
  cases isClaimed
  exact ⟨fresh, _, _, _, ⟨rfl, rfl, rfl⟩, photoTransfer_reports task id, rfl⟩

theorem photoActions_run :
    Run (Restrict (Step twoWorkers) (Prepared photoPath photoStorage)) .start photoActions
      afterPhoto := by
  have small : ∀ item ∈ ([⟨7, 1, 0, "https://pbs.twimg.com/a.jpg", "photo", none⟩,
      ⟨8, 1, 5, "https://pbs.twimg.com/a.jpg", "photo", none⟩] : List NewTransferTask),
      item.id < 2 ^ 128 := by simp
  refine .cons ⟨small, rfl⟩ (.cons ⟨trivial, rfl⟩ (.cons ⟨trivial, rfl⟩ (.single ⟨?_, rfl⟩)))
  exact photoReport_prepared rfl rfl

/-- The object of the first task does not stand in the way of the second. -/
theorem stored_objects_belong_to_tasks_photo :
    Run (Restrict (Step twoWorkers) (Prepared photoPath photoStorage)) .start photoActions
        afterPhoto ∧
      afterPhoto.media.storageObject.rows.length = 1 ∧
      ∃ t, Step twoWorkers afterPhoto (.persist 1 (photoReport (photoClaim 8 5) 101) "" 40) t ∧
        (t.task 8).map TransferTask.status = some .completed := by
  obtain ⟨_, _, recorded⟩ := stored_objects_belong_to_tasks photoActions_run
  obtain ⟨t, taken, completed⟩ := recorded 1 (photoClaim 8 5)
    (photoReport (photoClaim 8 5) 101) "" 40 _ rfl (photoReport_prepared rfl rfl) rfl rfl
  exact ⟨photoActions_run, rfl, t, taken, congrArg _ completed⟩

end TweetDb.Transfer
