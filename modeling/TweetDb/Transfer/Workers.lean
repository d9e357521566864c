import Mathlib.Algebra.GroupWithZero.Nat
import Mathlib.Logic.Function.Basic
import TweetDb.Transfer.Queue
import TweetDb.Transition.Run

/-! # Transfer workers and administrators on one queue

The interleaving of any number of worker loops with the statements that add
tasks and the admin transitions.  A worker that has claimed a task keeps the
row it was given; whatever happens to the queue in the meantime, its report
names the task by id alone.
-/

namespace TweetDb.Transfer

open Leasing Relational Transition

variable {W : Type}

/-- Where `run_worker_loop` stands: between tasks, inside `process_task`, or
about to call `mark_task_failed`. -/
inductive WorkerState where
  | idle
  | transferring (task : ClaimedTransferTask)
  | reporting (task : ClaimedTransferTask) (message : String)
deriving DecidableEq, Repr

/-- The claim a worker will still report on. -/
def WorkerState.claim : WorkerState → Option ClaimedTransferTask
  | .idle => none
  | .transferring task => some task
  | .reporting task _ => some task

structure Config (W : Type) where
  maxAttempts : Int
  workerName : W → String

structure System (W : Type) where
  media : MediaSchema
  workers : W → WorkerState

namespace System

def start : System W where
  media := ⟨.empty, .empty⟩
  workers := fun _ => .idle

abbrev task (s : System W) (id : Uuid) : Option TransferTask := s.media.transferTask.find id

def setTasks (s : System W) (tasks : Table TransferTask) : System W :=
  { s with media := { s.media with transferTask := tasks } }

def setWorker [DecidableEq W] (s : System W) (worker : W) (state : WorkerState) : System W :=
  { s with workers := Function.update s.workers worker state }

@[simp] theorem task_setTasks (s : System W) (tasks : Table TransferTask) (id : Uuid) :
    (s.setTasks tasks).task id = tasks.find id := rfl

@[simp] theorem workers_setTasks (s : System W) (tasks : Table TransferTask) :
    (s.setTasks tasks).workers = s.workers := rfl

@[simp] theorem task_setWorker [DecidableEq W] (s : System W) (worker : W) (state : WorkerState)
    (id : Uuid) : (s.setWorker worker state).task id = s.task id := rfl

@[simp] theorem workers_setWorker [DecidableEq W] (s : System W) (worker : W) (state : WorkerState) :
    (s.setWorker worker state).workers = Function.update s.workers worker state := rfl

end System

/-- The atomic steps; each carries the clock reading of its transaction. -/
inductive Action (W : Type) where
  | enqueue (items : List NewTransferTask) (now : Timestamp)
  | expireStale (staleCutoff now : Timestamp)
  | claim (worker : W) (staleCutoff : Timestamp) (locked : List Uuid) (now : Timestamp)
  /-- `process_task` fails before or while it reports; nothing was written. -/
  | processFails (worker : W) (message : String)
  | persist (worker : W) (uploaded : StoredObjectMetadata) (databaseError : String)
      (now : Timestamp)
  | markFailed (worker : W) (now : Timestamp)
  /-- The update itself fails, which the loop only logs. -/
  | markFailedLost (worker : W)
  | crash (worker : W)
  | retry (id : Uuid) (now : Timestamp)
  | cancel (id : Uuid) (now : Timestamp)
  | release (id : Uuid) (now : Timestamp)
deriving DecidableEq, Repr

/-- A refused transition answers with its error and writes nothing. -/
def System.transition (s : System W)
    (result : Except TransitionError (Table TransferTask)) : System W :=
  match result with
  | .error _ => s
  | .ok tasks => s.setTasks tasks

@[simp] theorem System.workers_transition (s : System W)
    (result : Except TransitionError (Table TransferTask)) :
    (s.transition result).workers = s.workers := by
  cases result <;> rfl

def next [DecidableEq W] (config : Config W) (s : System W) : Action W → Option (System W)
  | .enqueue items now => (insertTasks now items s.media.transferTask).map s.setTasks
  | .expireStale staleCutoff now =>
    some (s.setTasks (expireStaleTasks staleCutoff config.maxAttempts now s.media.transferTask))
  | .claim worker staleCutoff locked now =>
    match s.workers worker with
    | .idle =>
      let result := claimNextTask staleCutoff config.maxAttempts (config.workerName worker) locked
        now s.media.transferTask
      match result.1 with
      | none => some s
      | some task => some ((s.setTasks result.2).setWorker worker (.transferring task))
    | _ => none
  | .processFails worker message =>
    match s.workers worker with
    | .transferring task =>
      some (s.setWorker worker (.reporting task (truncateErrorMessage message 2048)))
    | _ => none
  | .persist worker uploaded databaseError now =>
    match s.workers worker with
    | .transferring task =>
      match persistCompletedTask task.id uploaded now s.media with
      | some media => some ({ s with media }.setWorker worker .idle)
      | none =>
        some (s.setWorker worker (.reporting task (truncateErrorMessage databaseError 2048)))
    | _ => none
  | .markFailed worker now =>
    match s.workers worker with
    | .reporting task message =>
      some ((s.setTasks (markTaskFailed task.id message config.maxAttempts now
        s.media.transferTask)).setWorker worker .idle)
    | _ => none
  | .markFailedLost worker =>
    match s.workers worker with
    | .reporting _ _ => some (s.setWorker worker .idle)
    | _ => none
  | .crash worker => some (s.setWorker worker .idle)
  | .retry id now => some (s.transition (retryTask id now s.media.transferTask))
  | .cancel id now => some (s.transition (cancelTask id now s.media.transferTask))
  | .release id now => some (s.transition (releaseTask id now s.media.transferTask))

abbrev Step [DecidableEq W] (config : Config W) : System W → Action W → System W → Prop :=
  Takes (next config)

/-! ## What a step can do to a row -/

/-- The changes of a stored row, with the guard under which the code makes each. -/
inductive RowChange (config : Config W) (s : System W) (id : Uuid) :
    Action W → TransferTask → TransferTask → Prop where
  | expired {row : TransferTask} {staleCutoff now : Timestamp}
      (expirable : row.lease.expirable staleCutoff config.maxAttempts = true) :
      RowChange config s id (.expireStale staleCutoff now) row
        (row.setLease fun lease => lease.expire "attempt_timeout" now)
  | claimed {row : TransferTask} {worker : W} {staleCutoff now : Timestamp} {locked : List Uuid}
      (idle : s.workers worker = .idle)
      (claimable : row.lease.claimable staleCutoff config.maxAttempts = true) :
      RowChange config s id (.claim worker staleCutoff locked now) row
        (row.setLease fun lease => lease.claim (config.workerName worker) now)
  | completed {row : TransferTask} {worker : W} {task : ClaimedTransferTask}
      {uploaded : StoredObjectMetadata} {databaseError : String} {now : Timestamp}
      {media : MediaSchema}
      (transferring : s.workers worker = .transferring task) (same : task.id = id)
      (persisted : persistCompletedTask task.id uploaded now s.media = some media) :
      RowChange config s id (.persist worker uploaded databaseError now) row
        (row.completeWith uploaded now)
  | failed {row : TransferTask} {worker : W} {task : ClaimedTransferTask} {message : String}
      {now : Timestamp}
      (reporting : s.workers worker = .reporting task message) (same : task.id = id) :
      RowChange config s id (.markFailed worker now) row
        (row.setLease fun lease => lease.fail message config.maxAttempts now)
  | retried {row : TransferTask} {now : Timestamp}
      (finished : row.status = .failed ∨ row.status = .canceled) :
      RowChange config s id (.retry id now) row (row.setLease fun lease => lease.requeue none now)
  | canceled {row : TransferTask} {now : Timestamp} (pending : row.status = .pending) :
      RowChange config s id (.cancel id now) row (row.setLease (cancelLease now))
  | released {row : TransferTask} {now : Timestamp} (processing : row.status = .processing) :
      RowChange config s id (.release id now) row
        (row.setLease fun lease => lease.requeue (some "released_by_admin") now)

/-- A step leaves a row alone, adds it, or makes one of the listed changes. -/
inductive RowEffect (config : Config W) (s : System W) (id : Uuid) (action : Action W)
    (t : System W) : Prop where
  | kept (same : t.task id = s.task id)
  | added {items : List NewTransferTask} {item : NewTransferTask} {now : Timestamp}
      (enqueued : action = .enqueue items now) (absent : s.task id = none)
      (found : t.task id = some (item.row now))
  | changed {row row' : TransferTask} (before : s.task id = some row)
      (after : t.task id = some row') (change : RowChange config s id action row row')

section Steps

variable {config : Config W} {s t : System W} {action : Action W} {id : Uuid}

/-- An `UPDATE … SET … WHERE`, seen from one row. -/
theorem rowEffect_of_where {condition : TransferTask → Bool} {set : TransferTask → TransferTask}
    (updated : t.task id = (s.task id).map fun row => if condition row then set row else row)
    (change : ∀ row, s.task id = some row → condition row = true →
      RowChange config s id action row (set row)) :
    RowEffect config s id action t := by
  cases before : s.task id with
  | none => exact .kept (by simp [updated, before])
  | some row =>
    rw [before, Option.map_some] at updated
    by_cases met : condition row = true
    · rw [if_pos met] at updated
      exact .changed before updated (change row before met)
    · rw [if_neg met, ← before] at updated
      exact .kept updated

/-- An `UPDATE` of the row with one id. -/
theorem rowEffect_of_id {target : Uuid} {set : TransferTask → TransferTask}
    (updated : t.task id = if id = target then (s.task id).map set else s.task id)
    (change : ∀ row, id = target → s.task id = some row →
      RowChange config s id action row (set row)) :
    RowEffect config s id action t := by
  by_cases hit : id = target
  · rw [if_pos hit] at updated
    exact rowEffect_of_where (by simpa using updated) fun row before (_ : true = true) =>
      change row hit before
  · rw [if_neg hit] at updated
    exact .kept updated

theorem rowEffect_of_transition {target : Uuid} {allowedStatuses : List TransferStatus}
    {set : Lease TransferStatus → Lease TransferStatus}
    (moved : t = s.transition (transitionLockedTask target allowedStatuses set
      s.media.transferTask))
    (change : ∀ row, id = target → row.status ∈ allowedStatuses →
      RowChange config s id action row (row.setLease set)) :
    RowEffect config s id action t := by
  subst moved
  cases result : transitionLockedTask target allowedStatuses set s.media.transferTask with
  | error _ => exact .kept rfl
  | ok tasks =>
    obtain ⟨⟨row, found, allowed⟩, updated⟩ := find_transitionLockedTask result
    refine rowEffect_of_id (updated id) fun stored hit before => ?_
    subst hit
    rw [System.task, found, Option.some.injEq] at before
    exact change stored rfl (before ▸ allowed)

theorem step_row [DecidableEq W] (taken : Step config s action t) (id : Uuid) :
    RowEffect config s id action t := by
  cases action with
  | enqueue items now =>
    -- the insert skips identifiers already queued, so a row is either untouched or new
    obtain ⟨tasks, inserted, rfl⟩ := Option.map_eq_some_iff.mp taken
    rcases find_insertTasks inserted id with same | ⟨absent, item, _, found⟩
    · exact .kept same
    · exact .added rfl absent found
  | expireStale staleCutoff now =>
    cases taken
    exact rowEffect_of_where find_expireStaleTasks fun row _ expirable => .expired expirable
  | claim worker staleCutoff locked now =>
    simp only [Step, Takes, next] at taken
    split at taken
    next idle =>
      cases result : claimNextTask staleCutoff config.maxAttempts (config.workerName worker)
          locked now s.media.transferTask with
      | mk claimed tasks =>
        rw [result] at taken
        rcases claimNextTask_cases result with ⟨rfl, same⟩ | ⟨row, found, claimable, _, rfl, updated⟩
        · -- nothing claimable: the poll leaves the table as it was
          cases taken
          exact .kept rfl
        · cases taken
          refine rowEffect_of_id (updated id) fun stored hit before => ?_
          subst hit
          rw [System.task, found, Option.some.injEq] at before
          exact .claimed idle (before ▸ claimable)
    next => cases taken
  | processFails worker message =>
    simp only [Step, Takes, next] at taken
    split at taken
    next => cases taken; exact .kept rfl
    next => cases taken
  | persist worker uploaded databaseError now =>
    simp only [Step, Takes, next] at taken
    split at taken
    next task transferring =>
      split at taken
      next media persisted =>
        cases taken
        exact rowEffect_of_id (find_persistCompletedTask persisted) fun row hit _ =>
          .completed transferring hit.symm persisted
      -- a persist that fails moves the worker on to reporting and writes no row
      next => cases taken; exact .kept rfl
    next => cases taken
  | markFailed worker now =>
    simp only [Step, Takes, next] at taken
    split at taken
    next task message reporting =>
      cases taken
      exact rowEffect_of_id find_markTaskFailed fun row hit _ => .failed reporting hit.symm
    next => cases taken
  | markFailedLost worker =>
    simp only [Step, Takes, next] at taken
    split at taken
    next => cases taken; exact .kept rfl
    next => cases taken
  | crash worker =>
    cases taken
    exact .kept rfl
  | retry target now =>
    cases taken
    refine rowEffect_of_transition rfl fun row hit allowed => ?_
    subst hit
    exact .retried (by simpa using allowed)
  | cancel target now =>
    cases taken
    refine rowEffect_of_transition rfl fun row hit allowed => ?_
    subst hit
    exact .canceled (by simpa using allowed)
  | release target now =>
    cases taken
    refine rowEffect_of_transition rfl fun row hit allowed => ?_
    subst hit
    exact .released (by simpa using allowed)

/-! ## Claims in flight -/

/-- A worker's claim is one it had before the step or the one it has just made. -/
theorem step_claim [DecidableEq W] (taken : Step config s action t) {worker : W}
    {task : ClaimedTransferTask} (claimed : (t.workers worker).claim = some task) :
    (s.workers worker).claim = some task ∨
      ∃ row row' staleCutoff locked now, action = .claim worker staleCutoff locked now ∧
        s.task row.id = some row ∧ t.task row.id = some row' ∧ task = .ofRow row' ∧
        row' = row.setLease fun lease => lease.claim (config.workerName worker) now := by
  -- every action but a claim leaves a worker its claim or takes it away
  have updated : ∀ (other : W) (state : WorkerState), state.claim = none ∨
      state.claim = (s.workers other).claim →
      ((Function.update s.workers other state) worker).claim = some task →
      (s.workers worker).claim = some task := by
    intro other state origin found
    by_cases same : worker = other
    · subst same
      rw [Function.update_self] at found
      rcases origin with none | kept
      · rw [none] at found
        cases found
      · rw [← kept, found]
    · rwa [Function.update_of_ne same] at found
  cases action with
  | enqueue items now =>
    obtain ⟨tasks, inserted, rfl⟩ := Option.map_eq_some_iff.mp taken
    exact .inl claimed
  | expireStale staleCutoff now =>
    cases taken
    exact .inl claimed
  | claim other staleCutoff locked now =>
    simp only [Step, Takes, next] at taken
    split at taken
    next idle =>
      cases result : claimNextTask staleCutoff config.maxAttempts (config.workerName other)
          locked now s.media.transferTask with
      | mk found tasks =>
        rw [result] at taken
        rcases claimNextTask_cases result with ⟨rfl, _⟩ | ⟨row, present, _, _, rfl, changed⟩
        · cases taken
          exact .inl claimed
        · cases taken
          by_cases same : worker = other
          · subst same
            rw [System.workers_setWorker, Function.update_self] at claimed
            cases claimed
            -- the claimed row is read back from the table the claim has just written
            have found := changed row.id
            rw [if_pos rfl, present, Option.map_some] at found
            exact .inr ⟨row, _, staleCutoff, locked, now, rfl, present, found, rfl, rfl⟩
          · rw [System.workers_setWorker, Function.update_of_ne same] at claimed
            exact .inl claimed
    next => cases taken
  | processFails other message =>
    simp only [Step, Takes, next] at taken
    split at taken
    next found transferring =>
      cases taken
      exact .inl (updated other _ (.inr (by rw [transferring]; rfl)) claimed)
    next => cases taken
  | persist other uploaded databaseError now =>
    simp only [Step, Takes, next] at taken
    split at taken
    next found transferring =>
      split at taken
      next => cases taken; exact .inl (updated other _ (.inl rfl) claimed)
      next =>
        cases taken
        exact .inl (updated other _ (.inr (by rw [transferring]; rfl)) claimed)
    next => cases taken
  | markFailed other now =>
    simp only [Step, Takes, next] at taken
    split at taken
    next => cases taken; exact .inl (updated other _ (.inl rfl) claimed)
    next => cases taken
  | markFailedLost other =>
    simp only [Step, Takes, next] at taken
    split at taken
    next => cases taken; exact .inl (updated other _ (.inl rfl) claimed)
    next => cases taken
  | crash other =>
    cases taken
    exact .inl (updated other _ (.inl rfl) claimed)
  | retry target now =>
    cases taken
    exact .inl (by simpa using claimed)
  | cancel target now =>
    cases taken
    exact .inl (by simpa using claimed)
  | release target now =>
    cases taken
    exact .inl (by simpa using claimed)

end Steps

/-! ## Late reports

`attempt_count` grows with every claim, so the count a worker was given tells
its claim from every later one of the same row.
-/

/-- The row still stands as the claim left it: nobody has taken it over,
finished it, expired it, released it or canceled it. -/
def System.holds (s : System W) (task : ClaimedTransferTask) : Bool :=
  (s.task task.id).any fun row =>
    decide (row.status = .processing) && decide (row.attemptCount = task.attemptCount)

theorem System.holds_iff {s : System W} {task : ClaimedTransferTask} :
    s.holds task = true ↔ ∃ row, s.task task.id = some row ∧ row.status = .processing ∧
      row.attemptCount = task.attemptCount := by
  simp [System.holds, Option.any_eq_true]

/-! ## Finished tasks -/

/-- The `INSERT` of `persist_completed_task` violates no constraint. -/
def storageAccepts (media : MediaSchema) (uploaded : StoredObjectMetadata) (now : Timestamp) :
    Prop :=
  0 ≤ uploaded.contentLength ∧
    ∀ stored ∈ media.storageObject.rows, ¬ Row.clash stored ⟨uploaded, now⟩

instance (media : MediaSchema) (uploaded : StoredObjectMetadata) (now : Timestamp) :
    Decidable (storageAccepts media uploaded now) :=
  inferInstanceAs (Decidable (_ ∧ _))

/-- A report that would be written is made while its claim holds. -/
def OnTime (s : System W) : Action W → Prop
  | .persist worker uploaded _ now =>
    match s.workers worker with
    | .transferring task => storageAccepts s.media uploaded now → s.holds task = true
    | _ => True
  | .markFailed worker _ =>
    match s.workers worker with
    | .reporting task _ => s.holds task = true
    | _ => True
  | _ => True

instance (s : System W) : DecidablePred (OnTime s)
  | .persist worker uploaded _ now => by
    unfold OnTime
    dsimp only
    split <;> infer_instance
  | .markFailed worker _ => by
    unfold OnTime
    dsimp only
    split <;> infer_instance
  | .enqueue .. | .expireStale .. | .claim .. | .processFails .. | .markFailedLost .. | .crash ..
  | .retry .. | .cancel .. | .release .. => isTrue trivial

section Finished

variable {config : Config W} {s t : System W} {action : Action W}

theorem storageAccepts_of_persist {taskId : Uuid} {uploaded : StoredObjectMetadata}
    {now : Timestamp} {media media' : MediaSchema}
    (persisted : persistCompletedTask taskId uploaded now media = some media') :
    storageAccepts media uploaded now := by
  unfold persistCompletedTask at persisted
  split at persisted
  · cases persisted
  next nonnegative =>
    refine ⟨by omega, fun stored present clashes => ?_⟩
    obtain ⟨storageObject, inserted, _⟩ := Option.map_eq_some_iff.mp persisted
    rw [Table.insert_eq_none.mpr ⟨stored, present, clashes⟩] at inserted
    cases inserted

theorem holds_of_persist {worker : W} {task : ClaimedTransferTask}
    {uploaded : StoredObjectMetadata} {databaseError : String} {now : Timestamp}
    {media : MediaSchema} (onTime : OnTime s (.persist worker uploaded databaseError now))
    (transferring : s.workers worker = .transferring task)
    (persisted : persistCompletedTask task.id uploaded now s.media = some media) :
    s.holds task = true := by
  simp only [OnTime, transferring] at onTime
  exact onTime (storageAccepts_of_persist persisted)

theorem holds_of_markFailed {worker : W} {task : ClaimedTransferTask} {message : String}
    {now : Timestamp} (onTime : OnTime s (.markFailed worker now))
    (reporting : s.workers worker = .reporting task message) : s.holds task = true := by
  simpa only [OnTime, reporting] using onTime

theorem holds_status {task : ClaimedTransferTask} {row : TransferTask}
    (holds : s.holds task = true) (found : s.task task.id = some row) :
    row.status = .processing := by
  obtain ⟨stored, present, processing, _⟩ := System.holds_iff.mp holds
  rw [found, Option.some.injEq] at present
  rw [present]
  exact processing

/-- On time, only a row that is still in the queue changes, or an ended one by
the admin retry. -/
theorem RowChange.status_of_onTime {id : Uuid} {row row' : TransferTask}
    (change : RowChange config s id action row row') (found : s.task id = some row)
    (onTime : OnTime s action) :
    row.status = .pending ∨ row.status = .processing ∨
      ((∃ now, action = .retry id now) ∧ (row.status = .failed ∨ row.status = .canceled)) := by
  cases change with
  | expired expirable => exact .inr (.inl (Lease.expirable_status expirable))
  | claimed idle claimable =>
    rcases Lease.claimable_status claimable with pending | processing
    · exact .inl pending
    · exact .inr (.inl processing)
  | completed transferring same persisted =>
    subst same
    have holds := holds_of_persist onTime transferring persisted
    exact .inr (.inl (holds_status holds found))
  | failed reporting same =>
    subst same
    exact .inr (.inl (holds_status (holds_of_markFailed onTime reporting) found))
  | retried ended => exact .inr (.inr ⟨⟨_, rfl⟩, ended⟩)
  | canceled pending => exact .inl pending
  | released processing => exact .inr (.inl processing)

theorem finished_step [DecidableEq W] {id : Uuid} {row : TransferTask} (found : s.task id = some row)
    (finished : row.status = .completed ∨ row.status = .failed ∨ row.status = .canceled)
    (taken : Restrict (Step config) OnTime s action t) :
    t.task id = some row ∨ (row.status ≠ .completed ∧ ∃ now, action = .retry id now) := by
  obtain ⟨onTime, taken⟩ := taken
  cases step_row taken id with
  | kept same => exact .inl (same.trans found)
  | added _ absent _ =>
    rw [found] at absent
    cases absent
  | changed before _ change =>
    rw [found, Option.some.injEq] at before
    subst before
    rcases change.status_of_onTime found onTime with pending | processing | ⟨retried, ended⟩
    · simp [pending] at finished
    · simp [processing] at finished
    · refine .inr ⟨?_, retried⟩
      rcases ended with failed | canceled
      · simp [failed]
      · simp [canceled]

theorem finished_run [DecidableEq W] {actions : List (Action W)} {id : Uuid} {row : TransferTask}
    (run : Run (Restrict (Step config) OnTime) s actions t) (found : s.task id = some row)
    (finished : row.status = .completed ∨ row.status = .failed ∨ row.status = .canceled)
    (notRetried : row.status = .completed ∨ ∀ now, .retry id now ∉ actions) :
    t.task id = some row := by
  induction run with
  | nil => exact found
  | @snoc middle t actions action earlier taken inductionHypothesis =>
    have kept := inductionHypothesis <| notRetried.imp_right fun absent now present =>
      absent now (List.mem_append_left _ present)
    rcases finished_step kept finished taken with still | ⟨notCompleted, now, rfl⟩
    · exact still
    · rcases notRetried with completed | absent
      · exact absurd completed notCompleted
      · exact absurd (List.mem_append_right _ List.mem_cons_self) (absent now)

/-- The steps by which a worker reports on its claim. -/
def Action.reportOf : Action W → Option W
  | .persist worker _ _ _ => some worker
  | .markFailed worker _ => some worker
  | _ => none

/-- A report that comes late yet on time writes nothing: it is the rolled back
transaction of `persist_completed_task`. -/
theorem late_report [DecidableEq W] {worker : W} {task : ClaimedTransferTask}
    (claimed : (s.workers worker).claim = some task) (late : s.holds task = false)
    (report : action.reportOf = some worker)
    (taken : Restrict (Step config) OnTime s action t) (id : Uuid) : t.task id = s.task id := by
  obtain ⟨onTime, taken⟩ := taken
  cases step_row taken id with
  | kept same => exact same
  | added enqueued _ _ =>
    subst enqueued
    cases report
  | changed before _ change =>
    cases change with
    | completed transferring same persisted =>
      cases report
      rw [transferring] at claimed
      cases claimed
      have holds := holds_of_persist onTime transferring persisted
      rw [late] at holds
      cases holds
    | failed reporting same =>
      cases report
      rw [reporting] at claimed
      cases claimed
      have holds := holds_of_markFailed onTime reporting
      rw [late] at holds
      cases holds
    | _ => cases report

/-- As long as every written report is made while its claim holds: a completed
row never changes, a failed or canceled row changes only by an admin retry, and
the report of a claim that no longer holds changes no row. -/
theorem finished_states_are_final [DecidableEq W] {actions : List (Action W)}
    (run : Run (Restrict (Step config) OnTime) s actions t) :
    (∀ id row, s.task id = some row → row.status = .completed → t.task id = some row) ∧
    (∀ id row, s.task id = some row → row.status = .failed ∨ row.status = .canceled →
      (∀ now, .retry id now ∉ actions) → t.task id = some row) ∧
    ∀ worker task action u, (t.workers worker).claim = some task → t.holds task = false →
      action.reportOf = some worker → Restrict (Step config) OnTime t action u →
      ∀ id, u.task id = t.task id := by
  refine ⟨?_, ?_, ?_⟩
  · intro id row found completed
    exact finished_run run found (.inl completed) (.inl completed)
  · intro id row found ended notRetried
    exact finished_run run found (.inr ended) (.inr notRetried)
  · intro worker task action u claimed late report taken id
    exact late_report claimed late report taken id

end Finished

local instance neZero_two : NeZero 2 := ⟨Nat.succ_ne_zero 1⟩

/-- Two workers share the queue. -/
def twoWorkers : Config (Fin 2) where
  maxAttempts := 5
  workerName worker := if worker = 0 then "transfer-worker-1" else "transfer-worker-2"

def photoUpload (id : Uuid) : StoredObjectMetadata where
  id := id
  provider := "s3"
  bucket := "media"
  objectKey := "media/1/7"
  contentType := "image/jpeg"
  contentLength := 3
  etag := none
  sha256Hex := "00"

/-- Worker 0 lets its claim go stale; worker 1 takes the task over and completes it. -/
def takenOver : List (Action (Fin 2)) :=
  [.enqueue [⟨7, 1, 0, "https://pbs.twimg.com/a.jpg", "photo", none⟩] 0, .claim 0 0 [] 10,
    .claim 1 10 [] 100, .persist 1 (photoUpload 100) "" 110]

def afterTakeover : System (Fin 2) := (exec (next twoWorkers) .start takenOver).getD .start

/-- Rejected by the unique object key, the late success report changes nothing. -/
theorem finished_states_are_final_takenOver :
    Run (Step twoWorkers) .start takenOver afterTakeover ∧
      (afterTakeover.task 7).map TransferTask.status = some .completed ∧
      ∃ t, Run (Step twoWorkers) afterTakeover
        [.persist 0 (photoUpload 101) "duplicate key" 120] t ∧ t.task 7 = afterTakeover.task 7 := by
  have late : Run (Restrict (Step twoWorkers) OnTime) afterTakeover
      [.persist 0 (photoUpload 101) "duplicate key" 120] _ := run_of_guarded_exec rfl
  refine ⟨run_of_exec rfl, rfl, _, late.of_restrict, ?_⟩
  exact (finished_states_are_final late).1 7 _ rfl rfl

/-- The failure report that follows puts the completed task back into the queue. -/
theorem late_report_reopens_completed :
    Run (Step twoWorkers) .start takenOver afterTakeover ∧
      (afterTakeover.task 7).map TransferTask.status = some .completed ∧
      ∃ t, Run (Step twoWorkers) afterTakeover
          [.persist 0 (photoUpload 101) "duplicate key" 120, .markFailed 0 130] t ∧
        (t.task 7).map TransferTask.status = some .pending :=
  ⟨run_of_exec rfl, rfl, _, run_of_exec rfl, rfl⟩

end TweetDb.Transfer
