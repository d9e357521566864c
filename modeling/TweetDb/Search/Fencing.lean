import TweetDb.Search.Queue
import TweetDb.Transition.Run

/-! # Fencing in the search queue

The queue under any interleaving of its statements.  A claim, once issued, may
be reported at any later time, any number of times and in any company, so every
behaviour of the workers is covered.  Next to the table the system keeps, for
each row, the history of what happened to it; the statements never read it.
-/

namespace TweetDb.Search

open Leasing Relational Transition

/-- What can happen to a row. -/
inductive Event where
  | enqueued
  | refreshed
  | claimed (task : ClaimedIndexTask)
  | completed (task : ClaimedIndexTask)
  | failed (task : ClaimedIndexTask)
  | expired
deriving DecidableEq, Repr

structure QueueSystem where
  queue : Table IndexTask
  /-- Newest first. -/
  history : Uuid → List Event

namespace QueueSystem

def start : QueueSystem where
  queue := .empty
  history := fun _ => []

def record (s : QueueSystem) (queue : Table IndexTask) (event : Uuid → Option Event) :
    QueueSystem where
  queue := queue
  history id := (event id).toList ++ s.history id

def issued (s : QueueSystem) (task : ClaimedIndexTask) : Prop :=
  .claimed task ∈ s.history task.id

instance (s : QueueSystem) (task : ClaimedIndexTask) : Decidable (s.issued task) :=
  inferInstanceAs (Decidable (_ ∈ _))

/-- The claim is the last thing that happened to its row: it has not been
superseded, refreshed, expired or reported. -/
def current (s : QueueSystem) (task : ClaimedIndexTask) : Prop :=
  (s.history task.id).head? = some (.claimed task)

end QueueSystem

inductive QueueAction where
  | enqueueTargets (targets : List IndexTarget) (forceRefresh : Bool)
      (newId : IndexTarget → Uuid) (now : Timestamp)
  | claimNextTasks (staleCutoff : Timestamp) (workerName : String) (batchSize : Nat)
      (locked : List Uuid) (now : Timestamp)
  | markTasksCompleted (tasks : List ClaimedIndexTask) (now : Timestamp)
  | markTaskFailed (task : ClaimedIndexTask) (errorMessage : String) (now : Timestamp)
  | expireStaleTasks (staleCutoff now : Timestamp)

/-- What the upsert does to the row with an id, as its result tells. -/
def enqueueEvent (targets : List IndexTarget) (forceRefresh : Bool)
    (before after : Option IndexTask) : Option Event :=
  match before, after with
  | none, some _ => some .enqueued
  | some row, _ => if row.target ∈ targets ∧ forceRefresh = true then some .refreshed else none
  | none, none => none

def next (maxAttempts : Int) (s : QueueSystem) : QueueAction → Option QueueSystem
  | .enqueueTargets targets forceRefresh newId now =>
    (enqueueTargets targets forceRefresh newId now s.queue).map fun (_, queue) =>
      s.record queue fun id =>
        enqueueEvent targets forceRefresh (s.queue.find id) (queue.find id)
  | .claimNextTasks staleCutoff workerName batchSize locked now =>
    let result := claimNextTasks staleCutoff maxAttempts workerName batchSize locked now s.queue
    some (s.record result.2 fun id =>
      (result.1.find? fun task => decide (task.id = id)).map .claimed)
  | .markTasksCompleted tasks now =>
    if ∀ task ∈ tasks, s.issued task then
      some (s.record (markTasksCompleted tasks now s.queue).2 fun id =>
        (s.queue.find id).bind fun row =>
          (tasks.find? fun task => task.holds row).map .completed)
    else none
  | .markTaskFailed task errorMessage now =>
    if s.issued task then
      some (s.record (markTaskFailed task errorMessage maxAttempts now s.queue).2 fun id =>
        (s.queue.find id).bind fun row => if task.holds row then some (.failed task) else none)
    else none
  | .expireStaleTasks staleCutoff now =>
    some (s.record (expireStaleTasks staleCutoff maxAttempts now s.queue) fun id =>
      (s.queue.find id).bind fun row =>
        if row.lease.expirable staleCutoff maxAttempts then some .expired else none)

abbrev QueueStep (maxAttempts : Int) : QueueSystem → QueueAction → QueueSystem → Prop :=
  Takes (next maxAttempts)

/-! ## What a step can do to a row -/

inductive RowChange (maxAttempts : Int) (s : QueueSystem) :
    QueueAction → IndexTask → IndexTask → Event → Prop where
  | refreshed {row : IndexTask} {targets : List IndexTarget} {newId : IndexTarget → Uuid}
      {now : Timestamp} (named : row.target ∈ targets) :
      RowChange maxAttempts s (.enqueueTargets targets true newId now) row
        (row.setLease (refreshLease now)) .refreshed
  | claimed {row : IndexTask} {staleCutoff now : Timestamp} {workerName : String}
      {batchSize : Nat} {locked : List Uuid}
      (claimable : row.lease.claimable staleCutoff maxAttempts = true) :
      RowChange maxAttempts s (.claimNextTasks staleCutoff workerName batchSize locked now) row
        (row.setLease fun lease => lease.claim workerName now)
        (.claimed (.ofRow workerName now (row.setLease fun lease => lease.claim workerName now)))
  | completed {row : IndexTask} {tasks : List ClaimedIndexTask} {task : ClaimedIndexTask}
      {now : Timestamp} (member : task ∈ tasks) (issued : s.issued task)
      (holds : task.holds row = true) :
      RowChange maxAttempts s (.markTasksCompleted tasks now) row
        (row.setLease fun lease => lease.complete now) (.completed task)
  | failed {row : IndexTask} {task : ClaimedIndexTask} {errorMessage : String} {now : Timestamp}
      (issued : s.issued task) (holds : task.holds row = true) :
      RowChange maxAttempts s (.markTaskFailed task errorMessage now) row
        (row.setLease fun lease => lease.fail (truncateErrorMessage errorMessage) maxAttempts now)
        (.failed task)
  | expired {row : IndexTask} {staleCutoff now : Timestamp}
      (expirable : row.lease.expirable staleCutoff maxAttempts = true) :
      RowChange maxAttempts s (.expireStaleTasks staleCutoff now) row
        (row.setLease fun lease => lease.expire "attempt_timeout" now) .expired

/-- A row is left alone, or added, or changed; its history says which. -/
inductive RowEffect (maxAttempts : Int) (s : QueueSystem) (id : Uuid) (action : QueueAction)
    (t : QueueSystem) : Prop where
  | kept (row : t.queue.find id = s.queue.find id) (history : t.history id = s.history id)
  | added {targets : List IndexTarget} {target : IndexTarget} {forceRefresh : Bool}
      {newId : IndexTarget → Uuid} {now : Timestamp}
      (enqueued : action = .enqueueTargets targets forceRefresh newId now) (absent : s.queue.find id = none)
      (found : t.queue.find id = some ⟨id, target, .created now⟩)
      (history : t.history id = .enqueued :: s.history id)
  | changed {row row' : IndexTask} {event : Event} (before : s.queue.find id = some row)
      (after : t.queue.find id = some row')
      (change : RowChange maxAttempts s action row row' event)
      (history : t.history id = event :: s.history id)

section Steps

variable {maxAttempts : Int} {s t : QueueSystem} {action : QueueAction} {id : Uuid}

/-- An `UPDATE` of the lease columns, with the event it leaves for each row it changes. -/
theorem rowEffect_of_updateLease {condition : IndexTask → Bool}
    {set : Lease IndexTaskStatus → Lease IndexTaskStatus} {event : IndexTask → Option Event}
    (row : t.queue.find id =
      (s.queue.find id).map fun row => if condition row then row.setLease set else row)
    (history : t.history id = ((s.queue.find id).bind event).toList ++ s.history id)
    (met : ∀ row, s.queue.find id = some row → condition row = true →
      ∃ happened, event row = some happened ∧
        RowChange maxAttempts s action row (row.setLease set) happened)
    (unmet : ∀ row, condition row = false → event row = none) :
    RowEffect maxAttempts s id action t := by
  cases before : s.queue.find id with
  | none =>
    rw [before] at row history
    exact .kept (by rw [row, before, Option.map_none]) history
  | some stored =>
    rw [before, Option.map_some] at row
    rw [before, Option.bind_some] at history
    cases condition' : condition stored with
    | true =>
      obtain ⟨happened, recorded, change⟩ := met stored before condition'
      rw [condition', if_pos rfl] at row
      rw [recorded] at history
      exact .changed before row change history
    | false =>
      rw [condition', if_neg Bool.false_ne_true, ← before] at row
      rw [unmet stored condition'] at history
      exact .kept row history

theorem queueStep_row (taken : QueueStep maxAttempts s action t) (id : Uuid) :
    RowEffect maxAttempts s id action t := by
  cases action with
  | enqueueTargets targets forceRefresh newId now =>
    obtain ⟨⟨statuses, queue⟩, upserted, rfl⟩ := Option.map_eq_some_iff.mp taken
    have enqueued := find_enqueueTargets upserted
    cases before : s.queue.find id with
    | none =>
      rcases enqueued.fresh id before with missing | ⟨target, _, found⟩
      · refine .kept (missing.trans before.symm) ?_
        simp [QueueSystem.record, enqueueEvent, before, missing]
      · refine .added rfl before found ?_
        simp [QueueSystem.record, enqueueEvent, before, found]
    | some row =>
      have after := enqueued.stored id row before
      by_cases refreshed : row.target ∈ targets ∧ forceRefresh = true
      · obtain ⟨named, rfl⟩ := refreshed
        rw [refreshRow_of_mem named] at after
        refine .changed before after (.refreshed named) ?_
        simp [QueueSystem.record, enqueueEvent, before, named]
      · rw [refreshRow, if_neg refreshed] at after
        refine .kept (after.trans before.symm) ?_
        simp [QueueSystem.record, enqueueEvent, before, refreshed]
  | claimNextTasks staleCutoff workerName batchSize locked now =>
    cases result : claimNextTasks staleCutoff maxAttempts workerName batchSize locked now
        s.queue with
    | mk claimed queue =>
      simp only [QueueStep, Takes, next, result, Option.some.injEq] at taken
      subst taken
      obtain ⟨origin, updated⟩ := claimNextTasks_cases result
      cases chosen : claimed.find? fun task => decide (task.id = id) with
      | none =>
        have notClaimed : id ∉ claimed.map ClaimedIndexTask.id := by
          simpa [List.find?_eq_none] using chosen
        refine .kept ?_ ?_
        · rw [QueueSystem.record, updated, if_neg notClaimed]
        · simp [QueueSystem.record, chosen]
      | some task =>
        have member := List.mem_of_find?_eq_some chosen
        have same : task.id = id := by simpa using List.find?_some chosen
        obtain ⟨row, found, claimable, rfl⟩ := origin task member
        have isClaimed : id ∈ claimed.map ClaimedIndexTask.id :=
          same ▸ List.mem_map_of_mem member
        rw [same] at found
        refine .changed found ?_ (.claimed claimable) ?_
        · rw [QueueSystem.record, updated, if_pos isClaimed, found, Option.map_some]
        · simp [QueueSystem.record, chosen]
  | markTasksCompleted tasks now =>
    simp only [QueueStep, Takes, next] at taken
    split at taken
    next issued =>
      cases taken
      refine rowEffect_of_updateLease find_markTasksCompleted rfl ?_ ?_
      · intro row _ held
        obtain ⟨task, found⟩ : ∃ task, (tasks.find? fun task => task.holds row) = some task := by
          rw [← Option.isSome_iff_exists, List.find?_isSome]
          simpa using held
        have member := List.mem_of_find?_eq_some found
        have holds := List.find?_some found
        exact ⟨.completed task, by rw [found]; rfl, .completed member (issued task member) holds⟩
      · intro row notHeld
        have none : (tasks.find? fun task => task.holds row) = none := by
          rw [List.find?_eq_none]
          simpa using notHeld
        rw [none]
        rfl
    next => cases taken
  | markTaskFailed task errorMessage now =>
    simp only [QueueStep, Takes, next] at taken
    split at taken
    next issued =>
      cases taken
      refine rowEffect_of_updateLease find_markTaskFailed rfl ?_ ?_
      · intro row _ held
        exact ⟨_, if_pos held, .failed issued held⟩
      · intro row notHeld
        simp [notHeld]
    next => cases taken
  | expireStaleTasks staleCutoff now =>
    cases taken
    refine rowEffect_of_updateLease find_expireStaleTasks rfl ?_ ?_
    · intro row _ expirable
      exact ⟨_, if_pos expirable, .expired expirable⟩
    · intro row notExpirable
      simp [notExpirable]

end Steps

/-! ## Fencing -/

/-- The stamps of the claims in a history. -/
def stamps (history : List Event) : List (String × Timestamp) :=
  history.filterMap fun
    | .claimed task => some (task.claimedBy, task.claimedAt)
    | _ => none

/-- The claims of one row got pairwise distinct stamps. -/
def DistinctStamps (s : QueueSystem) : Prop :=
  ∀ row ∈ s.queue.rows, (stamps (s.history row.id)).Nodup

instance (s : QueueSystem) : Decidable (DistinctStamps s) :=
  inferInstanceAs (Decidable (∀ row ∈ s.queue.rows, (stamps (s.history row.id)).Nodup))

theorem stamps_mem {history : List Event} {task : ClaimedIndexTask}
    (issued : .claimed task ∈ history) : (task.claimedBy, task.claimedAt) ∈ stamps history :=
  List.mem_filterMap.mpr ⟨_, issued, rfl⟩

/-- Two claims of one history with the same stamp are the same claim, if one of
them is the newest event. -/
theorem claimed_eq_of_stamp {rest : List Event} {newest task : ClaimedIndexTask}
    (distinct : (stamps (.claimed newest :: rest)).Nodup)
    (issued : .claimed task ∈ Event.claimed newest :: rest)
    (sameWorker : task.claimedBy = newest.claimedBy)
    (sameTime : task.claimedAt = newest.claimedAt) : task = newest := by
  rcases List.mem_cons.mp issued with same | earlier
  · cases same
    rfl
  · have repeated := stamps_mem earlier
    rw [sameWorker, sameTime] at repeated
    exact absurd repeated (List.nodup_cons.mp distinct).1

/-- What the history of a row says about its lease. -/
structure RowFenced (history : List Event) (row : IndexTask) : Prop where
  processing : row.status = .processing → ∃ task rest, history = .claimed task :: rest ∧
    task.id = row.id ∧ row.lease.claimedBy = some task.claimedBy ∧
      row.lease.claimedAt = some task.claimedAt
  completed : row.status = .completed →
    ∃ task rest, history = .completed task :: .claimed task :: rest

def Fenced (s : QueueSystem) : Prop :=
  ∀ id row, s.queue.find id = some row → RowFenced (s.history id) row

theorem rowFenced_of_idle {history : List Event} {row : IndexTask}
    (idle : row.status = .pending ∨ row.status = .failed) : RowFenced history row where
  processing := by
    intro processing
    rcases idle with pending | failed
    · simp [pending] at processing
    · simp [failed] at processing
  completed := by
    intro completed
    rcases idle with pending | failed
    · simp [pending] at completed
    · simp [failed] at completed

section Fencing

variable {maxAttempts : Int} {s t : QueueSystem} {action : QueueAction} {id : Uuid}

theorem holds_lease {task : ClaimedIndexTask} {row : IndexTask} (holds : task.holds row = true) :
    row.id = task.id ∧ row.status = .processing ∧ row.lease.claimedBy = some task.claimedBy ∧
      row.lease.claimedAt = some task.claimedAt := by
  rw [ClaimedIndexTask.holds, Bool.and_eq_true, decide_eq_true_eq, Lease.heldUnder_iff] at holds
  exact holds

/-- The claim under which a row is held is the newest event of the row. -/
theorem history_of_holds (fenced : Fenced s) (distinct : DistinctStamps s)
    {task : ClaimedIndexTask} {row : IndexTask} (found : s.queue.find id = some row)
    (issued : s.issued task) (holds : task.holds row = true) :
    task.id = id ∧ ∃ rest, s.history id = .claimed task :: rest := by
  obtain ⟨sameId, processing, claimedBy, claimedAt⟩ := holds_lease holds
  have rowId : row.id = id := Table.find_key found
  have taskId : task.id = id := sameId.symm.trans rowId
  obtain ⟨newest, rest, history, _, newestBy, newestAt⟩ := (fenced id row found).processing processing
  have sameWorker : task.claimedBy = newest.claimedBy := by
    rw [claimedBy] at newestBy
    exact Option.some.inj newestBy
  have sameTime : task.claimedAt = newest.claimedAt := by
    rw [claimedAt] at newestAt
    exact Option.some.inj newestAt
  have distinctHere := distinct row (Table.mem_of_find found)
  rw [QueueSystem.issued, taskId, history] at issued
  rw [rowId, history] at distinctHere
  have same := claimed_eq_of_stamp distinctHere issued sameWorker sameTime
  exact ⟨taskId, rest, by rw [history, same]⟩

theorem rowFenced_change (fenced : Fenced s) (distinct : DistinctStamps s) {row row' : IndexTask}
    {event : Event} (found : s.queue.find id = some row)
    (change : RowChange maxAttempts s action row row' event) :
    RowFenced (event :: s.history id) row' := by
  cases change with
  | refreshed => exact rowFenced_of_idle (.inl rfl)
  | claimed =>
    constructor
    · intro _
      exact ⟨_, _, rfl, rfl, rfl, rfl⟩
    · intro completed
      cases completed
  | completed member issued holds =>
    obtain ⟨_, rest, history⟩ := history_of_holds fenced distinct found issued holds
    constructor
    · intro processing
      cases processing
    · intro _
      exact ⟨_, rest, by rw [history]⟩
  | failed =>
    rcases Lease.fail_status row.lease _ maxAttempts _ with failed | pending
    · exact rowFenced_of_idle (.inr failed)
    · exact rowFenced_of_idle (.inl pending)
  | expired => exact rowFenced_of_idle (.inr rfl)

theorem fenced_step (fenced : Fenced s) (distinct : DistinctStamps s)
    (taken : QueueStep maxAttempts s action t) : Fenced t := by
  intro id row found
  cases queueStep_row taken id with
  | kept same history =>
    rw [history]
    exact fenced id row (same ▸ found)
  | added _ _ created history =>
    rw [created, Option.some.injEq] at found
    subst found
    exact rowFenced_of_idle (.inl rfl)
  | changed before after change history =>
    rw [after, Option.some.injEq] at found
    subst found
    rw [history]
    exact rowFenced_change fenced distinct before change

theorem stamps_cons_nodup {event : Event} {history : List Event}
    (distinct : (stamps (event :: history)).Nodup) : (stamps history).Nodup := by
  refine distinct.sublist ?_
  exact (List.sublist_cons_self event history).filterMap _

/-- Histories only grow, so stamps that are distinct now were distinct before. -/
theorem distinctStamps_of_step (distinct : DistinctStamps t)
    (taken : QueueStep maxAttempts s action t) : DistinctStamps s := by
  intro row present
  have before : s.queue.find row.id = some row := Table.find_of_mem present
  cases queueStep_row taken row.id with
  | kept same history =>
    have distinctHere := distinct row (Table.mem_of_find (same.trans before))
    rwa [history] at distinctHere
  | added _ absent =>
    rw [before] at absent
    cases absent
  | changed _ after _ history =>
    have distinctHere := distinct _ (Table.mem_of_find after)
    have sameId : Row.key _ = row.id := Table.find_key after
    rw [IndexTask.key_eq] at sameId
    rw [sameId, history] at distinctHere
    exact stamps_cons_nodup distinctHere

theorem fenced_run {actions : List QueueAction}
    (run : Run (QueueStep maxAttempts) .start actions s) (distinct : DistinctStamps s) :
    Fenced s := by
  induction run with
  | nil =>
    intro id row found
    cases found
  | snoc _ taken inductionHypothesis =>
    have distinctBefore := distinctStamps_of_step distinct taken
    exact fenced_step (inductionHypothesis distinctBefore) distinctBefore taken

/-- A report leaves every row whose claims in it are not current as it was. -/
theorem late_report_kept (fenced : Fenced s) (distinct : DistinctStamps s)
    (taken : QueueStep maxAttempts s action t) {tasks : List ClaimedIndexTask}
    (reports : (∃ now, action = .markTasksCompleted tasks now) ∨
      ∃ task errorMessage now, tasks = [task] ∧ action = .markTaskFailed task errorMessage now)
    (late : ∀ task ∈ tasks, task.id = id → ¬ s.current task) :
    t.queue.find id = s.queue.find id := by
  have notHeld : ∀ task ∈ tasks, ∀ row, s.queue.find id = some row → s.issued task →
      task.holds row = true → False := by
    intro task member row found issued holds
    obtain ⟨same, rest, history⟩ := history_of_holds fenced distinct found issued holds
    refine late task member same ?_
    rw [QueueSystem.current, same, history]
    rfl
  cases queueStep_row taken id with
  | kept same _ => exact same
  | added enqueued =>
    subst enqueued
    rcases reports with ⟨now, report⟩ | ⟨task, errorMessage, now, _, report⟩
    · cases report
    · cases report
  | changed before _ change _ =>
    rcases reports with ⟨now, rfl⟩ | ⟨task, errorMessage, now, rfl, rfl⟩
    · cases change with
      | completed member issued holds => exact absurd holds (notHeld _ member _ before issued)
    · cases change with
      | failed issued holds =>
        exact absurd holds (notHeld _ (List.mem_singleton_self _) _ before issued)

/-- A completed row was completed by a claim that came after its last refresh
and after every other claim; a report of any claim but the newest event of its
row leaves the row as it was. -/
theorem search_queue_fencing {actions : List QueueAction}
    (run : Run (QueueStep maxAttempts) .start actions s) (distinct : DistinctStamps s) :
    (∀ row ∈ s.queue.rows, row.status = .completed →
      ∃ task rest, s.history row.id = .completed task :: .claimed task :: rest) ∧
    (∀ tasks now t, QueueStep maxAttempts s (.markTasksCompleted tasks now) t →
      ∀ id, (∀ task ∈ tasks, task.id = id → ¬ s.current task) →
        t.queue.find id = s.queue.find id) ∧
    ∀ task errorMessage now t,
      QueueStep maxAttempts s (.markTaskFailed task errorMessage now) t → ¬ s.current task →
        t.queue.find task.id = s.queue.find task.id := by
  have fenced := fenced_run run distinct
  refine ⟨?_, ?_, ?_⟩
  · intro row present completed
    exact (fenced row.id row (Table.find_of_mem present)).completed completed
  · intro tasks now t taken id late
    exact late_report_kept fenced distinct taken (.inl ⟨now, rfl⟩) late
  · intro task errorMessage now t taken late
    refine late_report_kept fenced distinct taken (.inr ⟨task, errorMessage, now, rfl, rfl⟩) ?_
    intro reported member _
    rwa [List.mem_singleton.mp member]

/-- Claimed by worker 1, refreshed, claimed again by worker 2, which completes
it; worker 1 reports as well, too late. -/
def refreshedWhileClaimed : List QueueAction :=
  [.enqueueTargets [⟨.tweet, 42⟩] true (fun _ => 7) 0,
    .claimNextTasks 0 "search-worker-1" 8 [] 10,
    .enqueueTargets [⟨.tweet, 42⟩] true (fun _ => 8) 20,
    .claimNextTasks 0 "search-worker-2" 8 [] 30,
    .markTasksCompleted [⟨7, ⟨.tweet, 42⟩, 1, "search-worker-1", 10⟩] 40,
    .markTasksCompleted [⟨7, ⟨.tweet, 42⟩, 1, "search-worker-2", 30⟩] 50]

def afterRefresh : QueueSystem := (exec (next 5) .start refreshedWhileClaimed).getD .start

theorem search_queue_fencing_refreshed :
    ∃ task rest, afterRefresh.history 7 = .completed task :: .claimed task :: rest ∧
      task.claimedBy = "search-worker-2" := by
  have run : Run (QueueStep 5) .start refreshedWhileClaimed afterRefresh := run_of_exec rfl
  obtain ⟨task, rest, history⟩ := (search_queue_fencing run (by decide)).1
    ⟨7, ⟨.tweet, 42⟩, ⟨.completed, 1, none, none, none, some 50, 0, 50⟩⟩ (by decide) rfl
  refine ⟨task, rest, history, ?_⟩
  cases history
  rfl

end Fencing

end TweetDb.Search
