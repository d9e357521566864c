import Mathlib.Logic.Function.Basic
import TweetDb.Search.Documents
import TweetDb.Transition.Run

/-! # Search workers and the index

The worker loop of `search/worker.rs` over the queue, the database content and
the two Tantivy indexes.  A worker fetches documents in one step and commits
them in a later one; in between, the content, the queue and the index may all
have moved on.  A writer is shared: what a failed write has already given to it
goes out with the next commit.
-/

namespace TweetDb.Search.Indexing

open Leasing Relational Transition

/-- `delete_term` for an id, then `add_document` where there is a document. -/
abbrev Ops := List (Int × Option IndexDocument)

/-- Where `index_tasks` (or `index_task`) stands: users come before tweets. -/
inductive Stage where
  | fetch (kind : IndexTargetKind)
  | write (kind : IndexTargetKind) (ops : Ops)
  | report
deriving DecidableEq

/-- A whole claimed batch, or one task of a batch that failed and the tasks
that come after it. -/
inductive Job where
  | batch (tasks : List ClaimedIndexTask)
  | single (task : ClaimedIndexTask) (later : List ClaimedIndexTask)
deriving DecidableEq

inductive WorkerState where
  | idle
  | indexing (job : Job) (stage : Stage)
  | failing (task : ClaimedIndexTask) (message : String) (later : List ClaimedIndexTask)
deriving DecidableEq

def Job.tasks : Job → List ClaimedIndexTask
  | .batch tasks => tasks
  | .single task _ => [task]

def Job.later : Job → List ClaimedIndexTask
  | .batch _ => []
  | .single _ later => later

/-- `process_tasks_individually`. -/
def individually : List ClaimedIndexTask → WorkerState
  | [] => .idle
  | task :: later => .indexing (.single task later) (.fetch .user)

def Job.onError (message : String) : Job → WorkerState
  | .batch tasks => individually tasks
  | .single task later => .failing task message later

def Job.onDone : Job → WorkerState
  | .batch _ => .idle
  | .single _ later => individually later

def Stage.after : IndexTargetKind → Stage
  | .user => .fetch .tweet
  | .tweet => .report

/-- The targets of this kind have been written. -/
def Stage.past : Stage → IndexTargetKind → Bool
  | .fetch .user, _ => false
  | .write .user _, _ => false
  | .fetch .tweet, kind => decide (kind = .user)
  | .write .tweet _, kind => decide (kind = .user)
  | .report, _ => true

/-- The claims a worker still has in hand. -/
def WorkerState.tasks : WorkerState → List ClaimedIndexTask
  | .idle => []
  | .indexing job _ => job.tasks ++ job.later
  | .failing task _ later => task :: later

/-- The claims in hand whose index write is done. -/
def WorkerState.written : WorkerState → List ClaimedIndexTask
  | .indexing job stage => job.tasks.filter fun task => stage.past task.target.kind
  | _ => []

structure Config where
  maxAttempts : Int
  batchSize : Nat
  toLowercase : String → String

def workerName {n : Nat} (worker : Fin n) : String := "search-worker-" ++ toString (worker.val + 1)

theorem workerName_injective {n : Nat} {worker worker' : Fin n}
    (same : workerName worker = workerName worker') : worker = worker' := by
  have written : toString (worker.val + 1) = toString (worker'.val + 1) :=
    String.append_right_inj _ |>.mp same
  have digits : Nat.toDigits 10 (worker.val + 1) = Nat.toDigits 10 (worker'.val + 1) := by
    rw [← Nat.toList_repr, ← Nat.toList_repr]
    exact congrArg String.toList written
  -- The digits are read back to the number.
  have numbers : worker.val + 1 = worker'.val + 1 := by
    rw [← @Nat.ofDigitChars_ten_toDigits (worker.val + 1), digits, Nat.ofDigitChars_ten_toDigits]
  exact Fin.ext (Nat.add_right_cancel numbers)

structure State (n : Nat) where
  facts : Facts
  queue : Table IndexTask
  /-- What a search sees. -/
  index : IndexTargetKind → Int → Option IndexDocument
  /-- What the writers hold but have not committed. -/
  pending : IndexTargetKind → Ops
  workers : Fin n → WorkerState

inductive WriteOutcome where
  | committed
  | reloadFailed (message : String)
  /-- `add_document` or `commit` fails after `added` documents, and perhaps after
  the `delete_term` of the next. -/
  | failed (added : Nat) (deleted : Bool) (message : String)

inductive Action (n : Nat) where
  | writeFacts (tweets : List (Int × TweetRow)) (users : List (Int × UserRow))
      (newId : IndexTarget → Uuid) (now : Timestamp)
  | enqueueTargets (targets : List IndexTarget) (forceRefresh : Bool)
      (newId : IndexTarget → Uuid) (now : Timestamp)
  | claimNextTasks (worker : Fin n) (staleCutoff : Timestamp) (locked : List Uuid)
      (now : Timestamp)
  | fetch (worker : Fin n)
  | write (worker : Fin n) (outcome : WriteOutcome)
  /-- A fetch fails, or the writer lock is poisoned. -/
  | stageFails (worker : Fin n) (message : String)
  | reportCompleted (worker : Fin n) (now : Timestamp)
  | reportLost (worker : Fin n)
  | markTaskFailed (worker : Fin n) (now : Timestamp)
  | markFailedLost (worker : Fin n)
  | expireStaleTasks (staleCutoff now : Timestamp)
  /-- The process ends and starts again. -/
  | restart

variable {n : Nat}

namespace State

def start (facts : Facts) (index : IndexTargetKind → Int → Option IndexDocument) : State n where
  facts := facts
  queue := .empty
  index := index
  pending := fun _ => []
  workers := fun _ => .idle

def setWorker (s : State n) (worker : Fin n) (state : WorkerState) : State n :=
  { s with workers := Function.update s.workers worker state }

/-- The row still stands as the claim left it. -/
def holds (s : State n) (task : ClaimedIndexTask) : Bool := (s.queue.find task.id).any task.holds

/-- The index shows the document of the current content. -/
def indexed (config : Config) (s : State n) (target : IndexTarget) : Prop :=
  s.index target.kind target.id = document config.toLowercase s.facts target

end State

def setRows {α : Type} (rows : Int → Option α) (changes : List (Int × α)) : Int → Option α :=
  changes.foldl (fun rows change => Function.update rows change.1 (some change.2)) rows

def targetIds (kind : IndexTargetKind) (tasks : List ClaimedIndexTask) : List Int :=
  (tasks.filter fun task => decide (task.target.kind = kind)).map fun task => task.target.id

def fetchOps (config : Config) (facts : Facts) (kind : IndexTargetKind) (ids : List Int) : Ops :=
  ids.map fun id => (id, document config.toLowercase facts ⟨kind, id⟩)

def applyOps (ops : Ops) (index : Int → Option IndexDocument) : Int → Option IndexDocument :=
  ops.foldl (fun index op => Function.update index op.1 op.2) index

def partialOps (ops : Ops) (added : Nat) (deleted : Bool) : Ops :=
  ops.take added ++ if deleted then ((ops.drop added).take 1).map fun op => (op.1, none) else []

def commit (s : State n) (kind : IndexTargetKind) (ops : Ops) : State n :=
  { s with
    index := Function.update s.index kind (applyOps (s.pending kind ++ ops) (s.index kind))
    pending := Function.update s.pending kind [] }

def next (config : Config) (s : State n) : Action n → Option (State n)
  | .writeFacts tweets users newId now =>
    let targets := (tweets.map fun change => IndexTarget.mk .tweet change.1) ++
      users.map fun change => IndexTarget.mk .user change.1
    (enqueueTargets targets true newId now s.queue).map fun (_, queue) =>
      { s with
        facts := ⟨setRows s.facts.tweet tweets, setRows s.facts.user users⟩
        queue }
  | .enqueueTargets targets forceRefresh newId now =>
    (enqueueTargets targets forceRefresh newId now s.queue).map fun (_, queue) => { s with queue }
  | .claimNextTasks worker staleCutoff locked now =>
    match s.workers worker with
    | .idle =>
      let result := claimNextTasks staleCutoff config.maxAttempts (workerName worker)
        config.batchSize locked now s.queue
      let state := match result.1 with
        | [] => WorkerState.idle
        | tasks => .indexing (.batch tasks) (.fetch .user)
      some ({ s with queue := result.2 }.setWorker worker state)
    | _ => none
  | .fetch worker =>
    match s.workers worker with
    | .indexing job (.fetch kind) =>
      let stage := match targetIds kind job.tasks with
        | [] => Stage.after kind
        | ids => .write kind (fetchOps config s.facts kind ids)
      some (s.setWorker worker (.indexing job stage))
    | _ => none
  | .write worker outcome =>
    match s.workers worker with
    | .indexing job (.write kind ops) =>
      match outcome with
      | .committed => some ((commit s kind ops).setWorker worker (.indexing job (.after kind)))
      | .reloadFailed message => some ((commit s kind ops).setWorker worker (job.onError message))
      | .failed added deleted message =>
        let pending := s.pending kind ++ partialOps ops added deleted
        some ({ s with pending := Function.update s.pending kind pending }.setWorker worker
          (job.onError message))
    | _ => none
  | .stageFails worker message =>
    match s.workers worker with
    | .indexing job (.fetch _) => some (s.setWorker worker (job.onError message))
    | .indexing job (.write _ _) => some (s.setWorker worker (job.onError message))
    | _ => none
  | .reportCompleted worker now =>
    match s.workers worker with
    | .indexing job .report =>
      some ({ s with queue := (markTasksCompleted job.tasks now s.queue).2 }.setWorker worker
        job.onDone)
    | _ => none
  | .reportLost worker =>
    match s.workers worker with
    | .indexing job .report => some (s.setWorker worker job.onDone)
    | _ => none
  | .markTaskFailed worker now =>
    match s.workers worker with
    | .failing task message later =>
      let result := markTaskFailed task message config.maxAttempts now s.queue
      some ({ s with queue := result.2 }.setWorker worker (individually later))
    | _ => none
  | .markFailedLost worker =>
    match s.workers worker with
    | .failing _ _ later => some (s.setWorker worker (individually later))
    | _ => none
  | .expireStaleTasks staleCutoff now =>
    some { s with queue := expireStaleTasks staleCutoff config.maxAttempts now s.queue }
  | .restart => some { s with pending := fun _ => [], workers := fun _ => .idle }

abbrev Step (config : Config) : State n → Action n → State n → Prop := Takes (next config)

/-! ## Documents and operations -/

theorem setRows_of_not_mem {α : Type} {rows : Int → Option α} {changes : List (Int × α)} {id : Int}
    (untouched : id ∉ changes.map Prod.fst) : setRows rows changes id = rows id := by
  induction changes generalizing rows with
  | nil => rfl
  | cons change changes inductionHypothesis =>
    rw [List.map_cons, List.mem_cons, not_or] at untouched
    have rest : setRows (Function.update rows change.1 (some change.2)) changes id =
        Function.update rows change.1 (some change.2) id := inductionHypothesis untouched.2
    rw [Function.update_of_ne untouched.1] at rest
    exact rest

/-- A document depends on the row of its target alone. -/
theorem document_congr {toLowercase : String → String} {facts facts' : Facts}
    {target : IndexTarget} (tweet : target.kind = .tweet → facts'.tweet target.id =
      facts.tweet target.id) (user : target.kind = .user → facts'.user target.id =
      facts.user target.id) :
    document toLowercase facts' target = document toLowercase facts target := by
  unfold document
  cases kind : target.kind with
  | user => simp only [fetchUserDocument, user kind]
  | tweet => simp only [fetchTweetDocument, tweet kind]

theorem applyOps_append (first second : Ops) (index : Int → Option IndexDocument) :
    applyOps (first ++ second) index = applyOps second (applyOps first index) := by
  simp [applyOps]

theorem applyOps_of_not_mem {ops : Ops} {index : Int → Option IndexDocument} {id : Int}
    (untouched : id ∉ ops.map Prod.fst) : applyOps ops index id = index id := by
  induction ops generalizing index with
  | nil => rfl
  | cons op ops inductionHypothesis =>
    rw [List.map_cons, List.mem_cons, not_or] at untouched
    have rest : applyOps ops (Function.update index op.1 op.2) id =
        Function.update index op.1 op.2 id := inductionHypothesis untouched.2
    rw [Function.update_of_ne untouched.1] at rest
    exact rest

/-- An id all of whose operations write one document ends with that document. -/
theorem applyOps_of_agree {ops : Ops} {index : Int → Option IndexDocument} {id : Int}
    {doc : Option IndexDocument} (touched : id ∈ ops.map Prod.fst)
    (agree : ∀ op ∈ ops, op.1 = id → op.2 = doc) : applyOps ops index id = doc := by
  induction ops generalizing index with
  | nil => cases touched
  | cons op ops inductionHypothesis =>
    by_cases later : id ∈ ops.map Prod.fst
    · exact inductionHypothesis later fun op member => agree op (List.mem_cons_of_mem _ member)
    · rw [List.map_cons, List.mem_cons] at touched
      have first : id = op.1 := touched.resolve_right later
      have step : applyOps (op :: ops) index id = Function.update index op.1 op.2 id :=
        applyOps_of_not_mem later
      rw [step, first, Function.update_self]
      exact agree op List.mem_cons_self first.symm

/-! ## What the statements leave of a row that is not pending -/

section Rows

variable {queue queue' : Table IndexTask} {id : Uuid} {row' : IndexTask}

theorem find_enqueued {targets : List IndexTarget} {forceRefresh : Bool} {now : Timestamp}
    (enqueued : Enqueued targets forceRefresh now queue queue')
    (found : queue'.find id = some row') (notPending : row'.status ≠ .pending) :
    queue.find id = some row' ∧ ¬ (row'.target ∈ targets ∧ forceRefresh = true) := by
  cases before : queue.find id with
  | none =>
    rcases enqueued.fresh id before with missing | ⟨target, _, created⟩
    · rw [missing] at found
      cases found
    · rw [created, Option.some.injEq] at found
      subst found
      exact absurd rfl notPending
  | some row =>
    rw [enqueued.stored id row before, Option.some.injEq] at found
    by_cases refreshed : row.target ∈ targets ∧ forceRefresh = true
    · rw [refreshRow, if_pos refreshed] at found
      subst found
      exact absurd rfl notPending
    · rw [refreshRow, if_neg refreshed] at found
      subst found
      exact ⟨rfl, refreshed⟩

theorem find_claimed {staleCutoff now : Timestamp} {maxAttempts : Int} {workerName : String}
    {batchSize : Nat} {locked : List Uuid} {claimed : List ClaimedIndexTask}
    (result : claimNextTasks staleCutoff maxAttempts workerName batchSize locked now queue =
      (claimed, queue')) (found : queue'.find id = some row') :
    queue.find id = some row' ∨
      row'.status = .processing ∧ row'.lease.claimedBy = some workerName := by
  have updated := (claimNextTasks_cases result).2 id
  rw [found] at updated
  split at updated
  · right
    obtain ⟨row, _, rfl⟩ := Option.map_eq_some_iff.mp updated.symm
    exact ⟨rfl, rfl⟩
  · exact .inl updated.symm

theorem find_completed {tasks : List ClaimedIndexTask} {now : Timestamp}
    (found : (markTasksCompleted tasks now queue).2.find id = some row') :
    queue.find id = some row' ∨ row'.status = .completed ∧
      ∃ row, queue.find id = some row ∧ row.target = row'.target ∧
        ∃ task ∈ tasks, task.holds row = true := by
  rw [find_markTasksCompleted] at found
  obtain ⟨row, before, after⟩ := Option.map_eq_some_iff.mp found
  split at after
  next held =>
    right
    subst after
    exact ⟨rfl, row, before, rfl, by simpa using held⟩
  next => exact .inl (after ▸ before)

theorem find_failed {task : ClaimedIndexTask} {message : String} {maxAttempts : Int}
    {now : Timestamp}
    (found : (markTaskFailed task message maxAttempts now queue).2.find id = some row') :
    queue.find id = some row' ∨ row'.status = .failed ∨ row'.status = .pending := by
  rw [find_markTaskFailed] at found
  obtain ⟨row, before, after⟩ := Option.map_eq_some_iff.mp found
  split at after
  next =>
    subst after
    exact .inr (Lease.fail_status _ _ _ _)
  next => exact .inl (after ▸ before)

theorem find_expired {staleCutoff now : Timestamp} {maxAttempts : Int}
    (found : (expireStaleTasks staleCutoff maxAttempts now queue).find id = some row') :
    queue.find id = some row' ∨ row'.status = .failed := by
  rw [find_expireStaleTasks] at found
  obtain ⟨row, before, after⟩ := Option.map_eq_some_iff.mp found
  split at after
  next =>
    subst after
    exact .inr rfl
  next => exact .inl (after ▸ before)

/-- Rows stay, each with its target. -/
def KeepsTargets (queue queue' : Table IndexTask) : Prop :=
  ∀ id row, queue.find id = some row → ∃ row', queue'.find id = some row' ∧ row'.target = row.target

theorem keepsTargets_updateLease (condition : IndexTask → Bool)
    (set : Lease IndexTaskStatus → Lease IndexTaskStatus) :
    KeepsTargets queue (updateLease queue condition set) := by
  intro id row found
  refine ⟨_, by rw [find_updateLease, found, Option.map_some], ?_⟩
  split <;> rfl

theorem keepsTargets_enqueued {targets : List IndexTarget} {forceRefresh : Bool} {now : Timestamp}
    (enqueued : Enqueued targets forceRefresh now queue queue') : KeepsTargets queue queue' := by
  intro id row found
  refine ⟨_, enqueued.stored id row found, ?_⟩
  unfold refreshRow
  split <;> rfl

theorem keepsTargets_claimed {staleCutoff now : Timestamp} {maxAttempts : Int}
    {workerName : String} {batchSize : Nat} {locked : List Uuid} {claimed : List ClaimedIndexTask}
    (result : claimNextTasks staleCutoff maxAttempts workerName batchSize locked now queue =
      (claimed, queue')) : KeepsTargets queue queue' := by
  simp only [claimNextTasks, Prod.mk.injEq] at result
  rw [← result.2]
  exact keepsTargets_updateLease _ _

end Rows

/-! ## Keeping the index current -/

/-- Rows whose target must show the current document when somebody else commits:
it is completed, or its claimant has already written it. -/
def settled (s : State n) (worker : Fin n) (target : IndexTarget) : Prop :=
  (∃ row ∈ s.queue.rows, row.target = target ∧ row.status = .completed) ∨
    ∃ other, other ≠ worker ∧ ∃ task ∈ (s.workers other).written,
      task.target = target ∧ s.holds task = true

instance (s : State n) (worker : Fin n) (target : IndexTarget) :
    Decidable (settled s worker target) :=
  inferInstanceAs (Decidable (_ ∨ _))

/-- A commit brings no operation for a settled target, neither of its own nor one that a failed
write has left with the writer. -/
def State.LeavesSettled (s : State n) : Action n → Prop
  | .write worker outcome =>
    match s.workers worker, outcome with
    | .indexing _ (.write _ _), .failed _ _ _ => True
    | .indexing _ (.write kind ops), _ =>
      ∀ id ∈ (s.pending kind ++ ops).map Prod.fst, ¬ settled s worker ⟨kind, id⟩
    | _, _ => True
  | _ => True

instance (s : State n) : DecidablePred s.LeavesSettled
  | .write worker outcome => by
    unfold State.LeavesSettled
    dsimp only
    split <;> infer_instance
  | .writeFacts .. | .enqueueTargets .. | .claimNextTasks .. | .fetch .. | .stageFails ..
  | .reportCompleted .. | .reportLost .. | .markTaskFailed .. | .markFailedLost ..
  | .expireStaleTasks .. | .restart => isTrue trivial

/-- What holds of one worker's claims. -/
structure WorkerSynced (config : Config) (s : State n) (worker : Fin n) (state : WorkerState) :
    Prop where
  claimedBy : ∀ task ∈ state.tasks, task.claimedBy = workerName worker
  target : ∀ task ∈ state.tasks, ∃ row, s.queue.find task.id = some row ∧ row.target = task.target
  written : ∀ task ∈ state.written, s.holds task = true → s.indexed config task.target
  fetched : ∀ job kind ops, state = .indexing job (.write kind ops) →
    ∀ task ∈ job.tasks, task.target.kind = kind → s.holds task = true →
      task.target.id ∈ ops.map Prod.fst ∧ ∀ op ∈ ops, op.1 = task.target.id →
        op.2 = document config.toLowercase s.facts task.target

structure Synced (config : Config) (s : State n) : Prop where
  completed : ∀ id row, s.queue.find id = some row → row.status = .completed →
    s.indexed config row.target
  workers : ∀ worker, WorkerSynced config s worker (s.workers worker)

section Synced

variable {config : Config} {s t : State n} {worker : Fin n} {state : WorkerState}

theorem holds_row {task : ClaimedIndexTask} (holds : s.holds task = true) :
    ∃ row, s.queue.find task.id = some row ∧ row.status = .processing ∧
      row.lease.claimedBy = some task.claimedBy ∧ task.holds row = true := by
  obtain ⟨row, found, held⟩ := (Option.any_eq_true _ _).mp holds
  have lease := held
  rw [ClaimedIndexTask.holds, Bool.and_eq_true, Lease.heldUnder_iff] at lease
  exact ⟨row, found, lease.2.1, lease.2.2.1, held⟩

theorem WorkerState.tasks_of_written {task : ClaimedIndexTask} (member : task ∈ state.written) :
    task ∈ state.tasks := by
  cases state with
  | indexing job stage => exact List.mem_append_left _ (List.mem_of_mem_filter member)
  | _ => cases member

/-- A step that a worker takes no part in keeps what holds of it, as long as it
hands it no row and keeps the documents of the rows it holds. -/
theorem WorkerSynced.frame (synced : WorkerSynced config s worker state)
    (keeps : KeepsTargets s.queue t.queue)
    (holds : ∀ task ∈ state.tasks, t.holds task = true → s.holds task = true ∧
      document config.toLowercase t.facts task.target =
        document config.toLowercase s.facts task.target)
    (written : ∀ task ∈ state.written, t.holds task = true → s.indexed config task.target →
      t.indexed config task.target) : WorkerSynced config t worker state where
  claimedBy := synced.claimedBy
  target := by
    intro task member
    obtain ⟨row, found, same⟩ := synced.target task member
    obtain ⟨row', found', same'⟩ := keeps _ _ found
    exact ⟨row', found', same'.trans same⟩
  written := by
    intro task member held
    have inHand := WorkerState.tasks_of_written member
    exact written task member held (synced.written task member (holds task inHand held).1)
  fetched := by
    intro job kind ops same task member kindOf held
    subst same
    have inHand : task ∈ (WorkerState.indexing job (.write kind ops)).tasks :=
      List.mem_append_left _ member
    obtain ⟨heldBefore, sameDocument⟩ := holds task inHand held
    rw [sameDocument]
    exact synced.fetched job kind ops rfl task member kindOf heldBefore

/-- The same, told by the rows the worker could hold afterwards. -/
theorem WorkerSynced.frame_rows (synced : WorkerSynced config s worker state)
    (keeps : KeepsTargets s.queue t.queue)
    (rows : ∀ id row, t.queue.find id = some row → row.status = .processing →
      row.lease.claimedBy = some (workerName worker) → s.queue.find id = some row ∧
        document config.toLowercase t.facts row.target =
          document config.toLowercase s.facts row.target)
    (written : ∀ task ∈ state.written, t.holds task = true → s.indexed config task.target →
      t.indexed config task.target) : WorkerSynced config t worker state := by
  refine synced.frame keeps (fun task member held => ?_) written
  obtain ⟨row, found, processing, claimedBy, heldRow⟩ := holds_row held
  rw [synced.claimedBy task member] at claimedBy
  obtain ⟨before, sameDocument⟩ := rows _ row found processing claimedBy
  obtain ⟨row', found', sameTarget⟩ := synced.target task member
  rw [before, Option.some.injEq] at found'
  subst found'
  rw [sameTarget] at sameDocument
  exact ⟨by rw [State.holds, before]; exact heldRow, sameDocument⟩

theorem workerSynced_idle : WorkerSynced config s worker .idle where
  claimedBy _ member := nomatch member
  target _ member := nomatch member
  written _ member := nomatch member
  fetched _ _ _ same := nomatch same

/-- A worker that has written nothing and fetched nothing. -/
theorem workerSynced_fresh {tasks : List ClaimedIndexTask} (inHand : state.tasks ⊆ tasks)
    (claimedBy : ∀ task ∈ tasks, task.claimedBy = workerName worker)
    (target : ∀ task ∈ tasks, ∃ row, s.queue.find task.id = some row ∧ row.target = task.target)
    (unwritten : state.written = [])
    (unfetched : ∀ job kind ops, state ≠ .indexing job (.write kind ops)) :
    WorkerSynced config s worker state where
  claimedBy task member := claimedBy task (inHand member)
  target task member := target task (inHand member)
  written task member := by
    rw [unwritten] at member
    cases member
  fetched job kind ops same := absurd same (unfetched job kind ops)

theorem workerSynced_individually {tasks : List ClaimedIndexTask}
    (claimedBy : ∀ task ∈ tasks, task.claimedBy = workerName worker)
    (target : ∀ task ∈ tasks, ∃ row, s.queue.find task.id = some row ∧ row.target = task.target) :
    WorkerSynced config s worker (individually tasks) := by
  cases tasks with
  | nil => exact workerSynced_idle
  | cons task later =>
    refine workerSynced_fresh ?_ claimedBy target ?_ ?_
    · exact List.Subset.refl _
    · simp [individually, WorkerState.written, Stage.past]
    · intro job kind ops same
      cases same

theorem workerSynced_onError {job : Job} {message : String}
    (claimedBy : ∀ task ∈ job.tasks ++ job.later, task.claimedBy = workerName worker)
    (target : ∀ task ∈ job.tasks ++ job.later, ∃ row, s.queue.find task.id = some row ∧
      row.target = task.target) : WorkerSynced config s worker (job.onError message) := by
  cases job with
  | batch tasks =>
    simp only [Job.tasks, Job.later, List.append_nil] at claimedBy target
    exact workerSynced_individually claimedBy target
  | single task later =>
    refine workerSynced_fresh ?_ claimedBy target rfl ?_
    · exact List.Subset.refl _
    · intro job kind ops same
      cases same

theorem workerSynced_onDone {job : Job}
    (claimedBy : ∀ task ∈ job.tasks ++ job.later, task.claimedBy = workerName worker)
    (target : ∀ task ∈ job.tasks ++ job.later, ∃ row, s.queue.find task.id = some row ∧
      row.target = task.target) : WorkerSynced config s worker job.onDone := by
  cases job with
  | batch tasks => exact workerSynced_idle
  | single task later =>
    exact workerSynced_individually (fun task member => claimedBy task (List.mem_cons_of_mem _ member))
      fun task member => target task (List.mem_cons_of_mem _ member)

/-- A step of the queue that neither claims nor completes. -/
theorem synced_of_rows (synced : Synced config s) (keeps : KeepsTargets s.queue t.queue)
    (sameIndex : t.index = s.index)
    (rows : ∀ id row, t.queue.find id = some row →
      row.status = .completed ∨ row.status = .processing → s.queue.find id = some row ∧
        document config.toLowercase t.facts row.target =
          document config.toLowercase s.facts row.target)
    (workers : ∀ worker, WorkerSynced config s worker (t.workers worker)) :
    Synced config t where
  completed id row found completed := by
    obtain ⟨before, sameDocument⟩ := rows id row found (.inl completed)
    rw [State.indexed, sameIndex, sameDocument]
    exact synced.completed id row before completed
  workers worker := by
    refine (workers worker).frame_rows keeps
      (fun id row found processing _ => rows id row found (.inr processing)) ?_
    intro task member held indexed
    obtain ⟨row, found, processing, _, _⟩ := holds_row held
    obtain ⟨before, sameDocument⟩ := rows _ row found (.inr processing)
    have inHand := WorkerState.tasks_of_written member
    obtain ⟨row', found', sameTarget⟩ := (workers worker).target task inHand
    rw [before, Option.some.injEq] at found'
    subst found'
    rw [State.indexed, sameIndex, ← sameTarget, sameDocument, sameTarget]
    exact indexed

theorem workers_setWorker {P : Fin n → WorkerState → Prop}
    (others : ∀ other, other ≠ worker → P other (s.workers other)) (own : P worker state) :
    ∀ other, P other ((s.setWorker worker state).workers other) := by
  intro other
  by_cases same : other = worker
  · subst same
    simpa [State.setWorker] using own
  · simpa [State.setWorker, same] using others other same

/-! ### The steps -/

theorem synced_writeFacts (synced : Synced config s) {tweets : List (Int × TweetRow)}
    {users : List (Int × UserRow)} {newId : IndexTarget → Uuid} {now : Timestamp}
    (taken : Step config s (.writeFacts tweets users newId now) t) : Synced config t := by
  obtain ⟨⟨statuses, queue⟩, upserted, rfl⟩ := Option.map_eq_some_iff.mp taken
  have enqueued := find_enqueueTargets upserted
  refine synced_of_rows synced (keepsTargets_enqueued enqueued) rfl ?_ synced.workers
  intro id row found active
  have notPending : row.status ≠ .pending := by
    rcases active with completed | processing
    · simp [completed]
    · simp [processing]
  obtain ⟨before, notRefreshed⟩ := find_enqueued enqueued found notPending
  refine ⟨before, document_congr ?_ ?_⟩
  · intro kind
    refine setRows_of_not_mem fun touched => notRefreshed ⟨?_, rfl⟩
    obtain ⟨change, member, same⟩ := List.mem_map.mp touched
    refine List.mem_append_left _ (List.mem_map.mpr ⟨change, member, ?_⟩)
    rw [same, ← kind]
  · intro kind
    refine setRows_of_not_mem fun touched => notRefreshed ⟨?_, rfl⟩
    obtain ⟨change, member, same⟩ := List.mem_map.mp touched
    refine List.mem_append_right _ (List.mem_map.mpr ⟨change, member, ?_⟩)
    rw [same, ← kind]

theorem synced_enqueueTargets (synced : Synced config s) {targets : List IndexTarget}
    {forceRefresh : Bool} {newId : IndexTarget → Uuid} {now : Timestamp}
    (taken : Step config s (.enqueueTargets targets forceRefresh newId now) t) :
    Synced config t := by
  obtain ⟨⟨statuses, queue⟩, upserted, rfl⟩ := Option.map_eq_some_iff.mp taken
  have enqueued := find_enqueueTargets upserted
  refine synced_of_rows synced (keepsTargets_enqueued enqueued) rfl ?_ synced.workers
  intro id row found active
  refine ⟨(find_enqueued enqueued found ?_).1, rfl⟩
  rcases active with completed | processing
  · simp [completed]
  · simp [processing]

theorem synced_claim (synced : Synced config s) {staleCutoff now : Timestamp}
    {locked : List Uuid} (taken : Step config s (.claimNextTasks worker staleCutoff locked now) t) :
    Synced config t := by
  simp only [Step, Takes, next] at taken
  split at taken
  next idle =>
    cases result : claimNextTasks staleCutoff config.maxAttempts (workerName worker)
        config.batchSize locked now s.queue with
    | mk claimed queue =>
      rw [result] at taken
      cases taken
      have keeps := keepsTargets_claimed result
      obtain ⟨origin, updated⟩ := claimNextTasks_cases result
      refine ⟨?_, workers_setWorker ?_ ?_⟩
      · intro id row found completed
        rcases find_claimed result found with before | ⟨processing, _⟩
        · exact synced.completed id row before completed
        · rw [completed] at processing
          cases processing
      · intro other different
        refine (synced.workers other).frame_rows keeps ?_ fun _ _ _ indexed => indexed
        intro id row found processing claimedBy
        rcases find_claimed result found with before | ⟨_, claimedBy'⟩
        · exact ⟨before, rfl⟩
        · rw [claimedBy, Option.some.injEq] at claimedBy'
          exact absurd (workerName_injective claimedBy') different
      · have inHand : ∀ task ∈ claimed, ∃ row, queue.find task.id = some row ∧
            row.target = task.target := by
          intro task member
          obtain ⟨row, found, _, rfl⟩ := origin task member
          obtain ⟨row', found', same⟩ := keeps _ _ found
          exact ⟨row', found', same⟩
        have claimedBy : ∀ task ∈ claimed, task.claimedBy = workerName worker := by
          intro task member
          obtain ⟨row, _, _, rfl⟩ := origin task member
          rfl
        cases claimed with
        | nil => exact workerSynced_idle
        | cons task later =>
          refine workerSynced_fresh ?_ claimedBy inHand ?_ ?_
          · simp [WorkerState.tasks, Job.tasks, Job.later]
          · simp [WorkerState.written, Stage.past]
          · intro job kind ops same
            cases same
  next => cases taken

theorem written_mem {job : Job} {stage : Stage} {task : ClaimedIndexTask} :
    task ∈ (WorkerState.indexing job stage).written ↔
      task ∈ job.tasks ∧ stage.past task.target.kind = true := by
  simp [WorkerState.written]

theorem past_write (kind other : IndexTargetKind) (ops : Ops) :
    (Stage.write kind ops).past other = (Stage.fetch kind).past other := by
  cases kind <;> rfl

/-- Only the kind just dealt with is newly past. -/
theorem past_after {kind other : IndexTargetKind} (past : (Stage.after kind).past other = true) :
    other = kind ∨ (Stage.fetch kind).past other = true := by
  cases kind with
  | user => exact .inl (by simpa [Stage.after, Stage.past] using past)
  | tweet =>
    cases other with
    | user => exact .inr rfl
    | tweet => exact .inl rfl

theorem past_ne {kind other : IndexTargetKind} (past : (Stage.fetch kind).past other = true) :
    other ≠ kind := by
  cases kind with
  | user => cases past
  | tweet =>
    have isUser : other = .user := by simpa [Stage.past] using past
    rw [isUser]
    exact IndexTargetKind.noConfusion

theorem mem_targetIds {kind : IndexTargetKind} {tasks : List ClaimedIndexTask}
    {task : ClaimedIndexTask} (member : task ∈ tasks) (kindOf : task.target.kind = kind) :
    task.target.id ∈ targetIds kind tasks := by
  refine List.mem_map_of_mem (f := fun task : ClaimedIndexTask => task.target.id) ?_
  simpa [member] using kindOf

theorem fetchOps_current {facts : Facts} {kind : IndexTargetKind} {ids : List Int}
    {target : IndexTarget} (fetched : target.id ∈ ids) (kindOf : target.kind = kind) :
    target.id ∈ (fetchOps config facts kind ids).map Prod.fst ∧
      ∀ op ∈ fetchOps config facts kind ids, op.1 = target.id →
        op.2 = document config.toLowercase facts target := by
  subst kindOf
  constructor
  · simpa [fetchOps] using fetched
  · intro op member same
    obtain ⟨id, _, rfl⟩ := List.mem_map.mp member
    exact congrArg (fun id => document config.toLowercase facts ⟨target.kind, id⟩) same

theorem synced_fetch (synced : Synced config s) (taken : Step config s (.fetch worker) t) :
    Synced config t := by
  simp only [Step, Takes, next] at taken
  split at taken
  next job kind fetching =>
    cases taken
    have own := synced.workers worker
    rw [fetching] at own
    refine synced_of_rows synced (fun id row found => ⟨row, found, rfl⟩) rfl
      (fun id row found _ => ⟨found, rfl⟩) (workers_setWorker (fun other _ => synced.workers other) ?_)
    constructor
    · exact own.claimedBy
    · exact own.target
    · intro task member held
      obtain ⟨inHand, past⟩ := written_mem.mp member
      refine own.written task (written_mem.mpr ⟨inHand, ?_⟩) held
      cases ids : targetIds kind job.tasks with
      | nil =>
        rw [ids] at past
        rcases past_after past with kindOf | before
        · have fetched := mem_targetIds inHand kindOf
          rw [ids] at fetched
          cases fetched
        · exact before
      | cons id rest =>
        rw [ids] at past
        simpa only [past_write] using past
    · intro job' kind' ops same task member kindOf held
      cases ids : targetIds kind job.tasks with
      | nil =>
        rw [ids] at same
        cases kind <;> cases same
      | cons id rest =>
        rw [ids] at same
        cases same
        have fetched := mem_targetIds member kindOf
        rw [ids] at fetched
        exact fetchOps_current fetched kindOf
  next => cases taken

/-- A target that no operation of the commit names stays as it is. -/
theorem commit_indexed {kind : IndexTargetKind} {ops : Ops} {target : IndexTarget}
    (indexed : s.indexed config target)
    (unnamed : target.kind = kind → target.id ∉ (s.pending kind ++ ops).map Prod.fst) :
    (commit s kind ops).indexed config target := by
  by_cases same : target.kind = kind
  · subst same
    simp only [State.indexed, commit, Function.update_self]
    rw [applyOps_of_not_mem (unnamed rfl)]
    exact indexed
  · simp only [State.indexed, commit, Function.update_of_ne same]
    exact indexed

/-- A commit that leaves what is settled; `state` is what the worker does next. -/
theorem synced_commit (synced : Synced config s) {job : Job} {kind : IndexTargetKind} {ops : Ops}
    (writing : s.workers worker = .indexing job (.write kind ops))
    (leavesSettled : ∀ id ∈ (s.pending kind ++ ops).map Prod.fst, ¬ settled s worker ⟨kind, id⟩)
    (own : WorkerSynced config ((commit s kind ops).setWorker worker state) worker state) :
    Synced config ((commit s kind ops).setWorker worker state) := by
  have settledIndexed : ∀ target : IndexTarget, s.indexed config target →
      settled s worker target → (commit s kind ops).indexed config target := by
    intro target indexed isSettled
    refine commit_indexed indexed fun same named => ?_
    subst same
    exact leavesSettled target.id named isSettled
  refine ⟨?_, workers_setWorker ?_ own⟩
  · intro id row found completed
    refine settledIndexed row.target (synced.completed id row found completed) (.inl ?_)
    exact ⟨row, Table.mem_of_find found, rfl, completed⟩
  · intro other different
    refine (synced.workers other).frame (fun id row found => ⟨row, found, rfl⟩)
      (fun task _ held => ⟨held, rfl⟩) ?_
    intro task member held indexed
    exact settledIndexed task.target indexed (.inr ⟨other, different, task, member, rfl, held⟩)

theorem synced_write (synced : Synced config s) {outcome : WriteOutcome}
    (leavesSettled : s.LeavesSettled (.write worker outcome))
    (taken : Step config s (.write worker outcome) t) : Synced config t := by
  simp only [Step, Takes, next] at taken
  split at taken
  next job kind ops writing =>
    have own := synced.workers worker
    rw [writing] at own
    cases outcome with
    | committed =>
      cases taken
      simp only [State.LeavesSettled, writing] at leavesSettled
      refine synced_commit synced writing leavesSettled ⟨own.claimedBy, own.target, ?_, ?_⟩
      · intro task member held
        obtain ⟨inHand, past⟩ := written_mem.mp member
        rcases past_after past with kindOf | before
        · obtain ⟨touched, agree⟩ := own.fetched job kind ops rfl task inHand kindOf held
          have now : (commit s kind ops).indexed config task.target := by
            rw [State.indexed, kindOf]
            simp only [commit, Function.update_self, applyOps_append]
            exact applyOps_of_agree touched agree
          exact now
        · refine commit_indexed (own.written task (written_mem.mpr ⟨inHand, ?_⟩) held) ?_
          · rw [past_write]
            exact before
          · intro same
            exact absurd same (past_ne before)
      · intro job' kind' ops' same
        cases kind <;> cases same
    | reloadFailed message =>
      cases taken
      simp only [State.LeavesSettled, writing] at leavesSettled
      exact synced_commit synced writing leavesSettled
        (workerSynced_onError own.claimedBy own.target)
    | failed added deleted message =>
      cases taken
      refine synced_of_rows synced (fun id row found => ⟨row, found, rfl⟩) rfl
        (fun id row found _ => ⟨found, rfl⟩) (workers_setWorker (fun other _ => ?_) ?_)
      · exact synced.workers other
      · exact workerSynced_onError own.claimedBy own.target
  next => cases taken

theorem synced_reportCompleted (synced : Synced config s) {now : Timestamp}
    (taken : Step config s (.reportCompleted worker now) t) : Synced config t := by
  simp only [Step, Takes, next] at taken
  split at taken
  next job reporting =>
    cases taken
    have own := synced.workers worker
    rw [reporting] at own
    have keeps : KeepsTargets s.queue (markTasksCompleted job.tasks now s.queue).2 :=
      keepsTargets_updateLease _ _
    refine ⟨?_, workers_setWorker ?_ ?_⟩
    · intro id row found completed
      rcases find_completed found with before | ⟨_, stored, before, same, task, member, held⟩
      · exact synced.completed id row before completed
      · -- completed by this report, so its claim still held and its write was done
        have sameId : stored.id = task.id := by
          rw [ClaimedIndexTask.holds, Bool.and_eq_true, decide_eq_true_eq] at held
          exact held.1
        have storedId : stored.id = id := Table.find_key before
        have holds : s.holds task = true := by
          rw [State.holds, ← sameId, storedId, before]
          exact held
        obtain ⟨row', found', sameTarget⟩ := own.target task (List.mem_append_left _ member)
        rw [← sameId, storedId, before, Option.some.injEq] at found'
        rw [← same, found', sameTarget]
        exact own.written task (written_mem.mpr ⟨member, rfl⟩) holds
    · intro other _
      refine (synced.workers other).frame_rows keeps ?_ fun _ _ _ indexed => indexed
      intro id row found processing _
      rcases find_completed found with before | ⟨completed, _⟩
      · exact ⟨before, rfl⟩
      · rw [processing] at completed
        cases completed
    · refine workerSynced_onDone own.claimedBy fun task member => ?_
      obtain ⟨row, found, same⟩ := own.target task member
      obtain ⟨row', found', same'⟩ := keeps _ _ found
      exact ⟨row', found', same'.trans same⟩
  next => cases taken

/-- A step that moves one worker on and touches nothing else. -/
theorem synced_setWorker (synced : Synced config s)
    (own : WorkerSynced config s worker state) : Synced config (s.setWorker worker state) :=
  synced_of_rows synced (fun _ row found => ⟨row, found, rfl⟩) rfl (fun _ _ found _ => ⟨found, rfl⟩)
    (workers_setWorker (fun other _ => synced.workers other) own)

theorem synced_markTaskFailed (synced : Synced config s) {now : Timestamp}
    (taken : Step config s (.markTaskFailed worker now) t) : Synced config t := by
  simp only [Step, Takes, next] at taken
  split at taken
  next task message later failing =>
    cases taken
    have own := synced.workers worker
    rw [failing] at own
    refine synced_of_rows synced (keepsTargets_updateLease _ _) rfl ?_
      (workers_setWorker (fun other _ => synced.workers other) ?_)
    · intro id row found active
      rcases find_failed found with before | inactive
      · exact ⟨before, rfl⟩
      · rcases active with completed | processing
        · simp [completed] at inactive
        · simp [processing] at inactive
    · exact workerSynced_individually
        (fun other member => own.claimedBy other (List.mem_cons_of_mem _ member))
        fun other member => own.target other (List.mem_cons_of_mem _ member)
  next => cases taken

theorem synced_expireStaleTasks (synced : Synced config s) {staleCutoff now : Timestamp}
    (taken : Step config s (.expireStaleTasks staleCutoff now) t) : Synced config t := by
  cases taken
  refine synced_of_rows synced (keepsTargets_updateLease _ _) rfl ?_ synced.workers
  intro id row found active
  rcases find_expired found with before | failed
  · exact ⟨before, rfl⟩
  · rcases active with completed | processing
    · simp [completed] at failed
    · simp [processing] at failed

theorem synced_step {action : Action n} (synced : Synced config s)
    (taken : Restrict (Step config) State.LeavesSettled s action t) : Synced config t := by
  obtain ⟨leavesSettled, taken⟩ := taken
  cases action with
  | writeFacts => exact synced_writeFacts synced taken
  | enqueueTargets => exact synced_enqueueTargets synced taken
  | claimNextTasks => exact synced_claim synced taken
  | fetch => exact synced_fetch synced taken
  | write => exact synced_write synced leavesSettled taken
  | stageFails worker message =>
    simp only [Step, Takes, next] at taken
    have own := synced.workers worker
    split at taken
    next job kind fetching =>
      cases taken
      rw [fetching] at own
      exact synced_setWorker synced (workerSynced_onError own.claimedBy own.target)
    next job kind ops writing =>
      cases taken
      rw [writing] at own
      exact synced_setWorker synced (workerSynced_onError own.claimedBy own.target)
    next => cases taken
  | reportCompleted => exact synced_reportCompleted synced taken
  | reportLost worker =>
    simp only [Step, Takes, next] at taken
    have own := synced.workers worker
    split at taken
    next job reporting =>
      cases taken
      rw [reporting] at own
      exact synced_setWorker synced (workerSynced_onDone own.claimedBy own.target)
    next => cases taken
  | markTaskFailed => exact synced_markTaskFailed synced taken
  | markFailedLost worker =>
    simp only [Step, Takes, next] at taken
    have own := synced.workers worker
    split at taken
    next task message later failing =>
      cases taken
      rw [failing] at own
      refine synced_setWorker synced (workerSynced_individually ?_ ?_)
      · exact fun other member => own.claimedBy other (List.mem_cons_of_mem _ member)
      · exact fun other member => own.target other (List.mem_cons_of_mem _ member)
    next => cases taken
  | expireStaleTasks => exact synced_expireStaleTasks synced taken
  | restart =>
    cases taken
    exact synced_of_rows synced (fun _ row found => ⟨row, found, rfl⟩) rfl
      (fun _ _ found _ => ⟨found, rfl⟩) fun _ => workerSynced_idle

theorem synced_start (facts : Facts) (index : IndexTargetKind → Int → Option IndexDocument) :
    Synced config (State.start facts index : State n) where
  completed id row found := by cases found
  workers _ := workerSynced_idle

end Synced

/-- As long as no commit brings an operation for a settled target, a completed
target shows the document of the current content. -/
theorem search_index_loses_no_update {config : Config} {facts : Facts}
    {index : IndexTargetKind → Int → Option IndexDocument} {actions : List (Action n)}
    {s : State n}
    (run : Run (Restrict (Step config) State.LeavesSettled) (.start facts index) actions s) :
    ∀ row ∈ s.queue.rows, row.status = .completed →
      s.index row.target.kind row.target.id =
        document config.toLowercase s.facts row.target := by
  have synced : Synced config s :=
    run.invariant (fun _ _ _ synced taken => synced_step synced taken) (synced_start facts index)
  intro row present completed
  exact synced.completed row.id row (Table.find_of_mem present) completed

def sampleConfig : Config where
  maxAttempts := 5
  batchSize := 8
  toLowercase := id

def sampleTweet (body : String) : TweetRow where
  authorId := 1
  legacyBody := body
  noteBody := none
  repostId := none
  quoteTweetId := none
  replyToTweetId := none
  publishedAt := 0
  createdAt := 0
  updatedAt := 0

def emptyStart : State 2 := .start ⟨fun _ => none, fun _ => none⟩ fun _ _ => none

/-- Worker 0 has fetched tweet 42 when it changes; worker 1 claims the refreshed
row, indexes the new content and completes it. -/
def refreshedAfterFetch : List (Action 2) :=
  [.writeFacts [(42, sampleTweet "old")] [] (fun _ => 7) 0, .claimNextTasks 0 0 [] 10, .fetch 0,
    .fetch 0, .writeFacts [(42, sampleTweet "new")] [] (fun _ => 8) 20,
    .claimNextTasks 1 0 [] 30, .fetch 1, .fetch 1, .write 1 .committed, .reportCompleted 1 40]

def afterCompletion : State 2 := (exec (next sampleConfig) emptyStart refreshedAfterFetch).getD emptyStart

theorem search_index_loses_no_update_refreshed :
    (∃ row ∈ afterCompletion.queue.rows, row.target = ⟨.tweet, 42⟩ ∧ row.status = .completed) ∧
      afterCompletion.index .tweet 42 =
        document id afterCompletion.facts ⟨.tweet, 42⟩ := by
  have run : Run (Restrict (Step sampleConfig) State.LeavesSettled) emptyStart
      refreshedAfterFetch afterCompletion := run_of_guarded_exec rfl
  have completed : ⟨7, ⟨.tweet, 42⟩, ⟨.completed, 1, none, none, none, some 40, 0, 40⟩⟩ ∈
      afterCompletion.queue.rows := by decide
  exact ⟨⟨_, completed, rfl, rfl⟩, search_index_loses_no_update run _ completed rfl⟩

def afterLateWrite : State 2 :=
  (exec (next sampleConfig) afterCompletion [.write 0 .committed, .reportCompleted 0 50]).getD
    emptyStart

/-- Worker 0 then commits what it had fetched, and the old content stays. -/
theorem late_write_hides_update :
    Run (Step sampleConfig) emptyStart refreshedAfterFetch afterCompletion ∧
      Run (Step sampleConfig) afterCompletion [.write 0 .committed, .reportCompleted 0 50]
        afterLateWrite ∧
      (∀ worker, afterLateWrite.workers worker = .idle) ∧
      (∃ row ∈ afterLateWrite.queue.rows, row.target = ⟨.tweet, 42⟩ ∧ row.status = .completed) ∧
      afterLateWrite.index .tweet 42 ≠ document id afterLateWrite.facts ⟨.tweet, 42⟩ := by
  refine ⟨run_of_exec rfl, run_of_exec rfl, ?_, ?_, ?_⟩
  · decide
  · decide
  · decide

end TweetDb.Search.Indexing
