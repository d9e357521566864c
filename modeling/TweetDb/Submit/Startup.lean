import TweetDb.Submit.IndexRuns

/-! # Restarts that find another index

The index directory is not part of the database: when a process starts it may be
new, older than the database, or as the last process left it.  The startup
compares the number of documents with the number of rows and queues the whole
table where they differ.
-/

namespace TweetDb.Submit

open Relational Transition
open TweetDb.Search (BackfillState EnqueuesExisting FreshIds IndexDocument IndexTarget
  IndexTargetKind IndexTask IndexedTables Progress document exists_backfilled)
open TweetDb.Search.Indexing (Config Synced)

/-! ## The startup -/

/-- The documents in the index directories. -/
structure IndexFiles where
  documents : IndexTargetKind → List (Int × IndexDocument)
  distinct : ∀ kind, ((documents kind).map Prod.fst).Nodup

namespace IndexFiles

/-- `num_docs`. -/
def documentCount (files : IndexFiles) (kind : IndexTargetKind) : Nat :=
  (files.documents kind).length

def index (files : IndexFiles) (kind : IndexTargetKind) (id : Int) : Option IndexDocument :=
  ((files.documents kind).find? fun entry => entry.1 == id).map Prod.snd

end IndexFiles

def shouldBackfillIndex (indexCount dbCount : Nat) : Bool := decide (indexCount ≠ dbCount)

/-- `enqueue_startup_backfill` for one of the two tables; its count is that of the rows. -/
def BackfillsIndex (tables : IndexedTables) (files : IndexFiles) (kind : IndexTargetKind)
    (batchSize : Nat) (newId : IndexTarget → Uuid) (clock : Nat → Timestamp)
    (queue queue' : Table IndexTask) : Prop :=
  if shouldBackfillIndex (files.documentCount kind) (tables.ids kind).length then
    ∃ final, EnqueuesExisting tables kind batchSize newId clock queue (some final) ∧
      final.queue = queue'
  else queue' = queue

/-- `enqueue_startup_backfill`: the tweets first, then the users. -/
def EnqueuesStartupBackfill (tables : IndexedTables) (files : IndexFiles) (batchSize : Nat)
    (newId : IndexTarget → Uuid) (clock : IndexTargetKind → Nat → Timestamp)
    (queue queue' : Table IndexTask) : Prop :=
  ∃ middle, BackfillsIndex tables files .tweet batchSize newId (clock .tweet) queue middle ∧
    BackfillsIndex tables files .user batchSize newId (clock .user) middle queue'

variable {n : Nat}

inductive ServerAction (n : Nat) where
  | live (action : SystemAction n)
  /-- The process ends; the next one finds `files` and goes through the startup. -/
  | startup (files : IndexFiles) (newId : IndexTarget → Uuid)
      (clock : IndexTargetKind → Nat → Timestamp)

namespace System

/-- What a new process has before its startup backfill. -/
def reopened (s : System n) (files : IndexFiles) (queue : Table IndexTask) : System n :=
  ⟨s.content,
    { facts := s.content.facts
      queue := queue
      index := files.index
      pending := fun _ => []
      workers := fun _ => .idle }⟩

inductive ServerStep (config : Config) : System n → ServerAction n → System n → Prop where
  | live {s t : System n} {action : SystemAction n} (taken : Step config s action t) :
      ServerStep config s (.live action) t
  | startup {s : System n} {files : IndexFiles} {newId : IndexTarget → Uuid}
      {clock : IndexTargetKind → Nat → Timestamp} {tables : IndexedTables}
      {queue : Table IndexTask} (users : tables.users = s.content.users)
      (tweets : tables.tweets = s.content.tweets) (fresh : FreshIds newId s.search.queue)
      (queued : EnqueuesStartupBackfill tables files config.batchSize newId clock s.search.queue
        queue) : ServerStep config s (.startup files newId clock) (s.reopened files queue)

/-- The directory of a kind is as the last process left it. -/
def Intact (s : System n) (files : IndexFiles) (kind : IndexTargetKind) : Prop :=
  files.index kind = s.search.index kind

/-- A part of the documents is lost, and the others may be old. -/
def LostDocuments (s : System n) (files : IndexFiles) (kind : IndexTargetKind) : Prop :=
  (∀ id ∈ (files.documents kind).map Prod.fst, s.content.stores ⟨kind, id⟩ = true) ∧
    ∃ id, s.content.stores ⟨kind, id⟩ = true ∧ id ∉ (files.documents kind).map Prod.fst

/-- Between the restarts no commit brings an operation for a settled target; a restart finds each
of the two indexes as it was, or with documents missing. -/
def Recoverable (s : System n) : ServerAction n → Prop
  | .live action => s.LeavesSettled action
  | .startup files _ _ => ∀ kind, s.Intact files kind ∨ s.LostDocuments files kind

end System

section Startup

variable {config : Config} {s t : System n} {files : IndexFiles} {kind : IndexTargetKind}
  {tables : IndexedTables} {newId : IndexTarget → Uuid} {queue queue' : Table IndexTask}

/-- The ids in a table are those that a row is found under. -/
theorem mem_keys_iff {α : Type} [Row α Int] {table : Table α} {id : Int} :
    id ∈ table.rows.map Row.key ↔ (table.find id).isSome = true := by
  rw [Option.isSome_iff_exists, List.mem_map]
  constructor
  · rintro ⟨row, present, rfl⟩
    exact ⟨row, Table.find_of_mem present⟩
  · rintro ⟨row, found⟩
    exact ⟨row, Table.mem_of_find found, Table.find_key found⟩

theorem mem_ids (users : tables.users = s.content.users)
    (tweets : tables.tweets = s.content.tweets) (target : IndexTarget) :
    target.id ∈ tables.ids target.kind ↔ s.content.stores target = true := by
  unfold Content.stores
  cases target.kind with
  | user =>
    rw [← users]
    exact mem_keys_iff
  | tweet =>
    rw [← tweets]
    exact mem_keys_iff

/-- Fewer documents than rows: the counts differ. -/
theorem shouldBackfill_of_lost (users : tables.users = s.content.users)
    (tweets : tables.tweets = s.content.tweets) (lost : s.LostDocuments files kind) :
    shouldBackfillIndex (files.documentCount kind) (tables.ids kind).length = true := by
  obtain ⟨stored, id, isStored, missing⟩ := lost
  have inTable (id : Int) (isStored : s.content.stores ⟨kind, id⟩ = true) :
      id ∈ tables.ids kind := (mem_ids users tweets ⟨kind, id⟩).mpr isStored
  have more : id :: (files.documents kind).map Prod.fst ⊆ tables.ids kind := by
    intro other member
    rcases List.mem_cons.mp member with rfl | isDocument
    · exact inTable other isStored
    · exact inTable other (stored other isDocument)
  have counted := ((files.distinct kind).cons missing).subperm more |>.length_le
  rw [List.length_cons, List.length_map] at counted
  have fewer : (files.documents kind).length ≠ (tables.ids kind).length := by omega
  exact decide_eq_true fewer

/-- What the startup leaves of the rows of the queue: no completed one is new, and none of a
backfilled kind has a stored target. -/
structure Backfilled (tables : IndexedTables) (files : IndexFiles) (kind : IndexTargetKind)
    (newId : IndexTarget → Uuid) (queue queue' : Table IndexTask) : Prop where
  fresh : FreshIds newId queue'
  completed : ∀ row ∈ queue'.rows, row.status = .completed → row ∈ queue.rows ∧
    (row.target.kind = kind →
      shouldBackfillIndex (files.documentCount kind) (tables.ids kind).length = true →
        row.target.id ∉ tables.ids kind)
  kept : ∀ target, (∃ row ∈ queue.rows, row.target = target) →
    ∃ row ∈ queue'.rows, row.target = target

theorem backfilled_of_progress {clock : Nat → Timestamp} {batchSize : Nat}
    (positive : 1 ≤ batchSize) (fresh : FreshIds newId queue) {final : BackfillState}
    (enqueues : EnqueuesExisting tables kind batchSize newId clock queue (some final)) :
    Backfilled tables files kind newId queue final.queue := by
  obtain ⟨_, leaves, last, rfl, progress⟩ :=
    @exists_backfilled _ (min batchSize (2 ^ 63 - 1)) kind newId clock queue
      (tables.ids_nodup kind) (by omega) fresh
  obtain rfl : final = last := Option.some.inj (enqueues.unique leaves)
  have sorted := orderBy_perm (fun id : Int => [id]) (tables.ids kind)
  refine ⟨progress.fresh, ?_, ?_⟩
  · intro row present completed
    have notQueued : row.target ∉ (orderBy (fun id => [id]) (tables.ids kind)).map
        (IndexTarget.mk kind) := by
      intro queued
      obtain ⟨id, member, isTarget⟩ := List.mem_map.mp queued
      obtain ⟨other, otherPresent, sameTarget, pending⟩ := progress.pending id member
      -- The target is unique, so the pending row is this one.
      obtain rfl := Table.eq_of_clash present otherPresent
        (.inr (isTarget.symm.trans sameTarget.symm))
      rw [completed] at pending
      cases pending
    refine ⟨(progress.untouched row notQueued).mp present, fun isKind _ inTable => ?_⟩
    refine notQueued (List.mem_map.mpr ⟨row.target.id, sorted.mem_iff.mpr inTable, ?_⟩)
    rw [← isKind]
  · rintro target ⟨row, present, rfl⟩
    by_cases queued : row.target ∈ (orderBy (fun id => [id]) (tables.ids kind)).map
        (IndexTarget.mk kind)
    · obtain ⟨id, member, isTarget⟩ := List.mem_map.mp queued
      obtain ⟨other, otherPresent, sameTarget, _⟩ := progress.pending id member
      exact ⟨other, otherPresent, sameTarget.trans isTarget⟩
    · exact ⟨row, (progress.untouched row queued).mpr present, rfl⟩

theorem backfilled_of_backfills {clock : Nat → Timestamp} {batchSize : Nat}
    (positive : 1 ≤ batchSize) (fresh : FreshIds newId queue)
    (backfills : BackfillsIndex tables files kind batchSize newId clock queue queue') :
    Backfilled tables files kind newId queue queue' := by
  unfold BackfillsIndex at backfills
  split at backfills
  next =>
    obtain ⟨final, enqueues, rfl⟩ := backfills
    exact backfilled_of_progress positive fresh enqueues
  next agree =>
    subst backfills
    exact ⟨fresh, fun row present _ => ⟨present, fun _ differ => absurd differ agree⟩,
      fun _ present => present⟩

/-- The document of a completed row after the startup. -/
theorem indexed_of_completed (following : s.Following config)
    (users : tables.users = s.content.users) (tweets : tables.tweets = s.content.tweets)
    {row : IndexTask} (present : row ∈ s.search.queue.rows) (completed : row.status = .completed)
    (found : s.Intact files row.target.kind ∨ s.LostDocuments files row.target.kind)
    (requeued : shouldBackfillIndex (files.documentCount row.target.kind)
        (tables.ids row.target.kind).length = true →
      row.target.id ∉ tables.ids row.target.kind) :
    files.index row.target.kind row.target.id =
      document config.toLowercase s.content.facts row.target := by
  rcases found with intact | lost
  · have indexed := following.synced.completed row.id row (Table.find_of_mem present) completed
    rw [Search.Indexing.State.indexed, following.facts] at indexed
    rw [intact, indexed]
  · -- The row is that of a target that is not stored: neither side has a document.
    have notInTable := requeued (shouldBackfill_of_lost users tweets lost)
    rw [mem_ids users tweets, stores_eq_isSome _ config.toLowercase, Bool.not_eq_true,
      Option.isSome_eq_false_iff, Option.isNone_iff_eq_none] at notInTable
    rw [notInTable, IndexFiles.index, Option.map_eq_none_iff, List.find?_eq_none]
    intro entry member isEntry
    have isStored := lost.1 entry.1 (List.mem_map_of_mem member)
    rw [eq_of_beq isEntry, stores_eq_isSome _ config.toLowercase, notInTable] at isStored
    cases isStored

theorem following_startup (positive : 1 ≤ config.batchSize) (following : s.Following config)
    {clock : IndexTargetKind → Nat → Timestamp}
    (users : tables.users = s.content.users) (tweets : tables.tweets = s.content.tweets)
    (fresh : FreshIds newId s.search.queue)
    (queued : EnqueuesStartupBackfill tables files config.batchSize newId clock s.search.queue
      queue)
    (found : ∀ kind, s.Intact files kind ∨ s.LostDocuments files kind) :
    (s.reopened files queue).Following config := by
  obtain ⟨middle, ofTweets, ofUsers⟩ := queued
  have afterTweets := backfilled_of_backfills positive fresh ofTweets
  have afterUsers := backfilled_of_backfills positive afterTweets.fresh ofUsers
  refine ⟨rfl, ⟨?_, fun worker => Search.Indexing.workerSynced_idle⟩, ?_⟩
  · intro id row isRow completed
    have present := Table.mem_of_find isRow
    obtain ⟨inMiddle, notUser⟩ := afterUsers.completed row present completed
    obtain ⟨before, notTweet⟩ := afterTweets.completed row inMiddle completed
    refine indexed_of_completed following users tweets before completed (found row.target.kind) ?_
    cases isKind : row.target.kind with
    | user => exact notUser isKind
    | tweet => exact notTweet isKind
  · intro target stored
    exact afterUsers.kept target (afterTweets.kept target (following.queued target stored))

theorem following_serverStep (positive : 1 ≤ config.batchSize) {action : ServerAction n}
    (following : s.Following config)
    (taken : Restrict (System.ServerStep config) System.Recoverable s action t) :
    t.Following config := by
  obtain ⟨recoverable, taken⟩ := taken
  cases taken with
  | live taken => exact following_step following ⟨recoverable, taken⟩
  | startup users tweets fresh queued =>
    exact following_startup positive following users tweets fresh queued recoverable

/-- A lost index comes back: whatever the order of the calls, the search and the restarts, a stored
row is in the queue, and once it is completed the index shows its document, also if the document
was lost in between. -/
theorem lost_index_is_rebuilt (positive : 1 ≤ config.batchSize)
    {index : IndexTargetKind → Int → Option IndexDocument} {actions : List (ServerAction n)}
    (run : Run (Restrict (System.ServerStep config) System.Recoverable) (.start index) actions s)
    {target : IndexTarget} (stored : s.content.stores target = true) :
    ∃ row ∈ s.search.queue.rows, row.target = target ∧
      (row.status = .completed → s.search.index target.kind target.id =
        document config.toLowercase s.content.facts target) := by
  have following : s.Following config :=
    run.invariant (fun _ _ _ following taken => following_serverStep positive following taken)
      (following_start index)
  obtain ⟨row, present, isTarget⟩ := following.queued target stored
  refine ⟨row, present, isTarget, fun completed => ?_⟩
  have indexed := following.synced.completed row.id row (Table.find_of_mem present) completed
  rw [isTarget, Search.Indexing.State.indexed, following.facts] at indexed
  exact indexed

end Startup

/-! A user is indexed, the index directory is deleted, and the user is indexed again. -/

theorem run_live {config : Config} {s t : System n} {actions : List (SystemAction n)}
    (run : Run (Restrict (System.Step config) System.LeavesSettled) s actions t) :
    Run (Restrict (System.ServerStep config) System.Recoverable) s (actions.map .live) t := by
  induction run with
  | nil => exact .nil
  | snoc _ taken inductionHypothesis =>
    rw [List.map_append]
    exact .snoc inductionHypothesis ⟨taken.1, .live taken.2⟩

def noFiles : IndexFiles := ⟨fun _ => [], fun _ => List.nodup_nil⟩

def startupIds (target : IndexTarget) : Uuid := Search.targetId target + 100

def afterDeletion : System 1 :=
  afterIndexing.reopened noFiles ⟨afterIndexing.search.queue.rows.map fun row =>
    { row with lease := Search.refreshLease 50 row.lease }, by decide⟩

def onlyWorker : Fin 1 := ⟨0, Nat.one_pos⟩

def indexedAgain : List (SystemAction 1) :=
  [.search (.claimNextTasks onlyWorker 0 [] 60), .search (.fetch onlyWorker),
    .search (.write onlyWorker .committed), .search (.fetch onlyWorker),
    .search (.reportCompleted onlyWorker 70)]

def afterRebuild : System 1 :=
  (exec (System.next Search.Indexing.sampleConfig) afterDeletion indexedAgain).getD afterDeletion

def indexedTables : IndexedTables :=
  ⟨afterIndexing.content.users, afterIndexing.content.tweets, by decide⟩

theorem afterDeletion_taken :
    Restrict (System.ServerStep Search.Indexing.sampleConfig) System.Recoverable afterIndexing
      (.startup noFiles startupIds fun _ _ => 50) afterDeletion := by
  have users : afterIndexing.LostDocuments noFiles .user :=
    ⟨fun _ member => (List.not_mem_nil member).elim, 5, by decide, List.not_mem_nil⟩
  have tweets : afterIndexing.Intact noFiles .tweet := rfl
  have fresh : FreshIds startupIds afterIndexing.search.queue := by
    constructor
    · intro target target' same
      exact Search.targetId_injective (Nat.add_right_cancel same)
    · intro row present target same
      have small : ∀ row ∈ afterIndexing.search.queue.rows, row.id < 100 := by decide
      have less := small row present
      rw [← same, startupIds] at less
      exact absurd less (Nat.not_lt.mpr (Nat.le_add_left 100 _))
  have queued : EnqueuesStartupBackfill indexedTables noFiles 8 startupIds (fun _ _ => 50)
      afterIndexing.search.queue afterDeletion.search.queue :=
    ⟨_, rfl, _, .next rfl (.last rfl), rfl⟩
  refine ⟨fun kind => ?_, ?_⟩
  · cases kind with
    | user => exact .inr users
    | tweet => exact .inl tweets
  · exact @System.ServerStep.startup _ _ _ _ _ _ indexedTables _ rfl rfl fresh queued

theorem lost_index_is_rebuilt_user :
    afterDeletion.search.index .user 5 = none ∧
      ∃ row ∈ afterRebuild.search.queue.rows, row.target = ⟨.user, 5⟩ ∧
        (row.status = .completed → afterRebuild.search.index .user 5 =
          document id afterRebuild.content.facts ⟨.user, 5⟩) := by
  have before : Run (Restrict (System.Step Search.Indexing.sampleConfig) System.LeavesSettled)
      (.start fun _ _ => none) userIndexed afterIndexing := run_of_guarded_exec rfl
  have after : Run (Restrict (System.Step Search.Indexing.sampleConfig) System.LeavesSettled)
      afterDeletion indexedAgain afterRebuild :=
    run_of_guarded_exec rfl
  refine ⟨rfl, lost_index_is_rebuilt (by decide)
    (((run_live before).snoc afterDeletion_taken).trans (run_live after)) (by decide)⟩

end TweetDb.Submit
