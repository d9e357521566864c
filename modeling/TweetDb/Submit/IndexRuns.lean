import TweetDb.Query.Resubmit
import TweetDb.Submit.Content

/-! # Submit calls and the search index

The statements of several submit calls and the steps of the search workers come
in any order.  A call is refined to the statements of it that write content.
-/

namespace TweetDb.Submit

open Relational Transition TweetModel
open TweetDb.Search (IndexTarget IndexTask document)
open TweetDb.Search.Indexing (Config KeepsTargets Synced)
open TweetDb.Tweet (TweetRow TweetTables TwitterUser UserTables)

/-- The row of the target is stored. -/
def Content.stores (content : Content) (target : IndexTarget) : Bool :=
  match target.kind with
  | .user => (content.users.find target.id).isSome
  | .tweet => (content.tweets.find target.id).isSome

/-! ## The system -/

/-- The stored content with the queue, the workers and the indexes. -/
structure System (n : Nat) where
  content : Content
  search : Search.Indexing.State n

inductive SystemAction (n : Nat) where
  /-- A statement of some call; a refused one changes nothing. -/
  | write (write : ContentWrite)
  | search (action : Search.Indexing.Action n)

variable {n : Nat}

/-- Content is written by the calls alone. -/
def isSearchStep : Search.Indexing.Action n → Bool
  | .writeFacts .. => false
  | _ => true

namespace System

def start (index : Search.IndexTargetKind → Int → Option Search.IndexDocument) : System n :=
  ⟨.empty, .start Content.empty.facts index⟩

def next (config : Config) (s : System n) : SystemAction n → Option (System n)
  | .write write =>
    match write.run s.content s.search.queue with
    | .error _ => some s
    | .ok (content, queue) =>
      some ⟨content, { s.search with facts := content.facts, queue := queue }⟩
  | .search action =>
    if isSearchStep action then (Search.Indexing.next config s.search action).map (mk s.content)
    else none

abbrev Step (config : Config) : System n → SystemAction n → System n → Prop := Takes (next config)

/-- No commit brings an operation for a settled target. -/
def LeavesSettled (s : System n) : SystemAction n → Prop
  | .write _ => True
  | .search action => s.search.LeavesSettled action

instance (s : System n) : DecidablePred s.LeavesSettled
  | .write _ => isTrue trivial
  | .search action => inferInstanceAs (Decidable (s.search.LeavesSettled action))

end System

/-! ## Steps of the search -/

section Search

variable {config : Config} {s t : Search.Indexing.State n} {action : Search.Indexing.Action n}

/-- The steps of the search leave the content alone and keep the rows of the queue. -/
theorem search_frame (isSearch : isSearchStep action = true)
    (taken : Search.Indexing.Step config s action t) :
    t.facts = s.facts ∧ KeepsTargets s.queue t.queue := by
  have stays : ∀ queue : Table IndexTask, KeepsTargets queue queue :=
    fun queue id row found => ⟨row, found, rfl⟩
  cases action with
  | writeFacts => cases isSearch
  | enqueueTargets targets forceRefresh newId now =>
    obtain ⟨⟨statuses, queue⟩, upserted, rfl⟩ := Option.map_eq_some_iff.mp taken
    exact ⟨rfl, Search.Indexing.keepsTargets_enqueued (Search.find_enqueueTargets upserted)⟩
  | claimNextTasks worker staleCutoff locked now =>
    simp only [Search.Indexing.Step, Takes, Search.Indexing.next] at taken
    split at taken
    next =>
      cases taken
      exact ⟨rfl, Search.Indexing.keepsTargets_claimed rfl⟩
    next => cases taken
  | fetch worker =>
    simp only [Search.Indexing.Step, Takes, Search.Indexing.next] at taken
    split at taken
    next =>
      cases taken
      exact ⟨rfl, stays _⟩
    next => cases taken
  | write worker outcome =>
    simp only [Search.Indexing.Step, Takes, Search.Indexing.next] at taken
    split at taken
    next =>
      cases outcome <;> cases taken <;> exact ⟨rfl, stays _⟩
    next => cases taken
  | stageFails worker message =>
    simp only [Search.Indexing.Step, Takes, Search.Indexing.next] at taken
    split at taken
    next =>
      cases taken
      exact ⟨rfl, stays _⟩
    next =>
      cases taken
      exact ⟨rfl, stays _⟩
    next => cases taken
  | reportCompleted worker now =>
    simp only [Search.Indexing.Step, Takes, Search.Indexing.next] at taken
    split at taken
    next =>
      cases taken
      exact ⟨rfl, Search.Indexing.keepsTargets_updateLease _ _⟩
    next => cases taken
  | reportLost worker =>
    simp only [Search.Indexing.Step, Takes, Search.Indexing.next] at taken
    split at taken
    next =>
      cases taken
      exact ⟨rfl, stays _⟩
    next => cases taken
  | markTaskFailed worker now =>
    simp only [Search.Indexing.Step, Takes, Search.Indexing.next] at taken
    split at taken
    next =>
      cases taken
      exact ⟨rfl, Search.Indexing.keepsTargets_updateLease _ _⟩
    next => cases taken
  | markFailedLost worker =>
    simp only [Search.Indexing.Step, Takes, Search.Indexing.next] at taken
    split at taken
    next =>
      cases taken
      exact ⟨rfl, stays _⟩
    next => cases taken
  | expireStaleTasks staleCutoff now =>
    cases taken
    exact ⟨rfl, Search.Indexing.keepsTargets_updateLease _ _⟩
  | restart =>
    cases taken
    exact ⟨rfl, stays _⟩

end Search

/-! ## Writes -/

section Writes

variable {content content' : Content} {queue queue' : Table IndexTask} {write : ContentWrite}
  {target : IndexTarget}

theorem ContentWrite.refreshes (ran : write.run content queue = .ok (content', queue')) :
    ∃ newId now, Refreshes content content' queue queue' newId now := by
  cases write with
  | insertUsers env users => exact ⟨_, _, refreshes_insertUsers ran⟩
  | appendUserSnapshots env snapshots => exact ⟨_, _, refreshes_appendUserSnapshots ran⟩
  | insertTweets env hasPlace tweets => exact ⟨_, _, refreshes_insertTweets ran⟩

theorem stores_eq :
    content.stores target = match target.kind with
      | .user => (content.facts.user target.id).isSome
      | .tweet => (content.facts.tweet target.id).isSome := by
  unfold Content.stores
  cases target.kind with
  | user => exact isSome_user.symm
  | tweet => exact isSome_tweet.symm

/-- A write is a step of the index system: it writes the facts of the ids it refreshes. -/
theorem Refreshes.writeFacts {newId : IndexTarget → Uuid} {now : Timestamp} {n : Nat}
    {config : Config} {s : Search.Indexing.State n}
    (refreshes : Refreshes content content' s.queue queue' newId now)
    (current : s.facts = content.facts) :
    ∃ tweets users, Search.Indexing.Step config s (.writeFacts tweets users newId now)
      { s with facts := content'.facts, queue := queue' } := by
  obtain ⟨tweetIds, userIds, statuses, changes, enqueued⟩ := refreshes.changes
  refine ⟨rowsOf content'.facts.tweet tweetIds, rowsOf content'.facts.user userIds, ?_⟩
  have tweetTargets : (rowsOf content'.facts.tweet tweetIds).map
      (fun change => IndexTarget.mk .tweet change.1) = tweetIds.map (IndexTarget.mk .tweet) := by
    rw [← Function.comp_def, ← List.map_map, map_fst_rowsOf changes.tweetStored]
  have userTargets : (rowsOf content'.facts.user userIds).map
      (fun change => IndexTarget.mk .user change.1) = userIds.map (IndexTarget.mk .user) := by
    rw [← Function.comp_def, ← List.map_map, map_fst_rowsOf changes.userStored]
  simp only [Search.Indexing.Step, Takes, Search.Indexing.next, tweetTargets, userTargets,
    enqueued, Option.map_some, current, setRows_rowsOf changes.tweetStored changes.tweet,
    setRows_rowsOf changes.userStored changes.user]

/-- What a write changes is pending after it. -/
theorem pending_of_changed {toLowercase : String → String}
    (ran : write.run content queue = .ok (content', queue'))
    (changed : document toLowercase content'.facts target ≠
      document toLowercase content.facts target) :
    ∃ row ∈ queue'.rows, row.target = target ∧ row.status = .pending := by
  obtain ⟨newId, now, refreshes⟩ := ContentWrite.refreshes ran
  obtain ⟨tweetIds, userIds, statuses, changes, enqueued⟩ := refreshes.changes
  refine (Search.rowsEnqueued_of_enqueueTargets enqueued).pending ?_
  rw [List.mem_append]
  by_contra notNamed
  rw [not_or] at notNamed
  refine changed (Search.Indexing.document_congr (fun isTweet => ?_) fun isUser => ?_)
  · refine changes.tweet target.id fun named => notNamed.1 ?_
    exact List.mem_map.mpr ⟨target.id, named, by rw [← isTweet]⟩
  · refine changes.user target.id fun named => notNamed.2 ?_
    exact List.mem_map.mpr ⟨target.id, named, by rw [← isUser]⟩

end Writes

/-! ## Runs -/

/-- Every stored row has a row in the queue. -/
def Queued (content : Content) (queue : Table IndexTask) : Prop :=
  ∀ target, content.stores target = true → ∃ row ∈ queue.rows, row.target = target

/-- The facts of the workers are those of the content, and a completed row is up to date. -/
structure System.Following (config : Config) (s : System n) : Prop where
  facts : s.search.facts = s.content.facts
  synced : Synced config s.search
  queued : Queued s.content s.search.queue

section Runs

variable {config : Config} {s t : System n}

theorem Queued.keeps {content : Content} {queue queue' : Table IndexTask}
    (queued : Queued content queue) (keeps : KeepsTargets queue queue') :
    Queued content queue' := by
  intro target stored
  obtain ⟨row, present, rfl⟩ := queued target stored
  obtain ⟨row', found, same⟩ := keeps row.id row (Table.find_of_mem present)
  exact ⟨row', Table.mem_of_find found, same⟩

/-- A row that is stored has a document. -/
theorem stores_eq_isSome (content : Content) (toLowercase : String → String)
    (target : IndexTarget) :
    content.stores target = (document toLowercase content.facts target).isSome := by
  rw [stores_eq, document]
  cases target.kind with
  | user => simp [Search.fetchUserDocument]
  | tweet => simp [Search.fetchTweetDocument]

theorem stores_congr {content content' : Content} {toLowercase : String → String}
    {target : IndexTarget}
    (same : document toLowercase content'.facts target =
      document toLowercase content.facts target) :
    content'.stores target = content.stores target := by
  rw [stores_eq_isSome content' toLowercase, stores_eq_isSome content toLowercase, same]

theorem following_write {write : ContentWrite} {content : Content} {queue : Table IndexTask}
    (following : s.Following config)
    (ran : write.run s.content s.search.queue = .ok (content, queue)) :
    System.Following config
      ⟨content, { s.search with facts := content.facts, queue := queue }⟩ := by
  obtain ⟨newId, now, refreshes⟩ := ContentWrite.refreshes ran
  obtain ⟨tweets, users, taken⟩ := refreshes.writeFacts following.facts
  have leavesSettled : s.search.LeavesSettled (.writeFacts tweets users newId now) := trivial
  have synced := Search.Indexing.synced_step following.synced ⟨leavesSettled, taken⟩
  obtain ⟨_, _, statuses, _, enqueued⟩ := refreshes.changes
  have keeps := Search.Indexing.keepsTargets_enqueued (Search.find_enqueueTargets enqueued)
  refine ⟨rfl, synced, fun target stored => ?_⟩
  by_cases same : document config.toLowercase content.facts target =
      document config.toLowercase s.content.facts target
  · rw [stores_congr same] at stored
    exact following.queued.keeps keeps target stored
  · obtain ⟨row, present, isTarget, _⟩ := pending_of_changed ran same
    exact ⟨row, present, isTarget⟩

theorem following_step {action : SystemAction n} (following : s.Following config)
    (taken : Restrict (System.Step config) System.LeavesSettled s action t) :
    t.Following config := by
  obtain ⟨leavesSettled, taken⟩ := taken
  simp only [System.Step, Takes, System.next] at taken
  cases action with
  | write write =>
    dsimp only at taken
    split at taken
    next =>
      cases taken
      exact following
    next content queue ran =>
      cases taken
      exact following_write following ran
  | search action =>
    dsimp only at taken
    split at taken
    next isSearch =>
      obtain ⟨search, stepped, rfl⟩ := Option.map_eq_some_iff.mp taken
      obtain ⟨sameFacts, keeps⟩ := search_frame isSearch stepped
      exact ⟨sameFacts.trans following.facts,
        Search.Indexing.synced_step following.synced ⟨leavesSettled, stepped⟩,
        following.queued.keeps keeps⟩
    next => cases taken

theorem following_start (index : Search.IndexTargetKind → Int → Option Search.IndexDocument) :
    (System.start index : System n).Following config where
  facts := rfl
  synced := Search.Indexing.synced_start _ _
  queued target stored := by
    rw [Content.stores] at stored
    cases kind : target.kind <;> rw [kind] at stored <;> cases stored

end Runs

/-- Whatever order the statements of the calls and the steps of the search come in, every stored
user and tweet has a row in the queue, and once that row is completed the index shows the document
of the stored rows. -/
theorem stored_rows_reach_index {config : Config}
    {index : Search.IndexTargetKind → Int → Option Search.IndexDocument}
    {actions : List (SystemAction n)} {s : System n}
    (run : Run (Restrict (System.Step config) System.LeavesSettled) (.start index) actions s)
    {target : IndexTarget} (stored : s.content.stores target = true) :
    ∃ row ∈ s.search.queue.rows, row.target = target ∧
      (row.status = .completed → s.search.index target.kind target.id =
        document config.toLowercase s.content.facts target) := by
  have following : s.Following config :=
    run.invariant (fun _ _ _ following taken => following_step following taken)
      (following_start index)
  obtain ⟨row, present, isTarget⟩ := following.queued target stored
  refine ⟨row, present, isTarget, fun completed => ?_⟩
  have indexed := following.synced.completed row.id row (Table.find_of_mem present) completed
  rw [isTarget, Search.Indexing.State.indexed, following.facts] at indexed
  exact indexed

/-- A user is stored, and a worker indexes it. -/
def userIndexed : List (SystemAction 1) :=
  [.write (.insertUsers Query.plainEnvironment [⟨5, none⟩]), .search (.claimNextTasks 0 0 [] 10),
    .search (.fetch 0), .search (.write 0 .committed), .search (.fetch 0),
    .search (.reportCompleted 0 20)]

def afterIndexing : System 1 :=
  (exec (System.next Search.Indexing.sampleConfig) (.start fun _ _ => none) userIndexed).getD
    (.start fun _ _ => none)

theorem stored_rows_reach_index_user :
    afterIndexing.search.queue.rows.map (fun row => (row.target, row.status)) =
        [(⟨.user, 5⟩, .completed)] ∧
      ∃ row ∈ afterIndexing.search.queue.rows, row.target = ⟨.user, 5⟩ ∧
        (row.status = .completed → afterIndexing.search.index .user 5 =
          document id afterIndexing.content.facts ⟨.user, 5⟩) := by
  have run : Run (Restrict (System.Step Search.Indexing.sampleConfig) System.LeavesSettled)
      (.start fun _ _ => none) userIndexed afterIndexing := run_of_guarded_exec rfl
  exact ⟨by decide, stored_rows_reach_index run (by decide)⟩

/-! ## Calls -/

/-- A stage sends nothing if it has no entries. -/
def stageWrites {α : Type} (entries : List α) (write : ContentWrite) : List ContentWrite :=
  if entries.isEmpty then [] else [write]

/-- The statements of a call that write content. -/
def callWrites (env : Environment) (prepared : PreparedSubmitBatch) (db : Database) :
    List ContentWrite :=
  match env.preloadSubmitBatchDicts prepared with
  | .error _ => []
  | .ok () =>
    let combined := combineUsers prepared.users prepared.tweetAuthors
    stageWrites combined (.insertUsers env (combined.map CombinedUserWrite.value)) ++
      stageWrites prepared.userSnapshots
        (.appendUserSnapshots env (prepared.userSnapshots.map Indexed.value)) ++
      stageWrites prepared.tweets
        (.insertTweets env (hasPlace (executePreparedSubmit env prepared db).1.tweetPlaces)
          (prepared.tweets.map Indexed.value))

def Database.content (db : Database) (stamps : Stamps) : Content :=
  ⟨db.users, db.userSnapshots, db.tweets, stamps⟩

section Calls

variable {env : Environment}

theorem runWrites_append (content : Content) (queue : Table IndexTask)
    (first rest : List ContentWrite) :
    runWrites content queue (first ++ rest) =
      runWrites (runWrites content queue first).1 (runWrites content queue first).2 rest := by
  induction first generalizing content queue with
  | nil => rfl
  | cons write first inductionHypothesis =>
    rw [List.cons_append, runWrites, runWrites]
    split
    · exact inductionHypothesis content queue
    · exact inductionHypothesis _ _

/-- A stage and its write do the same to what both see. -/
theorem runWrites_stage {α β σ : Type} {indices : α → List Nat}
    {record : β → α → ObjectResult → ObjectResult} {fail : String → ObjectResult → ObjectResult}
    {entries : List α} {statement : Except String (β × σ)} {state : σ}
    {results : List ObjectResult} {write : ContentWrite} {stamps : Stamps}
    {seen : Stamps → σ → Content × Table IndexTask}
    (succeeds : ∀ answers state', statement = .ok (answers, state') → ∃ stamps',
      write.run (seen stamps state).1 (seen stamps state).2 = .ok (seen stamps' state'))
    (fails : ∀ error, statement = .error error →
      ∃ error', write.run (seen stamps state).1 (seen stamps state).2 = .error error') :
    ∃ stamps', runWrites (seen stamps state).1 (seen stamps state).2 (stageWrites entries write) =
      seen stamps' (writeBatch indices record fail entries statement state results).1 := by
  unfold writeBatch stageWrites
  by_cases empty : entries.isEmpty = true
  · simp only [empty, if_true]
    exact ⟨stamps, rfl⟩
  · simp only [empty]
    cases statement with
    | ok answered =>
      obtain ⟨stamps', ran⟩ := succeeds answered.1 answered.2 rfl
      exact ⟨stamps', by simp [runWrites, ran]⟩
    | error error =>
      obtain ⟨error', ran⟩ := fails error rfl
      exact ⟨stamps, by simp [runWrites, ran]⟩

/-- What the user stages and the writes both see. -/
def seenUsers (tweets : Table TweetRow) (stamps : Stamps) (tables : UserTables) :
    Content × Table IndexTask :=
  (⟨tables.users, tables.snapshots, tweets, stamps⟩, tables.indexQueue)

def seenTweets (users : UserTables) (stamps : Stamps) (tables : TweetTables) :
    Content × Table IndexTask :=
  (⟨users.users, users.snapshots, tables.tweets, stamps⟩, tables.indexQueue)

theorem runWrites_users (users tweetAuthors : List (Indexed TwitterUser)) (tables : UserTables)
    (userResults tweetResults : List ObjectResult) (tweets : Table TweetRow) (stamps : Stamps) :
    ∃ stamps', runWrites (seenUsers tweets stamps tables).1 (seenUsers tweets stamps tables).2
        (stageWrites (combineUsers users tweetAuthors)
          (.insertUsers env ((combineUsers users tweetAuthors).map CombinedUserWrite.value))) =
      seenUsers tweets stamps' (writeCombinedUserBatch env users tweetAuthors tables userResults
        tweetResults).1 := by
  apply runWrites_stage
  · intro changed tables' inserted
    have sameSnapshots := snapshots_insertUsersChanged inserted
    refine ⟨stamps.ofUsers changed env.now, ?_⟩
    simp only [ContentWrite.run, seenUsers]
    rw [inserted]
    simp only [Except.map, sameSnapshots]
  · intro error refused
    refine ⟨error, ?_⟩
    simp only [ContentWrite.run, seenUsers]
    rw [refused]
    rfl

theorem runWrites_userSnapshots (items : List (Indexed UserSnapshot)) (tables : UserTables)
    (results : List ObjectResult) (tweets : Table TweetRow) (stamps : Stamps) :
    ∃ stamps', runWrites (seenUsers tweets stamps tables).1 (seenUsers tweets stamps tables).2
        (stageWrites items (.appendUserSnapshots env (items.map Indexed.value))) =
      seenUsers tweets stamps' (writeUserSnapshotsBatch env items tables results).1 := by
  apply runWrites_stage
  · intro statuses tables' appended
    have sameUsers := users_appendUserSnapshots appended
    refine ⟨stamps, ?_⟩
    simp only [ContentWrite.run, seenUsers]
    rw [appended]
    simp only [Except.map, sameUsers]
  · intro error refused
    refine ⟨error, ?_⟩
    simp only [ContentWrite.run, seenUsers]
    rw [refused]
    rfl

theorem runWrites_tweets (items : List (Indexed TweetRow)) (users : UserTables)
    (hasPlace : String → Bool) (tables : TweetTables) (results : List ObjectResult)
    (stamps : Stamps) :
    ∃ stamps', runWrites (seenTweets users stamps tables).1 (seenTweets users stamps tables).2
        (stageWrites items (.insertTweets env hasPlace (items.map Indexed.value))) =
      seenTweets users stamps' (writeTweetsBatch env items users.hasUser hasPlace tables
        results).1 := by
  apply runWrites_stage
  · intro changed tables' inserted
    let created := changed.filter fun id => (tables.tweets.find id).isNone
    refine ⟨stamps.ofTweets created changed env.now, ?_⟩
    have ran : env.insertTweetsChanged (fun id => (users.users.find id).isSome) hasPlace
        (items.map Indexed.value) tables = .ok (changed, tables') := inserted
    simp only [ContentWrite.run, seenTweets]
    rw [ran]
    rfl
  · intro error refused
    refine ⟨error, ?_⟩
    have ran : env.insertTweetsChanged (fun id => (users.users.find id).isSome) hasPlace
        (items.map Indexed.value) tables = .error error := refused
    simp only [ContentWrite.run, seenTweets]
    rw [ran]
    rfl

/-- A call does to the content and the queue what its writes do. -/
theorem executePreparedSubmit_writes (prepared : PreparedSubmitBatch) (db : Database)
    (stamps : Stamps) :
    ∃ stamps', runWrites (db.content stamps) db.indexQueue (callWrites env prepared db) =
      ((executePreparedSubmit env prepared db).1.content stamps',
        (executePreparedSubmit env prepared db).1.indexQueue) := by
  unfold callWrites
  split
  next error refused =>
    refine ⟨stamps, ?_⟩
    rw [executePreparedSubmit, refused]
    rfl
  next preloaded =>
    obtain ⟨stampsUsers, usersRan⟩ := runWrites_users prepared.users prepared.tweetAuthors
      ⟨db.users, db.userSnapshots, db.indexQueue⟩ prepared.userResults prepared.tweetResults
      db.tweets stamps
    let written := writeCombinedUserBatch env prepared.users prepared.tweetAuthors
      ⟨db.users, db.userSnapshots, db.indexQueue⟩ prepared.userResults prepared.tweetResults
    obtain ⟨stampsSnapshots, snapshotsRan⟩ := runWrites_userSnapshots prepared.userSnapshots
      written.1 written.2.1 db.tweets stampsUsers
    let users := executeUsers env prepared ⟨db.users, db.userSnapshots, db.indexQueue⟩ db.userStats
    let places := writeTweetPlacesBatch env prepared.tweetPlaces db.tweetPlaces users.tweetResults
    obtain ⟨stampsTweets, tweetsRan⟩ := runWrites_tweets prepared.tweets users.tables
      (hasPlace places.1) ⟨db.tweets, users.tables.indexQueue⟩ places.2 stampsSnapshots
    refine ⟨stampsTweets, ?_⟩
    have samePlaces : (executePreparedSubmit env prepared db).1.tweetPlaces = places.1 := by
      rw [executePreparedSubmit, preloaded]
      rfl
    have result : ((executePreparedSubmit env prepared db).1.content stampsTweets,
        (executePreparedSubmit env prepared db).1.indexQueue) =
        seenTweets users.tables stampsTweets (writeTweetsBatch env prepared.tweets
          users.tables.hasUser (hasPlace places.1) ⟨db.tweets, users.tables.indexQueue⟩
          places.2).1 := by
      rw [executePreparedSubmit, preloaded]
      rfl
    rw [result, samePlaces, ← tweetsRan, runWrites_append, runWrites_append]
    have first : runWrites (db.content stamps) db.indexQueue _ = _ := usersRan
    have second := snapshotsRan
    rw [first, second]
    rfl

theorem runWrites_pending {toLowercase : String → String} {base content : Content}
    {queue : Table IndexTask} {writes : List ContentWrite}
    (before : ∀ target, document toLowercase content.facts target ≠
        document toLowercase base.facts target →
      ∃ row ∈ queue.rows, row.target = target ∧ row.status = .pending) :
    ∀ target, document toLowercase (runWrites content queue writes).1.facts target ≠
        document toLowercase base.facts target →
      ∃ row ∈ (runWrites content queue writes).2.rows,
        row.target = target ∧ row.status = .pending := by
  induction writes generalizing content queue with
  | nil => exact before
  | cons write writes inductionHypothesis =>
    rw [runWrites]
    split
    next => exact inductionHypothesis before
    next content' queue' ran =>
      apply inductionHypothesis
      intro target changed
      by_cases same : document toLowercase content'.facts target =
          document toLowercase content.facts target
      · rw [same] at changed
        obtain ⟨row, present, isTarget, isPending⟩ := before target changed
        obtain ⟨newId, now, refreshes⟩ := ContentWrite.refreshes ran
        obtain ⟨_, _, statuses, _, enqueued⟩ := refreshes.changes
        have rows := Search.rowsEnqueued_of_enqueueTargets enqueued
        refine ⟨_, (rows _).mpr (.inl ⟨row, present, rfl⟩), ?_, ?_⟩
        · rw [Search.refreshRow_target, isTarget]
        · unfold Search.refreshRow
          split
          · rfl
          · exact isPending
      · exact pending_of_changed ran same

/-- The index system beside some content. -/
def System.at (content : Content) (queue : Table IndexTask) (search : Search.Indexing.State n) :
    System n :=
  ⟨content, { search with facts := content.facts, queue := queue }⟩

theorem run_writes {config : Config} (search : Search.Indexing.State n) (content : Content)
    (queue : Table IndexTask) (writes : List ContentWrite) :
    Run (Restrict (System.Step config) System.LeavesSettled) (.at content queue search)
      (writes.map .write)
      (.at (runWrites content queue writes).1 (runWrites content queue writes).2 search) := by
  induction writes generalizing content queue with
  | nil => exact .nil
  | cons write writes inductionHypothesis =>
    rw [List.map_cons, runWrites]
    split
    next error refused =>
      refine .cons ⟨trivial, ?_⟩ (inductionHypothesis content queue)
      simp only [System.Step, Takes, System.next, System.at, refused]
    next content' queue' ran =>
      refine .cons ⟨trivial, ?_⟩ (inductionHypothesis content' queue')
      simp only [System.Step, Takes, System.next, System.at, ran]

end Calls

/-- A call is a run of the statements of it that write content, and what it changed in a document
is pending when it ends. -/
theorem submit_call_queues_changes {config : Config} (env : Environment)
    (prepared : PreparedSubmitBatch) (db : Database) (stamps : Stamps)
    (search : Search.Indexing.State n) :
    let db' := (executePreparedSubmit env prepared db).1
    ∃ stamps', Run (Restrict (System.Step config) System.LeavesSettled)
        (.at (db.content stamps) db.indexQueue search)
        ((callWrites env prepared db).map .write)
        (.at (db'.content stamps') db'.indexQueue search) ∧
      ∀ target, document config.toLowercase (db'.content stamps').facts target ≠
          document config.toLowercase (db.content stamps).facts target →
        ∃ row ∈ db'.indexQueue.rows, row.target = target ∧ row.status = .pending := by
  intro db'
  obtain ⟨stamps', ran⟩ := @executePreparedSubmit_writes env prepared db stamps
  have run := @run_writes n config search (db.content stamps) db.indexQueue
    (callWrites env prepared db)
  have pending := @runWrites_pending config.toLowercase (db.content stamps) (db.content stamps)
    db.indexQueue (callWrites env prepared db) fun target changed => absurd rfl changed
  rw [ran] at run pending
  exact ⟨stamps', run, pending⟩

end TweetDb.Submit
