import TweetDb.Query.Resubmit
import TweetDb.Submit.OneItem
import TweetDb.Tweet.Again

/-! # A call that is sent twice

Once every statement of a call has been accepted, the same batch sent again
writes nothing, whatever the database accepts or refuses the second time.
-/

namespace TweetDb.Submit

open Relational TweetModel
open TweetDb.Query (plainEnvironment sentMedia sentTweet sentUser)
open TweetDb.Transfer (EnqueueTransferTask)
open TweetDb.Tweet (MediaTables TweetCommunityNote TweetEdit TweetPlace TweetPolicy TweetRow
  TweetTables TwitterUser UserStats TweetStats UserTables Version)

/-! ## Stages -/

/-- A statement is sent only where a stage has entries. -/
def Accepts {α β : Type} (entries : List α) (outcome : Except String β) : Prop :=
  entries ≠ [] → ∃ answers, outcome = .ok answers

/-- A stage that has entries the second time had some the first time. -/
theorem writeBatch_again {α β σ : Type} {indices : α → List Nat}
    {record record' : β → α → ObjectResult → ObjectResult}
    {fail fail' : String → ObjectResult → ObjectResult} {entries entries' : List α}
    {first again : Except String (β × σ)} {state start : σ} {results results' : List ObjectResult}
    (sent : entries' ≠ [] → entries ≠ []) (accepts : Accepts entries (first.map Prod.fst))
    (quiet : ∀ answers, first = .ok (answers,
        (writeBatch indices record fail entries first state results).1) →
      ∀ answers' state', again = .ok (answers', state') → state' = start) :
    (writeBatch indices record' fail' entries' again start results').1 = start := by
  by_cases empty : entries' = []
  · subst empty
    rfl
  · obtain ⟨answers, isAnswer⟩ := accepts (sent empty)
    obtain ⟨⟨answers, after⟩, isFirst, rfl⟩ := map_eq_ok isAnswer
    have isAfter : (writeBatch indices record fail entries first state results).1 = after := by
      simp [writeBatch, sent empty, isFirst]
    let unchanged (state' : σ) : Prop := state' = start
    have kept : unchanged (writeBatch indices record' fail' entries' again start results').1 :=
      writeBatch_keeps rfl fun answers' state' done => by
        refine quiet answers ?_ answers' state' done
        rw [isAfter, isFirst]
    exact kept

/-! ## Statements -/

section Statements

variable {env env' : Environment}

theorem insertUsersChanged_again {users : List TwitterUser}
    {tables after start state : UserTables} {changed changed' : List Int}
    (first : env.insertUsersChanged users tables = .ok (changed, after))
    (same : start.users = after.users)
    (again : env'.insertUsersChanged users start = .ok (changed', state)) : state = start := by
  have written := send_eq_ok first
  have writtenAgain := send_eq_ok again
  split at written <;> cases written
  next wrote =>
    obtain ⟨⟨changed, stored⟩, upserted, queueing⟩ := Option.bind_eq_some_iff.mp wrote
    obtain ⟨_, _, result⟩ := Option.map_eq_some_iff.mp queueing
    cases result
    have nothing := (Tweet.exactReports_upsert (Tweet.distinctUsers_pairwise users)
      TwitterUser.condition_self TwitterUser.settles _ _ _ upserted).2
    simp only [Tweet.writeTwitterUsers, same, nothing] at writtenAgain
    cases writtenAgain
    dsimp only at same ⊢
    rw [← same]

theorem appendUserSnapshots_again {snapshots : List UserSnapshot}
    {tables after start state : UserTables}
    {statuses statuses' : List ((Int × Timestamp) × ConditionalWrite)}
    (distinct : DistinctBy UserSnapshot.userId snapshots)
    (first : env.appendUserSnapshotsIfChangedMany snapshots tables = .ok (statuses, after))
    (sameUsers : start.users = tables.users) (same : start.snapshots = after.snapshots)
    (again : env'.appendUserSnapshotsIfChangedMany snapshots start = .ok (statuses', state)) :
    state = start := by
  have written := send_eq_ok first
  have writtenAgain := send_eq_ok again
  split at written <;> cases written
  next wrote =>
    obtain ⟨_, _, result⟩ := Option.map_eq_some_iff.mp wrote
    cases result
    have versions : DistinctBy Version.subjectId
        ((snapshots.map UserSnapshot.payload).map Tweet.UserSnapshotPayload.toVersion) :=
      DistinctBy.map (DistinctBy.map distinct)
    have sameParent : start.hasUser = tables.hasUser := by
      unfold UserTables.hasUser
      rw [sameUsers]
    obtain ⟨inserted, table⟩ := Tweet.appendIfChanged_again versions same.symm
    rw [← sameParent] at inserted table
    simp only [Tweet.appendUserSnapshotsIfChanged, inserted, table] at writtenAgain
    cases writtenAgain
    rfl

theorem appendUserStats_again {hasUser : Int → Bool} {stats : List UserStats}
    {table after state : Table (Version Tweet.UserStatsColumns)}
    {statuses statuses' : List ((Int × Timestamp) × ConditionalWrite)}
    (interval : env'.statsInterval = env.statsInterval)
    (distinct : DistinctBy UserStats.userId stats)
    (first : env.appendUserStatsIfChangedMany hasUser stats table = .ok (statuses, after))
    (again : env'.appendUserStatsIfChangedMany hasUser stats after = .ok (statuses', state)) :
    state = after := by
  have written := send_eq_ok first
  have writtenAgain := send_eq_ok again
  cases writtenAgain
  rw [interval]
  exact Tweet.appendStatsIfChanged_again (DistinctBy.map distinct)
    (congrArg Prod.snd (Except.ok.inj written))

theorem upsertMediaChanged_again {media : List Media} {table after state : Table Tweet.Media}
    {changed changed' : List Int}
    (first : env.upsertMediaChanged media table = .ok (changed, after))
    (again : env'.upsertMediaChanged media after = .ok (changed', state)) : state = after := by
  have written := send_eq_ok first
  have writtenAgain := send_eq_ok again
  split at written <;> cases written
  split at writtenAgain <;> cases writtenAgain
  next wrote _ wroteAgain => exact Tweet.upsertMedia_again wrote wroteAgain

/-- The status of a resource, among those of a statement. -/
theorem lookup_resources {resources : List MediaResource} {tables after : MediaTables}
    {statuses : List ((Int × Timestamp) × ConditionalWrite)}
    (distinct : DistinctBy MediaResource.mediaId resources)
    (answered : env.appendMediaResourcesIfChangedMany resources tables = .ok (statuses, after))
    {resource : MediaResource} (member : resource ∈ resources) :
    statuses.lookup (resource.mediaId, resource.recordedAt) =
      some (appendWrite (Tweet.statusIn tables.hasMedia (resources.map MediaResource.payload)
        tables.resources resource.payload)) := by
  have versions : DistinctBy Version.subjectId (resources.map MediaResource.payload) :=
    DistinctBy.map distinct
  have isInput := Tweet.mem_distinctInput_of_distinct versions (List.mem_map_of_mem member)
  have keys : DistinctBy (fun row : Tweet.MediaResource => (row.subjectId, row.recordedAt))
      (Tweet.distinctInput (resources.map MediaResource.payload)) :=
    fun a inA b inB same => versions a (Tweet.mem_of_mem_distinctInput inA) b
      (Tweet.mem_of_mem_distinctInput inB) (congrArg Prod.fst same)
  have found := keys.lookup_answers (fun row => appendWrite (Tweet.statusIn tables.hasMedia
    (resources.map MediaResource.payload) tables.resources row)) isInput
  have isStatuses : statuses = (Tweet.distinctInput (resources.map MediaResource.payload)).map
      fun row => ((row.subjectId, row.recordedAt), appendWrite (Tweet.statusIn tables.hasMedia
        (resources.map MediaResource.payload) tables.resources row)) := by
    cases send_eq_ok answered
    simp only [Tweet.appendIfChanged, appendWrites, List.map_map]
    rfl
  rw [isStatuses]
  exact found

theorem appendMediaResources_again {resources : List MediaResource}
    {tables after start state : MediaTables}
    {statuses statuses' : List ((Int × Timestamp) × ConditionalWrite)}
    (distinct : DistinctBy MediaResource.mediaId resources)
    (first : env.appendMediaResourcesIfChangedMany resources tables = .ok (statuses, after))
    (sameMedia : start.media = tables.media) (same : start.resources = after.resources)
    (again : env'.appendMediaResourcesIfChangedMany resources start = .ok (statuses', state)) :
    state = start ∧ ∀ resource ∈ resources, ∀ status,
      statuses'.lookup (resource.mediaId, resource.recordedAt) = some status →
        status = .inserted ∨ status = .skippedUnchanged →
          statuses.lookup (resource.mediaId, resource.recordedAt) = some .inserted ∨
            statuses.lookup (resource.mediaId, resource.recordedAt) = some .skippedUnchanged := by
  have versions : DistinctBy Version.subjectId (resources.map MediaResource.payload) :=
    DistinctBy.map distinct
  have sameParent : start.hasMedia = tables.hasMedia := by
    unfold MediaTables.hasMedia
    rw [sameMedia]
  have ran : (Tweet.appendIfChanged tables.hasMedia (resources.map MediaResource.payload)
      tables.resources).table = start.resources := by
    rw [same]
    cases send_eq_ok first
    rfl
  constructor
  · have table := (Tweet.appendIfChanged_again versions ran).2
    rw [← sameParent] at table
    cases send_eq_ok again
    show MediaTables.mk start.media _ = start
    rw [table]
  · intro resource member status found isPlanned
    rw [lookup_resources distinct again member, Option.some.injEq, sameParent] at found
    have planned : ∀ status : Tweet.AppendStatus,
        appendWrite status = .inserted ∨ appendWrite status = .skippedUnchanged ↔
          status = .inserted ∨ status = .unchanged := by
      intro status
      cases status <;> simp [appendWrite]
    rw [← found, planned] at isPlanned
    rw [lookup_resources distinct first member, Option.some.injEq, Option.some.injEq, planned]
    exact Tweet.statusIn_again versions ran (List.mem_map_of_mem member) isPlanned

/-- A task of the second call has the source of one of the first. -/
structure SameSource (task other : EnqueueTransferTask) : Prop where
  mediaId : task.mediaId = other.mediaId
  recordedAt : task.sourceRecordedAt = other.sourceRecordedAt
  url : task.sourceUrl = other.sourceUrl

theorem insertTasks_of_queued {now : Timestamp} {items : List Transfer.NewTransferTask}
    {tasks : Table Transfer.TransferTask}
    (queued : ∀ item ∈ items, ∃ stored ∈ tasks.rows, stored.sameSource (item.row now)) :
    Transfer.insertTasks now items tasks = some tasks := by
  induction items with
  | nil => rfl
  | cons item items inductionHypothesis =>
    have first : Transfer.insertTask tasks (item.row now) = some tasks :=
      if_pos (queued item List.mem_cons_self)
    have rest := inductionHypothesis fun other later => queued other (List.mem_cons_of_mem _ later)
    rw [Transfer.insertTasks, List.foldlM_cons, first]
    exact rest

theorem enqueueTasks_again {tasks tasks' : List EnqueueTransferTask}
    {resources : Table Tweet.MediaResource} {table after state : Table Transfer.TransferTask}
    {statuses statuses' : List ((Int × Timestamp) × Transfer.TransferEnqueueStatus)}
    (choice : env'.choice = env.choice) (distinct : DistinctBy EnqueueTransferTask.mediaId tasks)
    (sources : ∀ task ∈ tasks', ∃ other ∈ tasks, SameSource task other)
    (first : env.enqueueTasks tasks resources table = .ok (statuses, after))
    (again : env'.enqueueTasks tasks' resources after = .ok (statuses', state)) :
    state = after := by
  have written := send_eq_ok first
  have writtenAgain := send_eq_ok again
  split at written <;> cases written
  split at writtenAgain <;> cases writtenAgain
  next wrote _ wroteAgain =>
    obtain ⟨_, inserted, same⟩ := Option.map_eq_some_iff.mp wrote
    cases same
    obtain ⟨_, insertedAgain, same⟩ := Option.map_eq_some_iff.mp wroteAgain
    cases same
    have queued := (Transfer.insertTasks_queued inserted).2
    rw [insertTasks_of_queued fun item member => ?_] at insertedAgain
    · exact (Option.some.inj insertedAgain).symm
    · obtain ⟨task, isTask, resolved⟩ := List.mem_filterMap.mp member
      obtain ⟨source, isSource, rfl⟩ := Option.map_eq_some_iff.mp resolved
      obtain ⟨other, isOther, same⟩ :=
        sources task (mem_orderBy.mp (mem_of_mem_distinctOn isTask))
      have kept : other ∈ Transfer.distinctTasks tasks :=
        mem_distinctOn_of_alone (mem_orderBy.mpr isOther) fun another isAnother sameKey =>
          distinct another (mem_orderBy.mp isAnother) other isOther (congrArg Prod.fst sameKey)
      have otherSource : Transfer.resolveSource env.choice resources other = some source := by
        rw [← isSource, choice]
        simp only [Transfer.resolveSource, same.mediaId, same.recordedAt, same.url]
      obtain ⟨row, present, sameRow⟩ := queued (other.insertAt source)
        (List.mem_filterMap.mpr ⟨other, kept, by rw [otherSource]; rfl⟩)
      exact ⟨row, present, sameRow.1.trans same.mediaId.symm, sameRow.2⟩

theorem upsertTweetPlacesChanged_again {places : List TweetPlace}
    {table after state : Table TweetPlace} {changed changed' : List String}
    (first : env.upsertTweetPlacesChanged places table = .ok (changed, after))
    (again : env'.upsertTweetPlacesChanged places after = .ok (changed', state)) :
    state = after := by
  have written := send_eq_ok first
  have writtenAgain := send_eq_ok again
  split at written <;> cases written
  next wrote =>
    have nothing := (Tweet.exactReports_upsert (distinctOn_pairwise TweetPlace.id _)
      TweetPlace.condition_self TweetPlace.settles _ _ _ wrote).2
    simp only [Tweet.writeTweetPlaces, nothing] at writtenAgain
    cases writtenAgain
    rfl

theorem insertTweetsChanged_again {hasUser : Int → Bool} {hasPlace : String → Bool}
    {tweets : List TweetRow} {tables after start state : TweetTables} {changed changed' : List Int}
    (first : env.insertTweetsChanged hasUser hasPlace tweets tables = .ok (changed, after))
    (same : start.tweets = after.tweets)
    (again : env'.insertTweetsChanged hasUser hasPlace tweets start = .ok (changed', state)) :
    state = start := by
  have written := send_eq_ok first
  have writtenAgain := send_eq_ok again
  split at written <;> cases written
  next wrote =>
    obtain ⟨⟨changed, stored⟩, upserted, queueing⟩ := Option.bind_eq_some_iff.mp wrote
    obtain ⟨_, _, result⟩ := Option.map_eq_some_iff.mp queueing
    cases result
    have nothing := (Tweet.exactReports_upsert (distinctOn_pairwise TweetRow.id _)
      TweetRow.condition_self TweetRow.settles _ _ _ upserted).2
    simp only [Tweet.writeTweets, same, nothing] at writtenAgain
    cases writtenAgain
    dsimp only at same ⊢
    rw [← same]

/-- The statements over rows of a tweet. -/
theorem childWrites_again {ρ : Type} [Row ρ Int] {conflict : OnConflict ρ}
    {constraints : Constraints ρ} {hasTweet : Int → Bool} {input : List ρ}
    {table after state : Table ρ} {statuses statuses' : List (Int × ConditionalWrite)}
    (distinct : input.Pairwise fun a b => Row.key a ≠ Row.key b)
    (self : ∀ row, conflict.condition row row = false)
    (settles : ∀ stored excluded, conflict.Settles stored excluded)
    (first : env.childWrites (Tweet.writeChildren conflict constraints hasTweet input table) =
      .ok (statuses, after))
    (again : env'.childWrites (Tweet.writeChildren conflict constraints hasTweet input after) =
      .ok (statuses', state)) : state = after := by
  cases wrote : Tweet.writeChildren conflict constraints hasTweet input table with
  | none =>
    rw [wrote] at first
    cases first
  | some written =>
    rw [wrote] at first
    cases first
    obtain ⟨⟨_, _⟩, upserted, result⟩ := Option.map_eq_some_iff.mp wrote
    obtain ⟨_, rfl⟩ := Prod.mk.inj result
    have nothing := (Tweet.exactReports_upsert (distinct.filter _) self settles _ _ _ upserted).2
    simp only [Tweet.writeChildren, nothing] at again
    cases again
    rfl

theorem appendTweetStats_again {hasTweet : Int → Bool} {stats : List TweetStats}
    {table after state : Table (Version Tweet.TweetStatsColumns)}
    {statuses statuses' : List ((Int × Timestamp) × ConditionalWrite)}
    (interval : env'.statsInterval = env.statsInterval)
    (distinct : DistinctBy TweetStats.tweetId stats)
    (first : env.appendTweetStatsIfChangedMany hasTweet stats table = .ok (statuses, after))
    (again : env'.appendTweetStatsIfChangedMany hasTweet stats after = .ok (statuses', state)) :
    state = after := by
  have written := send_eq_ok first
  cases send_eq_ok again
  rw [interval]
  exact Tweet.appendStatsIfChanged_again (DistinctBy.map distinct)
    (congrArg Prod.snd (Except.ok.inj written))

theorem syncTweetRelations_again {hasTweet hasMedia : Int → Bool} {relations : List TweetRelations}
    {tables after state : RefTables} {statuses statuses' : List (Int × RelationSyncStatuses)}
    (first : env.syncTweetRelations hasTweet hasMedia relations tables = .ok (statuses, after))
    (again : env'.syncTweetRelations hasTweet hasMedia relations after = .ok (statuses', state)) :
    state = after := by
  have synced := send_eq_ok first
  have syncedAgain := send_eq_ok again
  split at synced <;> cases synced
  split at syncedAgain <;> cases syncedAgain
  next ran _ ranAgain =>
    obtain ⟨_, _, _, _, media, mention, hashtag, symbol, _⟩ := syncTweetRelations_ok_iff.mp ran
    obtain ⟨_, _, _, _, media', mention', hashtag', symbol', _⟩ :=
      syncTweetRelations_ok_iff.mp ranAgain
    have sameMedia : state.media = after.media := Tweet.syncTweetRefs_again (by rfl) media media'
    have sameMention : state.mention = after.mention :=
      Tweet.syncTweetRefs_again (by rfl) mention mention'
    have sameHashtag : state.hashtag = after.hashtag :=
      Tweet.syncTweetRefs_again (by rfl) hashtag hashtag'
    have sameSymbol : state.symbol = after.symbol :=
      Tweet.syncTweetRefs_again (by rfl) symbol symbol'
    cases state
    cases after
    dsimp only at sameMedia sameMention sameHashtag sameSymbol
    subst sameMedia sameMention sameHashtag sameSymbol
    rfl

end Statements

/-! ## Transfer tasks -/

/-- The two calls run in processes that are configured alike. -/
structure SameSettings (env env' : Environment) : Prop where
  statsInterval : env'.statsInterval = env.statsInterval
  transferActive : env'.transferActive = env.transferActive
  urlPath : env'.urlPath = env.urlPath
  choice : env'.choice = env.choice

section Transfers

variable {env env' : Environment} {media : List (Indexed Media)}
  {statuses statuses' : List ((Int × Timestamp) × ConditionalWrite)} {item : Indexed MediaResource}

/-- `should_enqueue_media_transfer`. -/
def Planned (statuses : List ((Int × Timestamp) × ConditionalWrite))
    (item : Indexed MediaResource) : Prop :=
  statuses.lookup (item.value.mediaId, item.value.recordedAt) = some .inserted ∨
    statuses.lookup (item.value.mediaId, item.value.recordedAt) = some .skippedUnchanged

theorem planned_of_push {task : EnqueueTransferTask}
    (pushed : planMediaTransfer env media statuses item = .push task) : Planned statuses item := by
  unfold planMediaTransfer at pushed
  split at pushed
  next found => exact .inl found
  next found => exact .inr found
  next => cases pushed

theorem planMediaTransfer_congr (planned : Planned statuses item)
    (planned' : Planned statuses' item) :
    planMediaTransfer env media statuses' item = planMediaTransfer env media statuses item := by
  unfold planMediaTransfer
  rcases planned with found | found <;> rcases planned' with found' | found' <;>
    simp only [found, found']

theorem push_again {task : EnqueueTransferTask} (settings : SameSettings env env')
    (planned : Planned statuses item)
    (pushed : planMediaTransfer env' media statuses' item = .push task) :
    ∃ other, planMediaTransfer env media statuses item = .push other ∧ SameSource task other := by
  rw [planMediaTransfer_congr planned (planned_of_push pushed)] at pushed
  unfold planMediaTransfer at pushed ⊢
  rw [settings.transferActive, settings.urlPath] at pushed
  by_cases active : env.transferActive = true
  · cases isLast : (media.filter fun other => other.index == item.index).getLast? with
    | none =>
      simp only [active, isLast] at pushed
      split at pushed <;> cases pushed
    | some model =>
      cases selected : Transfer.selectSource env.urlPath model.value.mediaType item.value with
      | none =>
        simp only [active, isLast, selected] at pushed
        split at pushed <;> cases pushed
      | some source =>
        refine ⟨source.task (env.newTaskId item.value.mediaId item.value.recordedAt) item.value,
          ?_, ?_⟩
        · rcases planned with found | found <;>
            simp only [found, active, selected] <;> rfl
        · simp only [active, isLast, selected] at pushed
          split at pushed <;> cases pushed <;> exact ⟨rfl, rfl, rfl⟩
  · simp only [active] at pushed
    split at pushed <;> cases pushed

theorem mediaTransferTasks_again {items : List (Indexed MediaResource)}
    (settings : SameSettings env env')
    (planned : ∀ item ∈ items, Planned statuses' item → Planned statuses item) :
    ∀ task ∈ (mediaTransferTasks env' media items statuses').map Indexed.value,
      ∃ other ∈ (mediaTransferTasks env media items statuses).map Indexed.value,
        SameSource task other := by
  intro task member
  obtain ⟨entry, isEntry, rfl⟩ := List.mem_map.mp member
  obtain ⟨item, isItem, isTask⟩ := List.mem_filterMap.mp isEntry
  obtain ⟨task, pushed, rfl⟩ := Option.map_eq_some_iff.mp isTask
  have isPush : planMediaTransfer env' media statuses' item = .push task := by
    cases plan : planMediaTransfer env' media statuses' item <;> rw [plan] at pushed <;>
      cases pushed
    rfl
  obtain ⟨other, pushedFirst, same⟩ :=
    push_again settings (planned item isItem (planned_of_push isPush)) isPush
  refine ⟨other, List.mem_map.mpr ⟨⟨item.index, other⟩, ?_, rfl⟩, same⟩
  exact List.mem_filterMap.mpr ⟨item, isItem, by rw [pushedFirst]; rfl⟩

end Transfers

/-! ## The stages again -/

/-- Every statement that a call sends is accepted. -/
structure Outcomes.Accepted (prepared : PreparedSubmitBatch) (env : Environment)
    (outcomes : Outcomes) : Prop where
  preload : outcomes.preload = .ok ()
  users : Accepts (combineUsers prepared.users prepared.tweetAuthors) outcomes.users
  userSnapshots : Accepts prepared.userSnapshots outcomes.userSnapshots
  userStats : Accepts prepared.userStats outcomes.userStats
  media : Accepts prepared.media outcomes.media
  mediaResources : Accepts prepared.mediaResources outcomes.mediaResources
  transferTasks : Accepts (mediaTransferTasks env prepared.media prepared.mediaResources
    (resourceStatuses prepared outcomes)) outcomes.transferTasks
  tweetPlaces : Accepts (dedupePlaces prepared.tweetPlaces) outcomes.tweetPlaces
  tweets : Accepts prepared.tweets outcomes.tweets
  tweetEdits : Accepts prepared.tweetEdits outcomes.tweetEdits
  tweetPolicies : Accepts prepared.tweetPolicies outcomes.tweetPolicies
  tweetCommunityNotes : Accepts prepared.tweetCommunityNotes outcomes.tweetCommunityNotes
  tweetStats : Accepts prepared.tweetStats outcomes.tweetStats
  relations : Accepts prepared.tweetRelations outcomes.relations

section Execute

variable {env env' : Environment} {prepared : PreparedSubmitBatch} {db : Database}

theorem executeUsers_again (settings : SameSettings env env') (single : prepared.Single)
    (accepted : (outcomesOf prepared env db).Accepted prepared env) :
    let first := (executeStages env prepared db).1
    let again := executeUsers env' prepared first.userTables first.userStats
    again.tables = first.userTables ∧ again.userStats = first.userStats := by
  intro first again
  let users := executeUsers env prepared db.userTables db.userStats
  let start : UserTables := first.userTables
  have sameUsers : users.tables.users = (writeCombinedUserBatch env prepared.users
      prepared.tweetAuthors db.userTables prepared.userResults prepared.tweetResults).1.users :=
    users_writeUserSnapshotsBatch
  have written : (writeCombinedUserBatch env' prepared.users prepared.tweetAuthors start
      prepared.userResults prepared.tweetResults).1 = start :=
    writeBatch_again id accepted.users fun _ first _ _ again =>
      insertUsersChanged_again first sameUsers again
  have snapshots : ∀ results,
      (writeUserSnapshotsBatch env' prepared.userSnapshots start results).1 = start := by
    intro results
    exact writeBatch_again id accepted.userSnapshots fun _ first _ _ again =>
      appendUserSnapshots_again single.userSnapshots first sameUsers rfl again
  have stats : ∀ results, (writeUserStatsBatch env' prepared.userStats start.hasUser
      users.userStats results).1 = users.userStats := by
    intro results
    have sameParent : start.hasUser = (writeCombinedUserBatch env prepared.users
        prepared.tweetAuthors db.userTables prepared.userResults prepared.tweetResults).1.hasUser := by
      funext id
      show (users.tables.users.find id).isSome = _
      rw [sameUsers]
      rfl
    exact writeBatch_again id accepted.userStats fun _ first _ _ again =>
      appendUserStats_again settings.statsInterval single.userStats first (sameParent ▸ again)
  have isAgain : again = executeUsers env' prepared start users.userStats := rfl
  rw [isAgain, executeUsers]
  simp only [written, snapshots, stats]
  exact ⟨rfl, rfl⟩

theorem executeMedia_again (settings : SameSettings env env') (single : prepared.Single)
    (accepted : (outcomesOf prepared env db).Accepted prepared env) :
    let first := (executeStages env prepared db).1
    let again := executeMedia env' prepared first.mediaTables first.transferTasks
    again.tables = first.mediaTables ∧ again.transferTasks = first.transferTasks := by
  intro first again
  let phase := executeMedia env prepared db.mediaTables db.transferTasks
  let written := writeMediaBatch env prepared.media db.media prepared.mediaResults
  let stored : MediaTables := ⟨written.1, db.mediaResources⟩
  let resources := writeMediaResourcesBatch env prepared.mediaResources stored written.2
  have sameMedia : phase.tables.media = written.1 := media_writeMediaResourcesBatch
  have media : ∀ results,
      (writeMediaBatch env' prepared.media phase.tables.media results).1 = phase.tables.media := by
    intro results
    rw [sameMedia]
    exact writeBatch_again id accepted.media fun _ first _ _ again =>
      upsertMediaChanged_again first again
  have distinct : DistinctBy MediaResource.mediaId (prepared.mediaResources.map Indexed.value) :=
    DistinctBy.map single.mediaResources
  have resourcesAgain : ∀ results,
      (writeMediaResourcesBatch env' prepared.mediaResources phase.tables results).1 =
        phase.tables := by
    intro results
    exact writeBatch_again id accepted.mediaResources fun _ first _ _ again =>
      (appendMediaResources_again distinct first sameMedia rfl again).1
  -- What the second call pushes, the first one has pushed.
  have planned : ∀ item ∈ prepared.mediaResources,
      Planned (mediaResourceStatuses env' prepared.mediaResources phase.tables) item →
        Planned (mediaResourceStatuses env prepared.mediaResources stored) item := by
    intro item member isPlanned
    have notEmpty : prepared.mediaResources ≠ [] := List.ne_nil_of_mem member
    obtain ⟨statuses, isAnswer⟩ := accepted.mediaResources notEmpty
    obtain ⟨⟨statuses, after⟩, first, rfl⟩ := map_eq_ok isAnswer
    have isAfter : after = phase.tables := by
      show after = (writeMediaResourcesBatch env prepared.mediaResources stored written.2).1
      simp [writeMediaResourcesBatch, writeBatch, notEmpty, first, stored, written]
    unfold mediaResourceStatuses at isPlanned ⊢
    simp only [List.isEmpty_iff, notEmpty, if_false] at isPlanned ⊢
    have isFirst : env.appendMediaResourcesIfChangedMany
        (prepared.mediaResources.map Indexed.value) stored = .ok (statuses, after) := first
    rw [isFirst]
    cases again : env'.appendMediaResourcesIfChangedMany
        (prepared.mediaResources.map Indexed.value) phase.tables with
    | error error =>
      rw [again] at isPlanned
      rcases isPlanned with none | none <;> cases none
    | ok answered =>
      rw [again] at isPlanned
      have found := (appendMediaResources_again distinct isFirst sameMedia
        (congrArg MediaTables.resources isAfter.symm) again).2 item.value
        (List.mem_map_of_mem member)
      rcases isPlanned with isStatus | isStatus
      · exact found _ isStatus (.inl rfl)
      · exact found _ isStatus (.inr rfl)
  have tasks : ∀ results, (enqueuePreparedMediaTransfers env' prepared.media
      prepared.mediaResources
      (mediaResourceStatuses env' prepared.mediaResources phase.tables) phase.tables.resources
      phase.transferTasks results).1 = phase.transferTasks := by
    intro results
    have sources := @mediaTransferTasks_again env env' prepared.media _ _ _ settings planned
    have accepts := accepted.transferTasks
    rw [resourceStatuses_outcomesOf] at accepts
    have sent : mediaTransferTasks env' prepared.media prepared.mediaResources
          (mediaResourceStatuses env' prepared.mediaResources phase.tables) ≠ [] →
        mediaTransferTasks env prepared.media prepared.mediaResources
          (mediaResourceStatuses env prepared.mediaResources stored) ≠ [] := by
      intro notEmpty
      obtain ⟨task, member⟩ := List.exists_mem_of_ne_nil _ notEmpty
      obtain ⟨other, isOther, _⟩ := sources task.value (List.mem_map_of_mem member)
      obtain ⟨entry, isEntry, _⟩ := List.mem_map.mp isOther
      exact List.ne_nil_of_mem isEntry
    exact writeBatch_again sent accepts fun _ first _ _ again =>
      enqueueTasks_again settings.choice (distinct_tasks single.mediaResources _) sources first
        again
  have isAgain : again = executeMedia env' prepared phase.tables phase.transferTasks := rfl
  rw [isAgain, executeMedia]
  simp only [media, resourcesAgain, tasks]
  exact ⟨rfl, rfl⟩

theorem executeTweets_again (settings : SameSettings env env') (single : prepared.Single)
    (accepted : (outcomesOf prepared env db).Accepted prepared env) :
    let first := (executeStages env prepared db).1
    ∀ users : UserPhase, users.tables = first.userTables → ∃ results,
      executeTweets env' prepared first.userTables.hasUser first.mediaTables.hasMedia
        (first.tweetStart users) = { first.tweetStart users with results := results } := by
  intro first usersAgain sameTables
  let users := executeUsers env prepared db.userTables db.userStats
  let media := executeMedia env prepared db.mediaTables db.transferTasks
  let phase := executeTweets env prepared users.tables.hasUser media.tables.hasMedia
    (db.tweetStart users)
  have isStart : first.tweetStart usersAgain =
      { phase with
        tables := ⟨phase.tables.tweets, first.indexQueue⟩, results := usersAgain.tweetResults } := by
    rw [Database.tweetStart, sameTables]
    rfl
  have places : ∀ results,
      (writeTweetPlacesBatch env' prepared.tweetPlaces phase.places results).1 = phase.places := by
    intro results
    exact writeBatch_again id accepted.tweetPlaces fun _ first _ _ again =>
      upsertTweetPlacesChanged_again first again
  have tweets : ∀ results, (writeTweetsBatch env' prepared.tweets users.tables.hasUser
      (hasPlace phase.places) ⟨phase.tables.tweets, first.indexQueue⟩ results).1 =
        ⟨phase.tables.tweets, first.indexQueue⟩ := by
    intro results
    exact writeBatch_again id accepted.tweets fun _ first _ _ again =>
      insertTweetsChanged_again first rfl again
  have edits : ∀ results, (writeTweetEditsBatch env' prepared.tweetEdits (hasTweet phase.tables)
      phase.edits results).1 = phase.edits := by
    intro results
    exact writeBatch_again id accepted.tweetEdits fun _ first _ _ again =>
      childWrites_again (List.pairwise_map.mpr (distinctOn_pairwise Tweet.TweetEditPayload.tweetId
        _)) TweetEdit.condition_self TweetEdit.settles (send_eq_ok first) (send_eq_ok again)
  have policies : ∀ results, (writeTweetPoliciesBatch env' prepared.tweetPolicies
      (hasTweet phase.tables) phase.policies results).1 = phase.policies := by
    intro results
    exact writeBatch_again id accepted.tweetPolicies fun _ first _ _ again =>
      childWrites_again (List.pairwise_map.mpr (distinctOn_pairwise
        Tweet.TweetPolicyPayload.tweetId _)) TweetPolicy.condition_self TweetPolicy.settles
        (send_eq_ok first) (send_eq_ok again)
  have notes : ∀ results, (writeTweetCommunityNotesBatch env' prepared.tweetCommunityNotes
      (hasTweet phase.tables) phase.notes results).1 = phase.notes := by
    intro results
    exact writeBatch_again id accepted.tweetCommunityNotes fun _ first _ _ again =>
      childWrites_again (distinctOn_pairwise TweetCommunityNote.tweetId _)
        TweetCommunityNote.condition_self TweetCommunityNote.settles (send_eq_ok first)
        (send_eq_ok again)
  have stats : ∀ results, (writeTweetStatsBatch env' prepared.tweetStats (hasTweet phase.tables)
      phase.stats results).1 = phase.stats := by
    intro results
    exact writeBatch_again id accepted.tweetStats fun _ first _ _ again =>
      appendTweetStats_again settings.statsInterval single.tweetStats first again
  have refs : ∀ results, (replacePreparedTweetRelations env' prepared.tweetRelations
      (hasTweet phase.tables) media.tables.hasMedia phase.refs results).1 = phase.refs := by
    intro results
    exact writeBatch_again id accepted.relations fun _ first _ _ again =>
      syncTweetRelations_again first again
  have sameTweets : hasTweet ⟨phase.tables.tweets, first.indexQueue⟩ = hasTweet phase.tables := rfl
  have hasUser : first.userTables.hasUser = users.tables.hasUser := rfl
  have hasMedia : first.mediaTables.hasMedia = media.tables.hasMedia := rfl
  rw [isStart, hasUser, hasMedia, executeTweets]
  simp only [places, tweets, sameTweets, edits, policies, notes, stats, refs]
  exact ⟨_, rfl⟩

/-- A batch whose statements were all accepted changes nothing when it is sent again. -/
theorem executePreparedSubmit_again (settings : SameSettings env env') (single : prepared.Single)
    (accepted : (outcomesOf prepared env db).Accepted prepared env) :
    (executePreparedSubmit env' prepared (executePreparedSubmit env prepared db).1).1 =
      (executePreparedSubmit env prepared db).1 := by
  have preloaded : env.preloadSubmitBatchDicts prepared = .ok () := accepted.preload
  let first := (executeStages env prepared db).1
  have isFirst : (executePreparedSubmit env prepared db).1 = first := by
    rw [executePreparedSubmit_eq, preloaded]
  rw [isFirst, executePreparedSubmit_eq]
  cases env'.preloadSubmitBatchDicts prepared with
  | error error => rfl
  | ok _ =>
    let users := executeUsers env' prepared first.userTables first.userStats
    let media := executeMedia env' prepared first.mediaTables first.transferTasks
    obtain ⟨sameTables, sameStats⟩ := executeUsers_again settings single accepted
    obtain ⟨sameResources, sameTasks⟩ := executeMedia_again settings single accepted
    obtain ⟨results, sameTweets⟩ := executeTweets_again settings single accepted users sameTables
    have tables : users.tables = first.userTables := sameTables
    have stats : users.userStats = first.userStats := sameStats
    have resources : media.tables = first.mediaTables := sameResources
    have tasks : media.transferTasks = first.transferTasks := sameTasks
    have tweets : executeTweets env' prepared first.userTables.hasUser first.mediaTables.hasMedia
        (first.tweetStart users) = { first.tweetStart users with results := results } :=
      sameTweets
    have queue : (first.tweetStart users).tables = ⟨first.tweets, first.indexQueue⟩ := by
      rw [Database.tweetStart, tables]
      rfl
    show (executeStages env' prepared first).1 = first
    unfold executeStages
    simp only [users, media] at tables stats resources tasks tweets queue
    simp only [tables, stats, resources, tasks, tweets, queue]
    rfl

end Execute

/-! ## Requests -/

/-- A request that dates all it observed, and whose lookups are answered alike both times. -/
structure SentAgain (context context' : PrepareContext) (payload : SubmitTweetRequest) : Prop where
  userTimes : ∀ user ∈ payload.users, UserTimesGiven user
  tweetTimes : ∀ tweet ∈ payload.tweets, ∀ stats ∈ tweet.stats,
    TimeGiven stats.fetchedAt tweet.fetchedAt
  mediaTimes : ∀ media ∈ payload.media,
    TimeGiven (media.resource.bind SubmitMediaResource.fetchedAt) media.fetchedAt
  users : ∀ user ∈ payload.users, UserLookupsAlike context context' user
  tweets : ∀ tweet ∈ payload.tweets, TweetLookupsAlike context context' tweet

theorem TextAlike.refl (context : PrepareContext) (text : SubmitAnnotatedText) :
    TextAlike context context text :=
  ⟨.refl _ _, .refl _ _⟩

theorem UserLookupsAlike.refl (context : PrepareContext) (user : SubmitUser) :
    UserLookupsAlike context context user :=
  ⟨fun _ _ _ _ => .refl _ _, fun _ _ _ _ => .refl _ _⟩

theorem TweetLookupsAlike.refl (context : PrepareContext) (tweet : SubmitTweet) :
    TweetLookupsAlike context context tweet :=
  ⟨.refl _ _, fun _ _ => .refl _ _, fun _ _ _ _ => .refl _ _, fun _ _ _ _ => .refl _ _⟩

theorem prepareSubmitBatch_again {store store' : LookupStore} {parseUuid : String → Option Uuid}
    {clocks clocks' : Clocks} {payload : SubmitTweetRequest}
    (again : SentAgain (prepareContext store parseUuid payload)
      (prepareContext store' parseUuid payload) payload) :
    prepareSubmitBatch store' parseUuid clocks' payload =
      prepareSubmitBatch store parseUuid clocks payload := by
  let context := prepareContext store parseUuid payload
  let context' := prepareContext store' parseUuid payload
  have users : preparedUsers context clocks payload = preparedUsers context' clocks' payload := by
    refine List.map_congr_left fun entry member => ?_
    have isUser : entry.1 ∈ payload.users := List.fst_mem_of_mem_zipIdx member
    exact prepareUser_alike (fun _ _ => rfl) (fun _ _ => again.users _ isUser)
      (again.userTimes _ isUser) _ _
  have media : preparedMedia context clocks payload = preparedMedia context' clocks' payload := by
    refine List.map_congr_left fun entry member => ?_
    exact prepareMedia_alike (fun _ _ => rfl) rfl
      (again.mediaTimes _ (List.fst_mem_of_mem_zipIdx member)) _ _
  have tweets :
      preparedTweets context clocks payload = preparedTweets context' clocks' payload := by
    refine List.map_congr_left fun entry member => ?_
    have isTweet : entry.1 ∈ payload.tweets := List.fst_mem_of_mem_zipIdx member
    exact prepareTweet_alike (fun _ _ => rfl) (fun _ _ _ _ => again.tweets _ isTweet)
      (again.tweetTimes _ isTweet) _ _
  show collectBatch (preparedUsers context' clocks' payload) (preparedMedia context' clocks' payload)
    (preparedTweets context' clocks' payload) = collectBatch (preparedUsers context clocks payload)
      (preparedMedia context clocks payload) (preparedTweets context clocks payload)
  rw [users, media, tweets]

/-- A client that sends a request again, after a call whose statements were all accepted, changes
nothing, whatever the database accepts or refuses the second time. -/
theorem request_sent_again {store store' : LookupStore} {parseUuid : String → Option Uuid}
    {clocks clocks' : Clocks} {payload : SubmitTweetRequest} {env env' : Environment}
    {db : Database} (settings : SameSettings env env')
    (again : SentAgain (prepareContext store parseUuid payload)
      (prepareContext store' parseUuid payload) payload)
    (accepted : (outcomesOf (prepareSubmitBatch store parseUuid clocks payload) env db).Accepted
      (prepareSubmitBatch store parseUuid clocks payload) env) :
    let first := executePreparedSubmit env (prepareSubmitBatch store parseUuid clocks payload) db
    (executePreparedSubmit env' (prepareSubmitBatch store' parseUuid clocks' payload)
      first.1).1 = first.1 := by
  intro first
  rw [prepareSubmitBatch_again again]
  exact executePreparedSubmit_again settings single_prepareSubmitBatch accepted

/-! ### A retry that is refused -/

/-- A user, media and a tweet; the request says when the media was observed. -/
def datedRequest : SubmitTweetRequest :=
  ⟨[sentUser], [sentTweet ["10"]], [{ sentMedia with fetchedAt := some 1 }]⟩

/-- A database that refuses tweets. -/
def refusingEnvironment : Environment :=
  { plainEnvironment with refusals := { Refusals.nothing with tweets := fun _ => some "refused" } }

def prepareDated (now : OffsetDateTime) : PreparedSubmitBatch :=
  prepareSubmitBatch silentStore (fun _ => none) ⟨fun _ => now, fun _ => now, fun _ => now⟩
    datedRequest

theorem accepted_prepareDated :
    (outcomesOf (prepareDated 0) plainEnvironment .empty).Accepted (prepareDated 0)
      plainEnvironment := by
  constructor
  case preload => rfl
  all_goals exact fun _ => ⟨_, rfl⟩

theorem sentAgain_datedRequest (context : PrepareContext) :
    SentAgain context context datedRequest where
  userTimes user member := by
    rw [List.mem_singleton.mp member]
    exact ⟨fun _ none => absurd none (Option.not_mem_none _),
      fun _ none => absurd none (Option.not_mem_none _)⟩
  tweetTimes tweet member := by
    rw [List.mem_singleton.mp member]
    exact fun _ none => absurd none (Option.not_mem_none _)
  mediaTimes media member := by
    rw [List.mem_singleton.mp member]
    rfl
  users _ _ := UserLookupsAlike.refl _ _
  tweets _ _ := TweetLookupsAlike.refl _ _

theorem request_sent_again_refused :
    let first := executePreparedSubmit plainEnvironment (prepareDated 0) .empty
    first.1.tweets.rows.map TweetRow.id = [1] ∧
      (executePreparedSubmit refusingEnvironment (prepareDated 5) first.1).1 = first.1 :=
  ⟨by decide, request_sent_again ⟨rfl, rfl, rfl, rfl⟩ (sentAgain_datedRequest _)
    accepted_prepareDated⟩

end TweetDb.Submit
