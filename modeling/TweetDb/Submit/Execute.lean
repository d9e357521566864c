import TweetDb.Submit.Statements

/-! # Executing a prepared batch

`execute_prepared_submit`.  A stage sends its rows in one statement and then
records, under the name of the stage, what became of each of them; if the
statement fails it records the error for all of them.  The stages go on with
the tables as the earlier ones leave them.
-/

namespace TweetDb.Submit

open Relational TweetModel
open TweetDb.Search (IndexTask)
open TweetDb.Transfer (EnqueueTransferTask TransferEnqueueStatus TransferTask selectSource)
open TweetDb.Tweet (MediaTables SyncStatus TweetCommunityNote TweetEdit TweetPlace TweetPolicy
  TweetRow TweetStats TweetStatsColumns TweetTables TwitterUser UserSnapshotColumns UserStats
  UserStatsColumns UserTables Version)

/-! ## Recording -/

namespace ObjectResult

def accepted (name reason : String) : ObjectResult → ObjectResult :=
  operation name .accepted reason

def skipped (name reason : String) : ObjectResult → ObjectResult :=
  operation name .skipped reason

def failed (name error : String) : ObjectResult → ObjectResult :=
  operation name .failed error

end ObjectResult

open ObjectResult

/-- How `AppError` shows an error of the database. -/
def databaseError (error : String) : String := "database error: " ++ error

def recordAt (indices : List Nat) (record : ObjectResult → ObjectResult)
    (results : List ObjectResult) : List ObjectResult :=
  indices.foldl (fun results index => results.modify index record) results

/-- Every entry is recorded at each of its indices. -/
def recordEach {α : Type} (indices : α → List Nat) (record : α → ObjectResult → ObjectResult)
    (entries : List α) (results : List ObjectResult) : List ObjectResult :=
  entries.foldl (fun results entry => recordAt (indices entry) (record entry) results) results

/-- `record_conditional_write`; without a status the item fails. -/
def recordConditionalWrite (name : String) (write : Option ConditionalWrite) :
    ObjectResult → ObjectResult :=
  match write with
  | some .inserted => accepted name "inserted"
  | some .skippedDuplicate => skipped name "duplicate_timestamp"
  | some .skippedUnchanged => skipped name "unchanged"
  | some .skippedInterval => skipped name "stats_interval_not_reached"
  | some .skippedMissingParent => skipped name "missing_parent"
  | none => failed name "missing batch write status"

/-- `record_relation_sync`. -/
def recordRelationSync (name : String) (status : Option SyncStatus) :
    ObjectResult → ObjectResult :=
  match status with
  | some .replaced => accepted name "replaced"
  | some .replacedFiltered => accepted name "replaced_with_missing_media_skipped"
  | some .unchanged => skipped name "unchanged"
  | some .unchangedFiltered => skipped name "unchanged_with_missing_media_skipped"
  | some .missingTweet => skipped name "missing_tweet"
  | none => failed name "missing relation sync status"

def recordChanged (name : String) (changed : Bool) : ObjectResult → ObjectResult :=
  if changed then accepted name "inserted_or_filled" else skipped name "unchanged_or_existing"

/-- A stage with one statement. -/
def writeBatch {α β σ : Type} (indices : α → List Nat)
    (record : β → α → ObjectResult → ObjectResult) (fail : String → ObjectResult → ObjectResult)
    (entries : List α) (statement : Except String (β × σ)) (state : σ)
    (results : List ObjectResult) : σ × List ObjectResult :=
  if entries.isEmpty then (state, results)
  else
    match statement with
    | .ok (answers, state) => (state, recordEach indices (record answers) entries results)
    | .error error =>
      (state, recordEach indices (fun _ => fail (databaseError error)) entries results)

/-- Of an indexed item. -/
def indexOf {α : Type} (item : Indexed α) : List Nat := [item.index]

/-! ## Users -/

structure CombinedUserWrite where
  value : TwitterUser
  userIndices : List Nat
  tweetIndices : List Nat
deriving DecidableEq, Repr

namespace CombinedUserWrite

def userId (entry : CombinedUserWrite) : Int := entry.value.id

def ofUser (item : Indexed TwitterUser) : CombinedUserWrite := ⟨item.value, [item.index], []⟩

def ofAuthor (item : Indexed TwitterUser) : CombinedUserWrite := ⟨item.value, [], [item.index]⟩

/-- A user that was there before may give its time of registration. -/
def addUser (entry user : CombinedUserWrite) : CombinedUserWrite :=
  { entry with
    value := { entry.value with
      registeredAt := entry.value.registeredAt.or user.value.registeredAt }
    userIndices := entry.userIndices ++ user.userIndices }

def addAuthor (entry author : CombinedUserWrite) : CombinedUserWrite :=
  { entry with tweetIndices := entry.tweetIndices ++ author.tweetIndices }

end CombinedUserWrite

/-- The map by user id; its order is the one of first mention here. -/
def combineUsers (users tweetAuthors : List (Indexed TwitterUser)) : List CombinedUserWrite :=
  (tweetAuthors.map CombinedUserWrite.ofAuthor).foldl
    (addEntry CombinedUserWrite.userId CombinedUserWrite.addAuthor)
    ((users.map CombinedUserWrite.ofUser).foldl
      (addEntry CombinedUserWrite.userId CombinedUserWrite.addUser) [])

def recordUser (changed : List Int) (entry : CombinedUserWrite) : ObjectResult → ObjectResult :=
  recordChanged "twitter_user" (changed.contains entry.userId)

def recordAuthor (changed : List Int) (entry : CombinedUserWrite) : ObjectResult → ObjectResult :=
  if changed.contains entry.userId then accepted "tweet_author" "inserted_minimal"
  else skipped "tweet_author" "existing"

/-- What the user stages write. -/
structure UserPhase where
  tables : UserTables
  userStats : Table (Version UserStatsColumns)
  userResults : List ObjectResult
  tweetResults : List ObjectResult

section Stages

variable (env : Environment)

/-- `write_combined_user_batch`; one statement is recorded in both lists of results. -/
def writeCombinedUserBatch (users tweetAuthors : List (Indexed TwitterUser)) (tables : UserTables)
    (userResults tweetResults : List ObjectResult) :
    UserTables × List ObjectResult × List ObjectResult :=
  let combined := combineUsers users tweetAuthors
  let statement := env.insertUsersChanged (combined.map CombinedUserWrite.value) tables
  let user := writeBatch CombinedUserWrite.userIndices recordUser (failed "twitter_user") combined
    statement tables userResults
  let author := writeBatch CombinedUserWrite.tweetIndices recordAuthor (failed "tweet_author")
    combined statement tables tweetResults
  (user.1, user.2, author.2)

/-- `write_user_snapshots_batch`. -/
def writeUserSnapshotsBatch (items : List (Indexed UserSnapshot)) (tables : UserTables)
    (results : List ObjectResult) : UserTables × List ObjectResult :=
  writeBatch indexOf
    (fun statuses item => recordConditionalWrite "user_snapshot"
      (statuses.lookup (item.value.userId, item.value.recordedAt)))
    (failed "user_snapshot") items
    (env.appendUserSnapshotsIfChangedMany (items.map Indexed.value) tables) tables results

/-- `write_user_stats_batch`. -/
def writeUserStatsBatch (items : List (Indexed UserStats)) (hasUser : Int → Bool)
    (table : Table (Version UserStatsColumns)) (results : List ObjectResult) :
    Table (Version UserStatsColumns) × List ObjectResult :=
  writeBatch indexOf
    (fun statuses item => recordConditionalWrite "user_stats"
      (statuses.lookup (item.value.userId, item.value.recordedAt)))
    (failed "user_stats") items
    (env.appendUserStatsIfChangedMany hasUser (items.map Indexed.value) table) table results

def executeUsers (prepared : PreparedSubmitBatch) (tables : UserTables)
    (userStats : Table (Version UserStatsColumns)) : UserPhase :=
  let written := writeCombinedUserBatch env prepared.users prepared.tweetAuthors tables
    prepared.userResults prepared.tweetResults
  let snapshots := writeUserSnapshotsBatch env prepared.userSnapshots written.1 written.2.1
  let stats := writeUserStatsBatch env prepared.userStats written.1.hasUser userStats snapshots.2
  ⟨snapshots.1, stats.1, stats.2, written.2.2⟩

/-! ## Media -/

/-- `write_media_batch`. -/
def writeMediaBatch (items : List (Indexed Media)) (table : Table Tweet.Media)
    (results : List ObjectResult) : Table Tweet.Media × List ObjectResult :=
  writeBatch indexOf
    (fun changed item => recordChanged "media" (changed.contains item.value.id))
    (failed "media") items (env.upsertMediaChanged (items.map Indexed.value) table) table results

/-- `write_media_resources_batch`. -/
def writeMediaResourcesBatch (items : List (Indexed MediaResource)) (tables : MediaTables)
    (results : List ObjectResult) : MediaTables × List ObjectResult :=
  writeBatch indexOf
    (fun statuses item => recordConditionalWrite "media_resource"
      (statuses.lookup (item.value.mediaId, item.value.recordedAt)))
    (failed "media_resource") items
    (env.appendMediaResourcesIfChangedMany (items.map Indexed.value) tables) tables results

/-- The statuses `write_media_resources_batch` returns. -/
def mediaResourceStatuses (items : List (Indexed MediaResource)) (tables : MediaTables) :
    List ((Int × Timestamp) × ConditionalWrite) :=
  if items.isEmpty then []
  else
    match env.appendMediaResourcesIfChangedMany (items.map Indexed.value) tables with
    | .ok (statuses, _) => statuses
    | .error _ => []

/-- What one turn of the loop over the resources does. -/
inductive TransferPlan where
  | pass
  | record (status : OperationStatus) (reason : String)
  | push (task : EnqueueTransferTask)
deriving DecidableEq, Repr

/-- `should_enqueue_media_transfer` lets only inserted and unchanged resources through. -/
def planMediaTransfer (media : List (Indexed Media))
    (statuses : List ((Int × Timestamp) × ConditionalWrite)) (item : Indexed MediaResource) :
    TransferPlan :=
  match statuses.lookup (item.value.mediaId, item.value.recordedAt) with
  | some .inserted | some .skippedUnchanged =>
    if !env.transferActive then .record .skipped "transfer_disabled"
    else
      match (media.filter fun other => other.index == item.index).getLast? with
      | none => .record .failed "missing_media_payload"
      | some model =>
        match selectSource env.urlPath model.value.mediaType item.value with
        | none => .record .skipped "source_unavailable"
        | some source => .push (source.task
            (env.newTaskId item.value.mediaId item.value.recordedAt) item.value)
  | _ => .pass

def TransferPlan.recorded : TransferPlan → ObjectResult → ObjectResult
  | .record status reason => operation "media_transfer" status reason
  | _ => id

def TransferPlan.task : TransferPlan → Option EnqueueTransferTask
  | .push task => some task
  | _ => none

def recordTransfer (statuses : List ((Int × Timestamp) × TransferEnqueueStatus))
    (item : Indexed EnqueueTransferTask) : ObjectResult → ObjectResult :=
  match statuses.lookup (item.value.mediaId, item.value.sourceRecordedAt) with
  | some .enqueued => accepted "media_transfer" "enqueued"
  | some .alreadyQueued => skipped "media_transfer" "already_enqueued"
  | some .missingSourceRecord => failed "media_transfer" "missing_source_record"
  | none => failed "media_transfer" "missing_enqueue_status"

/-- The tasks the loop pushes. -/
def mediaTransferTasks (media : List (Indexed Media)) (items : List (Indexed MediaResource))
    (statuses : List ((Int × Timestamp) × ConditionalWrite)) :
    List (Indexed EnqueueTransferTask) :=
  items.filterMap fun item =>
    (planMediaTransfer env media statuses item).task.map fun task => ⟨item.index, task⟩

/-- `enqueue_prepared_media_transfers`. -/
def enqueuePreparedMediaTransfers (media : List (Indexed Media))
    (items : List (Indexed MediaResource)) (statuses : List ((Int × Timestamp) × ConditionalWrite))
    (resources : Table Tweet.MediaResource) (table : Table TransferTask)
    (results : List ObjectResult) : Table TransferTask × List ObjectResult :=
  let planned := recordEach indexOf
    (fun item => (planMediaTransfer env media statuses item).recorded) items results
  let tasks := mediaTransferTasks env media items statuses
  writeBatch indexOf recordTransfer (failed "media_transfer") tasks
    (env.enqueueTasks (tasks.map Indexed.value) resources table) table planned

/-- What the media stages write. -/
structure MediaPhase where
  tables : MediaTables
  transferTasks : Table TransferTask
  mediaResults : List ObjectResult

def executeMedia (prepared : PreparedSubmitBatch) (tables : MediaTables)
    (transferTasks : Table TransferTask) : MediaPhase :=
  let media := writeMediaBatch env prepared.media tables.media prepared.mediaResults
  let stored : MediaTables := ⟨media.1, tables.resources⟩
  let resources := writeMediaResourcesBatch env prepared.mediaResources stored media.2
  let transfers := enqueuePreparedMediaTransfers env prepared.media prepared.mediaResources
    (mediaResourceStatuses env prepared.mediaResources stored) resources.1.resources transferTasks
    resources.2
  ⟨resources.1, transfers.1, transfers.2⟩

/-! ## Tweets -/

/-- A place of the batch with the tweets that carry it. -/
structure DedupedPlace where
  value : TweetPlace
  indices : List Nat
deriving DecidableEq, Repr

namespace DedupedPlace

def placeId (entry : DedupedPlace) : String := entry.value.id

def ofItem (item : Indexed TweetPlace) : DedupedPlace := ⟨item.value, [item.index]⟩

def add (entry place : DedupedPlace) : DedupedPlace :=
  { entry with indices := entry.indices ++ place.indices }

end DedupedPlace

/-- The map by place id; the first place with an id stays. -/
def dedupePlaces (items : List (Indexed TweetPlace)) : List DedupedPlace :=
  (items.map DedupedPlace.ofItem).foldl (addEntry DedupedPlace.placeId DedupedPlace.add) []

/-- `write_tweet_places_batch`. -/
def writeTweetPlacesBatch (items : List (Indexed TweetPlace)) (table : Table TweetPlace)
    (results : List ObjectResult) : Table TweetPlace × List ObjectResult :=
  let deduped := dedupePlaces items
  writeBatch DedupedPlace.indices
    (fun changed entry => recordChanged "tweet_place" (changed.contains entry.placeId))
    (failed "tweet_place") deduped
    (env.upsertTweetPlacesChanged (deduped.map DedupedPlace.value) table) table results

/-- `write_tweets_batch`. -/
def writeTweetsBatch (items : List (Indexed TweetRow)) (hasUser : Int → Bool)
    (hasPlace : String → Bool) (tables : TweetTables) (results : List ObjectResult) :
    TweetTables × List ObjectResult :=
  writeBatch indexOf
    (fun changed item => recordChanged "tweet" (changed.contains item.value.id))
    (failed "tweet") items
    (env.insertTweetsChanged hasUser hasPlace (items.map Indexed.value) tables) tables results

/-- The part the stages over rows of a tweet share; `record_tweet_write_statuses`. -/
def writeChildrenBatch {α σ : Type} (name : String) (tweetId : α → Int) (items : List (Indexed α))
    (statement : Except String (List (Int × ConditionalWrite) × σ)) (state : σ)
    (results : List ObjectResult) : σ × List ObjectResult :=
  writeBatch indexOf
    (fun statuses item => recordConditionalWrite name (statuses.lookup (tweetId item.value)))
    (failed name) items statement state results

/-- `write_tweet_edits_batch`. -/
def writeTweetEditsBatch (items : List (Indexed TweetEdit)) (hasTweet : Int → Bool)
    (table : Table TweetEdit) (results : List ObjectResult) :
    Table TweetEdit × List ObjectResult :=
  writeChildrenBatch "tweet_edit" Tweet.TweetEdit.tweetId items
    (env.upsertTweetEditsWriteStatuses hasTweet (items.map Indexed.value) table) table results

/-- `write_tweet_policies_batch`. -/
def writeTweetPoliciesBatch (items : List (Indexed TweetPolicy)) (hasTweet : Int → Bool)
    (table : Table TweetPolicy) (results : List ObjectResult) :
    Table TweetPolicy × List ObjectResult :=
  writeChildrenBatch "tweet_policy" Tweet.TweetPolicy.tweetId items
    (env.upsertTweetPoliciesWriteStatuses hasTweet (items.map Indexed.value) table) table results

/-- `write_tweet_community_notes_batch`. -/
def writeTweetCommunityNotesBatch (items : List (Indexed TweetCommunityNote))
    (hasTweet : Int → Bool) (table : Table TweetCommunityNote) (results : List ObjectResult) :
    Table TweetCommunityNote × List ObjectResult :=
  writeChildrenBatch "tweet_community_note" Tweet.TweetCommunityNote.tweetId items
    (env.upsertTweetCommunityNotesWriteStatuses hasTweet (items.map Indexed.value) table) table
    results

/-- `write_tweet_stats_batch`. -/
def writeTweetStatsBatch (items : List (Indexed TweetStats)) (hasTweet : Int → Bool)
    (table : Table (Version TweetStatsColumns)) (results : List ObjectResult) :
    Table (Version TweetStatsColumns) × List ObjectResult :=
  writeBatch indexOf
    (fun statuses item => recordConditionalWrite "tweet_stats"
      (statuses.lookup (item.value.tweetId, item.value.recordedAt)))
    (failed "tweet_stats") items
    (env.appendTweetStatsIfChangedMany hasTweet (items.map Indexed.value) table) table results

/-- The four operations of a tweet's relations. -/
def recordRelations (statuses : List (Int × RelationSyncStatuses)) (item : Indexed TweetRelations)
    (result : ObjectResult) : ObjectResult :=
  let status := statuses.lookup item.value.tweetId
  recordRelationSync "tweet_symbol_ref" (status.map RelationSyncStatuses.symbol)
    (recordRelationSync "tweet_hashtag_ref" (status.map RelationSyncStatuses.hashtag)
      (recordRelationSync "tweet_mention_ref" (status.map RelationSyncStatuses.mention)
        (recordRelationSync "tweet_media_ref" (status.map RelationSyncStatuses.media) result)))

def failRelations (error : String) (result : ObjectResult) : ObjectResult :=
  failed "tweet_symbol_ref" error
    (failed "tweet_hashtag_ref" error
      (failed "tweet_mention_ref" error (failed "tweet_media_ref" error result)))

/-- `replace_prepared_tweet_relations`. -/
def replacePreparedTweetRelations (items : List (Indexed TweetRelations))
    (hasTweet hasMedia : Int → Bool) (tables : RefTables) (results : List ObjectResult) :
    RefTables × List ObjectResult :=
  writeBatch indexOf recordRelations failRelations items
    (env.syncTweetRelations hasTweet hasMedia (items.map Indexed.value) tables) tables results

/-- What the tweet stages read and write. -/
structure TweetPhase where
  places : Table TweetPlace
  tables : TweetTables
  edits : Table TweetEdit
  policies : Table TweetPolicy
  notes : Table TweetCommunityNote
  stats : Table (Version TweetStatsColumns)
  refs : RefTables
  results : List ObjectResult

def hasTweet (tables : TweetTables) (tweetId : Int) : Bool := (tables.tweets.find tweetId).isSome

def hasPlace (places : Table TweetPlace) (placeId : String) : Bool := (places.find placeId).isSome

def executeTweets (prepared : PreparedSubmitBatch) (hasUser hasMedia : Int → Bool)
    (start : TweetPhase) : TweetPhase :=
  let places := writeTweetPlacesBatch env prepared.tweetPlaces start.places start.results
  let tweets := writeTweetsBatch env prepared.tweets hasUser (hasPlace places.1) start.tables
    places.2
  let stored := hasTweet tweets.1
  let edits := writeTweetEditsBatch env prepared.tweetEdits stored start.edits tweets.2
  let policies := writeTweetPoliciesBatch env prepared.tweetPolicies stored start.policies edits.2
  let notes := writeTweetCommunityNotesBatch env prepared.tweetCommunityNotes stored start.notes
    policies.2
  let stats := writeTweetStatsBatch env prepared.tweetStats stored start.stats notes.2
  let refs := replacePreparedTweetRelations env prepared.tweetRelations stored hasMedia start.refs
    stats.2
  ⟨places.1, tweets.1, edits.1, policies.1, notes.1, stats.1, refs.1, refs.2⟩

/-! ## The batch -/

/-- The tables a submit call writes. -/
structure Database where
  users : Table TwitterUser
  userSnapshots : Table (Version UserSnapshotColumns)
  userStats : Table (Version UserStatsColumns)
  media : Table Tweet.Media
  mediaResources : Table Tweet.MediaResource
  transferTasks : Table TransferTask
  tweetPlaces : Table TweetPlace
  tweets : Table TweetRow
  tweetEdits : Table TweetEdit
  tweetPolicies : Table TweetPolicy
  tweetCommunityNotes : Table TweetCommunityNote
  tweetStats : Table (Version TweetStatsColumns)
  refs : RefTables
  indexQueue : Table IndexTask

def Database.empty : Database :=
  ⟨.empty, .empty, .empty, .empty, .empty, .empty, .empty, .empty, .empty, .empty, .empty, .empty,
    ⟨.empty, .empty, .empty, .empty⟩, .empty⟩

structure SubmitResults where
  users : List ObjectResult
  tweets : List ObjectResult
  media : List ObjectResult
deriving DecidableEq, Repr

/-- The items of a list that some prepared object came from. -/
def userIndices (prepared : PreparedSubmitBatch) : List Nat :=
  (prepared.users.map Indexed.index ++ prepared.userSnapshots.map Indexed.index ++
    prepared.userStats.map Indexed.index).dedup

def tweetIndices (prepared : PreparedSubmitBatch) : List Nat :=
  (prepared.tweetAuthors.map Indexed.index ++ prepared.tweetPlaces.map Indexed.index ++
    prepared.tweets.map Indexed.index ++ prepared.tweetEdits.map Indexed.index ++
    prepared.tweetPolicies.map Indexed.index ++ prepared.tweetCommunityNotes.map Indexed.index ++
    prepared.tweetStats.map Indexed.index ++ prepared.tweetRelations.map Indexed.index).dedup

def mediaIndices (prepared : PreparedSubmitBatch) : List Nat :=
  (prepared.media.map Indexed.index ++ prepared.mediaResources.map Indexed.index).dedup

/-- The early return: every prepared item fails. -/
def failDictPreload (prepared : PreparedSubmitBatch) (error : String) : SubmitResults :=
  let record := failed "dict_preload" (databaseError error)
  { users := recordAt (userIndices prepared) record prepared.userResults
    tweets := recordAt (tweetIndices prepared) record prepared.tweetResults
    media := recordAt (mediaIndices prepared) record prepared.mediaResults }

/-- `execute_prepared_submit`. -/
def executePreparedSubmit (prepared : PreparedSubmitBatch) (db : Database) :
    Database × SubmitResults :=
  match env.preloadSubmitBatchDicts prepared with
  | .error error => (db, failDictPreload prepared error)
  | .ok () =>
    let users := executeUsers env prepared ⟨db.users, db.userSnapshots, db.indexQueue⟩ db.userStats
    let media := executeMedia env prepared ⟨db.media, db.mediaResources⟩ db.transferTasks
    let tweets := executeTweets env prepared users.tables.hasUser media.tables.hasMedia
      { places := db.tweetPlaces
        tables := ⟨db.tweets, users.tables.indexQueue⟩
        edits := db.tweetEdits
        policies := db.tweetPolicies
        notes := db.tweetCommunityNotes
        stats := db.tweetStats
        refs := db.refs
        results := users.tweetResults }
    ({ users := users.tables.users
       userSnapshots := users.tables.snapshots
       userStats := users.userStats
       media := media.tables.media
       mediaResources := media.tables.resources
       transferTasks := media.transferTasks
       tweetPlaces := tweets.places
       tweets := tweets.tables.tweets
       tweetEdits := tweets.edits
       tweetPolicies := tweets.policies
       tweetCommunityNotes := tweets.notes
       tweetStats := tweets.stats
       refs := tweets.refs
       indexQueue := tweets.tables.indexQueue },
      ⟨users.userResults, tweets.results, media.mediaResults⟩)

end Stages

end TweetDb.Submit
