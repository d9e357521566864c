import TweetDb.Query.Resubmit
import TweetDb.Submit.StatusLookups

/-! # The stages that look statuses up

The stages over snapshots, statistics and media resources with the keys the code
has, and those over the rows of a tweet.  A stage whose statement succeeds records
for every item the status that was computed for it.
-/

namespace TweetDb.Submit

open Relational TweetModel
open TweetDb.Query (plainEnvironment)
open TweetDb.Tweet (MediaTables TweetCommunityNote TweetEdit TweetPolicy TweetStats
  TweetStatsColumns UserStats UserStatsColumns UserTables Version distinctInput keptRow rowStatus)

/-! ## Stages -/

section Stages

variable {α ι σ : Type} [BEq ι]

/-- The stages over rows with a status. -/
def writeKeyedBatch (name : String) (key : α → ι) (items : List (Indexed α))
    (statement : Except String (List (ι × ConditionalWrite) × σ)) (state : σ)
    (results : List ObjectResult) : σ × List ObjectResult :=
  writeBatch indexOf
    (fun statuses item => recordConditionalWrite name (statuses.lookup (key item.value)))
    (ObjectResult.failed name) items statement state results

/-- If a statement over a batch succeeds, every item finds the status computed for it under its
own key, and the stage records this status. -/
structure FindsStatuses (name : String) (key : α → ι)
    (statement : List α → Except String (List (ι × ConditionalWrite) × σ))
    (stage : List (Indexed α) → List ObjectResult → σ × List ObjectResult)
    (computed : List α → σ → α → ConditionalWrite) : Prop where
  found : ∀ items statuses after, statement items = .ok (statuses, after) →
    ∀ item ∈ items, statuses.lookup (key item) = some (computed items after item)
  recorded : ∀ (items : List (Indexed α)) statuses after,
    statement (items.map Indexed.value) = .ok (statuses, after) → ∀ results,
      (stage items results).2 = recordEach indexOf (fun item => recordConditionalWrite name
        (some (computed (items.map Indexed.value) after item.value))) items results

theorem recordEach_congr {indices : α → List Nat} {record record' : α → ObjectResult → ObjectResult}
    {entries : List α} (same : ∀ entry ∈ entries, record entry = record' entry)
    (results : List ObjectResult) :
    recordEach indices record entries results = recordEach indices record' entries results := by
  refine List.foldl_ext _ _ _ fun results entry member => ?_
  rw [same entry member]

theorem findsStatuses_writeKeyedBatch {name : String} {key : α → ι} {state : σ}
    {statement : List α → Except String (List (ι × ConditionalWrite) × σ)}
    {computed : List α → σ → α → ConditionalWrite}
    (found : ∀ items statuses after, statement items = .ok (statuses, after) →
      ∀ item ∈ items, statuses.lookup (key item) = some (computed items after item)) :
    FindsStatuses name key statement
      (fun items => writeKeyedBatch name key items (statement (items.map Indexed.value)) state)
      computed where
  found := found
  recorded items statuses after succeeded results := by
    dsimp only [writeKeyedBatch, writeBatch]
    rw [succeeded]
    by_cases empty : items.isEmpty
    · rw [if_pos empty, List.isEmpty_iff.mp empty]
      rfl
    · rw [if_neg empty]
      refine recordEach_congr (fun item member => ?_) results
      rw [found _ statuses after succeeded item.value (List.mem_map_of_mem member)]

end Stages

/-! ## Observations -/

namespace Timed

section Statements

variable (env : Environment) (times : SentTimes) (timeError : String)

/-! The statements with the times as they are sent and read. -/

def appendUserSnapshotsIfChangedMany (tables : UserTables) (snapshots : List (Timed UserSnapshot)) :
    Except String (List ((Int × OffsetTime) × ConditionalWrite) × UserTables) :=
  appendTimed times timeError (fun rows => env.appendUserSnapshotsIfChangedMany rows tables)
    snapshots

def appendUserStatsIfChangedMany (hasUser : Int → Bool) (table : Table (Version UserStatsColumns))
    (stats : List (Timed UserStats)) :
    Except String
      (List ((Int × OffsetTime) × ConditionalWrite) × Table (Version UserStatsColumns)) :=
  appendTimed times timeError (fun rows => env.appendUserStatsIfChangedMany hasUser rows table)
    stats

def appendTweetStatsIfChangedMany (hasTweet : Int → Bool)
    (table : Table (Version TweetStatsColumns)) (stats : List (Timed TweetStats)) :
    Except String
      (List ((Int × OffsetTime) × ConditionalWrite) × Table (Version TweetStatsColumns)) :=
  appendTimed times timeError (fun rows => env.appendTweetStatsIfChangedMany hasTweet rows table)
    stats

def appendMediaResourcesIfChangedMany (tables : MediaTables)
    (resources : List (Timed MediaResource)) :
    Except String (List ((Int × OffsetTime) × ConditionalWrite) × MediaTables) :=
  appendTimed times timeError (fun rows => env.appendMediaResourcesIfChangedMany rows tables)
    resources

/-- `write_user_snapshots_batch`. -/
def writeUserSnapshotsBatch (tables : UserTables) (items : List (Indexed (Timed UserSnapshot))) :
    List ObjectResult → UserTables × List ObjectResult :=
  writeKeyedBatch "user_snapshot" key items
    (appendUserSnapshotsIfChangedMany env times timeError tables (items.map Indexed.value)) tables

/-- `write_user_stats_batch`. -/
def writeUserStatsBatch (hasUser : Int → Bool) (table : Table (Version UserStatsColumns))
    (items : List (Indexed (Timed UserStats))) :
    List ObjectResult → Table (Version UserStatsColumns) × List ObjectResult :=
  writeKeyedBatch "user_stats" key items
    (appendUserStatsIfChangedMany env times timeError hasUser table (items.map Indexed.value)) table

/-- `write_tweet_stats_batch`. -/
def writeTweetStatsBatch (hasTweet : Int → Bool) (table : Table (Version TweetStatsColumns))
    (items : List (Indexed (Timed TweetStats))) :
    List ObjectResult → Table (Version TweetStatsColumns) × List ObjectResult :=
  writeKeyedBatch "tweet_stats" key items
    (appendTweetStatsIfChangedMany env times timeError hasTweet table (items.map Indexed.value))
    table

/-- `write_media_resources_batch`. -/
def writeMediaResourcesBatch (tables : MediaTables)
    (items : List (Indexed (Timed MediaResource))) :
    List ObjectResult → MediaTables × List ObjectResult :=
  writeKeyedBatch "media_resource" key items
    (appendMediaResourcesIfChangedMany env times timeError tables (items.map Indexed.value)) tables

end Statements

variable {α σ : Type} [Observed α] {times : SentTimes} {timeError : String}

/-- The key of an item comes back with its status. -/
theorem lookup_appendTimed (exact_ : times.Exact)
    {statement : List α → Except String (List ((Int × Timestamp) × ConditionalWrite) × σ)}
    {computed : List α → α → ConditionalWrite}
    (answered : ∀ {rows statuses after}, statement rows = .ok (statuses, after) →
      HasStatuses rows (computed rows) statuses)
    (items : List (Timed α)) (found : List ((Int × OffsetTime) × ConditionalWrite)) (after : σ)
    (appended : appendTimed times timeError statement items = .ok (found, after))
    (item : Timed α) (member : item ∈ items) :
    found.lookup item.key = some (computed (items.map stored) item.stored) := by
  unfold appendTimed at appended
  split at appended
  next => cases appended
  -- What the database reads are the items with their instants.
  next rows sent =>
    cases mapM_send_eq exact_ sent
    cases isAnswered : statement (items.map stored) with
    | error error =>
      rw [isAnswered] at appended
      cases appended
    | ok answer =>
      rw [isAnswered] at appended
      cases appended
      have statuses := answered isAnswered
      exact lookup_collectStatuses_of_mem statuses.distinct
        (statuses.each item.stored (List.mem_map_of_mem member))

end Timed

/-! ## Instants suffice -/

section Instants

variable {α σ : Type} [Observed α] {times : SentTimes} {timeError : String}

/-- An item where a time is its instant. -/
def Indexed.stored (item : Indexed (Timed α)) : Indexed α := ⟨item.index, item.value.stored⟩

theorem recordEach_stored (record : Indexed α → ObjectResult → ObjectResult)
    (items : List (Indexed (Timed α))) (results : List ObjectResult) :
    recordEach indexOf record (items.map Indexed.stored) results =
      recordEach indexOf (fun item => record item.stored) items results :=
  List.foldl_map

/-- A stage whose times are all sent is the stage over the instants. -/
theorem writeKeyedBatch_stored (exact_ : times.Exact) {name : String}
    {statement : List α → Except String (List ((Int × Timestamp) × ConditionalWrite) × σ)}
    {computed : List α → α → ConditionalWrite}
    (answered : ∀ {rows statuses after}, statement rows = .ok (statuses, after) →
      HasStatuses rows (computed rows) statuses)
    {items : List (Indexed (Timed α))} {rows : List α}
    (sent : (items.map Indexed.value).mapM (Timed.send times) = some rows) (state : σ)
    (results : List ObjectResult) :
    writeKeyedBatch name Timed.key items
        (appendTimed times timeError statement (items.map Indexed.value)) state results =
      writeKeyedBatch name (fun row => (Observed.id row, Observed.recordedAt row))
        (items.map Indexed.stored) (statement ((items.map Indexed.stored).map Indexed.value)) state
        results := by
  have sameRows : (items.map Indexed.value).map Timed.stored =
      (items.map Indexed.stored).map Indexed.value := by
    rw [List.map_map, List.map_map]
    rfl
  have isRows := mapM_send_eq exact_ sent
  rw [sameRows] at isRows
  subst isRows
  have appended : appendTimed times timeError statement (items.map Indexed.value) =
      (statement ((items.map Indexed.stored).map Indexed.value)).map fun answer =>
        (collectStatuses answer.1, answer.2) := by
    unfold appendTimed
    rw [sent]
  dsimp only [writeKeyedBatch, writeBatch]
  rw [appended, List.isEmpty_map]
  -- Neither stage sends a statement without items.
  by_cases empty : items.isEmpty
  · rw [if_pos empty, if_pos empty]
  · rw [if_neg empty, if_neg empty]
    cases isAnswered : statement ((items.map Indexed.stored).map Indexed.value) with
    | error error =>
      have failed := recordEach_stored
        (fun _ => ObjectResult.failed name (databaseError error)) items results
      exact congrArg (Prod.mk state) failed.symm
    | ok answer =>
      obtain ⟨statuses, after⟩ := answer
      rw [isAnswered] at appended
      refine congrArg (Prod.mk after) (Eq.trans ?_ (recordEach_stored _ items results).symm)
      refine recordEach_congr (fun item member => ?_) results
      -- Both maps give the status of the row.
      have byKey := Timed.lookup_appendTimed exact_ answered _ _ _ appended item.value
        (List.mem_map_of_mem member)
      have isRow : item.value.stored ∈ (items.map Indexed.stored).map Indexed.value := by
        rw [← sameRows]
        exact List.mem_map_of_mem (List.mem_map_of_mem member)
      rw [sameRows] at byKey
      exact congrArg (recordConditionalWrite name)
        (byKey.trans ((answered isAnswered).lookup isRow).symm)

/-- Where all times are sent, the stages are those of the instants. -/
structure StagesOfInstants (env : Environment) (times : SentTimes) (timeError : String) : Prop where
  userSnapshots : ∀ tables (items : List (Indexed (Timed UserSnapshot))) results,
    (items.map Indexed.value).mapM (Timed.send times) ≠ none →
      Timed.writeUserSnapshotsBatch env times timeError tables items results =
        writeUserSnapshotsBatch env (items.map Indexed.stored) tables results
  userStats : ∀ hasUser table (items : List (Indexed (Timed UserStats))) results,
    (items.map Indexed.value).mapM (Timed.send times) ≠ none →
      Timed.writeUserStatsBatch env times timeError hasUser table items results =
        writeUserStatsBatch env (items.map Indexed.stored) hasUser table results
  tweetStats : ∀ hasTweet table (items : List (Indexed (Timed TweetStats))) results,
    (items.map Indexed.value).mapM (Timed.send times) ≠ none →
      Timed.writeTweetStatsBatch env times timeError hasTweet table items results =
        writeTweetStatsBatch env (items.map Indexed.stored) hasTweet table results
  mediaResources : ∀ tables (items : List (Indexed (Timed MediaResource))) results,
    (items.map Indexed.value).mapM (Timed.send times) ≠ none →
      Timed.writeMediaResourcesBatch env times timeError tables items results =
        writeMediaResourcesBatch env (items.map Indexed.stored) tables results

theorem stagesOfInstants (exact_ : times.Exact) (env : Environment) :
    StagesOfInstants env times timeError := by
  refine ⟨fun tables items results sent => ?_, fun hasUser table items results sent => ?_,
    fun hasTweet table items results sent => ?_, fun tables items results sent => ?_⟩ <;>
    obtain ⟨rows, sent⟩ := Option.ne_none_iff_exists'.mp sent
  · exact writeKeyedBatch_stored exact_ hasStatuses_snapshots sent tables results
  · exact writeKeyedBatch_stored exact_ hasStatuses_userStats sent table results
  · exact writeKeyedBatch_stored exact_ hasStatuses_tweetStats sent table results
  · exact writeKeyedBatch_stored exact_ hasStatuses_resources sent tables results

end Instants

/-! ## Every stage -/

/-- Times are sent exactly: then every item of a batch whose statement succeeds finds the status
computed for it, of the row that was kept among those with its key; and where all times are sent,
the stages record what those over the instants record. -/
theorem every_item_finds_its_status {times : SentTimes} (exact_ : times.Exact)
    (env : Environment) (timeError : String) :
    (∀ tables, FindsStatuses "user_snapshot" Timed.key
      (Timed.appendUserSnapshotsIfChangedMany env times timeError tables)
      (Timed.writeUserSnapshotsBatch env times timeError tables)
      fun items _ item => snapshotStatus tables (items.map Timed.stored) item.stored) ∧
    (∀ hasUser table, FindsStatuses "user_stats" Timed.key
      (Timed.appendUserStatsIfChangedMany env times timeError hasUser table)
      (Timed.writeUserStatsBatch env times timeError hasUser table)
      fun items _ item => userStatsStatus env hasUser table (items.map Timed.stored) item.stored) ∧
    (∀ hasTweet table, FindsStatuses "tweet_stats" Timed.key
      (Timed.appendTweetStatsIfChangedMany env times timeError hasTweet table)
      (Timed.writeTweetStatsBatch env times timeError hasTweet table)
      fun items _ item =>
        tweetStatsStatus env hasTweet table (items.map Timed.stored) item.stored) ∧
    (∀ tables, FindsStatuses "media_resource" Timed.key
      (Timed.appendMediaResourcesIfChangedMany env times timeError tables)
      (Timed.writeMediaResourcesBatch env times timeError tables)
      fun items _ item => resourceStatus tables (items.map Timed.stored) item.stored) ∧
    (∀ hasTweet table, FindsStatuses "tweet_edit" Tweet.TweetEdit.tweetId
      (fun edits => env.upsertTweetEditsWriteStatuses hasTweet edits table)
      (fun items => writeTweetEditsBatch env items hasTweet table)
      fun _ after edit => childWrite (rowStatus hasTweet table after edit.tweetId)) ∧
    (∀ hasTweet table, FindsStatuses "tweet_policy" Tweet.TweetPolicy.tweetId
      (fun policies => env.upsertTweetPoliciesWriteStatuses hasTweet policies table)
      (fun items => writeTweetPoliciesBatch env items hasTweet table)
      fun _ after policy => childWrite (rowStatus hasTweet table after policy.tweetId)) ∧
    (∀ hasTweet table, FindsStatuses "tweet_community_note" Tweet.TweetCommunityNote.tweetId
      (fun notes => env.upsertTweetCommunityNotesWriteStatuses hasTweet notes table)
      (fun items => writeTweetCommunityNotesBatch env items hasTweet table)
      fun _ after note => childWrite (rowStatus hasTweet table after note.tweetId)) ∧
    (∀ (κ : Type) (input : List (Version κ)) (row : Version κ), row ∈ input →
      keptRow input row ∈ distinctInput input ∧ Row.clash (keptRow input row) row ∧
        ((∀ other ∈ input, Row.clash other row → other = row) → keptRow input row = row)) ∧
    StagesOfInstants env times timeError := by
  refine ⟨fun tables => ?_, fun hasUser table => ?_, fun hasTweet table => ?_, fun tables => ?_,
    fun hasTweet table => ?_, fun hasTweet table => ?_, fun hasTweet table => ?_,
    fun κ input row member => ?_, stagesOfInstants exact_ env⟩
  · exact findsStatuses_writeKeyedBatch (Timed.lookup_appendTimed exact_ hasStatuses_snapshots)
  · exact findsStatuses_writeKeyedBatch (Timed.lookup_appendTimed exact_ hasStatuses_userStats)
  · exact findsStatuses_writeKeyedBatch (Timed.lookup_appendTimed exact_ hasStatuses_tweetStats)
  · exact findsStatuses_writeKeyedBatch (Timed.lookup_appendTimed exact_ hasStatuses_resources)
  · exact findsStatuses_writeKeyedBatch fun _ _ _ written _ member =>
      lookup_tweetEdits written member
  · exact findsStatuses_writeKeyedBatch fun _ _ _ written _ member =>
      lookup_tweetPolicies written member
  · exact findsStatuses_writeKeyedBatch fun _ _ _ written _ member =>
      lookup_tweetCommunityNotes written member
  · obtain ⟨isKept, clashes⟩ := Tweet.keptRow_spec member
    exact ⟨isKept, clashes, Tweet.keptRow_of_alone member⟩

/-! ### One instant in two zones -/

def zonedTimes : SentTimes where
  rfc3339 time :=
    if time.second = 1714564800 ∧ time.nanosecond.val = 123456000 ∧ time.offset = 7200 then
      some "2024-05-01T12:00:00.123456+02:00"
    else if time.second = 1714537800 ∧ time.nanosecond.val = 123456000 ∧ time.offset = -19800 then
      some "2024-05-01T04:30:00.123456-05:30"
    else none
  timestamptz text :=
    if text = "2024-05-01T12:00:00.123456+02:00" ∨ text = "2024-05-01T04:30:00.123456-05:30" then
      some 1714557600123456
    else none

theorem zonedTimes_exact : zonedTimes.Exact := by
  intro time text stamp _ isText isStamp
  dsimp only [zonedTimes] at isText isStamp
  split at isStamp
  next =>
    cases isStamp
    unfold OffsetTime.instant
    split at isText
    next noon =>
      rw [noon.1, noon.2.1, noon.2.2]
      rfl
    next =>
      split at isText
      next morning =>
        rw [morning.1, morning.2.1, morning.2.2]
        rfl
      next => cases isText
  next => cases isStamp

def noonStats : Timed TweetStats :=
  ⟨⟨7, 0, some 3, none, none, none, none, none⟩, ⟨1714564800, ⟨123456789, by decide⟩, 7200⟩⟩

def morningStats : Timed TweetStats :=
  ⟨⟨7, 0, some 4, none, none, none, none, none⟩, ⟨1714537800, ⟨123456001, by decide⟩, -19800⟩⟩

/-- Both are of one microsecond: one row is kept, and both find its status. -/
theorem every_item_finds_its_status_zoned :
    ∃ found after, Timed.appendTweetStatsIfChangedMany plainEnvironment zonedTimes "time"
        (fun _ => true) .empty [noonStats, morningStats] = .ok (found, after) ∧
      found.length = 1 ∧ found.lookup noonStats.key = some .inserted ∧
      found.lookup morningStats.key = some .inserted := by
  have finds := (every_item_finds_its_status zonedTimes_exact plainEnvironment "time").2.2.1
    (fun _ => true) .empty
  refine ⟨_, _, rfl, rfl, ?_, ?_⟩
  · exact finds.found [noonStats, morningStats] _ _ rfl noonStats List.mem_cons_self
  · exact finds.found [noonStats, morningStats] _ _ rfl morningStats
      (List.mem_cons_of_mem _ List.mem_cons_self)

end TweetDb.Submit
