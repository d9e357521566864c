import TweetDb.Submit.KnownLookups
import TweetDb.Submit.Stored
import TweetDb.Transfer.Enqueue

/-! # Batches that repeat what is stored

A batch whose rows are all there and fill nothing leaves the tables as they
are, whatever the database refuses; only the relations of its tweets are
replaced, and a transfer task may be added.
-/

namespace TweetDb.Submit

open Relational TweetModel
open TweetDb.Tweet (MediaTables TweetCommunityNote TweetEdit TweetPlace TweetPolicy TweetRow
  TweetTables TwitterUser UserTables Version VersionColumns)

/-- A version is stored at the same time. -/
def StoredAtTime {κ : Type} (table : Table (Version κ)) (row : Version κ) : Prop :=
  ∃ stored ∈ table.rows, Row.clash stored row

structure Repeats (prepared : PreparedSubmitBatch) (db : Database) : Prop where
  users : ∀ item ∈ prepared.users, TwitterUser.onConflict.Quiet db.users item.value
  tweetAuthors : ∀ item ∈ prepared.tweetAuthors,
    TwitterUser.onConflict.Quiet db.users item.value
  userSnapshots : ∀ item ∈ prepared.userSnapshots,
    StoredAtTime db.userSnapshots item.value.payload.toVersion
  userStats : ∀ item ∈ prepared.userStats, StoredAtTime db.userStats item.value.toVersion
  media : ∀ item ∈ prepared.media,
    Tweet.Media.onConflict.Quiet db.media item.value.payload.toRow
  mediaResources : ∀ item ∈ prepared.mediaResources,
    StoredAtTime db.mediaResources item.value.payload
  tweetPlaces : ∀ item ∈ prepared.tweetPlaces,
    TweetPlace.onConflict.Quiet db.tweetPlaces (tweetPlacePayload item.value)
  tweets : ∀ item ∈ prepared.tweets, TweetRow.onConflict.Quiet db.tweets (tweetPayload item.value)
  tweetEdits : ∀ item ∈ prepared.tweetEdits,
    TweetEdit.onConflict.Quiet db.tweetEdits (tweetEditPayload item.value).toRow
  tweetPolicies : ∀ item ∈ prepared.tweetPolicies,
    TweetPolicy.onConflict.Quiet db.tweetPolicies (tweetPolicyPayload item.value).toRow
  tweetCommunityNotes : ∀ item ∈ prepared.tweetCommunityNotes,
    TweetCommunityNote.onConflict.Quiet db.tweetCommunityNotes
      (tweetCommunityNotePayload item.value)
  tweetStats : ∀ item ∈ prepared.tweetStats, StoredAtTime db.tweetStats item.value.toVersion

/-! ## Versions -/

section Versions

variable {κ : Type} [VersionColumns κ] {hasParent : Int → Bool} {input : List (Version κ)}
  {table : Table (Version κ)}

theorem appendIfChanged_of_stored (stored : ∀ row ∈ input, StoredAtTime table row) :
    (Tweet.appendIfChanged hasParent input table).inserted = [] ∧
      (Tweet.appendIfChanged hasParent input table).table = table := by
  have nothing := @Table.insertNew_of_clash _ _ _ table
    (((Tweet.distinctInput input).map (Tweet.classify hasParent table)).filter
      (fun row => row.hasParent && !row.unchanged) |>.map (·.version)) fun row member => by
    obtain ⟨classified, kept, rfl⟩ := List.mem_map.mp member
    obtain ⟨version, isInput, rfl⟩ := List.mem_map.mp (List.mem_of_mem_filter kept)
    exact stored _ (Tweet.mem_of_mem_distinctInput isInput)
  exact ⟨congrArg Prod.fst nothing, congrArg Prod.snd nothing⟩

theorem appendStatsIfChanged_of_stored {interval : Int}
    (stored : ∀ row ∈ input, StoredAtTime table row) :
    (Tweet.appendStatsIfChanged interval hasParent input table).2 = table := by
  have nothing := @Table.insertNew_of_clash _ _ _ table
    ((Tweet.distinctInput input).filter fun row =>
      decide (Tweet.decideStats interval hasParent table row = .candidate)) fun row member =>
    stored row (Tweet.mem_of_mem_distinctInput (List.mem_of_mem_filter member))
  exact congrArg Prod.snd nothing

end Versions

/-! ## Stages -/

/-- Of two users that fill nothing, neither does the one they are combined to. -/
theorem quiet_combined {users : Table TwitterUser} {user other : TwitterUser}
    (same : user.id = other.id) (quiet : TwitterUser.onConflict.Quiet users user)
    (quietOther : TwitterUser.onConflict.Quiet users other) :
    TwitterUser.onConflict.Quiet users
      { user with registeredAt := user.registeredAt.or other.registeredAt } := by
  obtain ⟨stored, found, nothing⟩ := quiet
  obtain ⟨stored', found', nothing'⟩ := quietOther
  have sameKey : (Row.key other : Int) = Row.key user := same.symm
  rw [sameKey, found, Option.some.injEq] at found'
  subst found'
  refine ⟨stored, found, ?_⟩
  simp only [TwitterUser.onConflict, Tweet.fillable] at nothing nothing' ⊢
  cases registered : user.registeredAt with
  | none => simpa using nothing'
  | some time => simpa [registered] using nothing

section Execute

variable {env : Environment} {prepared : PreparedSubmitBatch} {db : Database}
  (repeats : Repeats prepared db)

include repeats

theorem writeCombinedUserBatch_of_repeats {tables : UserTables}
    {userResults tweetResults : List ObjectResult} (same : tables.users = db.users) :
    (writeCombinedUserBatch env prepared.users prepared.tweetAuthors tables userResults
      tweetResults).1 = tables := by
  let unchanged (after : UserTables) : Prop := after = tables
  have kept : unchanged (writeCombinedUserBatch env prepared.users prepared.tweetAuthors tables
      userResults tweetResults).1 := by
    refine writeBatch_keeps rfl fun answers after done => ?_
    have quiet : ∀ user ∈ Tweet.distinctUsers
        ((combineUsers prepared.users prepared.tweetAuthors).map CombinedUserWrite.value),
        TwitterUser.onConflict.Quiet tables.users user := by
      intro user member
      have inRecords := mem_orderBy.mp (mem_of_mem_distinctOn member)
      obtain ⟨entry, isEntry, rfl⟩ := List.mem_map.mp inRecords
      rw [same]
      exact @forall_combineUsers _ _ (TwitterUser.onConflict.Quiet db.users)
        (fun _ _ => quiet_combined) repeats.users repeats.tweetAuthors entry isEntry
    have upserted : TwitterUser.onConflict.upsert ⟨fun _ => true, fun _ => true⟩ tables.users
        (Tweet.distinctUsers ((combineUsers prepared.users prepared.tweetAuthors).map
          CombinedUserWrite.value)) = some ([], tables.users) :=
      OnConflict.upsert_of_quiet fun user member => ⟨rfl, quiet user member⟩
    have written := send_eq_ok done
    simp only [Tweet.writeTwitterUsers, upserted] at written
    cases written
    rfl
  exact kept

theorem writeUserSnapshotsBatch_of_repeats {tables : UserTables} {results : List ObjectResult}
    (same : tables.snapshots = db.userSnapshots) :
    (writeUserSnapshotsBatch env prepared.userSnapshots tables results).1 = tables := by
  let unchanged (after : UserTables) : Prop := after = tables
  have kept : unchanged (writeUserSnapshotsBatch env prepared.userSnapshots tables results).1 := by
    refine writeBatch_keeps rfl fun answers after done => ?_
    obtain ⟨inserted, table⟩ := @appendIfChanged_of_stored _ _ tables.hasUser
      (((prepared.userSnapshots.map Indexed.value).map UserSnapshot.payload).map
        Tweet.UserSnapshotPayload.toVersion) tables.snapshots fun row member => by
      obtain ⟨payload, isPayload, rfl⟩ := List.mem_map.mp member
      obtain ⟨snapshot, isSnapshot, rfl⟩ := List.mem_map.mp isPayload
      obtain ⟨item, isItem, rfl⟩ := List.mem_map.mp isSnapshot
      rw [same]
      exact repeats.userSnapshots item isItem
    have written := send_eq_ok done
    simp only [Tweet.appendUserSnapshotsIfChanged, inserted, table] at written
    cases written
    rfl
  exact kept

theorem writeUserStatsBatch_of_repeats {hasUser : Int → Bool} {results : List ObjectResult} :
    (writeUserStatsBatch env prepared.userStats hasUser db.userStats results).1 =
      db.userStats := by
  let unchanged (after : Table (Version Tweet.UserStatsColumns)) : Prop := after = db.userStats
  have kept : unchanged
      (writeUserStatsBatch env prepared.userStats hasUser db.userStats results).1 := by
    refine writeBatch_keeps rfl fun answers after done => ?_
    cases send_eq_ok done
    apply appendStatsIfChanged_of_stored
    intro row member
    obtain ⟨stats, areStats, rfl⟩ := List.mem_map.mp member
    obtain ⟨item, isItem, rfl⟩ := List.mem_map.mp areStats
    exact repeats.userStats item isItem
  exact kept

theorem writeMediaBatch_of_repeats {results : List ObjectResult} :
    (writeMediaBatch env prepared.media db.media results).1 = db.media := by
  let unchanged (after : Table Tweet.Media) : Prop := after = db.media
  have kept : unchanged (writeMediaBatch env prepared.media db.media results).1 := by
    refine writeBatch_keeps rfl fun answers after done => ?_
    have upserted := @OnConflict.upsert_of_quiet _ _ _ Tweet.Media.onConflict
      ⟨fun _ => true, fun _ => true⟩ db.media ((distinctOn Tweet.MediaPayload.id
        ((prepared.media.map Indexed.value).map Media.payload)).map Tweet.MediaPayload.toRow)
      fun row member => by
        obtain ⟨payload, kept, rfl⟩ := List.mem_map.mp member
        obtain ⟨media, isMedia, rfl⟩ := List.mem_map.mp (mem_of_mem_distinctOn kept)
        obtain ⟨item, isItem, rfl⟩ := List.mem_map.mp isMedia
        exact ⟨rfl, repeats.media item isItem⟩
    have written := send_eq_ok done
    simp only [Tweet.writeMedia, upserted] at written
    cases written
    rfl
  exact kept

theorem writeMediaResourcesBatch_of_repeats {tables : MediaTables} {results : List ObjectResult}
    (same : tables.resources = db.mediaResources) :
    (writeMediaResourcesBatch env prepared.mediaResources tables results).1 = tables := by
  let unchanged (after : MediaTables) : Prop := after = tables
  have kept : unchanged
      (writeMediaResourcesBatch env prepared.mediaResources tables results).1 := by
    refine writeBatch_keeps rfl fun answers after done => ?_
    obtain ⟨_, table⟩ := @appendIfChanged_of_stored _ _ tables.hasMedia
      ((prepared.mediaResources.map Indexed.value).map MediaResource.payload) tables.resources
      fun row member => by
        obtain ⟨resource, isResource, rfl⟩ := List.mem_map.mp member
        obtain ⟨item, isItem, rfl⟩ := List.mem_map.mp isResource
        rw [same]
        exact repeats.mediaResources item isItem
    cases send_eq_ok done
    show MediaTables.mk tables.media _ = tables
    rw [table]
  exact kept

theorem writeTweetPlacesBatch_of_repeats {results : List ObjectResult} :
    (writeTweetPlacesBatch env prepared.tweetPlaces db.tweetPlaces results).1 =
      db.tweetPlaces := by
  let unchanged (after : Table TweetPlace) : Prop := after = db.tweetPlaces
  have kept : unchanged
      (writeTweetPlacesBatch env prepared.tweetPlaces db.tweetPlaces results).1 := by
    refine writeBatch_keeps rfl fun answers after done => ?_
    have deduped := @forall_dedupePlaces prepared.tweetPlaces
      (fun place => TweetPlace.onConflict.Quiet db.tweetPlaces (tweetPlacePayload place))
      repeats.tweetPlaces
    have upserted := @OnConflict.upsert_of_quiet _ _ _ TweetPlace.onConflict
      ⟨fun _ => true, fun _ => true⟩ db.tweetPlaces (distinctOn TweetPlace.id
        (((dedupePlaces prepared.tweetPlaces).map DedupedPlace.value).map tweetPlacePayload))
      fun row member => by
        obtain ⟨place, isPlace, rfl⟩ := List.mem_map.mp (mem_of_mem_distinctOn member)
        obtain ⟨entry, isEntry, rfl⟩ := List.mem_map.mp isPlace
        exact ⟨rfl, deduped entry isEntry⟩
    have written := send_eq_ok done
    simp only [Tweet.writeTweetPlaces, upserted] at written
    cases written
    rfl
  exact kept

theorem writeTweetsBatch_of_repeats {hasUser : Int → Bool} {hasPlace : String → Bool}
    {tables : TweetTables} {results : List ObjectResult} (same : tables.tweets = db.tweets) :
    (writeTweetsBatch env prepared.tweets hasUser hasPlace tables results).1 = tables := by
  let unchanged (after : TweetTables) : Prop := after = tables
  have kept : unchanged
      (writeTweetsBatch env prepared.tweets hasUser hasPlace tables results).1 := by
    refine writeBatch_keeps rfl fun answers after done => ?_
    have upserted := @OnConflict.upsert_of_quiet _ _ _ TweetRow.onConflict
      (Environment.tweetConstraints hasUser hasPlace) tables.tweets (distinctOn TweetRow.id
        ((prepared.tweets.map Indexed.value).map tweetPayload)) fun row member => by
      obtain ⟨tweet, isTweet, rfl⟩ := List.mem_map.mp (mem_of_mem_distinctOn member)
      obtain ⟨item, isItem, rfl⟩ := List.mem_map.mp isTweet
      rw [same]
      exact ⟨rfl, repeats.tweets item isItem⟩
    have written := send_eq_ok done
    simp only [Tweet.writeTweets, upserted] at written
    cases written
    rfl
  exact kept

omit repeats in
/-- The statements over rows of a tweet. -/
theorem childWrites_of_quiet {ρ : Type} [Row ρ Int] {conflict : OnConflict ρ}
    {hasTweet : Int → Bool} {input : List ρ} {table after : Table ρ}
    {answers : List (Int × ConditionalWrite)}
    (quiet : ∀ row ∈ input, conflict.Quiet table row)
    (written : env.childWrites (Tweet.writeChildren conflict ⟨fun _ => true, fun _ => true⟩ hasTweet
      input table) = .ok (answers, after)) : after = table := by
  have upserted := @OnConflict.upsert_of_quiet _ _ _ conflict ⟨fun _ => true, fun _ => true⟩ table
    (input.filter fun row => hasTweet (Row.key row)) fun row member =>
      ⟨rfl, quiet row (List.mem_of_mem_filter member)⟩
  simp only [Tweet.writeChildren, upserted] at written
  cases written
  rfl

theorem writeTweetEditsBatch_of_repeats {hasTweet : Int → Bool} {results : List ObjectResult} :
    (writeTweetEditsBatch env prepared.tweetEdits hasTweet db.tweetEdits results).1 =
      db.tweetEdits := by
  let unchanged (after : Table TweetEdit) : Prop := after = db.tweetEdits
  have kept : unchanged
      (writeTweetEditsBatch env prepared.tweetEdits hasTweet db.tweetEdits results).1 := by
    refine writeBatch_keeps rfl fun answers after done => ?_
    refine childWrites_of_quiet (fun row member => ?_) (send_eq_ok done)
    obtain ⟨payload, kept, rfl⟩ := List.mem_map.mp member
    obtain ⟨edit, isEdit, rfl⟩ := List.mem_map.mp (mem_of_mem_distinctOn kept)
    obtain ⟨item, isItem, rfl⟩ := List.mem_map.mp isEdit
    exact repeats.tweetEdits item isItem
  exact kept

theorem writeTweetPoliciesBatch_of_repeats {hasTweet : Int → Bool} {results : List ObjectResult} :
    (writeTweetPoliciesBatch env prepared.tweetPolicies hasTweet db.tweetPolicies results).1 =
      db.tweetPolicies := by
  let unchanged (after : Table TweetPolicy) : Prop := after = db.tweetPolicies
  have kept : unchanged
      (writeTweetPoliciesBatch env prepared.tweetPolicies hasTweet db.tweetPolicies results).1 := by
    refine writeBatch_keeps rfl fun answers after done => ?_
    refine childWrites_of_quiet (fun row member => ?_) (send_eq_ok done)
    obtain ⟨payload, kept, rfl⟩ := List.mem_map.mp member
    obtain ⟨policy, isPolicy, rfl⟩ := List.mem_map.mp (mem_of_mem_distinctOn kept)
    obtain ⟨item, isItem, rfl⟩ := List.mem_map.mp isPolicy
    exact repeats.tweetPolicies item isItem
  exact kept

theorem writeTweetCommunityNotesBatch_of_repeats {hasTweet : Int → Bool}
    {results : List ObjectResult} :
    (writeTweetCommunityNotesBatch env prepared.tweetCommunityNotes hasTweet
      db.tweetCommunityNotes results).1 = db.tweetCommunityNotes := by
  let unchanged (after : Table TweetCommunityNote) : Prop := after = db.tweetCommunityNotes
  have kept : unchanged (writeTweetCommunityNotesBatch env prepared.tweetCommunityNotes hasTweet
      db.tweetCommunityNotes results).1 := by
    refine writeBatch_keeps rfl fun answers after done => ?_
    refine childWrites_of_quiet (fun row member => ?_) (send_eq_ok done)
    obtain ⟨note, isNote, rfl⟩ := List.mem_map.mp (mem_of_mem_distinctOn member)
    obtain ⟨item, isItem, rfl⟩ := List.mem_map.mp isNote
    exact repeats.tweetCommunityNotes item isItem
  exact kept

theorem writeTweetStatsBatch_of_repeats {hasTweet : Int → Bool} {results : List ObjectResult} :
    (writeTweetStatsBatch env prepared.tweetStats hasTweet db.tweetStats results).1 =
      db.tweetStats := by
  let unchanged (after : Table (Version Tweet.TweetStatsColumns)) : Prop := after = db.tweetStats
  have kept : unchanged
      (writeTweetStatsBatch env prepared.tweetStats hasTweet db.tweetStats results).1 := by
    refine writeBatch_keeps rfl fun answers after done => ?_
    cases send_eq_ok done
    apply appendStatsIfChanged_of_stored
    intro row member
    obtain ⟨stats, areStats, rfl⟩ := List.mem_map.mp member
    obtain ⟨item, isItem, rfl⟩ := List.mem_map.mp areStats
    exact repeats.tweetStats item isItem
  exact kept

omit repeats in
/-- No transfer task goes away. -/
theorem transferTasks_kept {media : List (Indexed Media)} {items : List (Indexed MediaResource)}
    {statuses : List ((Int × Timestamp) × ConditionalWrite)} {resources : Table Tweet.MediaResource}
    {table : Table Transfer.TransferTask} {results : List ObjectResult} :
    ∀ task ∈ table.rows, task ∈
      (enqueuePreparedMediaTransfers env media items statuses resources table results).1.rows := by
  let kept (after : Table Transfer.TransferTask) : Prop := ∀ task ∈ table.rows, task ∈ after.rows
  have isKept : kept
      (enqueuePreparedMediaTransfers env media items statuses resources table results).1 := by
    refine writeBatch_keeps (fun _ present => present) fun answers after done => ?_
    have written := send_eq_ok done
    split at written
    next => cases written
    next enqueued =>
      cases written
      obtain ⟨_, inserted, same⟩ := Option.map_eq_some_iff.mp enqueued
      cases same
      exact (Transfer.insertTasks_queued inserted).1
  exact isKept

/-! ## The batch -/

/-- Of a database only the relations of the given tweets are replaced, if they are, and only
transfer tasks are added. -/
structure OnlyRelationsSynced (parents : Tweet.RefParents) (relations : List TweetRelations)
    (before after : Database) : Prop where
  others : after = { before with refs := after.refs, transferTasks := after.transferTasks }
  refs : after.refs = before.refs ∨ RelationsSynced parents relations before.refs after.refs
  transferTasks : ∀ task ∈ before.transferTasks.rows, task ∈ after.transferTasks.rows

/-- The rows the refs of a call refer to, as the database has them. -/
def Environment.parents (env : Environment) (db : Database) : Tweet.RefParents where
  tweet tweetId := (db.tweets.find tweetId).isSome
  media mediaId := (db.media.find mediaId).isSome
  hashtag := env.hashtag
  symbol := env.symbol

theorem executeUsers_of_repeats :
    let phase := executeUsers env prepared ⟨db.users, db.userSnapshots, db.indexQueue⟩ db.userStats
    phase.tables = ⟨db.users, db.userSnapshots, db.indexQueue⟩ ∧ phase.userStats = db.userStats := by
  simp only [executeUsers, writeCombinedUserBatch_of_repeats repeats,
    writeUserSnapshotsBatch_of_repeats repeats, writeUserStatsBatch_of_repeats repeats, and_self]

theorem executeMedia_of_repeats :
    let phase := executeMedia env prepared ⟨db.media, db.mediaResources⟩ db.transferTasks
    phase.tables = ⟨db.media, db.mediaResources⟩ ∧
      ∀ task ∈ db.transferTasks.rows, task ∈ phase.transferTasks.rows := by
  constructor
  · simp only [executeMedia, writeMediaBatch_of_repeats repeats,
      writeMediaResourcesBatch_of_repeats repeats]
  · exact transferTasks_kept

theorem onlyRelationsSynced_executePreparedSubmit :
    OnlyRelationsSynced (env.parents db) (prepared.tweetRelations.map Indexed.value) db
      (executePreparedSubmit env prepared db).1 := by
  unfold executePreparedSubmit
  split
  next => exact ⟨rfl, .inl rfl, fun _ present => present⟩
  next =>
    obtain ⟨users, userStats⟩ := @executeUsers_of_repeats env _ _ repeats
    obtain ⟨media, transferTasks⟩ := @executeMedia_of_repeats env _ _ repeats
    constructor
    case others =>
      simp only [users, userStats, media, executeTweets, writeTweetPlacesBatch_of_repeats repeats,
        writeTweetsBatch_of_repeats repeats, writeTweetEditsBatch_of_repeats repeats,
        writeTweetPoliciesBatch_of_repeats repeats, writeTweetCommunityNotesBatch_of_repeats repeats,
        writeTweetStatsBatch_of_repeats repeats]
    case refs =>
      simp only [users, media, executeTweets, writeTweetsBatch_of_repeats repeats]
      exact relations_replacePreparedTweetRelations
    case transferTasks => exact transferTasks

end Execute

/-! ## Columns that fill nothing -/

theorem fillableRow_of_fieldNulls {α : Type} [Tweet.Composite α] {stored excluded : Option α}
    (same : Option.Rel (fun stored excluded =>
      Tweet.Composite.fieldNulls excluded = Tweet.Composite.fieldNulls stored) stored excluded)
    (fields : ∀ row ∈ stored, Tweet.Composite.fieldNulls row ≠ []) :
    Tweet.fillableRow stored excluded = false := by
  cases stored with
  | none =>
    cases same
    rfl
  | some stored =>
    cases excluded with
    | none => simp [Tweet.fillableRow, Tweet.rowIsNotNull]
    | some excluded =>
      have nulls : Tweet.Composite.fieldNulls excluded = Tweet.Composite.fieldNulls stored := by
        cases same with
        | some nulls => exact nulls
      have present := fields stored rfl
      simp only [Tweet.fillableRow, Tweet.rowIsNull, Tweet.rowIsNotNull, Option.all_some,
        Option.any_some, nulls]
      -- A row with a field is not null and not null throughout.
      cases listed : Tweet.Composite.fieldNulls stored with
      | nil => exact absurd listed present
      | cons first others => cases first <;> simp

@[simp] theorem fillable_self {α : Type} (value : Option α) :
    Tweet.fillable value value = false := by
  cases value <;> rfl

@[simp] theorem fillableRow_self {α : Type} [Tweet.Composite α] (value : Option α)
    (fields : ∀ row ∈ value, Tweet.Composite.fieldNulls row ≠ []) :
    Tweet.fillableRow value value = false := by
  apply fillableRow_of_fieldNulls _ fields
  cases value with
  | none => exact .none
  | some value => exact .some rfl

theorem fillableArray_map {α : Type} (values : List α) (replace : α → α) :
    Tweet.fillableArray values (values.map replace) = false := by
  cases values <;> rfl

theorem fillableArray_ensureIds (values : List String) :
    Tweet.fillableArray values (ensureIds values) = false := by
  cases values <;> rfl

theorem fillable_ensureId (value : Option String) :
    Tweet.fillable value (ensureId value) = false := by
  cases value <;> rfl

theorem fillableRow_annotatedTextPayload (text : Option Tweet.AnnotatedText) :
    Tweet.fillableRow text (text.map annotatedTextPayload) = false := by
  apply fillableRow_of_fieldNulls
  · cases text with
    | none => exact .none
    | some text => exact .some rfl
  · simp [Tweet.Composite.fieldNulls]

/-! ## Requests of one item -/

/-- Nothing of the batch was skipped or failed when it was prepared. -/
def PreparedSubmitBatch.Accepted (prepared : PreparedSubmitBatch) : Prop :=
  ∀ result ∈ prepared.userResults ++ prepared.tweetResults ++ prepared.mediaResults,
    result.operations = [] ∧ result.fatalError = none

section Single

variable {α β : Type}

/-- A part that is converted is not recorded. -/
theorem part_of_converts {part : Option (Except String α)} {holds : α → Prop}
    (converts : ∀ converted ∈ part, ∃ value, converted = .ok value ∧ holds value) :
    (∀ name result, recordPart name part result = result) ∧
      ∀ value ∈ preparedPart part, holds value := by
  cases part with
  | none => exact ⟨fun _ _ => rfl, fun _ none => nomatch none⟩
  | some converted =>
    obtain ⟨value, rfl, isValid⟩ := converts converted rfl
    refine ⟨fun _ _ => rfl, fun other isOther => ?_⟩
    cases isOther
    exact isValid

theorem lastValidIndex_single {field : String} {id : α → String} {item : α} {parsed : Int}
    (isParsed : parseI64Id (id item) field = .ok parsed) :
    lastValidIndex field id [item] parsed = some 0 := by
  simp [lastValidIndex, isParsed, Except.toOption]

theorem collect_single {part : α → Option β} {item : α} {value : β}
    (isPart : part item = some value) : collect part [item] = [⟨0, value⟩] := by
  simp [collect, isPart]

theorem mem_collect_single {part : α → Option β} {item : α} {entry : Indexed β}
    (member : entry ∈ collect part [item]) : part item = some entry.value := by
  obtain ⟨⟨other, index⟩, isItem, isEntry⟩ := List.mem_filterMap.mp member
  obtain ⟨value, isPart, rfl⟩ := Option.map_eq_some_iff.mp isEntry
  simp only [List.zipIdx_cons, List.zipIdx_nil, List.mem_singleton, Prod.mk.injEq] at isItem
  rw [← isItem.1]
  exact isPart

end Single

/-- The batch is accepted and repeats what is stored; these are the relations of its tweets. -/
structure BatchRepeats (relations : List TweetRelations) (db : Database)
    (prepared : PreparedSubmitBatch) : Prop where
  accepted : prepared.Accepted
  repeats : Repeats prepared db
  relations : prepared.tweetRelations.map Indexed.value = relations

/-- So is the batch of the request, whatever ids the lookups generate and whatever the time is. -/
structure RequestRepeats (tables : LookupTables) (parseUuid : String → Option Uuid)
    (relations : List TweetRelations) (db : Database) (payload : SubmitTweetRequest) : Prop where
  known : tables.Knows payload
  batch : ∀ newIds clocks,
    BatchRepeats relations db (prepareSubmitBatch (tables.store newIds) parseUuid clocks payload)

end TweetDb.Submit
