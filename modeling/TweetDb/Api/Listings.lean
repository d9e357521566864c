import Mathlib.Data.Prod.Lex
import TweetDb.Api.ListEndpoint
import TweetDb.Api.Tweets
import TweetDb.Auth.Sessions
import TweetDb.Query.Fetch
import TweetDb.Transfer.Queue

/-! # The listings of `internal_api/v2`

Each endpoint with its filters, its query and the checks of its cursor.  All of
them visit what they select in the order of a time and an id.
-/

namespace TweetDb.Api

open Paging Relational Transfer
open Search (IndexTask IndexTargetKind IndexTaskStatus)
open TweetDb.Tweet (MediaRef MediaResource MediaType TwitterUser UserSnapshot UserStatsColumns
  Version)

/-! ## The tables -/

/-- A row with the times the database keeps. -/
structure Dated (α : Type) where
  row : α
  createdAt : Timestamp
  updatedAt : Timestamp
deriving DecidableEq, Repr

instance {α κ : Type} [Row α κ] : Row (Dated α) κ where
  key dated := Row.key dated.row
  clash a b := Row.clash a.row b.row
  clash_of_key := Row.clash_of_key
  clash_symm := Row.clash_symm
  decidableKey := inferInstance
  decidableClash a b := inferInstanceAs (Decidable (Row.clash a.row b.row))

/-- A row of `audit.audit_events`. -/
structure AuditEventRow where
  id : Uuid
  actorUserId : Option Uuid
  eventType : String
  resourceType : String
  resourceId : Option String
  details : Json.Value
  createdAt : Timestamp

instance : Row AuditEventRow Uuid := .ofKey AuditEventRow.id

/-- The tables that the endpoints read. -/
structure ListedTables where
  users : Table (Dated Auth.User)
  sessions : Table Auth.Session
  authorizations : Table (Dated Auth.Authorization)
  auditEvents : Table AuditEventRow
  twitterUsers : Table (Dated TwitterUser)
  userSnapshots : Table UserSnapshot
  userStats : Table (Version UserStatsColumns)
  media : Table (Dated Tweet.Media)
  mediaResources : Table MediaResource
  tweets : Table StoredTweet
  mediaRefs : Table MediaRef
  transferTasks : Table TransferTask
  storageObjects : Table StorageObject
  indexQueue : Table IndexTask

/-- What the database makes of texts: `uuid::text`, `lower` and `ILIKE`. -/
structure SqlTexts where
  uuidText : Uuid → String
  lower : String → String
  ilike : String → String → Bool

/-! ## Keys -/

/-- A time and an id, compared as a row of SQL. -/
abbrev TimeKey (ι : Type) := Timestamp ×ₗ ι

def timeKey {ι : Type} (time : Timestamp) (id : ι) : TimeKey ι := toLex (time, id)

@[simp] theorem timeKey_inj {ι : Type} {time time' : Timestamp} {id id' : ι} :
    timeKey time id = timeKey time' id' ↔ time = time' ∧ id = id' := by
  rw [timeKey, timeKey, toLex_inj, Prod.mk.injEq]

/-! ## Filters -/

def likePattern (value : Option String) : Option String :=
  value.map fun value => "%" ++ value ++ "%"

def lowercasePrefixPattern (value : Option String) : Option String :=
  value.map fun value => toAsciiLowercase value ++ "%"

/-- A word from a list, without regard to case, or `all`. -/
def normalizeOneOf (allowed : List String) (message : String) (raw : Option String) :
    Except ApiError String :=
  let value := toAsciiLowercase (trim (raw.getD "all"))
  if value ∈ allowed then .ok value else .error (.badRequest message)

def normalizeUserStatus : Option String → Except ApiError String :=
  normalizeOneOf ["all", "active", "disabled"] "status must be one of all, active, disabled"

def normalizeTransferStatus : Option String → Except ApiError String :=
  normalizeOneOf ["all", "pending", "processing", "completed", "failed", "canceled"]
    "status must be one of all, pending, processing, completed, failed, canceled"

def normalizeMediaType : Option String → Except ApiError String :=
  normalizeOneOf ["all", "photo", "video", "animated_gif"]
    "mediaType must be one of all, photo, video, animated_gif"

def normalizeIndexStatus : Option String → Except ApiError String :=
  normalizeOneOf ["all", "pending", "processing", "completed", "failed"]
    "status must be one of all, pending, processing, completed, failed"

def normalizeIndexTargetKind : Option String → Except ApiError String :=
  normalizeOneOf ["all", "user", "tweet"] "targetKind must be one of all, user, tweet"

/-- `normalize_filter` of the audit events, which is `normalize_query` again. -/
def normalizeFilter : Option String → Option String := normalizeQuery

/-- `$1 = 'all' OR column = $1`. -/
def isWanted (wanted : String) (column : Option String) : Bool :=
  wanted == "all" || column == some wanted

/-- `$1 IS NULL OR text LIKE $1 OR …`. -/
def isLike (pattern : Option String) (texts : List (Option String)) : Bool :=
  pattern.all fun pattern => texts.any fun text => text.any fun text => like text pattern

/-- `$1 IS NULL OR column = $1`. -/
def isFiltered {α : Type} [DecidableEq α] (wanted column : Option α) : Bool :=
  wanted.all fun wanted => decide (column = some wanted)

def mediaTypeText : MediaType → String
  | .photo => "photo"
  | .video => "video"
  | .animatedGif => "animated_gif"

def indexStatusText : IndexTaskStatus → String
  | .pending => "pending"
  | .processing => "processing"
  | .completed => "completed"
  | .failed => "failed"

def targetKindText : IndexTargetKind → String
  | .user => "user"
  | .tweet => "tweet"

/-- The cursor of a list below one parent names the parent. -/
def ensureParentMatch {α : Type} [DecidableEq α] (message : String) (cursorId requestId : α) :
    Except ApiError Unit :=
  if cursorId ≠ requestId then .error (.badRequest message) else .ok ()

@[simp] theorem ensureParentMatch_self {α : Type} [DecidableEq α] (message : String) (id : α) :
    ensureParentMatch message id id = .ok () := by
  simp [ensureParentMatch]

@[simp] theorem ensureFilterMatch_self (value : Option String) (message : String) :
    ensureFilterMatch value value message = .ok () := by
  simp [ensureFilterMatch]

/-! ## Identity -/

structure UserListFilters where
  q : Option String
  status : String
deriving DecidableEq, Repr

def listUsers (texts : SqlTexts) :
    ListEndpoint ListedTables (Option String) UserListFilters (Dated Auth.User)
      (TimeKey Uuid) where
  ensureExists _ _ := .ok ()
  filters q status := do
    let status ← normalizeUserStatus status
    return ⟨normalizeQuery q, status⟩
  ensureMatch cursor request := do
    ensureFilterMatch cursor.q request.q "cursor does not match query"
    ensureFilterMatch (some cursor.status) (some request.status)
      "cursor does not match status filter"
  isSqlText filters := filters.q.all isSqlText
  rows state := state.users.rows
  selects filters user :=
    (filters.status == "all" || (filters.status == "active" && user.row.disabledAt.isNone) ||
      (filters.status == "disabled" && user.row.disabledAt.isSome)) &&
    (likePattern filters.q).all fun pattern =>
      texts.ilike user.row.username pattern || texts.ilike (texts.uuidText user.row.id) pattern
  key user := timeKey user.createdAt user.row.id
  ensureMatch_self _ := by simp [bind, Except.bind]
  distinct _ _ := distinct_rows fun _ _ _ _ same => (timeKey_inj.mp same).2

/-- `ensure_user_exists`. -/
def ensureUserExists (state : ListedTables) (userId : Uuid) : Except ListError Unit :=
  if (state.users.find userId).isSome then .ok () else .error (.notFound "user not found")

def listUserSessions : ListEndpoint ListedTables Uuid Uuid Auth.Session (TimeKey Uuid) where
  ensureExists := ensureUserExists
  filters _ userId := .ok userId
  ensureMatch := ensureParentMatch "cursor does not match user"
  isSqlText _ := true
  rows state := state.sessions.rows
  selects userId session := decide (session.userId = some userId)
  key session := timeKey session.createdAt session.selector
  ensureMatch_self := ensureParentMatch_self _
  distinct _ _ := distinct_rows fun _ _ _ _ same => (timeKey_inj.mp same).2

def listUserSsoAuthorizations :
    ListEndpoint ListedTables Uuid Uuid (Dated Auth.Authorization) (TimeKey Uuid) where
  ensureExists := ensureUserExists
  filters _ userId := .ok userId
  ensureMatch := ensureParentMatch "cursor does not match user"
  isSqlText _ := true
  rows state := state.authorizations.rows
  selects userId authorization := decide (authorization.row.userId = some userId)
  key authorization := timeKey authorization.createdAt authorization.row.authorizationId
  ensureMatch_self := ensureParentMatch_self _
  distinct _ _ := distinct_rows fun _ _ _ _ same => (timeKey_inj.mp same).2

/-! ## Audit -/

structure AuditEventListQuery where
  actorUserId : Option Uuid
  resourceType : Option String
  resourceId : Option String
  eventType : Option String
deriving DecidableEq, Repr

/-- The filters, with the texts trimmed. -/
def AuditEventListQuery.normalized (query : AuditEventListQuery) : AuditEventListQuery where
  actorUserId := query.actorUserId
  resourceType := normalizeFilter query.resourceType
  resourceId := normalizeFilter query.resourceId
  eventType := normalizeFilter query.eventType

def listEvents :
    ListEndpoint ListedTables AuditEventListQuery AuditEventListQuery AuditEventRow
      (TimeKey Uuid) where
  ensureExists _ _ := .ok ()
  filters _ query := .ok query.normalized
  ensureMatch cursor request :=
    if cursor.actorUserId ≠ request.actorUserId ∨ cursor.resourceType ≠ request.resourceType ∨
        cursor.resourceId ≠ request.resourceId ∨ cursor.eventType ≠ request.eventType then
      .error (.badRequest "cursor does not match filters")
    else .ok ()
  isSqlText filters := filters.resourceType.all isSqlText && filters.resourceId.all isSqlText &&
    filters.eventType.all isSqlText
  rows state := state.auditEvents.rows
  selects filters event := isFiltered filters.actorUserId event.actorUserId &&
    isFiltered filters.resourceType (some event.resourceType) &&
    isFiltered filters.resourceId event.resourceId &&
    isFiltered filters.eventType (some event.eventType)
  key event := timeKey event.createdAt event.id
  ensureMatch_self _ := by simp
  distinct _ _ := distinct_rows fun _ _ _ _ same => (timeKey_inj.mp same).2

/-! ## Users of the tweets -/

structure TwitterUserItem where
  user : Dated TwitterUser
  latestSnapshot : Option UserSnapshot
  latestStats : Option (Version UserStatsColumns)

/-- A snapshot that is missing has no names: they are coalesced to the empty text. -/
def listTwitterUsers (texts : SqlTexts) :
    ListEndpoint ListedTables Unit (Option String) TwitterUserItem (TimeKey Int) where
  ensureExists _ _ := .ok ()
  filters q _ := .ok (normalizeQuery q)
  ensureMatch cursorQ q := ensureFilterMatch cursorQ q "cursor does not match query"
  isSqlText q := q.all isSqlText
  rows state := state.twitterUsers.rows.map fun user => ⟨user,
    Query.latest state.userSnapshots user.row.id, Query.latest state.userStats user.row.id⟩
  selects q item :=
    let name (column : UserSnapshot → String) := texts.lower (item.latestSnapshot.elim "" column)
    isLike (prefixPattern q) [some (toString item.user.row.id)] ||
      isLike (lowercasePrefixPattern q) [some (name fun snapshot => snapshot.content.userName),
        some (name fun snapshot => snapshot.content.displayName)]
  key item := timeKey item.user.updatedAt item.user.row.id
  ensureMatch_self _ := by simp
  distinct _ _ := distinct_map fun _ _ _ _ same => (timeKey_inj.mp same).2

/-- `ensure_twitter_user_exists`. -/
def ensureTwitterUserExists (state : ListedTables) (userId : Int) : Except ListError Unit :=
  if (state.twitterUsers.find userId).isSome then .ok ()
  else .error (.notFound "twitter user not found")

/-- The versions of one subject, the newest first. -/
def listVersions {χ : Type} (ensureExists : ListedTables → Int → Except ListError Unit)
    (table : ListedTables → Table (Version χ)) (message : String) :
    ListEndpoint ListedTables Int Int (Version χ) Timestamp where
  ensureExists := ensureExists
  filters _ subjectId := .ok subjectId
  ensureMatch := ensureParentMatch message
  isSqlText _ := true
  rows state := (table state).rows
  selects subjectId version := decide (version.subjectId = subjectId)
  key := Version.recordedAt
  ensureMatch_self := ensureParentMatch_self _
  distinct _ _ := distinct_rows fun a b isSelected isSelected' same => by
    have sameSubject : a.subjectId = b.subjectId :=
      (of_decide_eq_true isSelected).trans (of_decide_eq_true isSelected').symm
    exact Prod.ext sameSubject same

def listTwitterUserSnapshots : ListEndpoint ListedTables Int Int UserSnapshot Timestamp :=
  listVersions ensureTwitterUserExists ListedTables.userSnapshots "cursor does not match user"

def listTwitterUserStats :
    ListEndpoint ListedTables Int Int (Version UserStatsColumns) Timestamp :=
  listVersions ensureTwitterUserExists ListedTables.userStats "cursor does not match user"

/-! ## Media -/

/-- `v_latest_transfer_overview`: the last task of the media. -/
def latestTransfer (state : ListedTables) (mediaId : Int) : Option TransferTask :=
  (orderBy (fun task : TransferTask => [-(task.lease.completedAt.getD task.lease.updatedAt),
      -task.lease.createdAt, -(task.id : Int)])
    (state.transferTasks.rows.filter fun task => decide (task.mediaId = mediaId))).head?

/-- The storage object of a task, where it has one. -/
def storageObjectOf (state : ListedTables) (task : TransferTask) : Option StorageObject :=
  task.storageObjectId.bind state.storageObjects.find

/-- The row of `media_select_sql`. -/
structure MediaItem where
  media : Dated Tweet.Media
  transfer : Option TransferTask
  storageObject : Option StorageObject

def mediaItem (state : ListedTables) (media : Dated Tweet.Media) : MediaItem where
  media := media
  transfer := latestTransfer state media.row.id
  storageObject := (latestTransfer state media.row.id).bind (storageObjectOf state)

structure MediaListQuery where
  mediaType : Option String
  transferStatus : Option String

structure MediaListFilters where
  q : Option String
  mediaType : String
  transferStatus : String
deriving DecidableEq, Repr

def listMedia :
    ListEndpoint ListedTables MediaListQuery MediaListFilters MediaItem (TimeKey Int) where
  ensureExists _ _ := .ok ()
  filters q query := do
    let mediaType ← normalizeMediaType query.mediaType
    let transferStatus ← normalizeTransferStatus query.transferStatus
    return ⟨normalizeQuery q, mediaType, transferStatus⟩
  ensureMatch cursor request := do
    ensureFilterMatch cursor.q request.q "cursor does not match query"
    if cursor.mediaType ≠ request.mediaType ∨ cursor.transferStatus ≠ request.transferStatus then
      throw (.badRequest "cursor does not match filters")
  isSqlText filters := filters.q.all isSqlText
  rows state := state.media.rows.map (mediaItem state)
  selects filters item :=
    isWanted filters.mediaType (some (mediaTypeText item.media.row.mediaType)) &&
    isWanted filters.transferStatus (item.transfer.map fun task => task.status.asDbStr) &&
    isLike (prefixPattern filters.q) [some (toString item.media.row.id),
      item.media.row.originTweetId.map toString, item.media.row.originUserId.map toString]
  key item := timeKey item.media.updatedAt item.media.row.id
  ensureMatch_self _ := by simp [bind, Except.bind, pure, Except.pure]
  distinct _ _ := distinct_map fun _ _ _ _ same => (timeKey_inj.mp same).2

/-- `ensure_media_exists`. -/
def ensureMediaExists (state : ListedTables) (mediaId : Int) : Except ListError Unit :=
  if (state.media.find mediaId).isSome then .ok () else .error (.notFound "media not found")

def listMediaResources : ListEndpoint ListedTables Int Int MediaResource Timestamp :=
  listVersions ensureMediaExists ListedTables.mediaResources "cursor does not match media"

/-- A tweet that refers to the media. -/
structure MediaTweetItem where
  ref : MediaRef
  tweet : StoredTweet

def listMediaTweets : ListEndpoint ListedTables Int Int MediaTweetItem (TimeKey Int) where
  ensureExists := ensureMediaExists
  filters _ mediaId := .ok mediaId
  ensureMatch := ensureParentMatch "cursor does not match media"
  isSqlText _ := true
  rows state := state.mediaRefs.rows.filterMap fun ref =>
    (state.tweets.find ref.tweetId).map (MediaTweetItem.mk ref)
  selects mediaId item := decide (item.ref.mediaId = mediaId)
  key item := timeKey item.tweet.row.publishedAt item.tweet.id
  ensureMatch_self := ensureParentMatch_self _
  distinct state mediaId := by
    refine distinct_filterMap fun a b item item' isItem isItem' isSelected isSelected' same => ?_
    obtain ⟨tweet, found, rfl⟩ := Option.map_eq_some_iff.mp isItem
    obtain ⟨tweet', found', rfl⟩ := Option.map_eq_some_iff.mp isItem'
    -- One media refers to a tweet once.
    have sameTweet : a.tweetId = b.tweetId :=
      (Table.find_key found).symm.trans ((timeKey_inj.mp same).2.trans (Table.find_key found'))
    have sameMedia : a.mediaId = b.mediaId :=
      (of_decide_eq_true isSelected).trans (of_decide_eq_true isSelected').symm
    exact Prod.ext sameTweet sameMedia

/-- The row of `transfer_task_select_sql`. -/
structure TransferTaskItem where
  task : TransferTask
  storageObjectKey : Option String

def transferTaskItem (state : ListedTables) (task : TransferTask) : TransferTaskItem where
  task := task
  storageObjectKey := (storageObjectOf state task).map fun object => object.metadata.objectKey

def TransferTaskItem.key (item : TransferTaskItem) : TimeKey Uuid :=
  timeKey item.task.lease.updatedAt item.task.id

/-- The tasks of one parent. -/
def listParentTasks {ι : Type} [DecidableEq ι]
    (ensureExists : ListedTables → ι → Except ListError Unit) (parent : TransferTask → Option ι)
    (message : String) : ListEndpoint ListedTables ι ι TransferTaskItem (TimeKey Uuid) where
  ensureExists := ensureExists
  filters _ parentId := .ok parentId
  ensureMatch := ensureParentMatch message
  isSqlText _ := true
  rows state := state.transferTasks.rows.map (transferTaskItem state)
  selects parentId item := decide (parent item.task = some parentId)
  key := TransferTaskItem.key
  ensureMatch_self := ensureParentMatch_self _
  distinct _ _ := distinct_map fun _ _ _ _ same => (timeKey_inj.mp same).2

def listMediaTransferTasks :
    ListEndpoint ListedTables Int Int TransferTaskItem (TimeKey Uuid) :=
  listParentTasks ensureMediaExists (fun task => some task.mediaId) "cursor does not match media"

/-- A media of the tweet. -/
structure TweetMediaItem where
  ref : MediaRef
  media : MediaItem

/-- `ensure_tweet_exists`. -/
def ensureTweetExists (state : ListedTables) (tweetId : Int) : Except ListError Unit :=
  if (state.tweets.find tweetId).isSome then .ok () else .error (.notFound "tweet not found")

/-- In ascending order: the order of the tweet, and then of the ids. -/
def listTweetMedia : ListEndpoint ListedTables Int Int TweetMediaItem (Int ×ₗ Int)ᵒᵈ where
  ensureExists := ensureTweetExists
  filters _ tweetId := .ok tweetId
  ensureMatch := ensureParentMatch "cursor does not match tweet"
  isSqlText _ := true
  rows state := state.mediaRefs.rows.filterMap fun ref =>
    (state.media.find ref.mediaId).map fun media => ⟨ref, mediaItem state media⟩
  selects tweetId item := decide (item.ref.tweetId = tweetId)
  key item := OrderDual.toDual (toLex (item.ref.displayOrder, item.media.media.row.id))
  ensureMatch_self := ensureParentMatch_self _
  distinct state tweetId := by
    refine distinct_filterMap fun a b item item' isItem isItem' isSelected isSelected' same => ?_
    obtain ⟨media, found, rfl⟩ := Option.map_eq_some_iff.mp isItem
    obtain ⟨media', found', rfl⟩ := Option.map_eq_some_iff.mp isItem'
    have sameKey := Prod.mk.inj (toLex_inj.mp (OrderDual.toDual_inj.mp same))
    have sameMedia : a.mediaId = b.mediaId :=
      (Table.find_key found).symm.trans (sameKey.2.trans (Table.find_key found'))
    have sameTweet : a.tweetId = b.tweetId :=
      (of_decide_eq_true isSelected).trans (of_decide_eq_true isSelected').symm
    exact Prod.ext sameTweet sameMedia

/-! ## Storage and queues -/

structure StorageObjectItem where
  object : StorageObject
  taskCount : Nat

def storageObjectItem (state : ListedTables) (object : StorageObject) : StorageObjectItem where
  object := object
  taskCount := (state.transferTasks.rows.filter fun task =>
    decide (task.storageObjectId = some object.metadata.id)).length

def listStorageObjects (texts : SqlTexts) :
    ListEndpoint ListedTables Unit (Option String) StorageObjectItem (TimeKey Uuid) where
  ensureExists _ _ := .ok ()
  filters q _ := .ok (normalizeQuery q)
  ensureMatch cursorQ q := ensureFilterMatch cursorQ q "cursor does not match query"
  isSqlText q := q.all isSqlText
  rows state := state.storageObjects.rows.map (storageObjectItem state)
  selects q item := isLike (prefixPattern q)
    [some (texts.uuidText item.object.metadata.id), some item.object.metadata.objectKey]
  key item := timeKey item.object.createdAt item.object.metadata.id
  ensureMatch_self _ := by simp
  distinct _ _ := distinct_map fun _ _ _ _ same => (timeKey_inj.mp same).2

/-- `fetch_storage_object_row`. -/
def ensureStorageObjectExists (state : ListedTables) (objectId : Uuid) : Except ListError Unit :=
  if (state.storageObjects.find objectId).isSome then .ok ()
  else .error (.notFound "storage object not found")

def listStorageObjectTransferTasks :
    ListEndpoint ListedTables Uuid Uuid TransferTaskItem (TimeKey Uuid) :=
  listParentTasks ensureStorageObjectExists TransferTask.storageObjectId
    "cursor does not match storage object"

structure TransferTaskListFilters where
  q : Option String
  status : String
deriving DecidableEq, Repr

/-- The transfer tasks. -/
def listTasks (texts : SqlTexts) :
    ListEndpoint ListedTables (Option String) TransferTaskListFilters TransferTaskItem
      (TimeKey Uuid) where
  ensureExists _ _ := .ok ()
  filters q status := do
    let status ← normalizeTransferStatus status
    return ⟨normalizeQuery q, status⟩
  ensureMatch cursor request := do
    ensureFilterMatch cursor.q request.q "cursor does not match query"
    ensureFilterMatch (some cursor.status) (some request.status)
      "cursor does not match status filter"
  isSqlText filters := filters.q.all isSqlText
  rows state := state.transferTasks.rows.map (transferTaskItem state)
  selects filters item := isWanted filters.status (some item.task.status.asDbStr) &&
    isLike (prefixPattern filters.q) [some (texts.uuidText item.task.id),
      some (toString item.task.mediaId), some (item.storageObjectKey.getD "")]
  key := TransferTaskItem.key
  ensureMatch_self _ := by simp [bind, Except.bind]
  distinct _ _ := distinct_map fun _ _ _ _ same => (timeKey_inj.mp same).2

structure IndexTaskListQuery where
  status : Option String
  targetKind : Option String

structure IndexTaskListFilters where
  q : Option String
  status : String
  targetKind : String
deriving DecidableEq, Repr

def listIndexTasks (texts : SqlTexts) :
    ListEndpoint ListedTables IndexTaskListQuery IndexTaskListFilters IndexTask
      (TimeKey Uuid) where
  ensureExists _ _ := .ok ()
  filters q query := do
    let status ← normalizeIndexStatus query.status
    let targetKind ← normalizeIndexTargetKind query.targetKind
    return ⟨normalizeQuery q, status, targetKind⟩
  ensureMatch cursor request := do
    ensureFilterMatch cursor.q request.q "cursor does not match query"
    if cursor.status ≠ request.status ∨ cursor.targetKind ≠ request.targetKind then
      throw (.badRequest "cursor does not match filters")
  isSqlText filters := filters.q.all isSqlText
  rows state := state.indexQueue.rows
  selects filters task := isWanted filters.status (some (indexStatusText task.status)) &&
    isWanted filters.targetKind (some (targetKindText task.target.kind)) &&
    isLike (prefixPattern filters.q)
      [some (texts.uuidText task.id), some (toString task.target.id)]
  key task := timeKey task.lease.updatedAt task.id
  ensureMatch_self _ := by simp [bind, Except.bind, pure, Except.pure]
  distinct _ _ := distinct_rows fun _ _ _ _ same => (timeKey_inj.mp same).2

/-! ## All listings -/

theorem listings_visit_once (texts : SqlTexts) :
    (listUsers texts).VisitsOnce ∧ listUserSessions.VisitsOnce ∧
      listUserSsoAuthorizations.VisitsOnce ∧ listEvents.VisitsOnce ∧
      (listTwitterUsers texts).VisitsOnce ∧ listTwitterUserSnapshots.VisitsOnce ∧
      listTwitterUserStats.VisitsOnce ∧ listMedia.VisitsOnce ∧ listMediaResources.VisitsOnce ∧
      listMediaTweets.VisitsOnce ∧ listMediaTransferTasks.VisitsOnce ∧
      listTweetMedia.VisitsOnce ∧ (listStorageObjects texts).VisitsOnce ∧
      listStorageObjectTransferTasks.VisitsOnce ∧ (listTasks texts).VisitsOnce ∧
      (listIndexTasks texts).VisitsOnce := by
  refine ⟨?_, ?_, ?_, ?_, ?_, ?_, ?_, ?_, ?_, ?_, ?_, ?_, ?_, ?_, ?_, ?_⟩
  all_goals exact ListEndpoint.visitsOnce _

/-! ### Three tasks of a media -/

def listedTask (id : Uuid) (recordedAt updatedAt : Timestamp) : TransferTask where
  id := id
  mediaId := 7
  sourceRecordedAt := recordedAt
  sourceUrl := "https://pbs.twimg.com/media/a.jpg"
  sourceKind := "media_url"
  sourceContentType := none
  lease := Leasing.Lease.created updatedAt
  storageObjectId := none

def listedTables (tasks : Table TransferTask) : ListedTables where
  users := .empty
  sessions := .empty
  authorizations := .empty
  auditEvents := .empty
  twitterUsers := .empty
  userSnapshots := .empty
  userStats := .empty
  media := ⟨[⟨⟨7, .photo, none, none, none, none, [], [], none, none, none⟩, 0, 0⟩], by decide⟩
  mediaResources := .empty
  tweets := .empty
  mediaRefs := .empty
  transferTasks := tasks
  storageObjects := .empty
  indexQueue := .empty

def threeTasks : ListedTables :=
  listedTables ⟨[listedTask 1 1 3000000, listedTask 2 2 2000000, listedTask 3 3 1000000],
    by decide⟩

/-- The second task has been claimed in the meantime. -/
def claimedTask : ListedTables :=
  listedTables ⟨[listedTask 1 1 3000000, listedTask 2 2 5000000, listedTask 3 3 1000000],
    by decide⟩

/-- The cursor of a task, by what its second and its id make of the text. -/
def taskCursorText (second id : String) : String :=
  "eyJ2IjoxLCJtZWRpYV9pZCI6NywidXBkYXRlZF9hdCI6IjE5NzAtMDEtMDFUMDA6MDA6MD" ++ second ++
    "aIiwiaWQiOiIwMDAwMDAwMC0wMDAwLTAwMDAtMDAwMC0wMDAwMDAwMDAwMD" ++ id ++ "ifQ"

def taskCursors : CursorCodec (ListCursor Int (TimeKey Uuid)) := tableCodec
  [(⟨1, 7, timeKey 3000000 1⟩, taskCursorText "N" "E"),
    (⟨1, 7, timeKey 2000000 2⟩, taskCursorText "J" "I"),
    (⟨1, 7, timeKey 1000000 3⟩, taskCursorText "F" "M"),
    (⟨1, 7, timeKey 5000000 2⟩, taskCursorText "V" "I")]

theorem taskCursors_survive : ∀ state ∈ [threeTasks, claimedTask],
    ∀ row ∈ listMediaTransferTasks.selected 7 state,
      taskCursors.Survives ⟨cursorVersion, 7, listMediaTransferTasks.key row⟩ := by
  have checked : ∀ state ∈ [threeTasks, claimedTask],
      ∀ row ∈ listMediaTransferTasks.selected 7 state,
        ((taskCursors.encodeCursor ⟨cursorVersion, 7, row.key⟩).toOption.any fun text =>
          decide ((taskCursors.decodeCursor text).toOption = some ⟨cursorVersion, 7, row.key⟩)) =
            true := by decide +kernel
  intro state isState row isSelected
  obtain ⟨text, encoded, decoded⟩ :=
    (Option.any_eq_true _ _).mp (checked state isState row isSelected)
  exact ⟨text, toOption_eq_some encoded, toOption_eq_some (of_decide_eq_true decoded)⟩

/-- The tasks on pages of one. -/
def taskPages (state : ListedTables) (cursor : Option String) :
    Except ListError (Page TransferTaskItem String) :=
  listMediaTransferTasks.answer taskCursors state
    (ListRequest.withCursor ⟨⟨none, some 1, none⟩, 7⟩ cursor)

/-- The second task is claimed after the first request.  It moves to the front, and the second page
is the last one. -/
theorem listings_visit_once_claimed : ∃ pages,
    walk taskPages [threeTasks, claimedTask] none = .ok pages ∧
      Visits TransferTaskItem.key (listMediaTransferTasks.selected 7) [threeTasks, claimedTask]
        none pages ∧
      pages.map (fun page => page.data.map fun item => item.task.id) = [[1], [3]] := by
  obtain ⟨pages, walked, visits⟩ := (listings_visit_once
    ⟨fun id => toString id, id, like⟩).2.2.2.2.2.2.2.2.2.2.1 taskCursors ⟨⟨none, some 1, none⟩, 7⟩ 7
      [threeTasks, claimedTask] rfl rfl (by decide +kernel) taskCursors_survive
  have ran : (walk taskPages [threeTasks, claimedTask] none).map (fun pages =>
      pages.map fun page => page.data.map fun item => item.task.id) = .ok [[1], [3]] := by
    decide +kernel
  refine ⟨pages, walked, visits, ?_⟩
  have same : walk taskPages [threeTasks, claimedTask] none = .ok pages := walked
  rw [same] at ran
  exact Except.ok.inj ran

end TweetDb.Api
