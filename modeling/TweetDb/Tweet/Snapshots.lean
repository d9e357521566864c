import TweetDb.Relational.Select
import TweetDb.Search.Queue
import TweetDb.Tweet.Types
import TweetDb.Versions.History

/-! # Snapshots and resources

`tweet.append_user_snapshots_if_changed` and
`tweet.append_media_resources_if_changed` are one statement over two tables.  An
observation is stored unless the newest version stored at or before its time,
as the statement began, has the same content.
-/

namespace TweetDb.Tweet

open Relational Versions

/-- The content columns of a version table, compared with `IS NOT DISTINCT FROM`. -/
class VersionColumns (κ : Type) where
  notDistinct : κ → κ → Bool
  notDistinct_iff : ∀ {a b}, notDistinct a b = true ↔ a = b

/-- A row of `tweet.user_snapshot` or `tweet.media_resource`. -/
structure Version (κ : Type) where
  subjectId : Int
  recordedAt : Timestamp
  content : κ
deriving DecidableEq, Repr

variable {κ : Type}

/-- The primary key `(…_id, recorded_at)`. -/
instance : Row (Version κ) (Int × Timestamp) := .ofKey fun row => (row.subjectId, row.recordedAt)

@[simp] theorem Version.clash_iff {a b : Version κ} :
    Row.clash a b ↔ a.subjectId = b.subjectId ∧ a.recordedAt = b.recordedAt :=
  Prod.ext_iff

inductive AppendStatus where
  | missingParent
  | inserted
  | unchanged
  | duplicate
deriving DecidableEq, Repr

/-- A row of the `classified` part. -/
structure ClassifiedVersion (κ : Type) where
  version : Version κ
  hasParent : Bool
  unchanged : Bool

def versionsOf (table : Table (Version κ)) (subjectId : Int) : List (Version κ) :=
  table.rows.filter fun row => decide (row.subjectId = subjectId)

/-- `WHERE recorded_at <= … ORDER BY recorded_at DESC LIMIT 1`. -/
def latestAt (table : Table (Version κ)) (subjectId : Int) (t : Timestamp) : Option (Version κ) :=
  atOrBefore Version.recordedAt (versionsOf table subjectId) t

/-- `v_latest_user_snapshot` and `v_latest_media_resource`. -/
def vLatest (table : Table (Version κ)) : List (Version κ) :=
  distinctOn Version.subjectId (orderBy (fun row => [row.subjectId, -row.recordedAt]) table.rows)

section Append

variable [VersionColumns κ]

def classify (hasParent : Int → Bool) (table : Table (Version κ)) (input : Version κ) :
    ClassifiedVersion κ where
  version := input
  hasParent := hasParent input.subjectId
  unchanged := hasParent input.subjectId &&
    match latestAt table input.subjectId input.recordedAt with
    | some latest => VersionColumns.notDistinct latest.content input.content
    | none => false

/-- `SELECT DISTINCT ON (…_id, recorded_at) … ORDER BY …_id, recorded_at`. -/
def distinctInput (input : List (Version κ)) : List (Version κ) :=
  distinctOn (fun row => (row.subjectId, row.recordedAt))
    (orderBy (fun row => [row.subjectId, row.recordedAt]) input)

def ClassifiedVersion.status (inserted : List (Version κ)) (row : ClassifiedVersion κ) :
    AppendStatus :=
  if row.hasParent = false then .missingParent
  else if inserted.any fun new => decide (Row.clash new row.version) then .inserted
  else if row.unchanged then .unchanged
  else .duplicate

/-- What one call appends to a version table. -/
structure Appended (κ : Type) where
  statuses : List (Int × Timestamp × AppendStatus)
  inserted : List (Version κ)
  table : Table (Version κ)

def appendIfChanged (hasParent : Int → Bool) (input : List (Version κ))
    (table : Table (Version κ)) : Appended κ :=
  let classified := (distinctInput input).map (classify hasParent table)
  let new := (classified.filter fun row => row.hasParent && !row.unchanged).map (·.version)
  let inserted := table.insertNew new
  { statuses := classified.map fun row =>
      (row.version.subjectId, row.version.recordedAt, row.status inserted.1)
    inserted := inserted.1
    table := inserted.2 }

end Append

/-! ## User snapshots -/

structure UserSnapshotColumns where
  displayName : String
  userName : String
  avatarUrl : Option String
  usesDefaultAvatar : Option Bool
  avatarShape : Option String
  bannerUrl : Option String
  location : Option String
  bio : Option AnnotatedText
  profileLinks : List ResolvedUrl
  identity : Option UserIdentity
  features : Option UserFeatures
  professional : Option UserProfessional
  pinnedTweetIds : List Int
deriving DecidableEq, Repr

instance : VersionColumns UserSnapshotColumns where
  notDistinct latest input :=
    decide (latest.displayName = input.displayName)
      && decide (latest.userName = input.userName)
      && decide (latest.avatarUrl = input.avatarUrl)
      && decide (latest.usesDefaultAvatar = input.usesDefaultAvatar)
      && decide (latest.avatarShape = input.avatarShape)
      && decide (latest.bannerUrl = input.bannerUrl)
      && decide (latest.location = input.location)
      && decide (latest.bio = input.bio)
      && decide (latest.profileLinks = input.profileLinks)
      && decide (latest.identity = input.identity)
      && decide (latest.features = input.features)
      && decide (latest.professional = input.professional)
      && decide (latest.pinnedTweetIds = input.pinnedTweetIds)
  notDistinct_iff := by
    rintro ⟨⟩ ⟨⟩
    simp only [Bool.and_eq_true, decide_eq_true_eq, UserSnapshotColumns.mk.injEq, and_assoc]

abbrev UserSnapshot := Version UserSnapshotColumns

/-- A record of `p_snapshots`. -/
structure UserSnapshotPayload where
  userId : Int
  recordedAt : Timestamp
  displayName : String
  userName : String
  avatarUrl : Option String
  usesDefaultAvatar : Option Bool
  avatarShape : Option String
  bannerUrl : Option String
  location : Option String
  bio : Option AnnotatedText
  profileLinks : Option (List ResolvedUrl)
  identity : Option UserIdentity
  features : Option UserFeatures
  professional : Option UserProfessional
  pinnedTweetIds : Option (List Int)
deriving DecidableEq, Repr

/-- Absent arrays are stored empty. -/
def UserSnapshotPayload.toVersion (item : UserSnapshotPayload) : UserSnapshot where
  subjectId := item.userId
  recordedAt := item.recordedAt
  content :=
    { displayName := item.displayName
      userName := item.userName
      avatarUrl := item.avatarUrl
      usesDefaultAvatar := item.usesDefaultAvatar
      avatarShape := item.avatarShape
      bannerUrl := item.bannerUrl
      location := item.location
      bio := item.bio
      profileLinks := item.profileLinks.getD []
      identity := item.identity
      features := item.features
      professional := item.professional
      pinnedTweetIds := item.pinnedTweetIds.getD [] }

structure UserTables where
  users : Table TwitterUser
  snapshots : Table UserSnapshot
  indexQueue : Table Search.IndexTask

/-- A call with the ids `gen_random_uuid` gives to new queue rows and the time of the call. -/
structure SnapshotCall where
  snapshots : List UserSnapshotPayload
  newId : Search.IndexTarget → Uuid
  now : Timestamp

def UserTables.hasUser (tables : UserTables) (userId : Int) : Bool := (tables.users.find userId).isSome

/-- `tweet.append_user_snapshots_if_changed`; it fails only where the queue refresh does. -/
def appendUserSnapshotsIfChanged (call : SnapshotCall) (tables : UserTables) :
    Option (List (Int × Timestamp × AppendStatus) × UserTables) :=
  let appended := appendIfChanged tables.hasUser
    (call.snapshots.map UserSnapshotPayload.toVersion) tables.snapshots
  (Search.enqueueTargets (appended.inserted.map fun row => ⟨.user, row.subjectId⟩) true call.newId
    call.now tables.indexQueue).map fun queued =>
      (appended.statuses, { tables with snapshots := appended.table, indexQueue := queued.2 })

/-! ## Media resources -/

structure MediaResourceColumns where
  mediaUrl : Option String
  availability : Option String
  video : Option MediaVideo
deriving DecidableEq, Repr

instance : VersionColumns MediaResourceColumns where
  notDistinct latest input :=
    decide (latest.mediaUrl = input.mediaUrl)
      && decide (latest.availability = input.availability)
      && decide (latest.video = input.video)
  notDistinct_iff := by
    rintro ⟨⟩ ⟨⟩
    simp only [Bool.and_eq_true, decide_eq_true_eq, MediaResourceColumns.mk.injEq, and_assoc]

abbrev MediaResource := Version MediaResourceColumns

structure MediaTables where
  media : Table Media
  resources : Table MediaResource

def MediaTables.hasMedia (tables : MediaTables) (mediaId : Int) : Bool :=
  (tables.media.find mediaId).isSome

/-- `tweet.append_media_resources_if_changed`. -/
def appendMediaResourcesIfChanged (resources : List MediaResource) (tables : MediaTables) :
    List (Int × Timestamp × AppendStatus) × MediaTables :=
  let appended := appendIfChanged tables.hasMedia resources tables.resources
  (appended.statuses, { tables with resources := appended.table })

end TweetDb.Tweet
