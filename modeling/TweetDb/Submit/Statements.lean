import TweetDb.Submit.References
import TweetDb.Transfer.Source
import TweetDb.Tweet.Stats

/-! # The statements of a batch

Each write of a submit call is one statement over all rows of its kind.  When
the database refuses a row the statement has no effect, and all that comes back
is a text.  What the database itself refuses (a text with U+0000, a time it
cannot hold, a dictionary that is full) is given from outside, as a function of
the rows sent; the keys and references of the schema are checked here.
-/

namespace TweetDb.Submit

open Relational TweetModel
open TweetDb.Search (IndexTarget IndexTask)
open TweetDb.Transfer (EnqueueTransferTask TransferEnqueueStatus TransferTask VariantChoice)
open TweetDb.Tweet (AnnotatedText AppendStatus ChildStatus ConstraintViolation MediaPayload
  MediaTables RefParents StatsStatus TweetCommunityNote TweetEdit TweetEditPayload TweetPlace
  TweetPolicy TweetPolicyPayload TweetRow TweetStats TweetStatsColumns TweetTables TwitterUser
  UserSnapshotPayload UserStats UserStatsColumns UserTables Version)

/-! ## Dictionary texts -/

inductive StringSemantic where
  | tweetTextStyleName
  | tweetUserVerificationType
  | tweetUserProfessionalType
  | tweetUserDisclosureRelation
  | tweetUserParodyLabel
  | tweetUserAvatarShape
  | tweetCountryName
  | tweetCountryCode
  | tweetLanguageCode
  | tweetMediaAvailabilityStatus
  | tweetMediaSensitivityCode
  | tweetMediaTagKind
  | tweetMediaResizeMode
  | tweetVideoContentType
  | tweetPlaceKind
  | tweetReplyPolicyCode
  | tweetActionCode
  | tweetSource
deriving DecidableEq, Repr

structure DictEntry where
  semantic : StringSemantic
  value : String
deriving DecidableEq, Repr

/-- `push_optional_entry`. -/
def optionalEntry (semantic : StringSemantic) (value : Option String) : List DictEntry :=
  (value.map (DictEntry.mk semantic)).toList

/-- `collect_annotated_text_dicts`. -/
def annotatedTextDicts (text : AnnotatedText) : List DictEntry :=
  text.styles.flatMap fun style => style.styles.map (DictEntry.mk .tweetTextStyleName)

/-- `collect_user_snapshot_dicts`, of one snapshot. -/
def userSnapshotDicts (snapshot : UserSnapshot) : List DictEntry :=
  optionalEntry .tweetUserAvatarShape snapshot.avatarShape ++
    snapshot.bio.elim [] annotatedTextDicts ++
    snapshot.identity.elim [] (fun identity =>
      optionalEntry .tweetUserVerificationType
          (identity.verification.bind Tweet.UserVerification.verifiedType) ++
        optionalEntry .tweetUserDisclosureRelation
          (identity.disclosure.bind Tweet.UserDisclosure.relation) ++
        optionalEntry .tweetUserParodyLabel identity.parodyLabel) ++
    optionalEntry .tweetUserProfessionalType
      (snapshot.professional.bind Tweet.UserProfessional.professionalType)

/-- `collect_tweet_place_dicts`, of one place. -/
def tweetPlaceDicts (place : TweetPlace) : List DictEntry :=
  optionalEntry .tweetCountryName place.country ++
    optionalEntry .tweetCountryCode place.countryCode ++ optionalEntry .tweetPlaceKind place.kind

/-- `collect_tweet_dicts`, of one tweet. -/
def tweetDicts (tweet : TweetRow) : List DictEntry :=
  optionalEntry .tweetSource tweet.source ++ optionalEntry .tweetLanguageCode tweet.language ++
    annotatedTextDicts tweet.legacyText ++ tweet.noteText.elim [] annotatedTextDicts

/-- `collect_tweet_policy_dicts`, of one policy. -/
def tweetPolicyDicts (policy : TweetPolicy) : List DictEntry :=
  optionalEntry .tweetReplyPolicyCode policy.replyPolicy ++
    policy.availableActions.map (DictEntry.mk .tweetActionCode)

/-- `collect_tweet_community_note_dicts`, of one note. -/
def tweetCommunityNoteDicts (note : TweetCommunityNote) : List DictEntry :=
  note.subtitle.elim [] annotatedTextDicts ++ note.footer.elim [] annotatedTextDicts

/-- `collect_media_dicts`, of one media. -/
def mediaDicts (item : Media) : List DictEntry :=
  item.sizeVariants.elim [] (fun variants =>
    [variants.large, variants.medium, variants.small, variants.thumb].reduceOption.map
      fun variant => ⟨.tweetMediaResizeMode, variant.resizeMode⟩) ++
    item.taggedUsers.flatMap (fun tag => optionalEntry .tweetMediaTagKind tag.kind) ++
    item.sensitivityWarnings.map (DictEntry.mk .tweetMediaSensitivityCode)

/-- `collect_media_resource_dicts`, of one resource. -/
def mediaResourceDicts (resource : MediaResource) : List DictEntry :=
  optionalEntry .tweetMediaAvailabilityStatus resource.availability ++
    resource.video.elim [] fun video =>
      video.variants.map fun variant => ⟨.tweetVideoContentType, variant.contentType⟩

/-! ## What comes from outside -/

/-- The text with which the database refuses the rows of a statement, if it does. -/
structure Refusals where
  dict : List DictEntry → Option String
  users : List TwitterUser → Option String
  userSnapshots : List UserSnapshotPayload → Option String
  userStats : List UserStats → Option String
  media : List MediaPayload → Option String
  mediaResources : List Tweet.MediaResource → Option String
  transferTasks : List EnqueueTransferTask → Option String
  tweetPlaces : List TweetPlace → Option String
  tweets : List TweetRow → Option String
  tweetEdits : List TweetEditPayload → Option String
  tweetPolicies : List TweetPolicyPayload → Option String
  tweetCommunityNotes : List TweetCommunityNote → Option String
  tweetStats : List TweetStats → Option String
  relations : List TweetRelations → Option String

/-- A database that refuses nothing. -/
def Refusals.nothing : Refusals :=
  ⟨fun _ => none, fun _ => none, fun _ => none, fun _ => none, fun _ => none, fun _ => none,
    fun _ => none, fun _ => none, fun _ => none, fun _ => none, fun _ => none, fun _ => none,
    fun _ => none, fun _ => none⟩

/-- The database and the process a call runs in: its refusals, the texts of its violations, the
texts the dictionary cache holds, generated ids, the time, the configuration, and what the
database may choose. -/
structure Environment where
  refusals : Refusals
  duplicateId : String
  tweetViolation : (Int → Bool) → (String → Bool) → List TweetRow → String
  relationViolation : ConstraintViolation → List TweetRelations → String
  cached : DictEntry → Bool
  newId : IndexTarget → Uuid
  newTaskId : Int → Timestamp → Uuid
  now : Timestamp
  statsInterval : Int
  transferActive : Bool
  urlPath : String → Option String
  choice : VariantChoice
  hashtag : Int → Bool
  symbol : Int → Bool
  orders : RefOrders

/-! ## Statuses -/

/-- `ConditionalWrite`. -/
inductive ConditionalWrite where
  | inserted
  | skippedDuplicate
  | skippedUnchanged
  | skippedInterval
  | skippedMissingParent
deriving DecidableEq, Repr

/-! `conditional_write_from_db`. -/

def appendWrite : AppendStatus → ConditionalWrite
  | .missingParent => .skippedMissingParent
  | .inserted => .inserted
  | .unchanged => .skippedUnchanged
  | .duplicate => .skippedDuplicate

def statsWrite : StatsStatus → ConditionalWrite
  | .missingParent => .skippedMissingParent
  | .inserted => .inserted
  | .unchanged => .skippedUnchanged
  | .interval => .skippedInterval
  | .duplicate => .skippedDuplicate

def childWrite : ChildStatus → ConditionalWrite
  | .missingParent => .skippedMissingParent
  | .inserted => .inserted
  | .unchanged => .skippedUnchanged

/-- The statuses of an append, by `(…_id, recorded_at)`. -/
def appendWrites (statuses : List (Int × Timestamp × AppendStatus)) :
    List ((Int × Timestamp) × ConditionalWrite) :=
  statuses.map fun (id, recordedAt, status) => ((id, recordedAt), appendWrite status)

/-- The statuses of a table of statistics, by the same key. -/
def statsWrites (statuses : List ((Int × Timestamp) × StatsStatus)) :
    List ((Int × Timestamp) × ConditionalWrite) :=
  statuses.map fun (key, status) => (key, statsWrite status)

/-! ## The statements -/

/-- A refused statement ends before it does anything. -/
def send {α : Type} (refusal : Option String) (result : Except String α) : Except String α :=
  match refusal with
  | some error => .error error
  | none => result

namespace Environment

variable (env : Environment)

/-- `ensure_many`: one statement for the normalised texts that are not cached. -/
def ensureMany (entries : List DictEntry) : Except String Unit :=
  let normalized := entries.filterMap fun entry =>
    (normalizeValue entry.value).map (DictEntry.mk entry.semantic)
  let missing := (distinctOn id normalized).filter fun entry => !env.cached entry
  if missing.isEmpty then .ok () else send (env.refusals.dict missing) (.ok ())

/-- `preload_submit_batch_dicts`.  The statements after it find their texts cached. -/
def preloadSubmitBatchDicts (prepared : PreparedSubmitBatch) : Except String Unit :=
  env.ensureMany
    ((prepared.userSnapshots.flatMap fun item => userSnapshotDicts item.value) ++
      (prepared.tweetPlaces.flatMap fun item => tweetPlaceDicts item.value) ++
      (prepared.tweets.flatMap fun item => tweetDicts item.value) ++
      (prepared.tweetPolicies.flatMap fun item => tweetPolicyDicts item.value) ++
      (prepared.tweetCommunityNotes.flatMap fun item => tweetCommunityNoteDicts item.value) ++
      (prepared.media.flatMap fun item => mediaDicts item.value) ++
      (prepared.mediaResources.flatMap fun item => mediaResourceDicts item.value))

/-- `insert_users_changed`. -/
def insertUsersChanged (users : List TwitterUser) (tables : UserTables) :
    Except String (List Int × UserTables) :=
  send (env.refusals.users users)
    (match Tweet.writeTwitterUsers env.newId env.now users tables.users tables.indexQueue with
      | none => .error env.duplicateId
      | some (changed, users, queue) =>
        .ok (changed, { tables with users := users, indexQueue := queue }))

/-- `append_user_snapshots_if_changed_many`. -/
def appendUserSnapshotsIfChangedMany (snapshots : List UserSnapshot) (tables : UserTables) :
    Except String (List ((Int × Timestamp) × ConditionalWrite) × UserTables) :=
  let payloads := snapshots.map UserSnapshot.payload
  send (env.refusals.userSnapshots payloads)
    (match Tweet.appendUserSnapshotsIfChanged ⟨payloads, env.newId, env.now⟩ tables with
      | none => .error env.duplicateId
      | some (statuses, tables) => .ok (appendWrites statuses, tables))

/-- `append_user_stats_if_changed_many`. -/
def appendUserStatsIfChangedMany (hasUser : Int → Bool) (stats : List UserStats)
    (table : Table (Version UserStatsColumns)) :
    Except String (List ((Int × Timestamp) × ConditionalWrite) × Table (Version UserStatsColumns)) :=
  send (env.refusals.userStats stats)
    (.ok ((Tweet.appendUserStatsIfChanged env.statsInterval hasUser stats table).map statsWrites id))

/-- `upsert_media_changed`. -/
def upsertMediaChanged (media : List Media) (table : Table Tweet.Media) :
    Except String (List Int × Table Tweet.Media) :=
  let payloads := media.map Media.payload
  send (env.refusals.media payloads)
    (match Tweet.writeMedia ⟨fun _ => true, fun _ => true⟩ payloads table with
      | none => .error env.duplicateId
      | some written => .ok written)

/-- `append_media_resources_if_changed_many`. -/
def appendMediaResourcesIfChangedMany (resources : List MediaResource) (tables : MediaTables) :
    Except String (List ((Int × Timestamp) × ConditionalWrite) × MediaTables) :=
  let payloads := resources.map MediaResource.payload
  send (env.refusals.mediaResources payloads)
    (.ok ((Tweet.appendMediaResourcesIfChanged payloads tables).map appendWrites id))

/-- `transfer::enqueue_tasks`. -/
def enqueueTasks (tasks : List EnqueueTransferTask) (resources : Table Tweet.MediaResource)
    (table : Table TransferTask) :
    Except String (List ((Int × Timestamp) × TransferEnqueueStatus) × Table TransferTask) :=
  send (env.refusals.transferTasks tasks)
    (match Transfer.enqueueTasks env.choice env.now tasks resources table with
      | none => .error env.duplicateId
      | some written => .ok written)

/-- `upsert_tweet_places_changed`. -/
def upsertTweetPlacesChanged (places : List TweetPlace) (table : Table TweetPlace) :
    Except String (List String × Table TweetPlace) :=
  let payloads := places.map tweetPlacePayload
  send (env.refusals.tweetPlaces payloads)
    (match Tweet.writeTweetPlaces ⟨fun _ => true, fun _ => true⟩ payloads table with
      | none => .error env.duplicateId
      | some written => .ok written)

/-- The references of `tweet.tweet`. -/
def tweetConstraints (hasUser : Int → Bool) (hasPlace : String → Bool) : Constraints TweetRow where
  checks _ := true
  references row := hasUser row.authorId && row.placeId.all hasPlace

/-- `insert_tweets_changed`. -/
def insertTweetsChanged (hasUser : Int → Bool) (hasPlace : String → Bool) (tweets : List TweetRow)
    (tables : TweetTables) : Except String (List Int × TweetTables) :=
  let payloads := tweets.map tweetPayload
  send (env.refusals.tweets payloads)
    (match Tweet.writeTweets (tweetConstraints hasUser hasPlace) env.newId env.now payloads
        tables with
      | none => .error (env.tweetViolation hasUser hasPlace payloads)
      | some written => .ok written)

/-- The statuses of the three functions over rows of a tweet. -/
def childWrites {ρ : Type} [Row ρ Int] (written : Option (List (Int × ChildStatus) × Table ρ)) :
    Except String (List (Int × ConditionalWrite) × Table ρ) :=
  match written with
  | none => .error env.duplicateId
  | some (statuses, table) =>
    .ok (statuses.map fun (tweetId, status) => (tweetId, childWrite status), table)

/-- `upsert_tweet_edits_write_statuses`. -/
def upsertTweetEditsWriteStatuses (hasTweet : Int → Bool) (edits : List TweetEdit)
    (table : Table TweetEdit) : Except String (List (Int × ConditionalWrite) × Table TweetEdit) :=
  let payloads := edits.map tweetEditPayload
  send (env.refusals.tweetEdits payloads)
    (env.childWrites (Tweet.writeTweetEdits ⟨fun _ => true, fun _ => true⟩ hasTweet payloads table))

/-- `upsert_tweet_policies_write_statuses`. -/
def upsertTweetPoliciesWriteStatuses (hasTweet : Int → Bool) (policies : List TweetPolicy)
    (table : Table TweetPolicy) :
    Except String (List (Int × ConditionalWrite) × Table TweetPolicy) :=
  let payloads := policies.map tweetPolicyPayload
  send (env.refusals.tweetPolicies payloads)
    (env.childWrites
      (Tweet.writeTweetPolicies ⟨fun _ => true, fun _ => true⟩ hasTweet payloads table))

/-- `upsert_tweet_community_notes_write_statuses`. -/
def upsertTweetCommunityNotesWriteStatuses (hasTweet : Int → Bool)
    (notes : List TweetCommunityNote) (table : Table TweetCommunityNote) :
    Except String (List (Int × ConditionalWrite) × Table TweetCommunityNote) :=
  let payloads := notes.map tweetCommunityNotePayload
  send (env.refusals.tweetCommunityNotes payloads)
    (env.childWrites
      (Tweet.writeTweetCommunityNotes ⟨fun _ => true, fun _ => true⟩ hasTweet payloads table))

/-- `append_tweet_stats_if_changed_many`. -/
def appendTweetStatsIfChangedMany (hasTweet : Int → Bool) (stats : List TweetStats)
    (table : Table (Version TweetStatsColumns)) :
    Except String
      (List ((Int × Timestamp) × ConditionalWrite) × Table (Version TweetStatsColumns)) :=
  send (env.refusals.tweetStats stats)
    (.ok ((Tweet.appendTweetStatsIfChanged env.statsInterval hasTweet stats table).map statsWrites id))

/-- `sync_tweet_relations`, of all refs of the batch. -/
def syncTweetRelations (hasTweet hasMedia : Int → Bool) (relations : List TweetRelations)
    (tables : RefTables) : Except String (List (Int × RelationSyncStatuses) × RefTables) :=
  send (env.refusals.relations relations)
    (match Submit.syncTweetRelations ⟨hasTweet, hasMedia, env.hashtag, env.symbol⟩ env.orders
        (relations.map TweetRelations.tweetId) (relations.flatMap TweetRelations.mediaRefs)
        (relations.flatMap TweetRelations.mentionRefs)
        (relations.flatMap TweetRelations.hashtagRefs)
        (relations.flatMap TweetRelations.symbolRefs) tables with
      | .error violation => .error (env.relationViolation violation relations)
      | .ok synced => .ok synced)

end Environment

end TweetDb.Submit
