import TweetDb.Relational.Select
import TweetDb.Relational.Upsert
import TweetDb.Search.Queue
import TweetDb.Tweet.Types

/-! # Filling rows

`tweet.write_twitter_users`, `write_tweets`, `write_media`, `write_tweet_places`,
`write_tweet_edits`, `write_tweet_policies` and `write_tweet_community_notes`.
Each `SET` clause keeps what a column holds and takes the submitted value
otherwise; the `WHERE` clause decides whether the row is updated at all.
-/

namespace TweetDb.Tweet

open Relational

/-! ## Null -/

/-- A composite type with, for each of its fields, whether the value leaves it null. -/
class Composite (α : Type) where
  fieldNulls : α → List Bool

variable {α : Type}

/-- `row IS NULL`: every field is null. -/
def rowIsNull [Composite α] (value : Option α) : Bool :=
  value.all fun row => (Composite.fieldNulls row).all id

/-- `row IS NOT NULL`: no field is null. -/
def rowIsNotNull [Composite α] (value : Option α) : Bool :=
  value.any fun row => (Composite.fieldNulls row).all not

instance : Composite AnnotatedText where
  fieldNulls text :=
    [false, text.displayRangeStart.isNone, text.displayRangeEnd.isNone, false, false, false, false,
      false, false]

instance : Composite ResolvedUrl where
  fieldNulls _ := [false, false, false]

instance : Composite MediaGeometry where
  fieldNulls _ := [false, false, false]

instance : Composite MediaSizeVariants where
  fieldNulls variants :=
    [variants.large.isNone, variants.medium.isNone, variants.small.isNone, variants.thumb.isNone]

instance : Composite MediaDetails where
  fieldNulls details :=
    [details.title.isNone, details.description.isNone, details.siteUrl.isNone,
      details.isEmbeddable.isNone, details.isMonetizable.isNone]

/-- `COALESCE` tests the composite value itself. -/
def coalesce (stored excluded : Option α) : Option α := stored.or excluded

/-- `stored IS NULL AND EXCLUDED IS NOT NULL`, of a column that is no composite. -/
def fillable (stored excluded : Option α) : Bool := stored.isNone && excluded.isSome

/-- `stored IS NULL AND EXCLUDED IS NOT NULL`, of a composite column. -/
def fillableRow [Composite α] (stored excluded : Option α) : Bool :=
  rowIsNull stored && rowIsNotNull excluded

/-- `COALESCE(cardinality(stored), 0) = 0 AND COALESCE(cardinality(EXCLUDED), 0) > 0`. -/
def fillableArray (stored excluded : List α) : Bool := stored.isEmpty && !excluded.isEmpty

def fillArray (stored excluded : List α) : List α :=
  if fillableArray stored excluded then excluded else stored

/-! ## Users -/

/-- `ON CONFLICT (id) DO UPDATE` of `write_twitter_users`. -/
def TwitterUser.onConflict : OnConflict TwitterUser where
  set stored excluded := { stored with registeredAt := excluded.registeredAt }
  condition stored excluded := fillable stored.registeredAt excluded.registeredAt
  keeps _ := ⟨fun _ => rfl, fun _ _ => Iff.rfl⟩

/-- `SELECT DISTINCT ON (id) … ORDER BY id, registered_at IS NULL`. -/
def distinctUsers (records : List TwitterUser) : List TwitterUser :=
  distinctOn TwitterUser.id
    (orderBy (fun user => [user.id, if user.registeredAt.isNone then 1 else 0]) records)

/-- `tweet.write_twitter_users`. -/
def writeTwitterUsers (newId : Search.IndexTarget → Uuid) (now : Timestamp)
    (records : List TwitterUser) (users : Table TwitterUser) (indexQueue : Table Search.IndexTask) :
    Option (List Int × Table TwitterUser × Table Search.IndexTask) :=
  (TwitterUser.onConflict.upsert ⟨fun _ => true, fun _ => true⟩ users
    (distinctUsers records)).bind fun (changed, users) =>
      (Search.enqueueTargets (changed.map fun id => ⟨.user, id⟩) true newId now indexQueue).map
        fun queued => (changed, users, queued.2)

/-! ## Tweets -/

namespace TweetRow

/-- `ON CONFLICT (id) DO UPDATE` of `write_tweets`. -/
def onConflict : OnConflict TweetRow where
  set stored excluded :=
    { stored with
      source := coalesce stored.source excluded.source
      placeId := coalesce stored.placeId excluded.placeId
      noteId := coalesce stored.noteId excluded.noteId
      noteText := coalesce stored.noteText excluded.noteText
      language := coalesce stored.language excluded.language
      replyToTweetId := coalesce stored.replyToTweetId excluded.replyToTweetId
      replyToUserId := coalesce stored.replyToUserId excluded.replyToUserId
      quoteTweetId := coalesce stored.quoteTweetId excluded.quoteTweetId
      quotePermalink := coalesce stored.quotePermalink excluded.quotePermalink
      repostId := coalesce stored.repostId excluded.repostId }
  condition stored excluded :=
    fillable stored.source excluded.source
      || fillable stored.placeId excluded.placeId
      || fillable stored.noteId excluded.noteId
      || fillableRow stored.noteText excluded.noteText
      || fillable stored.language excluded.language
      || fillable stored.replyToTweetId excluded.replyToTweetId
      || fillable stored.replyToUserId excluded.replyToUserId
      || fillable stored.quoteTweetId excluded.quoteTweetId
      || fillableRow stored.quotePermalink excluded.quotePermalink
      || fillable stored.repostId excluded.repostId
  keeps _ := ⟨fun _ => rfl, fun _ _ => Iff.rfl⟩

end TweetRow

structure TweetTables where
  tweets : Table TweetRow
  indexQueue : Table Search.IndexTask

/-- `tweet.write_tweets`.  `DISTINCT ON (id)` keeps one record of each id. -/
def writeTweets (constraints : Constraints TweetRow) (newId : Search.IndexTarget → Uuid)
    (now : Timestamp) (records : List TweetRow) (tables : TweetTables) :
    Option (List Int × TweetTables) :=
  (TweetRow.onConflict.upsert constraints tables.tweets
    (distinctOn TweetRow.id records)).bind fun (changed, tweets) =>
      (Search.enqueueTargets (changed.map fun id => ⟨.tweet, id⟩) true newId now
        tables.indexQueue).map fun queued => (changed, ⟨tweets, queued.2⟩)

/-! ## Media -/

/-- A record of `p_media`; absent arrays are stored empty. -/
structure MediaPayload where
  id : Int
  mediaType : MediaType
  altText : Option String
  grokPostId : Option Uuid
  geometry : Option MediaGeometry
  sizeVariants : Option MediaSizeVariants
  taggedUsers : Option (List MediaTag)
  sensitivityWarnings : Option (List String)
  originTweetId : Option Int
  originUserId : Option Int
  details : Option MediaDetails
deriving DecidableEq, Repr

def MediaPayload.toRow (item : MediaPayload) : Media where
  id := item.id
  mediaType := item.mediaType
  altText := item.altText
  grokPostId := item.grokPostId
  geometry := item.geometry
  sizeVariants := item.sizeVariants
  taggedUsers := item.taggedUsers.getD []
  sensitivityWarnings := item.sensitivityWarnings.getD []
  originTweetId := item.originTweetId
  originUserId := item.originUserId
  details := item.details

namespace Media

/-- `ON CONFLICT (id) DO UPDATE` of `write_media`. -/
def onConflict : OnConflict Media where
  set stored excluded :=
    { stored with
      altText := coalesce stored.altText excluded.altText
      grokPostId := coalesce stored.grokPostId excluded.grokPostId
      geometry := coalesce stored.geometry excluded.geometry
      sizeVariants := coalesce stored.sizeVariants excluded.sizeVariants
      taggedUsers := fillArray stored.taggedUsers excluded.taggedUsers
      sensitivityWarnings := fillArray stored.sensitivityWarnings excluded.sensitivityWarnings
      originTweetId := coalesce stored.originTweetId excluded.originTweetId
      originUserId := coalesce stored.originUserId excluded.originUserId
      details := coalesce stored.details excluded.details }
  condition stored excluded :=
    fillable stored.altText excluded.altText
      || fillable stored.grokPostId excluded.grokPostId
      || fillableRow stored.geometry excluded.geometry
      || fillableRow stored.sizeVariants excluded.sizeVariants
      || fillableArray stored.taggedUsers excluded.taggedUsers
      || fillableArray stored.sensitivityWarnings excluded.sensitivityWarnings
      || fillable stored.originTweetId excluded.originTweetId
      || fillable stored.originUserId excluded.originUserId
      || fillableRow stored.details excluded.details
  keeps _ := ⟨fun _ => rfl, fun _ _ => Iff.rfl⟩

end Media

/-- `tweet.write_media`. -/
def writeMedia (constraints : Constraints Media) (records : List MediaPayload)
    (media : Table Media) : Option (List Int × Table Media) :=
  Media.onConflict.upsert constraints media
    ((distinctOn MediaPayload.id records).map MediaPayload.toRow)

/-! ## Places -/

namespace TweetPlace

/-- `ON CONFLICT (id) DO UPDATE` of `write_tweet_places`; `boundary` is an array that may be null. -/
def onConflict : OnConflict TweetPlace where
  set stored excluded :=
    { stored with
      name := coalesce stored.name excluded.name
      fullName := coalesce stored.fullName excluded.fullName
      country := coalesce stored.country excluded.country
      countryCode := coalesce stored.countryCode excluded.countryCode
      kind := coalesce stored.kind excluded.kind
      boundary := coalesce stored.boundary excluded.boundary }
  condition stored excluded :=
    fillable stored.name excluded.name
      || fillable stored.fullName excluded.fullName
      || fillable stored.country excluded.country
      || fillable stored.countryCode excluded.countryCode
      || fillable stored.kind excluded.kind
      || fillable stored.boundary excluded.boundary
  keeps _ := ⟨fun _ => rfl, fun _ _ => Iff.rfl⟩

end TweetPlace

/-- `tweet.write_tweet_places`. -/
def writeTweetPlaces (constraints : Constraints TweetPlace) (records : List TweetPlace)
    (places : Table TweetPlace) : Option (List String × Table TweetPlace) :=
  TweetPlace.onConflict.upsert constraints places (distinctOn TweetPlace.id records)

/-! ## Rows of a tweet -/

inductive ChildStatus where
  | missingParent
  | inserted
  | unchanged
deriving DecidableEq, Repr

/-- The part the three functions share: `existing_parent`, `changed` and the statuses. -/
def writeChildren {ρ : Type} [Row ρ Int] (conflict : OnConflict ρ) (constraints : Constraints ρ)
    (hasTweet : Int → Bool) (input : List ρ) (table : Table ρ) :
    Option (List (Int × ChildStatus) × Table ρ) :=
  (conflict.upsert constraints table (input.filter fun row => hasTweet (Row.key row))).map
    fun (changed, table) =>
      (input.map fun row => (Row.key row,
        if !hasTweet (Row.key row) then .missingParent
        else if changed.contains (Row.key row) then .inserted
        else .unchanged), table)

/-- A record of `p_edits`. -/
structure TweetEditPayload where
  tweetId : Int
  versionIds : Option (List Int)
  editableUntil : Option Timestamp
  remainingEdits : Option Int
deriving DecidableEq, Repr

def TweetEditPayload.toRow (item : TweetEditPayload) : TweetEdit where
  tweetId := item.tweetId
  versionIds := item.versionIds.getD []
  editableUntil := item.editableUntil
  remainingEdits := item.remainingEdits

def TweetEdit.onConflict : OnConflict TweetEdit where
  set stored excluded :=
    { stored with
      versionIds := fillArray stored.versionIds excluded.versionIds
      editableUntil := coalesce stored.editableUntil excluded.editableUntil
      remainingEdits := coalesce stored.remainingEdits excluded.remainingEdits }
  condition stored excluded :=
    fillableArray stored.versionIds excluded.versionIds
      || fillable stored.editableUntil excluded.editableUntil
      || fillable stored.remainingEdits excluded.remainingEdits
  keeps _ := ⟨fun _ => rfl, fun _ _ => Iff.rfl⟩

/-- `tweet.write_tweet_edits`. -/
def writeTweetEdits (constraints : Constraints TweetEdit) (hasTweet : Int → Bool)
    (records : List TweetEditPayload) (edits : Table TweetEdit) :
    Option (List (Int × ChildStatus) × Table TweetEdit) :=
  writeChildren TweetEdit.onConflict constraints hasTweet
    ((distinctOn TweetEditPayload.tweetId records).map TweetEditPayload.toRow) edits

/-- A record of `p_policies`. -/
structure TweetPolicyPayload where
  tweetId : Int
  replyPolicy : Option String
  followersOnly : Option Bool
  isPossiblySensitive : Option Bool
  availableActions : Option (List String)
  isMediaVisibilityRestricted : Option Bool
  paidPromotion : Option Bool
deriving DecidableEq, Repr

def TweetPolicyPayload.toRow (item : TweetPolicyPayload) : TweetPolicy where
  tweetId := item.tweetId
  replyPolicy := item.replyPolicy
  followersOnly := item.followersOnly
  isPossiblySensitive := item.isPossiblySensitive
  availableActions := item.availableActions.getD []
  isMediaVisibilityRestricted := item.isMediaVisibilityRestricted
  paidPromotion := item.paidPromotion

def TweetPolicy.onConflict : OnConflict TweetPolicy where
  set stored excluded :=
    { stored with
      replyPolicy := coalesce stored.replyPolicy excluded.replyPolicy
      followersOnly := coalesce stored.followersOnly excluded.followersOnly
      isPossiblySensitive := coalesce stored.isPossiblySensitive excluded.isPossiblySensitive
      availableActions := fillArray stored.availableActions excluded.availableActions
      isMediaVisibilityRestricted :=
        coalesce stored.isMediaVisibilityRestricted excluded.isMediaVisibilityRestricted
      paidPromotion := coalesce stored.paidPromotion excluded.paidPromotion }
  condition stored excluded :=
    fillable stored.replyPolicy excluded.replyPolicy
      || fillable stored.followersOnly excluded.followersOnly
      || fillable stored.isPossiblySensitive excluded.isPossiblySensitive
      || fillableArray stored.availableActions excluded.availableActions
      || fillable stored.isMediaVisibilityRestricted excluded.isMediaVisibilityRestricted
      || fillable stored.paidPromotion excluded.paidPromotion
  keeps _ := ⟨fun _ => rfl, fun _ _ => Iff.rfl⟩

/-- `tweet.write_tweet_policies`. -/
def writeTweetPolicies (constraints : Constraints TweetPolicy) (hasTweet : Int → Bool)
    (records : List TweetPolicyPayload) (policies : Table TweetPolicy) :
    Option (List (Int × ChildStatus) × Table TweetPolicy) :=
  writeChildren TweetPolicy.onConflict constraints hasTweet
    ((distinctOn TweetPolicyPayload.tweetId records).map TweetPolicyPayload.toRow) policies

def TweetCommunityNote.onConflict : OnConflict TweetCommunityNote where
  set stored excluded :=
    { stored with
      noteId := coalesce stored.noteId excluded.noteId
      title := coalesce stored.title excluded.title
      shortTitle := coalesce stored.shortTitle excluded.shortTitle
      subtitle := coalesce stored.subtitle excluded.subtitle
      footer := coalesce stored.footer excluded.footer
      destinationUrl := coalesce stored.destinationUrl excluded.destinationUrl }
  condition stored excluded :=
    fillable stored.noteId excluded.noteId
      || fillable stored.title excluded.title
      || fillable stored.shortTitle excluded.shortTitle
      || fillableRow stored.subtitle excluded.subtitle
      || fillableRow stored.footer excluded.footer
      || fillable stored.destinationUrl excluded.destinationUrl
  keeps _ := ⟨fun _ => rfl, fun _ _ => Iff.rfl⟩

/-- `tweet.write_tweet_community_notes`. -/
def writeTweetCommunityNotes (constraints : Constraints TweetCommunityNote)
    (hasTweet : Int → Bool) (records : List TweetCommunityNote)
    (notes : Table TweetCommunityNote) :
    Option (List (Int × ChildStatus) × Table TweetCommunityNote) :=
  writeChildren TweetCommunityNote.onConflict constraints hasTweet
    (distinctOn TweetCommunityNote.tweetId records) notes

end TweetDb.Tweet
