import TweetDb.Query.Collected
import TweetDb.Query.Fetch

/-! # Queries of many ids

`tweet_query/fetch.rs` and `decode.rs`.  The rows of all valid ids are fetched
and decoded at once, then what they refer to, and each selector is answered
from these maps.
-/

namespace TweetDb.Query

open Json Relational
open Submit (HashtagRow LookupTables SymbolRow UserCategoryRow parseI64Id transpose)
open TweetDb.Tweet (AnnotatedText Media MediaRef MediaResource TweetCommunityNote TweetEdit
  TweetPlace TweetPolicy TweetRow TweetStatsColumns TwitterUser UserSnapshot UserStatsColumns
  Version)

/-! ## What is stored -/

/-- The rows by id, as `to_jsonb` gives them; of versions the latest. -/
structure StoredRows (ρ : Type) where
  users : Int → Option ρ
  userSnapshots : Int → Option ρ
  userStats : Int → Option ρ
  tweets : Int → Option ρ
  tweetEdits : Int → Option ρ
  tweetPolicies : Int → Option ρ
  tweetCommunityNotes : Int → Option ρ
  tweetStats : Int → Option ρ
  tweetPlaces : String → Option ρ
  tweetMediaRefs : Int → List MediaRef
  media : Int → Option ρ
  mediaResources : Int → Option ρ

/-- `serde_json::from_value`, to each of the types of `db_types.rs`. -/
structure Decoders (ρ : Type) where
  user : ρ → Except String TwitterUser
  userSnapshot : ρ → Except String UserSnapshot
  userStats : ρ → Except String (Version UserStatsColumns)
  tweet : ρ → Except String TweetRow
  tweetEdit : ρ → Except String TweetEdit
  tweetPolicy : ρ → Except String TweetPolicy
  tweetCommunityNote : ρ → Except String TweetCommunityNote
  tweetStats : ρ → Except String (Version TweetStatsColumns)
  tweetPlace : ρ → Except String TweetPlace
  media : ρ → Except String Media
  mediaResource : ρ → Except String MediaResource

/-! ## Selections -/

/-- `QuerySelectionI64`. -/
structure QuerySelection where
  id : String
  parsed : Option Int
  error : Option String
deriving DecidableEq, Repr

/-- `QueryObjectResult`. -/
structure QueryObjectResult where
  id : Option String
  object : QueryObject

/-- `parse_i64_selections`. -/
def parseI64Selections (field : String) (selectors : List String) : List QuerySelection :=
  selectors.map fun selector =>
    match parseI64Id selector field with
    | .ok parsed => ⟨selector, some parsed, none⟩
    | .error error => ⟨selector, none, some error⟩

/-- `collect_unique_valid_ids`. -/
def collectUniqueValidIds (selections : List QuerySelection) : List Int :=
  distinctOn id (selections.filterMap QuerySelection.parsed)

/-- `selection_failed_or_missing_result`. -/
def selectionFailedOrMissing (selection : QuerySelection) : QueryObjectResult :=
  match selection.error with
  | some error => ⟨some selection.id, .failed error⟩
  | none => ⟨some selection.id, .missing⟩

/-- A turn of the loop over the selections. -/
def answerSelection (answer : Int → QueryObject) (selection : QuerySelection) :
    QueryObjectResult :=
  match selection.error, selection.parsed with
  | some error, _ => ⟨some selection.id, .failed error⟩
  | none, none => ⟨some selection.id, .missing⟩
  | none, some id => ⟨some selection.id, answer id⟩

/-! ## Maps -/

section Maps

variable {ρ α κ : Type} [DecidableEq κ] [ToString κ]

/-- `fetch_…_json_many`: the entries of the map. -/
def fetchMany (ids : List κ) (rows : κ → Option ρ) : List (κ × ρ) :=
  ids.filterMap fun id => (rows id).map fun row => (id, row)

def decodeValue (decode : ρ → Except String α) (label : String) (id : κ) (row : ρ) :
    Except String α :=
  (decode row).mapError fun error => s!"failed to decode {label} {id}: {error}"

/-- `decode_i64_map` and `decode_string_map`. -/
def decodeMap (decode : ρ → Except String α) (label : String) (values : List (κ × ρ)) :
    List (κ × Except String α) :=
  values.map fun (id, value) => (id, decodeValue decode label id value)

/-- `decode_required`. -/
def decodeRequired (values : List (κ × Except String α)) (key : κ) : Option (Except String α) :=
  values.lookup key

/-- `decode_optional`. -/
def decodeOptional (values : List (κ × Except String α)) (key : κ) : Except String (Option α) :=
  match values.lookup key with
  | some (.ok value) => .ok (some value)
  | some (.error error) => .error error
  | none => .ok none

/-- `values().filter_map(|item| item.as_ref().ok())`. -/
def decodedValues (values : List (κ × Except String α)) : List α :=
  values.filterMap fun entry => entry.2.toOption

end Maps

/-! ## Lookups -/

/-- The ids a query asks the lookup tables for. -/
structure LookupRequest where
  hashtagIds : List Int
  symbolIds : List Int
  categoryIds : List Int

/-- The rows of `fetch_hashtags`, `fetch_symbols` and `fetch_user_categories`. -/
def LookupRequest.fetch (request : LookupRequest) (tables : LookupTables) : LookupTables where
  userCategories := tables.userCategories.delete fun row => !request.categoryIds.contains row.id
  hashtags := tables.hashtags.delete fun row => !request.hashtagIds.contains row.id
  symbols := tables.symbols.delete fun row => !request.symbolIds.contains row.id

/-- `collect_annotated_text_lookup_ids`, of some texts. -/
def collectTextLookups (texts : List AnnotatedText) : LookupRequest where
  hashtagIds := texts.flatMap fun text => text.hashtags.map Tweet.HashtagEntity.hashtagId
  symbolIds := texts.flatMap fun text => text.symbols.map Tweet.SymbolEntity.symbolId
  categoryIds := []

/-- The loop over the decoded snapshots. -/
def collectUserLookups (snapshots : List UserSnapshot) : LookupRequest :=
  { collectTextLookups (snapshots.flatMap fun snapshot => snapshot.content.bio.toList) with
    categoryIds := snapshots.flatMap fun snapshot =>
      snapshot.content.professional.elim [] fun professional => professional.categoryIds }

/-- The loops over the decoded tweets and notes. -/
def collectTweetLookups (tweets : List TweetRow) (notes : List TweetCommunityNote) :
    LookupRequest :=
  collectTextLookups
    ((tweets.flatMap fun tweet => tweet.legacyText :: tweet.noteText.toList) ++
      notes.flatMap fun note => note.subtitle.toList ++ note.footer.toList)

namespace BuildContext

/-- The context of one call, with the rows it has fetched. -/
def withLookups (context : BuildContext) (lookups : LookupTables) : BuildContext :=
  { context with lookups := lookups }

section Queries

variable {ρ : Type} (context : BuildContext) (decoders : Decoders ρ) (rows : StoredRows ρ)
  (selectors : List String)

/-! ## The queries -/

/-- `query_users`. -/
def queryUsers : List QueryObjectResult :=
  let selections := parseI64Selections "user.id" selectors
  let userIds := collectUniqueValidIds selections
  if userIds.isEmpty then selections.map selectionFailedOrMissing
  else
    let users := decodeMap decoders.user "user" (fetchMany userIds rows.users)
    let snapshots := decodeMap decoders.userSnapshot "latest user snapshot"
      (fetchMany userIds rows.userSnapshots)
    let stats := decodeMap decoders.userStats "latest user stats"
      (fetchMany userIds rows.userStats)
    let request := collectUserLookups (decodedValues snapshots)
    let fetched := context.withLookups (request.fetch context.lookups)
    selections.map <| answerSelection fun id =>
      match decodeRequired users id with
      | none => .missing
      | some user => .answer do
        let user ← user
        let snapshot ← decodeOptional snapshots id
        let stats ← decodeOptional stats id
        fetched.buildUserJson user snapshot stats

/-- `query_tweet_objects`. -/
def queryTweetObjects : List QueryObjectResult :=
  let selections := parseI64Selections "tweet.id" selectors
  let tweetIds := collectUniqueValidIds selections
  if tweetIds.isEmpty then selections.map selectionFailedOrMissing
  else
    let tweets := decodeMap decoders.tweet "tweet" (fetchMany tweetIds rows.tweets)
    let edits := decodeMap decoders.tweetEdit "tweet edit" (fetchMany tweetIds rows.tweetEdits)
    let policies := decodeMap decoders.tweetPolicy "tweet policy"
      (fetchMany tweetIds rows.tweetPolicies)
    let notes := decodeMap decoders.tweetCommunityNote "tweet community note"
      (fetchMany tweetIds rows.tweetCommunityNotes)
    let stats := decodeMap decoders.tweetStats "latest tweet stats"
      (fetchMany tweetIds rows.tweetStats)
    let mediaRefs := fetchMany tweetIds fun id => some (rows.tweetMediaRefs id)
    let placeIds := distinctOn id ((decodedValues tweets).filterMap TweetRow.placeId)
    let request := collectTweetLookups (decodedValues tweets) (decodedValues notes)
    let places := decodeMap decoders.tweetPlace "tweet place" (fetchMany placeIds rows.tweetPlaces)
    let fetched := context.withLookups (request.fetch context.lookups)
    selections.map <| answerSelection fun id =>
      match decodeRequired tweets id with
      | none => .missing
      | some tweet => .answer do
        let tweet ← tweet
        let edit ← decodeOptional edits id
        let policy ← decodeOptional policies id
        let note ← decodeOptional notes id
        let stats ← decodeOptional stats id
        let place ← match tweet.placeId with
          | some placeId => decodeOptional places placeId
          | none => .ok none
        fetched.buildTweetJson tweet place edit policy note stats ((mediaRefs.lookup id).getD [])

/-- `query_media_objects`. -/
def queryMediaObjects : List QueryObjectResult :=
  let selections := parseI64Selections "media.id" selectors
  let mediaIds := collectUniqueValidIds selections
  if mediaIds.isEmpty then selections.map selectionFailedOrMissing
  else
    let media := decodeMap decoders.media "media" (fetchMany mediaIds rows.media)
    let resources := decodeMap decoders.mediaResource "latest media resource"
      (fetchMany mediaIds rows.mediaResources)
    selections.map <| answerSelection fun id =>
      match decodeRequired media id with
      | none => .missing
      | some media => .answer do
        let media ← media
        let resource ← decodeOptional resources id
        context.buildMediaJson media resource

end Queries

end BuildContext

end TweetDb.Query
