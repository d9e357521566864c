import TweetDb.Submit.Convert

/-! # The prepared batch

`prepare_submit_batch`.  Each turn of its three loops looks at one item and
pushes at most one object to each list, so an item is prepared by itself and
the lists collect what the items gave.
-/

namespace TweetDb.Submit

open TweetModel
open TweetDb.Tweet (AnnotatedText HashtagRef MediaRef MentionRef SymbolRef TweetCommunityNote
  TweetEdit TweetPlace TweetPolicy TweetRow TweetStats TwitterUser UserStats)

/-! ## Results -/

inductive OperationStatus where
  | accepted
  | skipped
  | failed
deriving DecidableEq, Repr

structure OperationResult where
  name : String
  status : OperationStatus
  reason : String
deriving DecidableEq, Repr

/-- `ObjectResultBuilder`. -/
structure ObjectResult where
  id : Option String
  operations : List OperationResult
  fatalError : Option String
deriving DecidableEq, Repr

namespace ObjectResult

def new (id : String) : ObjectResult := ⟨some id, [], none⟩

def operation (name : String) (status : OperationStatus) (reason : String)
    (result : ObjectResult) : ObjectResult :=
  { result with operations := result.operations ++ [⟨name, status, reason⟩] }

def fatal (error : String) (result : ObjectResult) : ObjectResult :=
  { result with fatalError := some error }

end ObjectResult

/-! ## The batch -/

structure Indexed (α : Type) where
  index : Nat
  value : α
deriving DecidableEq, Repr

structure TweetRelations where
  tweetId : Int
  mediaRefs : List MediaRef
  mentionRefs : List MentionRef
  hashtagRefs : List HashtagRef
  symbolRefs : List SymbolRef
deriving DecidableEq, Repr

structure PreparedSubmitBatch where
  userResults : List ObjectResult
  tweetResults : List ObjectResult
  mediaResults : List ObjectResult
  users : List (Indexed TwitterUser)
  tweetAuthors : List (Indexed TwitterUser)
  userSnapshots : List (Indexed UserSnapshot)
  userStats : List (Indexed UserStats)
  media : List (Indexed Media)
  mediaResources : List (Indexed MediaResource)
  tweetPlaces : List (Indexed TweetPlace)
  tweets : List (Indexed TweetRow)
  tweetEdits : List (Indexed TweetEdit)
  tweetPolicies : List (Indexed TweetPolicy)
  tweetCommunityNotes : List (Indexed TweetCommunityNote)
  tweetStats : List (Indexed TweetStats)
  tweetRelations : List (Indexed TweetRelations)
deriving DecidableEq, Repr

/-! ## Lookup ids -/

section Lookup

variable {α κ : Type} [DecidableEq κ]

/-- `entry(key).and_modify(merge).or_insert(value)`. -/
def addEntry (key : α → κ) (merge : α → α → α) : List α → α → List α
  | [], value => [value]
  | entry :: entries, value =>
    if key entry = key value then merge entry value :: entries
    else entry :: addEntry key merge entries value

def collectEntries (key : α → κ) (merge : α → α → α) (values : List α) : List α :=
  values.foldl (addEntry key merge) []

end Lookup

def mergeCategory (existing category : UserCategory) : UserCategory :=
  if existing.name.isEmpty && !category.name.isEmpty then { existing with name := category.name }
  else existing

def mergeSymbol (existing entity : Symbol) : Symbol :=
  { existing with
    ticker := existing.ticker.or entity.ticker
    name := existing.name.or entity.name }

def isI64 (value : String) : Bool := (parseInt 64 value).isSome

/-- The categories of users with a valid id, as far as their own ids are valid. -/
def lookupCategories (payload : SubmitTweetRequest) : List UserCategory :=
  (payload.users.filter fun user => isI64 user.id).flatMap fun user =>
    (user.professional.elim [] SubmitUserProfessional.categories).filterMap fun category =>
      (parseInt 32 category.id).map fun code => ⟨code, category.name⟩

/-- The texts `collect_lookup_text` is called on. -/
def lookupTexts (payload : SubmitTweetRequest) : List SubmitAnnotatedText :=
  ((payload.users.filter fun user => isI64 user.id).flatMap fun user =>
    (user.profile.bind SubmitUserProfile.bio).toList) ++
  (payload.tweets.filter fun tweet => isI64 tweet.id && isI64 tweet.authorId).flatMap fun tweet =>
    [tweet.content.legacyText] ++ (tweet.content.note.map SubmitTweetNote.text).toList ++
      (tweet.communityNote.bind SubmitTweetCommunityNote.subtitle).toList ++
      (tweet.communityNote.bind SubmitTweetCommunityNote.footer).toList

/-- `resolve_submit_lookup_ids`. -/
def resolveSubmitLookupIds (store : LookupStore) (payload : SubmitTweetRequest) :
    Except String SubmitLookupIds := do
  let userCategories ← store.upsertUserCategories
    (collectEntries UserCategory.sourceCategoryCode mergeCategory (lookupCategories payload))
  let hashtags ← store.upsertHashtags (collectEntries Hashtag.tag (fun existing _ => existing)
    ((lookupTexts payload).flatMap hashtagModels))
  let symbols ← store.upsertSymbols (collectEntries Symbol.symbol mergeSymbol
    ((lookupTexts payload).flatMap symbolModels))
  return ⟨userCategories, hashtags, symbols⟩

/-! ## Items -/

/-- What an item is prepared with: the answers of the store, `Uuid::parse_str`, and the time. -/
structure PrepareContext where
  store : LookupStore
  lookupIds : Option SubmitLookupIds
  parseUuid : String → Option Uuid

structure PreparedUser where
  result : ObjectResult
  user : Option TwitterUser
  snapshot : Option UserSnapshot
  stats : Option UserStats
deriving DecidableEq, Repr

/-- An error of a part is recorded and the part left out. -/
def recordPart {α : Type} (name : String) (part : Option (Except String α))
    (result : ObjectResult) : ObjectResult :=
  match part with
  | some (.error error) => result.operation name .failed error
  | _ => result

def preparedPart {α : Type} (part : Option (Except String α)) : Option α :=
  part.bind Except.toOption

def rejectedUser (result : ObjectResult) : PreparedUser := ⟨result, none, none, none⟩

def shadowed (result : ObjectResult) : ObjectResult :=
  result.operation "input" .skipped "shadowed_by_duplicate_input"

/-- `lastIndex` is `last_user_indices.get`. -/
def prepareUser (context : PrepareContext) (now : OffsetDateTime) (lastIndex : Int → Option Nat)
    (index : Nat) (user : SubmitUser) : PreparedUser :=
  match parseI64Id user.id "user.id" with
  | .error error => rejectedUser ((ObjectResult.new user.id).fatal error)
  | .ok userId =>
    if lastIndex userId ≠ some index then rejectedUser (shadowed (ObjectResult.new user.id))
    else
      let snapshot := user.profile.map fun profile =>
        convertUserSnapshot context.store context.lookupIds userId user profile now
      let stats := user.stats.map fun stats => convertUserStats userId user.fetchedAt stats now
      { result := recordPart "user_stats" stats
          (recordPart "user_snapshot" snapshot (ObjectResult.new user.id))
        user := some ⟨userId, user.registeredAt.map roundedTimestamptz⟩
        snapshot := preparedPart snapshot
        stats := preparedPart stats }

structure PreparedMedia where
  result : ObjectResult
  media : Option Media
  resource : Option MediaResource
deriving DecidableEq, Repr

def prepareMedia (context : PrepareContext) (now : OffsetDateTime) (lastIndex : Int → Option Nat)
    (index : Nat) (media : SubmitMedia) : PreparedMedia :=
  match parseI64Id media.id "media.id" with
  | .error error => ⟨(ObjectResult.new media.id).fatal error, none, none⟩
  | .ok mediaId =>
    if lastIndex mediaId ≠ some index then ⟨shadowed (ObjectResult.new media.id), none, none⟩
    else
      let model := some (convertMedia context.parseUuid mediaId media)
      let resource := convertMediaResource mediaId media now
      { result := recordPart "media_resource" resource
          (recordPart "media" model (ObjectResult.new media.id))
        media := preparedPart model
        resource := preparedPart resource }

structure PreparedTweet where
  result : ObjectResult
  author : Option TwitterUser
  place : Option TweetPlace
  converted : Option ConvertedTweet
deriving DecidableEq, Repr

/-- The author and the place are pushed before the tweet is converted. -/
def prepareTweet (context : PrepareContext) (now : OffsetDateTime) (lastIndex : Int → Option Nat)
    (index : Nat) (tweet : SubmitTweet) : PreparedTweet :=
  match parseI64Id tweet.id "tweet.id" with
  | .error error => ⟨(ObjectResult.new tweet.id).fatal error, none, none, none⟩
  | .ok tweetId =>
    if lastIndex tweetId ≠ some index then
      ⟨shadowed (ObjectResult.new tweet.id), none, none, none⟩
    else
      match parseI64Id tweet.authorId "tweet.authorId" with
      | .error error => ⟨(ObjectResult.new tweet.id).fatal error, none, none, none⟩
      | .ok authorId =>
        let place := tweet.place.bind convertTweetPlace
        let converted := some (convertTweet context.store context.lookupIds tweetId authorId
          (place.map TweetPlace.id) tweet now)
        { result := recordPart "tweet" converted (ObjectResult.new tweet.id)
          author := some ⟨authorId, none⟩
          place := place
          converted := preparedPart converted }

/-! ## Collecting -/

/-- One part of all prepared items, with their indices. -/
def collect {α β : Type} (part : α → Option β) (items : List α) : List (Indexed β) :=
  items.zipIdx.filterMap fun (item, index) => (part item).map fun value => ⟨index, value⟩

def ConvertedTweet.relations (converted : ConvertedTweet) : TweetRelations where
  tweetId := converted.tweet.id
  mediaRefs := converted.mediaRefs
  mentionRefs := converted.mentionRefs
  hashtagRefs := converted.hashtagRefs
  symbolRefs := converted.symbolRefs

/-- The times the three loops read. -/
structure Clocks where
  user : Nat → OffsetDateTime
  media : Nat → OffsetDateTime
  tweet : Nat → OffsetDateTime

section Batch

variable (context : PrepareContext) (clocks : Clocks) (payload : SubmitTweetRequest)

def preparedUsers : List PreparedUser :=
  payload.users.zipIdx.map fun (user, index) =>
    prepareUser context (clocks.user index)
      (lastValidIndex "user.id" SubmitUser.id payload.users) index user

def preparedMedia : List PreparedMedia :=
  payload.media.zipIdx.map fun (media, index) =>
    prepareMedia context (clocks.media index)
      (lastValidIndex "media.id" SubmitMedia.id payload.media) index media

def preparedTweets : List PreparedTweet :=
  payload.tweets.zipIdx.map fun (tweet, index) =>
    prepareTweet context (clocks.tweet index)
      (lastValidIndex "tweet.id" SubmitTweet.id payload.tweets) index tweet

end Batch

/-- The lists of the prepared items. -/
def collectBatch (users : List PreparedUser) (media : List PreparedMedia)
    (tweets : List PreparedTweet) : PreparedSubmitBatch where
  userResults := users.map PreparedUser.result
  tweetResults := tweets.map PreparedTweet.result
  mediaResults := media.map PreparedMedia.result
  users := collect PreparedUser.user users
  tweetAuthors := collect PreparedTweet.author tweets
  userSnapshots := collect PreparedUser.snapshot users
  userStats := collect PreparedUser.stats users
  media := collect PreparedMedia.media media
  mediaResources := collect PreparedMedia.resource media
  tweetPlaces := collect PreparedTweet.place tweets
  tweets := collect (fun tweet => tweet.converted.map ConvertedTweet.tweet) tweets
  tweetEdits := collect (fun tweet => tweet.converted.bind ConvertedTweet.edit) tweets
  tweetPolicies := collect (fun tweet => tweet.converted.bind ConvertedTweet.policy) tweets
  tweetCommunityNotes :=
    collect (fun tweet => tweet.converted.bind ConvertedTweet.communityNote) tweets
  tweetStats := collect (fun tweet => tweet.converted.bind ConvertedTweet.stats) tweets
  tweetRelations := collect (fun tweet => tweet.converted.map ConvertedTweet.relations) tweets

/-- `prepare_submit_batch`. -/
def prepareSubmitBatch (store : LookupStore) (parseUuid : String → Option Uuid) (clocks : Clocks)
    (payload : SubmitTweetRequest) : PreparedSubmitBatch :=
  let context := ⟨store, (resolveSubmitLookupIds store payload).toOption, parseUuid⟩
  collectBatch (preparedUsers context clocks payload) (preparedMedia context clocks payload)
    (preparedTweets context clocks payload)

end TweetDb.Submit
