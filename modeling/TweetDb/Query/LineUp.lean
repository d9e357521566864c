import TweetDb.Query.BatchMaps

/-! # Answers line up with their selectors

A query of many ids answers every selector as if it were alone: from the rows
of its own object and what they refer to.
-/

namespace TweetDb.Query

open Json Relational
open Submit (LookupTables parseI64Id transpose)
open TweetDb.Tweet (Media MediaRef MediaResource TweetCommunityNote TweetEdit TweetPlace TweetPolicy
  TweetRow TweetStatsColumns TwitterUser UserSnapshot UserStatsColumns Version)

/-! ## Own data -/

/-- What is decoded for a user. -/
structure UserParts where
  user : TwitterUser
  snapshot : Option UserSnapshot
  stats : Option (Version UserStatsColumns)

structure TweetParts where
  tweet : TweetRow
  edit : Option TweetEdit
  policy : Option TweetPolicy
  note : Option TweetCommunityNote
  stats : Option (Version TweetStatsColumns)
  place : Option TweetPlace

structure MediaParts where
  media : Media
  resource : Option MediaResource

section Own

variable {ρ : Type} (context : BuildContext) (decoders : Decoders ρ) (rows : StoredRows ρ) (id : Int)
  (row : ρ)

/-- The user's own rows: the first one that cannot be decoded is the error. -/
def readUser : Except String UserParts := do
  let user ← decodeValue decoders.user "user" id row
  let snapshot ← transpose (decodeValue decoders.userSnapshot "latest user snapshot" id)
    (rows.userSnapshots id)
  let stats ← transpose (decodeValue decoders.userStats "latest user stats" id) (rows.userStats id)
  return ⟨user, snapshot, stats⟩

/-- The row of a tweet's place. -/
def readPlace (tweet : TweetRow) : Except String (Option TweetPlace) :=
  match tweet.placeId with
  | some placeId =>
    transpose (decodeValue decoders.tweetPlace "tweet place" placeId) (rows.tweetPlaces placeId)
  | none => .ok none

def readTweet : Except String TweetParts := do
  let tweet ← decodeValue decoders.tweet "tweet" id row
  let edit ← transpose (decodeValue decoders.tweetEdit "tweet edit" id) (rows.tweetEdits id)
  let policy ← transpose (decodeValue decoders.tweetPolicy "tweet policy" id)
    (rows.tweetPolicies id)
  let note ← transpose (decodeValue decoders.tweetCommunityNote "tweet community note" id)
    (rows.tweetCommunityNotes id)
  let stats ← transpose (decodeValue decoders.tweetStats "latest tweet stats" id)
    (rows.tweetStats id)
  let place ← readPlace decoders rows tweet
  return ⟨tweet, edit, policy, note, stats, place⟩

def readMedia : Except String MediaParts := do
  let media ← decodeValue decoders.media "media" id row
  let resource ← transpose (decodeValue decoders.mediaResource "latest media resource" id)
    (rows.mediaResources id)
  return ⟨media, resource⟩

/-- What is looked up to build the parts. -/
def UserParts.refs (parts : UserParts) : References := .ofOption snapshotRefs parts.snapshot

def TweetParts.refs (parts : TweetParts) : References :=
  tweetPartRefs parts.tweet parts.place parts.policy parts.note

def MediaParts.refs (parts : MediaParts) : References :=
  mediaRefs parts.media ++ .ofOption resourceRefs parts.resource

def UserParts.build (parts : UserParts) : Except String Value :=
  context.buildUserJson parts.user parts.snapshot parts.stats

def TweetParts.build (parts : TweetParts) (mediaRefs : List MediaRef) : Except String Value :=
  context.buildTweetJson parts.tweet parts.place parts.edit parts.policy parts.note parts.stats
    mediaRefs

def MediaParts.build (parts : MediaParts) : Except String Value :=
  context.buildMediaJson parts.media parts.resource

/-- The answer about one object: nothing but its own rows is read. -/
def answerFrom {α : Type} (stored : Int → Option ρ) (read : Int → ρ → Except String α)
    (build : Int → α → Except String Value) : QueryObject :=
  match stored id with
  | none => .missing
  | some row => .answer do
    let parts ← read id row
    build id parts

/-- A stored object's own rows cannot be decoded, or what they give cannot be built. -/
def BrokenFrom {α : Type} (stored : Int → Option ρ) (read : Int → ρ → Except String α)
    (build : Int → α → Except String Value) (error : String) : Prop :=
  ∃ row, stored id = some row ∧
    (read id row = .error error ∨ ∃ parts, read id row = .ok parts ∧ build id parts = .error error)

def userAnswer : QueryObject :=
  answerFrom id rows.users (readUser decoders rows) fun _ parts => parts.build context

def tweetAnswer : QueryObject :=
  answerFrom id rows.tweets (readTweet decoders rows) fun id parts =>
    parts.build context (rows.tweetMediaRefs id)

def mediaAnswer : QueryObject :=
  answerFrom id rows.media (readMedia decoders rows) fun _ parts => parts.build context

def UserBroken (error : String) : Prop :=
  BrokenFrom id rows.users (readUser decoders rows) (fun _ parts => parts.build context) error

def TweetBroken (error : String) : Prop :=
  BrokenFrom id rows.tweets (readTweet decoders rows)
    (fun id parts => parts.build context (rows.tweetMediaRefs id)) error

def MediaBroken (error : String) : Prop :=
  BrokenFrom id rows.media (readMedia decoders rows) (fun _ parts => parts.build context) error

end Own

/-! ## The queries -/

namespace BuildContext

variable {ρ : Type} {context : BuildContext} {decoders : Decoders ρ} {rows : StoredRows ρ}
  {selectors : List String}

theorem decoded_of_transpose {α κ : Type} [ToString κ] {decode : ρ → Except String α}
    {label : String} {id : κ} {row : Option ρ} {value : Option α}
    (decoded : transpose (decodeValue decode label id) row = .ok value) :
    ∀ part ∈ value, ∃ stored, row = some stored ∧ decode stored = .ok part := by
  intro part isPart
  cases isPart
  cases row with
  | none => cases decoded
  | some stored =>
    obtain ⟨other, isOther, same⟩ := map_eq_ok decoded
    cases same
    exact ⟨stored, rfl, decodeValue_eq_ok.mp isOther⟩

/-- Steps that do the same with what the first one gives. -/
theorem bind_congr {ε α β : Type} {first : Except ε α} {rest rest' : α → Except ε β}
    (same : ∀ value, first = .ok value → rest value = rest' value) :
    first.bind rest = first.bind rest' := by
  cases first with
  | error error => rfl
  | ok value => exact same value rfl

/-- `query_users` answers each selector as if it were alone. -/
theorem queryUsers_eq :
    context.queryUsers decoders rows selectors = selectors.map fun selector =>
      ⟨some selector, select "user.id" selector (userAnswer context decoders rows)⟩ := by
  refine answers_eq_map fun id member => ?_
  rw [decodeRequired_of_mem member, decodeOptional_of_mem member, decodeOptional_of_mem member,
    userAnswer, answerFrom]
  cases found : rows.users id with
  | none => rfl
  | some row =>
    simp only [Option.map_some, readUser, bind_assoc, pure_bind]
    refine congrArg QueryObject.answer (bind_congr fun user _ => bind_congr fun snapshot decoded =>
      bind_congr fun stats _ => buildUserJson_congr (LookupRequest.Covers.agreeOn ?_ context))
    refine covers_ofOption fun part isPart => covers_snapshotRefs (mem_decodedValues.mpr ?_)
    exact ⟨id, member, decoded_of_transpose decoded part isPart⟩

theorem mem_placeIds {tweets : List TweetRow} {placeId : String} :
    placeId ∈ distinctOn id (tweets.filterMap TweetRow.placeId) ↔
      ∃ tweet ∈ tweets, tweet.placeId = some placeId := by
  rw [mem_distinctOn_id, List.mem_filterMap]

/-- So does `query_tweet_objects`. -/
theorem queryTweetObjects_eq :
    context.queryTweetObjects decoders rows selectors = selectors.map fun selector =>
      ⟨some selector, select "tweet.id" selector (tweetAnswer context decoders rows)⟩ := by
  refine answers_eq_map fun id member => ?_
  rw [decodeRequired_of_mem member, decodeOptional_of_mem member, decodeOptional_of_mem member,
    decodeOptional_of_mem member, decodeOptional_of_mem member, lookup_fetchMany, if_pos member,
    tweetAnswer, answerFrom]
  cases found : rows.tweets id with
  | none => rfl
  | some row =>
    simp only [Option.map_some, readTweet, bind_assoc, pure_bind]
    refine congrArg QueryObject.answer (bind_congr fun tweet isTweet => bind_congr fun edit _ =>
      bind_congr fun policy _ => bind_congr fun note isNote => bind_congr fun stats _ => ?_)
    -- What the tweet refers to was collected from the batch, so both contexts build it alike.
    have decoded : tweet ∈ decodedValues (decodeMap decoders.tweet "tweet"
        (fetchMany (collectUniqueValidIds (parseI64Selections "tweet.id" selectors))
          rows.tweets)) :=
      mem_decodedValues.mpr ⟨id, member, row, found, decodeValue_eq_ok.mp isTweet⟩
    have decodedNote : ∀ part ∈ note, part ∈ decodedValues
        (decodeMap decoders.tweetCommunityNote "tweet community note"
          (fetchMany (collectUniqueValidIds (parseI64Selections "tweet.id" selectors))
            rows.tweetCommunityNotes)) := fun part isPart =>
      mem_decodedValues.mpr ⟨id, member, decoded_of_transpose isNote part isPart⟩
    have sameBuild : ∀ place, AgreeOn (tweetPartRefs tweet place policy note) _ context :=
      fun place => (covers_tweetPartRefs decoded decodedNote place policy).agreeOn context
    unfold readPlace
    cases isPlace : tweet.placeId with
    | none => exact bind_congr fun place _ => buildTweetJson_congr (sameBuild place)
    | some placeId =>
      dsimp only
      rw [decodeOptional_of_mem (mem_placeIds.mpr ⟨tweet, decoded, isPlace⟩)]
      exact bind_congr fun place _ => buildTweetJson_congr (sameBuild place)

/-- And `query_media_objects`. -/
theorem queryMediaObjects_eq :
    context.queryMediaObjects decoders rows selectors = selectors.map fun selector =>
      ⟨some selector, select "media.id" selector (mediaAnswer context decoders rows)⟩ := by
  refine answers_eq_map fun id member => ?_
  rw [decodeRequired_of_mem member, decodeOptional_of_mem member, mediaAnswer,
    answerFrom]
  cases rows.media id with
  | none => rfl
  | some row =>
    simp only [Option.map_some, readMedia, bind_assoc, pure_bind]
    rfl

end BuildContext

/-! ## One result for each selector -/

/-- The results are those of the selectors, one by one; a missing object is one that is not stored,
and a failed one is broken. -/
structure LinesUp {ρ : Type} (field : String) (selectors : List String) (stored : Int → Option ρ)
    (broken : Int → String → Prop) (results : List QueryObjectResult) : Prop where
  ids : results.map QueryObjectResult.id = selectors.map some
  missing : ∀ (index : Nat) selector result, selectors[index]? = some selector →
    results[index]? = some result →
      (result.object = .missing ↔ ∃ id, parseI64Id selector field = .ok id ∧ stored id = none)
  failed : ∀ (index : Nat) selector result error, selectors[index]? = some selector →
    results[index]? = some result → result.object = .failed error →
      parseI64Id selector field = .error error ∨
        ∃ id, parseI64Id selector field = .ok id ∧ broken id error

/-- Selectors of an id have the same result in both lists. -/
def SameResults (field : String) (selectors selectors' : List String)
    (results results' : List QueryObjectResult) (id : Int) : Prop :=
  ∀ (index index' : Nat) selector selector' result result',
    selectors[index]? = some selector → selectors'[index']? = some selector' →
      parseI64Id selector field = .ok id → parseI64Id selector' field = .ok id →
        results[index]? = some result → results'[index']? = some result' →
          result.object = result'.object

section LineUp

variable {ρ : Type} {field : String} {selectors selectors' : List String}
  {stored : Int → Option ρ} {broken : Int → String → Prop} {answer answer' : Int → QueryObject}

theorem result_of_selector {index : Nat} {selector : String} {result : QueryObjectResult}
    (isSelector : selectors[index]? = some selector)
    (isResult : (selectors.map fun selector =>
      (⟨some selector, select field selector answer⟩ : QueryObjectResult))[index]? = some result) :
    result.object = select field selector answer := by
  rw [List.getElem?_map, isSelector] at isResult
  cases isResult
  rfl

theorem answer_ne_missing (built : Except String Value) : QueryObject.answer built ≠ .missing := by
  cases built <;> exact nofun

theorem answer_eq_failed {built : Except String Value} {error : String}
    (failed : QueryObject.answer built = .failed error) : built = .error error := by
  cases built with
  | error error' =>
    cases failed
    rfl
  | ok value => cases failed

theorem bind_eq_error {α β : Type} {first : Except String α} {rest : α → Except String β}
    {error : String} (failed : first.bind rest = .error error) :
    first = .error error ∨ ∃ value, first = .ok value ∧ rest value = .error error := by
  cases first with
  | error error' =>
    cases failed
    exact .inl rfl
  | ok value => exact .inr ⟨value, rfl, failed⟩

variable {α : Type} {read read' : Int → ρ → Except String α}
  {build build' : Int → α → Except String Value}

theorem linesUp_map :
    LinesUp field selectors stored (fun id => BrokenFrom id stored read build)
      (selectors.map fun selector =>
        ⟨some selector, select field selector fun id => answerFrom id stored read build⟩) where
  ids := by rw [List.map_map]; rfl
  missing index selector result isSelector isResult := by
    rw [result_of_selector isSelector isResult, select]
    cases isParsed : parseI64Id selector field with
    | ok id =>
      cases found : stored id with
      | none => simp [answerFrom, found]
      | some row => simp [answerFrom, found, answer_ne_missing]
    | error error => simp
  failed index selector result error isSelector isResult isFailed := by
    rw [result_of_selector isSelector isResult, select] at isFailed
    cases isParsed : parseI64Id selector field with
    | ok id =>
      refine .inr ⟨id, rfl, ?_⟩
      rw [isParsed] at isFailed
      cases found : stored id with
      | none => simp [answerFrom, found] at isFailed
      | some row =>
        simp only [answerFrom, found] at isFailed
        exact ⟨row, found, bind_eq_error (answer_eq_failed isFailed)⟩
    | error error' =>
      rw [isParsed] at isFailed
      cases isFailed
      exact .inl rfl

theorem answerFrom_congr {stored' : Int → Option ρ} {id : Int} (same : stored id = stored' id)
    (reads : ∀ row, stored id = some row → read id row = read' id row)
    (builds : ∀ row parts, stored id = some row → read id row = .ok parts →
      build id parts = build' id parts) :
    answerFrom id stored read build = answerFrom id stored' read' build' := by
  unfold answerFrom
  rw [← same]
  cases found : stored id with
  | none => rfl
  | some row =>
    refine congrArg QueryObject.answer ?_
    rw [← reads row found]
    exact BuildContext.bind_congr fun parts isRead => builds row parts found isRead

theorem sameResults_map {id : Int} (same : answer id = answer' id) :
    SameResults field selectors selectors'
      (selectors.map fun selector => ⟨some selector, select field selector answer⟩)
      (selectors'.map fun selector => ⟨some selector, select field selector answer'⟩) id := by
  intro index index' selector selector' result result' isSelector isSelector' isId isId' isResult
    isResult'
  rw [result_of_selector isSelector isResult, result_of_selector isSelector' isResult', select,
    select, isId, isId']
  exact same

end LineUp

/-! ## Locality -/

section Local

variable {ρ : Type} (decoders : Decoders ρ) (context context' : BuildContext)
  (rows rows' : StoredRows ρ) (id : Int)

/-- The user's own rows are the same, and so is what they refer to. -/
structure SameUserData : Prop where
  user : rows.users id = rows'.users id
  snapshot : rows.userSnapshots id = rows'.userSnapshots id
  stats : rows.userStats id = rows'.userStats id
  lookups : ∀ row parts, rows.users id = some row → readUser decoders rows id row = .ok parts →
    AgreeOn parts.refs context context'

structure SameTweetData : Prop where
  tweet : rows.tweets id = rows'.tweets id
  edit : rows.tweetEdits id = rows'.tweetEdits id
  policy : rows.tweetPolicies id = rows'.tweetPolicies id
  note : rows.tweetCommunityNotes id = rows'.tweetCommunityNotes id
  stats : rows.tweetStats id = rows'.tweetStats id
  mediaRefs : rows.tweetMediaRefs id = rows'.tweetMediaRefs id
  place : ∀ row tweet placeId, rows.tweets id = some row → decoders.tweet row = .ok tweet →
    tweet.placeId = some placeId → rows.tweetPlaces placeId = rows'.tweetPlaces placeId
  lookups : ∀ row parts, rows.tweets id = some row → readTweet decoders rows id row = .ok parts →
    AgreeOn parts.refs context context'

structure SameMediaData : Prop where
  media : rows.media id = rows'.media id
  resource : rows.mediaResources id = rows'.mediaResources id
  lookups : ∀ row parts, rows.media id = some row → readMedia decoders rows id row = .ok parts →
    AgreeOn parts.refs context context'

variable {decoders context context' rows rows' id}

theorem SameUserData.answer (same : SameUserData decoders context context' rows rows' id) :
    userAnswer context decoders rows id = userAnswer context' decoders rows' id := by
  refine answerFrom_congr same.user (fun row _ => ?_) fun row parts found isRead => ?_
  · unfold readUser
    rw [same.snapshot, same.stats]
  · exact BuildContext.buildUserJson_congr (same.lookups row parts found isRead)

theorem SameTweetData.answer (same : SameTweetData decoders context context' rows rows' id) :
    tweetAnswer context decoders rows id = tweetAnswer context' decoders rows' id := by
  refine answerFrom_congr same.tweet (fun row found => ?_) fun row parts found isRead => ?_
  · have places : ∀ tweet, decodeValue decoders.tweet "tweet" id row = .ok tweet →
        readPlace decoders rows tweet = readPlace decoders rows' tweet := by
      intro tweet isTweet
      unfold readPlace
      cases isPlace : tweet.placeId with
      | none => rfl
      | some placeId =>
        dsimp only
        rw [same.place row tweet placeId found (decodeValue_eq_ok.mp isTweet) isPlace]
    unfold readTweet
    rw [same.edit, same.policy, same.note, same.stats]
    refine BuildContext.bind_congr fun tweet isTweet => ?_
    rw [places tweet isTweet]
  · simp only [same.mediaRefs]
    exact BuildContext.buildTweetJson_congr (same.lookups row parts found isRead)

theorem SameMediaData.answer (same : SameMediaData decoders context context' rows rows' id) :
    mediaAnswer context decoders rows id = mediaAnswer context' decoders rows' id := by
  refine answerFrom_congr same.media (fun row _ => ?_) fun row parts found isRead => ?_
  · unfold readMedia
    rw [same.resource]
  · exact BuildContext.buildMediaJson_congr (same.lookups row parts found isRead)

end Local

/-! ## All queries -/

section Queries

variable {ρ : Type} (context : BuildContext) (decoders : Decoders ρ) (rows : StoredRows ρ)
  (selectors : List String)

/-- Each query answers a selector with what the rows of its own object give. -/
structure QueriesAnswer : Prop where
  users : context.queryUsers decoders rows selectors = selectors.map fun selector =>
    ⟨some selector, select "user.id" selector (userAnswer context decoders rows)⟩
  tweets : context.queryTweetObjects decoders rows selectors = selectors.map fun selector =>
    ⟨some selector, select "tweet.id" selector (tweetAnswer context decoders rows)⟩
  media : context.queryMediaObjects decoders rows selectors = selectors.map fun selector =>
    ⟨some selector, select "media.id" selector (mediaAnswer context decoders rows)⟩

/-- Each query gives one result for each selector, in order. -/
structure QueriesLineUp : Prop where
  users : LinesUp "user.id" selectors rows.users (UserBroken context decoders rows)
    (context.queryUsers decoders rows selectors)
  tweets : LinesUp "tweet.id" selectors rows.tweets (TweetBroken context decoders rows)
    (context.queryTweetObjects decoders rows selectors)
  media : LinesUp "media.id" selectors rows.media (MediaBroken context decoders rows)
    (context.queryMediaObjects decoders rows selectors)

/-- An object has the same result in every call and on every content that has the same data of it,
whatever else is stored or asked for. -/
structure QueriesLocal : Prop where
  users : ∀ context' rows' selectors' id, SameUserData decoders context context' rows rows' id →
    SameResults "user.id" selectors selectors' (context.queryUsers decoders rows selectors)
      (context'.queryUsers decoders rows' selectors') id
  tweets : ∀ context' rows' selectors' id, SameTweetData decoders context context' rows rows' id →
    SameResults "tweet.id" selectors selectors'
      (context.queryTweetObjects decoders rows selectors)
      (context'.queryTweetObjects decoders rows' selectors') id
  media : ∀ context' rows' selectors' id, SameMediaData decoders context context' rows rows' id →
    SameResults "media.id" selectors selectors'
      (context.queryMediaObjects decoders rows selectors)
      (context'.queryMediaObjects decoders rows' selectors') id

/-- Query answers line up with their selectors, and errors stay with their objects. -/
theorem queries_line_up :
    QueriesAnswer context decoders rows selectors ∧
      QueriesLineUp context decoders rows selectors ∧
      QueriesLocal context decoders rows selectors := by
  refine ⟨⟨BuildContext.queryUsers_eq, BuildContext.queryTweetObjects_eq,
    BuildContext.queryMediaObjects_eq⟩, ⟨?_, ?_, ?_⟩, ⟨?_, ?_, ?_⟩⟩
  · rw [BuildContext.queryUsers_eq]
    exact linesUp_map
  · rw [BuildContext.queryTweetObjects_eq]
    exact linesUp_map
  · rw [BuildContext.queryMediaObjects_eq]
    exact linesUp_map
  · intro context' rows' selectors' id same
    rw [BuildContext.queryUsers_eq, BuildContext.queryUsers_eq]
    exact sameResults_map same.answer
  · intro context' rows' selectors' id same
    rw [BuildContext.queryTweetObjects_eq, BuildContext.queryTweetObjects_eq]
    exact sameResults_map same.answer
  · intro context' rows' selectors' id same
    rw [BuildContext.queryMediaObjects_eq, BuildContext.queryMediaObjects_eq]
    exact sameResults_map same.answer

end Queries

end TweetDb.Query
