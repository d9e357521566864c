import TweetDb.Query.Build
import TweetDb.Submit.Execute

/-! # The public query

`tweet_query/fetch.rs`, of one id: what is fetched for the others takes no part
in its answer.
-/

namespace TweetDb.Query

open Json Relational
open Submit (Database parseI64Id transpose)
open TweetDb.Tweet (Version)

/-- `QueryObjectResult`, without the id. -/
inductive QueryObject where
  | found (data : Value)
  | missing
  | failed (error : String)

def QueryObject.answer : Except String Value → QueryObject
  | .ok data => .found data
  | .error error => .failed error

/-- The years 1 to 9999: the database writes any other time in a way that is not RFC 3339. -/
def readable (time : Timestamp) : Bool :=
  decide (-62135596800000000 ≤ time) && decide (time < 253402300800000000)

/-- What is formatted is parsed again. -/
structure Formats.Lawful (formats : Formats) : Prop where
  parseTime : ∀ time, readable time = true →
    formats.parseTime (formats.formatTime (time * 1000)) = some (time * 1000)
  parseUuid : ∀ id, formats.parseUuid (formats.formatUuid id) = some id

/-- The row of a `v_latest_…` view. -/
def latest {κ : Type} (table : Table (Version κ)) (subjectId : Int) : Option (Version κ) :=
  (Tweet.vLatest table).find? fun row => decide (row.subjectId = subjectId)

namespace BuildContext

variable (context : BuildContext) (db : Database)

/-- `decode_i64_map`, of a row with these times. -/
def decodeRow {α : Type} (label : String) (id : Int) (times : α → List Timestamp) (row : α) :
    Except String α :=
  match (times row).find? fun time => !readable time with
  | some time => .error s!"failed to decode {label} {id}: {context.formats.timeError time}"
  | none => .ok row

/-- `decode_optional`, of the newest version. -/
def decodeLatest {κ : Type} (label : String) (table : Table (Version κ)) (id : Int) :
    Except String (Option (Version κ)) :=
  transpose (context.decodeRow label id fun row => [row.recordedAt]) (latest table id)

/-- `query_users`. -/
def queryUser (id : Int) : QueryObject :=
  match db.users.find id with
  | none => .missing
  | some user => .answer do
    let user ← context.decodeRow "user" id (fun user => user.registeredAt.toList) user
    let snapshot ← context.decodeLatest "latest user snapshot" db.userSnapshots id
    let stats ← context.decodeLatest "latest user stats" db.userStats id
    context.buildUserJson user snapshot stats

/-- `query_tweet_objects`; a policy, a note and a place have no times. -/
def queryTweet (id : Int) : QueryObject :=
  match db.tweets.find id with
  | none => .missing
  | some tweet => .answer do
    let tweet ← context.decodeRow "tweet" id (fun tweet => [tweet.publishedAt]) tweet
    let edit ← transpose (context.decodeRow "tweet edit" id fun edit => edit.editableUntil.toList)
      (db.tweetEdits.find id)
    let stats ← context.decodeLatest "latest tweet stats" db.tweetStats id
    context.buildTweetJson tweet (tweet.placeId.bind db.tweetPlaces.find) edit
      (db.tweetPolicies.find id) (db.tweetCommunityNotes.find id) stats
      (Tweet.refsOf db.refs.media.rows id)

/-- `query_media_objects`. -/
def queryMedia (id : Int) : QueryObject :=
  match db.media.find id with
  | none => .missing
  | some media => .answer do
    let resource ← context.decodeLatest "latest media resource" db.mediaResources id
    context.buildMediaJson media resource

end BuildContext

/-! ## What is found -/

theorem latest_mem {κ : Type} {table : Table (Version κ)} {subjectId : Int} {row : Version κ}
    (isLatest : latest table subjectId = some row) :
    row ∈ table.rows ∧ row.subjectId = subjectId := by
  have inView := List.mem_of_find?_eq_some isLatest
  exact ⟨mem_orderBy.mp (mem_of_mem_distinctOn inView), by simpa using List.find?_some isLatest⟩

section Decoded

variable {context : BuildContext} {label : String} {id : Int}

theorem decodeRow_eq_ok {α : Type} {times : α → List Timestamp} {row result : α}
    (decoded : context.decodeRow label id times row = .ok result) :
    result = row ∧ ∀ time ∈ times row, readable time = true := by
  unfold BuildContext.decodeRow at decoded
  split at decoded
  next => cases decoded
  next none =>
    cases decoded
    exact ⟨rfl, by simpa using List.find?_eq_none.mp none⟩

theorem decodeOptional_eq_ok {α : Type} {times : α → List Timestamp} {row result : Option α}
    (decoded : transpose (context.decodeRow label id times) row = .ok result) :
    result = row ∧ ∀ part ∈ row, ∀ time ∈ times part, readable time = true := by
  cases row with
  | none =>
    cases decoded
    exact ⟨rfl, by simp⟩
  | some row =>
    obtain ⟨part, isPart, rfl⟩ := map_eq_ok decoded
    obtain ⟨rfl, areReadable⟩ := decodeRow_eq_ok isPart
    exact ⟨rfl, by simpa using areReadable⟩

theorem decodeLatest_eq_ok {κ : Type} {table : Table (Version κ)} {result : Option (Version κ)}
    (decoded : context.decodeLatest label table id = .ok result) :
    ∀ row ∈ result, row ∈ table.rows ∧ row.subjectId = id ∧ readable row.recordedAt = true := by
  obtain ⟨rfl, areReadable⟩ := decodeOptional_eq_ok decoded
  intro row isRow
  obtain ⟨member, isSubject⟩ := latest_mem isRow
  exact ⟨member, isSubject, by simpa using areReadable row isRow⟩

end Decoded

theorem answer_eq_found {built : Except String Value} {data : Value}
    (found : QueryObject.answer built = .found data) : built = .ok data := by
  cases built with
  | error error => cases found
  | ok value =>
    cases found
    rfl

/-- `parse_i64_selections`. -/
def select (field selector : String) (query : Int → QueryObject) : QueryObject :=
  match parseI64Id selector field with
  | .ok id => query id
  | .error error => .failed error

end TweetDb.Query
