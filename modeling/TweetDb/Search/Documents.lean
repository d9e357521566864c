import TweetDb.Basic
import TweetDb.Search.Queue
import TweetDb.Text

/-! # Index documents

The rows the search workers read, the two queries of `search/mod.rs` that fetch
them, and the documents `index_tweets` and `index_users` build.
-/

namespace TweetDb.Search

/-- The columns of `tweet.tweet` that `fetch_tweet_documents` reads. -/
structure TweetRow where
  authorId : Int
  legacyBody : String
  noteBody : Option String
  repostId : Option Int
  quoteTweetId : Option Int
  replyToTweetId : Option Int
  publishedAt : Timestamp
  createdAt : Timestamp
  updatedAt : Timestamp
deriving DecidableEq, Repr

/-- The columns of `tweet.user_snapshot` that `fetch_user_documents` reads. -/
structure UserSnapshotRow where
  recordedAt : Timestamp
  userName : String
  displayName : String
deriving DecidableEq, Repr

/-- A row of `tweet.twitter_user` with its snapshots. -/
structure UserRow where
  updatedAt : Timestamp
  snapshots : List UserSnapshotRow
deriving DecidableEq, Repr

/-- The database content the documents are computed from. -/
structure Facts where
  tweet : Int → Option TweetRow
  user : Int → Option UserRow

structure TweetIndexDocument where
  id : Int
  authorId : Int
  body : String
  relation : String
  publishedAt : Timestamp
  createdAt : Timestamp
  updatedAt : Timestamp
deriving DecidableEq, Repr

structure UserIndexDocument where
  id : Int
  userName : Option String
  displayName : Option String
  updatedAt : Timestamp
deriving DecidableEq, Repr

def TweetRow.relation (row : TweetRow) : String :=
  if row.repostId.isSome then "repost"
  else if row.quoteTweetId.isSome then "quote"
  else if row.replyToTweetId.isSome then "reply"
  else "original"

def fetchTweetDocument (facts : Facts) (id : Int) : Option TweetIndexDocument :=
  (facts.tweet id).map fun row =>
    { id
      authorId := row.authorId
      body := row.noteBody.getD row.legacyBody
      relation := row.relation
      publishedAt := row.publishedAt
      createdAt := row.createdAt
      updatedAt := row.updatedAt }

/-- `tweet.v_latest_user_snapshot`. -/
def latestUserSnapshot (snapshots : List UserSnapshotRow) : Option UserSnapshotRow :=
  snapshots.foldl (fun latest snapshot =>
    match latest with
    | none => some snapshot
    | some best => if best.recordedAt < snapshot.recordedAt then some snapshot else some best) none

def fetchUserDocument (facts : Facts) (id : Int) : Option UserIndexDocument :=
  (facts.user id).map fun row =>
    let snapshot := latestUserSnapshot row.snapshots
    { id
      userName := snapshot.map UserSnapshotRow.userName
      displayName := snapshot.map UserSnapshotRow.displayName
      updatedAt := row.updatedAt }

inductive FieldValue where
  | i64 (value : Int)
  | text (value : String)
deriving DecidableEq, Repr

/-- The named values of a document, in the order they are added. -/
abbrev IndexDocument := List (String × FieldValue)

instance lawfulBEq_namedValue : LawfulBEq (String × FieldValue) := inferInstance

/-- `OffsetDateTime::unix_timestamp`. -/
def unixTimestamp (time : Timestamp) : Int := time / 1000000

/-- `toLowercase` is the Unicode lowercase mapping of `str::to_lowercase`. -/
def normalizedKeyword (toLowercase : String → String) (value : String) : String :=
  toLowercase (trim (trimStartMatches (· == '@') (trim value)))

def tweetDocument (record : TweetIndexDocument) : IndexDocument :=
  [("id", .i64 record.id),
    ("id_prefix", .text (toString record.id)),
    ("author_id", .i64 record.authorId),
    ("author_id_prefix", .text (toString record.authorId)),
    ("body", .text record.body),
    ("relation", .text record.relation),
    ("published_at", .i64 (unixTimestamp record.publishedAt)),
    ("created_at", .i64 (unixTimestamp record.createdAt)),
    ("updated_at", .i64 (unixTimestamp record.updatedAt))]

def userDocument (toLowercase : String → String) (record : UserIndexDocument) : IndexDocument :=
  [("id", .i64 record.id),
    ("id_prefix", .text (toString record.id)),
    ("updated_at", .i64 (unixTimestamp record.updatedAt))] ++
  (match record.userName with
    | some userName =>
      [("user_name", .text (normalizedKeyword toLowercase userName)),
        ("user_name_prefix", .text (normalizedKeyword toLowercase userName))]
    | none => []) ++
  (match record.displayName with
    | some displayName => [("display_name_prefix", .text displayName)]
    | none => [])

/-- The document of a target; `none` where the target is not stored. -/
def document (toLowercase : String → String) (facts : Facts) (target : IndexTarget) :
    Option IndexDocument :=
  match target.kind with
  | .user => (fetchUserDocument facts target.id).map (userDocument toLowercase)
  | .tweet => (fetchTweetDocument facts target.id).map tweetDocument

end TweetDb.Search
