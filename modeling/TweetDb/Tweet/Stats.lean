import TweetDb.Tweet.Snapshots

/-! # Statistics

`tweet.append_user_stats_if_changed` and `tweet.append_tweet_stats_if_changed`
are one statement over two tables.  Next to an unchanged observation they drop
one that comes too soon after the newest row not later than it.
-/

namespace TweetDb.Tweet

open Relational Versions

structure UserStatsColumns where
  followers : Option Int
  following : Option Int
  likes : Option Int
  mediaPosts : Option Int
  tweets : Option Int
  listed : Option Int
deriving DecidableEq, Repr

instance : VersionColumns UserStatsColumns where
  notDistinct latest input :=
    decide (latest.followers = input.followers)
      && decide (latest.following = input.following)
      && decide (latest.likes = input.likes)
      && decide (latest.mediaPosts = input.mediaPosts)
      && decide (latest.tweets = input.tweets)
      && decide (latest.listed = input.listed)
  notDistinct_iff := by
    rintro ⟨⟩ ⟨⟩
    simp only [Bool.and_eq_true, decide_eq_true_eq, UserStatsColumns.mk.injEq, and_assoc]

def UserStats.toVersion (item : UserStats) : Version UserStatsColumns where
  subjectId := item.userId
  recordedAt := item.recordedAt
  content :=
    { followers := item.followers
      following := item.following
      likes := item.likes
      mediaPosts := item.mediaPosts
      tweets := item.tweets
      listed := item.listed }

structure TweetStatsColumns where
  views : Option Int
  replies : Option Int
  reposts : Option Int
  quotes : Option Int
  likes : Option Int
  bookmarks : Option Int
deriving DecidableEq, Repr

instance : VersionColumns TweetStatsColumns where
  notDistinct latest input :=
    decide (latest.views = input.views)
      && decide (latest.replies = input.replies)
      && decide (latest.reposts = input.reposts)
      && decide (latest.quotes = input.quotes)
      && decide (latest.likes = input.likes)
      && decide (latest.bookmarks = input.bookmarks)
  notDistinct_iff := by
    rintro ⟨⟩ ⟨⟩
    simp only [Bool.and_eq_true, decide_eq_true_eq, TweetStatsColumns.mk.injEq, and_assoc]

def TweetStats.toVersion (item : TweetStats) : Version TweetStatsColumns where
  subjectId := item.tweetId
  recordedAt := item.recordedAt
  content :=
    { views := item.views
      replies := item.replies
      reposts := item.reposts
      quotes := item.quotes
      likes := item.likes
      bookmarks := item.bookmarks }

/-- The `decision` of the `classified` part. -/
inductive StatsDecision where
  | missingParent
  | unchanged
  | interval
  | candidate
deriving DecidableEq, Repr

inductive StatsStatus where
  | missingParent
  | inserted
  | unchanged
  | interval
  | duplicate
deriving DecidableEq, Repr

variable {κ : Type} [VersionColumns κ]

def decideStats (minIntervalSeconds : Int) (hasParent : Int → Bool) (table : Table (Version κ))
    (input : Version κ) : StatsDecision :=
  if hasParent input.subjectId = false then .missingParent
  else
    match latestAt table input.subjectId input.recordedAt with
    | none => .candidate
    | some latest =>
      if VersionColumns.notDistinct latest.content input.content then .unchanged
      else if input.recordedAt - latest.recordedAt < minIntervalSeconds * 1000000 then .interval
      else .candidate

def StatsDecision.status (inserted : Bool) : StatsDecision → StatsStatus
  | .missingParent => .missingParent
  | .unchanged => if inserted then .inserted else .unchanged
  | .interval => if inserted then .inserted else .interval
  | .candidate => if inserted then .inserted else .duplicate

def statsStatus (minIntervalSeconds : Int) (hasParent : Int → Bool) (table : Table (Version κ))
    (inserted : List (Version κ)) (row : Version κ) : StatsStatus :=
  (decideStats minIntervalSeconds hasParent table row).status
    (inserted.any fun new => decide (Row.clash new row))

/-- The statement over a table of statistics. -/
def appendStatsIfChanged (minIntervalSeconds : Int) (hasParent : Int → Bool)
    (input : List (Version κ)) (table : Table (Version κ)) :
    List ((Int × Timestamp) × StatsStatus) × Table (Version κ) :=
  let rows := distinctInput input
  let new := rows.filter fun row =>
    decide (decideStats minIntervalSeconds hasParent table row = .candidate)
  let inserted := table.insertNew new
  (rows.map fun row => ((row.subjectId, row.recordedAt),
    statsStatus minIntervalSeconds hasParent table inserted.1 row), inserted.2)

/-- `tweet.append_user_stats_if_changed`. -/
def appendUserStatsIfChanged (minIntervalSeconds : Int) (hasUser : Int → Bool)
    (stats : List UserStats) (table : Table (Version UserStatsColumns)) :
    List ((Int × Timestamp) × StatsStatus) × Table (Version UserStatsColumns) :=
  appendStatsIfChanged minIntervalSeconds hasUser (stats.map UserStats.toVersion) table

/-- `tweet.append_tweet_stats_if_changed`. -/
def appendTweetStatsIfChanged (minIntervalSeconds : Int) (hasTweet : Int → Bool)
    (stats : List TweetStats) (table : Table (Version TweetStatsColumns)) :
    List ((Int × Timestamp) × StatsStatus) × Table (Version TweetStatsColumns) :=
  appendStatsIfChanged minIntervalSeconds hasTweet (stats.map TweetStats.toVersion) table

end TweetDb.Tweet
