import TweetDb.Query.MediaRoundTrip
import TweetDb.Query.TweetRoundTrip
import TweetDb.Transition.Run

/-! # Query data that is submitted again

The rows and the lookup tables that submit calls leave, and what a call with the
object of one of the rows does to them.
-/

namespace TweetDb.Query

open Json Relational Submit Transition

/-! ## What submit calls leave -/

structure Stored where
  db : Database
  lookups : LookupTables

def Stored.empty : Stored := ⟨.empty, .empty⟩

/-- A call: what it was sent, what its process and the database answer it, and the statements on
the lookup tables that ran with it. -/
structure SubmitCall where
  env : Environment
  payload : SubmitTweetRequest
  store : LookupStore
  parseUuid : String → Option Uuid
  clocks : Clocks
  asked : List LookupCall

def SubmitCall.prepared (call : SubmitCall) : PreparedSubmitBatch :=
  prepareSubmitBatch call.store call.parseUuid call.clocks call.payload

structure Submits (before : Stored) (call : SubmitCall) (after : Stored) : Prop where
  db : after.db = (executePreparedSubmit call.env call.prepared before.db).1
  lookups : Run (Takes LookupTables.next) before.lookups call.asked after.lookups
  answered : after.lookups.Answered call.store

/-- A database that calls have written is valid, and its categories have codes that fit. -/
structure Stored.Valid (stored : Stored) : Prop where
  db : stored.db.Valid
  lookups : stored.lookups.Fitting

theorem Stored.Valid.step {before after : Stored} {call : SubmitCall} (valid : before.Valid)
    (submits : Submits before call after) : after.Valid where
  db := by
    rw [submits.db]
    exact valid_executePreparedSubmit (valid_of_provenance provenance_collectBatch) valid.db
  lookups := valid.lookups.run submits.lookups

theorem valid_of_run {calls : List SubmitCall} {stored : Stored}
    (run : Run Submits .empty calls stored) : stored.Valid :=
  run.invariant (fun _ _ _ => Stored.Valid.step) ⟨valid_empty, fitting_empty⟩

/-! ## Sending it again -/

/-- A request with one object. -/
def request (kind : String) (data : Value) : Value := .object [(kind, .array [data])]

/-- The object is accepted, and a call with it writes nothing but these relations: they replace
the ones their tweets had or the stage fails, and transfer tasks may be added. -/
def Resubmits (context : BuildContext) (db : Database) (kind : String) (data : Value)
    (relations : List TweetRelations) : Prop :=
  ∃ payload, decodeRequest context.formats.parseTime (request kind data) = some payload ∧
    ∀ newIds clocks env,
      exec LookupTables.next context.lookups (lookupCalls newIds payload) = some context.lookups ∧
        let prepared := prepareSubmitBatch (context.lookups.store newIds) context.formats.parseUuid
          clocks payload
        prepared.Accepted ∧ OnlyRelationsSynced (env.parents db) relations db
          (executePreparedSubmit env prepared db).1

theorem resubmits_of_repeats {context : BuildContext} {db : Database} {kind : String} {data : Value}
    {relations : List TweetRelations} {payload : SubmitTweetRequest}
    (fitting : context.lookups.Fitting)
    (decoded : decodeRequest context.formats.parseTime (request kind data) = some payload)
    (repeats : RequestRepeats context.lookups context.formats.parseUuid relations db payload) :
    Resubmits context db kind data relations := by
  refine ⟨payload, decoded, fun newIds clocks env => ⟨?_, ?_⟩⟩
  · exact exec_lookupCalls newIds fitting repeats.known
  · have batch := repeats.batch newIds clocks
    refine ⟨batch.accepted, ?_⟩
    have synced := @onlyRelationsSynced_executePreparedSubmit env _ _ batch.repeats
    rwa [batch.relations] at synced

/-! A request with one object is read as the item the object is read as. -/

section Request

variable {parseTime : String → Option OffsetDateTime} {data : Value}

theorem decodeRequest_user {item : SubmitUser} (read : decodeUser parseTime data = some item) :
    decodeRequest parseTime (request "users" data) = some ⟨[item], [], []⟩ := by
  simp [decodeRequest, request, listed, defaulted, List.lookup_cons, items, read]

theorem decodeRequest_tweet {item : SubmitTweet} (read : decodeTweet parseTime data = some item) :
    decodeRequest parseTime (request "tweets" data) = some ⟨[], [item], []⟩ := by
  simp [decodeRequest, request, listed, defaulted, List.lookup_cons, items, read]

theorem decodeRequest_media {item : SubmitMedia} (read : decodeMedia parseTime data = some item) :
    decodeRequest parseTime (request "media" data) = some ⟨[], [], [item]⟩ := by
  simp [decodeRequest, request, listed, defaulted, List.lookup_cons, items, read]

end Request

/-- What is found in a database that calls have written is submitted again without effect on any
other row.  A tweet gets the relations its stored row names; of a media, the sizes must have modes
and the video variants types. -/
theorem query_data_submitted_again {calls : List SubmitCall} {stored : Stored}
    (run : Run Submits .empty calls stored) {context : BuildContext}
    (lawful : context.formats.Lawful) (current : context.lookups = stored.lookups) (id : Int)
    (data : Value) :
    (context.queryUser stored.db id = .found data →
      Resubmits context stored.db "users" data []) ∧
    (context.queryTweet stored.db id = .found data → ∃ tweet, stored.db.tweets.find id = some tweet ∧
      Resubmits context stored.db "tweets" data
        [(BuildContext.storedRows stored.db tweet).relations]) ∧
    ((∀ media ∈ stored.db.media.find id,
        CompleteMedia media (latest stored.db.mediaResources id)) →
      context.queryMedia stored.db id = .found data →
        Resubmits context stored.db "media" data []) := by
  obtain ⟨valid, fitting⟩ := valid_of_run run
  rw [← current] at fitting
  refine ⟨fun found => ?_, fun found => ?_, fun complete found => ?_⟩
  · obtain ⟨item, read, repeats⟩ := BuildContext.user_repeats lawful fitting valid found
    exact resubmits_of_repeats fitting (decodeRequest_user read) repeats
  · obtain ⟨tweet, isStored, item, read, repeats⟩ :=
      BuildContext.tweet_repeats lawful fitting valid found
    exact ⟨tweet, isStored, resubmits_of_repeats fitting (decodeRequest_tweet read) repeats⟩
  · obtain ⟨item, read, repeats⟩ := BuildContext.media_repeats lawful fitting valid complete found
    exact resubmits_of_repeats fitting (decodeRequest_media read) repeats

/-! ### A user, a media and a tweet -/

/-- A time as a number; the epoch is written as it is. -/
def formatPlain (time : Int) : String :=
  if time = 0 then "1970-01-01T00:00:00Z" else toString time

def parsePlain (text : String) : Option Int :=
  if text = "1970-01-01T00:00:00Z" then some 0 else parseSigned text.toList

theorem parsePlain_formatPlain (time : Int) : parsePlain (formatPlain time) = some time := by
  by_cases epoch : time = 0
  · subst epoch
    rfl
  · have digits : toString time ≠ "1970-01-01T00:00:00Z" := by
      intro same
      have parsed := parseSigned_toString time
      rw [same] at parsed
      cases parsed
    rw [formatPlain, if_neg epoch, parsePlain, if_neg digits, parseSigned_toString]

def plainFormats : Formats where
  formatTime := formatPlain
  parseTime := parsePlain
  timeError _ := "year is out of range"
  formatUuid id := toString (id : Int)
  parseUuid text := (parseSigned text.toList).map Int.toNat

theorem plainFormats_lawful : plainFormats.Lawful where
  parseTime time _ := parsePlain_formatPlain (time * 1000)
  parseUuid id := by
    show (parseSigned (toString (id : Int)).toList).map Int.toNat = some id
    rw [parseSigned_toString]
    rfl

def plainContext : BuildContext := ⟨plainFormats, ⟨fun _ => 1, fun _ => true⟩, .empty⟩

/-- A call whose statements all succeed. -/
def plainEnvironment : Environment where
  refusals := .nothing
  duplicateId := "duplicate id"
  tweetViolation _ _ _ := "violation"
  relationViolation _ _ := "violation"
  cached _ := true
  newId target := target.id.toNat
  newTaskId _ _ := 1
  now := 0
  statsInterval := 0
  transferActive := false
  urlPath _ := none
  choice := .sorted
  hashtag _ := true
  symbol _ := true
  orders := ⟨.deletedFirst, .deletedFirst, .deletedFirst, .deletedFirst⟩

def sentUser : SubmitUser :=
  ⟨"5", none, some 0, none, [], none, none, none, none⟩

/-- One size, which has a mode. -/
def sentMedia : SubmitMedia :=
  ⟨"7", none, .photo, none, some "a tree", none, none,
    some ⟨some ⟨800, 600, "fit"⟩, none, none, none⟩, [], [], none, none, none, none, none⟩

def sentTweet (userIds : List String) : SubmitTweet :=
  ⟨"1", none, 0, none, "5", none, ⟨mentioning userIds, none, ["7"], none⟩,
    ⟨"1", none, none, none⟩, none, none, none, none⟩

def sentCall (payload : SubmitTweetRequest) : SubmitCall where
  env := plainEnvironment
  payload := payload
  store := ⟨fun _ => .ok fun _ => none, fun _ => .ok fun _ => none, fun _ => .ok fun _ => none⟩
  parseUuid := plainFormats.parseUuid
  clocks := ⟨fun _ => 0, fun _ => 0, fun _ => 0⟩
  asked := []

/-- The user, the media and the tweet, with its first text. -/
def firstCall : SubmitCall := sentCall ⟨[sentUser], [sentTweet ["10"]], [sentMedia]⟩

/-- The tweet with another text. -/
def secondCall : SubmitCall := sentCall ⟨[], [sentTweet ["20"]], []⟩

def firstDb : Database :=
  (executePreparedSubmit firstCall.env firstCall.prepared .empty).1

def sentDb : Database :=
  (executePreparedSubmit secondCall.env secondCall.prepared firstDb).1

theorem run_sent : Run Submits .empty [firstCall, secondCall] ⟨sentDb, .empty⟩ := by
  have answered : ∀ payload, LookupTables.empty.Answered (sentCall payload).store := by
    intro payload
    constructor <;> intro _ _ _ _ answer found <;> cases answer <;> cases found
  have first : Submits .empty firstCall ⟨firstDb, .empty⟩ :=
    ⟨by rw [firstDb, Stored.empty], .nil, answered _⟩
  have second : Submits ⟨firstDb, .empty⟩ secondCall ⟨sentDb, .empty⟩ :=
    ⟨by rw [sentDb], .nil, answered _⟩
  exact .cons first (.single second)

def isFound : QueryObject → Bool
  | .found _ => true
  | _ => false

theorem exists_of_isFound {answer : QueryObject} (found : isFound answer = true) :
    ∃ data, answer = .found data := by
  cases answer with
  | found data => exact ⟨data, rfl⟩
  | missing => cases found
  | failed => cases found

theorem sent_found : isFound (plainContext.queryUser sentDb 5) = true ∧
    isFound (plainContext.queryTweet sentDb 1) = true ∧
      isFound (plainContext.queryMedia sentDb 7) = true := ⟨rfl, rfl, rfl⟩

theorem complete_sent : ∀ media ∈ sentDb.media.find 7,
    CompleteMedia media (latest sentDb.mediaResources 7) := by
  intro media isStored
  have stored : sentDb.media.find 7 = some ⟨7, .photo, some "a tree", none, none,
      some ⟨some ⟨800, 600, some "fit"⟩, none, none, none⟩, [], [], none, none, none⟩ := rfl
  have none : latest sentDb.mediaResources 7 = none := rfl
  rw [stored] at isStored
  cases isStored
  rw [none]
  constructor
  · intro variants isVariants
    cases isVariants
    simp [HasResizeModes, List.reduceOption]
  · simp

/-- All three are found, and can be submitted again. -/
theorem query_data_submitted_again_sent : ∃ user tweet media,
    Run Submits .empty [firstCall, secondCall] ⟨sentDb, .empty⟩ ∧
      plainContext.queryUser sentDb 5 = .found user ∧
      Resubmits plainContext sentDb "users" user [] ∧
      plainContext.queryTweet sentDb 1 = .found tweet ∧
      (∃ row, sentDb.tweets.find 1 = some row ∧ Resubmits plainContext sentDb "tweets" tweet
        [(BuildContext.storedRows sentDb row).relations]) ∧
      plainContext.queryMedia sentDb 7 = .found media ∧
      Resubmits plainContext sentDb "media" media [] := by
  obtain ⟨user, isUser⟩ := exists_of_isFound sent_found.1
  obtain ⟨tweet, isTweet⟩ := exists_of_isFound sent_found.2.1
  obtain ⟨media, isMedia⟩ := exists_of_isFound sent_found.2.2
  have again := @query_data_submitted_again _ _ run_sent plainContext plainFormats_lawful rfl
  exact ⟨user, tweet, media, run_sent, isUser, (again 5 user).1 isUser, isTweet,
    (again 1 tweet).2.1 isTweet, isMedia, (again 7 media).2.2 complete_sent isMedia⟩

/-! ### The relations of the tweet -/

/-- Every row that was stored is there as it was. -/
structure KeepsRows (before after : Database) : Prop where
  users : before.users.rows ⊆ after.users.rows
  userSnapshots : before.userSnapshots.rows ⊆ after.userSnapshots.rows
  userStats : before.userStats.rows ⊆ after.userStats.rows
  media : before.media.rows ⊆ after.media.rows
  mediaResources : before.mediaResources.rows ⊆ after.mediaResources.rows
  transferTasks : before.transferTasks.rows ⊆ after.transferTasks.rows
  tweetPlaces : before.tweetPlaces.rows ⊆ after.tweetPlaces.rows
  tweets : before.tweets.rows ⊆ after.tweets.rows
  tweetEdits : before.tweetEdits.rows ⊆ after.tweetEdits.rows
  tweetPolicies : before.tweetPolicies.rows ⊆ after.tweetPolicies.rows
  tweetCommunityNotes : before.tweetCommunityNotes.rows ⊆ after.tweetCommunityNotes.rows
  tweetStats : before.tweetStats.rows ⊆ after.tweetStats.rows
  mediaRefs : before.refs.media.rows ⊆ after.refs.media.rows
  mentionRefs : before.refs.mention.rows ⊆ after.refs.mention.rows
  hashtagRefs : before.refs.hashtag.rows ⊆ after.refs.hashtag.rows
  symbolRefs : before.refs.symbol.rows ⊆ after.refs.symbol.rows
  indexQueue : before.indexQueue.rows ⊆ after.indexQueue.rows

/-- The object is accepted, and a call with it changes no row. -/
def ResubmitsUnchanged (context : BuildContext) (db : Database) (kind : String) (data : Value) :
    Prop :=
  ∃ payload, decodeRequest context.formats.parseTime (request kind data) = some payload ∧
    ∀ newIds clocks env,
      let prepared := prepareSubmitBatch (context.lookups.store newIds) context.formats.parseUuid
        clocks payload
      prepared.Accepted ∧ KeepsRows db (executePreparedSubmit env prepared db).1

/-- The mentions after a call with the object of a tweet. -/
def mentionsAfter (data : Value) : Option (List Tweet.MentionRef) :=
  (decodeRequest plainContext.formats.parseTime (request "tweets" data)).map fun payload =>
    (executePreparedSubmit plainEnvironment (prepareSubmitBatch
      (plainContext.lookups.store ⟨fun _ => 1, fun _ => 1, fun _ => 1, "violation"⟩)
      plainContext.formats.parseUuid ⟨fun _ => 0, fun _ => 0, fun _ => 0⟩ payload)
        sentDb).1.refs.mention.rows

def answerMentions : QueryObject → Option (List Tweet.MentionRef)
  | .found data => mentionsAfter data
  | _ => none

/-- The row has the first text and the relation the second mention, so the object of the tweet
replaces the relation. -/
theorem resubmitted_tweet_replaces_relation : ¬ ∀ calls stored context,
    Run Submits .empty calls stored → context.formats.Lawful → context.lookups = stored.lookups →
      ∀ id data,
        (context.queryUser stored.db id = .found data →
          ResubmitsUnchanged context stored.db "users" data) ∧
        (context.queryTweet stored.db id = .found data →
          ResubmitsUnchanged context stored.db "tweets" data) ∧
        (context.queryMedia stored.db id = .found data →
          ResubmitsUnchanged context stored.db "media" data) := by
  intro claim
  obtain ⟨data, isTweet⟩ := exists_of_isFound sent_found.2.1
  obtain ⟨payload, decoded, unchanged⟩ :=
    (claim _ ⟨sentDb, .empty⟩ plainContext run_sent plainFormats_lawful rfl 1 data).2.1 isTweet
  have kept := (unchanged ⟨fun _ => 1, fun _ => 1, fun _ => 1, "violation"⟩
    ⟨fun _ => 0, fun _ => 0, fun _ => 0⟩ plainEnvironment).2.mentionRefs
  dsimp only at kept
  have before : sentDb.refs.mention.rows = [⟨1, 20⟩] := rfl
  have after : answerMentions (plainContext.queryTweet sentDb 1) = some [⟨1, 10⟩] := rfl
  rw [isTweet, answerMentions, mentionsAfter, decoded, Option.map_some, Option.some.injEq] at after
  have present : (⟨1, 20⟩ : Tweet.MentionRef) ∈ ([⟨1, 10⟩] : List Tweet.MentionRef) := by
    rw [← after]
    exact kept (by rw [before]; exact List.mem_cons_self)
  simp at present

end TweetDb.Query
