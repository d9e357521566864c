import TweetDb.Query.LineUp
import TweetDb.Submit.Coverage

/-! # What is looked up was asked for

Conversion and building each look up keys that another traversal has collected.
Neither meets a key that was left out.
-/

namespace TweetDb.Query

open Fallible Relational
open Submit (ConversionsResolve LookupStore PreparationsResolve SubmitLookupIds SubmitTweetRequest
  conversions_resolve parseI64Id preparations_resolve resolveSubmitLookupIds
  transpose)
open TweetDb.Tweet (TweetRow)

section Requests

variable {ρ : Type} (decoders : Decoders ρ) (rows : StoredRows ρ) (selectors : List String)

/-- The lookups that `query_users` asks for. -/
def userLookups : LookupRequest :=
  let userIds := collectUniqueValidIds (parseI64Selections "user.id" selectors)
  collectUserLookups (decodedValues (decodeMap decoders.userSnapshot "latest user snapshot"
    (fetchMany userIds rows.userSnapshots)))

/-- Those of `query_tweet_objects`. -/
def tweetLookups : LookupRequest :=
  let tweetIds := collectUniqueValidIds (parseI64Selections "tweet.id" selectors)
  collectTweetLookups
    (decodedValues (decodeMap decoders.tweet "tweet" (fetchMany tweetIds rows.tweets)))
    (decodedValues (decodeMap decoders.tweetCommunityNote "tweet community note"
      (fetchMany tweetIds rows.tweetCommunityNotes)))

/-- The rows of the request serve a build as well as the whole tables, and it misses none that the
tables have. -/
structure LookupRequest.Serves (request : LookupRequest) (refs : References)
    (build : BuildContext → Except String Json.Value) : Prop where
  covers : request.Covers refs
  same : ∀ context : BuildContext,
    build (context.withLookups (request.fetch context.lookups)) = build context
  spares : ∀ context : BuildContext, HasRows refs context.lookups →
    Spares Missing (build (context.withLookups (request.fetch context.lookups)))

/-- Every object that is fetched finds its lookups among those that are asked for. -/
structure ObjectsServed : Prop where
  users : ∀ id ∈ collectUniqueValidIds (parseI64Selections "user.id" selectors), ∀ row parts,
    rows.users id = some row → readUser decoders rows id row = .ok parts →
      (userLookups decoders rows selectors).Serves parts.refs parts.build
  tweets : ∀ id ∈ collectUniqueValidIds (parseI64Selections "tweet.id" selectors), ∀ row parts,
    rows.tweets id = some row → readTweet decoders rows id row = .ok parts →
      (tweetLookups decoders rows selectors).Serves parts.refs
        fun context => parts.build context (rows.tweetMediaRefs id)

/-- Of a result that misses a row the tables do not have one. -/
structure ResultsServed : Prop where
  users : ∀ context : BuildContext, ∀ result ∈ context.queryUsers decoders rows selectors,
    ∀ error, result.object = .failed error → Missing error →
      ∃ id row parts, rows.users id = some row ∧ readUser decoders rows id row = .ok parts ∧
        ¬ HasRows parts.refs context.lookups
  tweets : ∀ context : BuildContext, ∀ result ∈ context.queryTweetObjects decoders rows selectors,
    ∀ error, result.object = .failed error → Missing error →
      ∃ id row parts, rows.tweets id = some row ∧ readTweet decoders rows id row = .ok parts ∧
        ¬ HasRows parts.refs context.lookups

variable {decoders rows selectors} {request : LookupRequest} {refs : References}
  {build : BuildContext → Except String Json.Value}

theorem LookupRequest.Covers.serves (covers : request.Covers refs)
    (local' : ∀ {context context'}, AgreeOn refs context context' → build context = build context')
    (spares : ∀ context, HasRows refs context.lookups → Spares Missing (build context)) :
    request.Serves refs build where
  covers := covers
  same context := local' (covers.agreeOn context)
  spares context stored := by
    rw [local' (covers.agreeOn context)]
    exact spares context stored

theorem userLookups_serves {id : Int} {row : ρ} {parts : UserParts}
    (member : id ∈ collectUniqueValidIds (parseI64Selections "user.id" selectors))
    (isRead : readUser decoders rows id row = .ok parts) :
    (userLookups decoders rows selectors).Serves parts.refs parts.build := by
  obtain ⟨user, _, isRead⟩ := bind_eq_ok isRead
  obtain ⟨snapshot, isSnapshot, isRead⟩ := bind_eq_ok isRead
  obtain ⟨stats, _, isRead⟩ := bind_eq_ok isRead
  cases isRead
  have covers : (userLookups decoders rows selectors).Covers (.ofOption snapshotRefs snapshot) := by
    refine covers_ofOption fun part isPart => covers_snapshotRefs (mem_decodedValues.mpr ?_)
    exact ⟨id, member, BuildContext.decoded_of_transpose isSnapshot part isPart⟩
  exact covers.serves BuildContext.buildUserJson_congr fun context stored =>
    BuildContext.spares_buildUserJson stored user stats

theorem tweetLookups_serves {id : Int} {row : ρ} {parts : TweetParts}
    (member : id ∈ collectUniqueValidIds (parseI64Selections "tweet.id" selectors))
    (found : rows.tweets id = some row) (isRead : readTweet decoders rows id row = .ok parts) :
    (tweetLookups decoders rows selectors).Serves parts.refs
      fun context => parts.build context (rows.tweetMediaRefs id) := by
  obtain ⟨tweet, isTweet, isRead⟩ := bind_eq_ok isRead
  obtain ⟨edit, _, isRead⟩ := bind_eq_ok isRead
  obtain ⟨policy, _, isRead⟩ := bind_eq_ok isRead
  obtain ⟨note, isNote, isRead⟩ := bind_eq_ok isRead
  obtain ⟨stats, _, isRead⟩ := bind_eq_ok isRead
  obtain ⟨place, _, isRead⟩ := bind_eq_ok isRead
  cases isRead
  have covers : (tweetLookups decoders rows selectors).Covers
      (tweetPartRefs tweet place policy note) := by
    refine covers_tweetPartRefs (mem_decodedValues.mpr ?_)
      (fun part isPart => mem_decodedValues.mpr ?_) place policy
    · exact ⟨id, member, row, found, decodeValue_eq_ok.mp isTweet⟩
    · exact ⟨id, member, BuildContext.decoded_of_transpose isNote part isPart⟩
  exact covers.serves BuildContext.buildTweetJson_congr fun context stored =>
    BuildContext.spares_buildTweetJson stored edit stats _

theorem objects_served : ObjectsServed decoders rows selectors where
  users _ member _ _ _ isRead := userLookups_serves member isRead
  tweets _ member _ _ found isRead := tweetLookups_serves member found isRead

/-! ## Results -/

theorem Missing.start {error : String} (missing : Missing error) :
    error.toList.head? = some 'm' := by
  obtain ⟨id, rfl | rfl | rfl⟩ := missing
  all_goals
    rw [String.toList_append]
    rfl

theorem spares_parse {field : String} (named : field.toList.head?.any (· ≠ 'm') = true)
    (selector : String) : Spares Missing (parseI64Id selector field) := by
  unfold parseI64Id
  cases Submit.parseInt 64 selector with
  | some id => exact spares_ok _
  | none =>
    refine spares_error fun missing => ?_
    have start : (field ++ " must be a signed 64-bit integer").toList.head? = some 'm' :=
      missing.start
    rw [String.toList_append] at start
    cases isField : field.toList with
    | nil => simp [isField] at named
    | cons first rest =>
      have same : first = 'm' := by simpa [isField] using start
      simp [isField, same] at named

theorem spares_decodeValue {α κ : Type} [ToString κ] (decode : ρ → Except String α)
    (label : String) (id : κ) (row : ρ) : Spares Missing (decodeValue decode label id row) := by
  unfold decodeValue
  cases decode row with
  | ok value => exact spares_ok _
  | error error =>
    refine spares_error fun missing => ?_
    have start := missing.start
    simp only [String.toList_append, List.append_assoc] at start
    cases start

theorem spares_readPart {α κ : Type} [ToString κ] (decode : ρ → Except String α) (label : String)
    (id : κ) (row : Option ρ) : Spares Missing (transpose (decodeValue decode label id) row) :=
  Submit.spares_transpose fun part _ => spares_decodeValue decode label id part

theorem spares_readUser (id : Int) (row : ρ) : Spares Missing (readUser decoders rows id row) := by
  unfold readUser
  refine (spares_decodeValue _ _ _ _).bind fun user _ => ?_
  refine (spares_readPart _ _ _ _).bind fun snapshot _ => ?_
  exact (spares_readPart _ _ _ _).bind fun stats _ => spares_ok _

theorem spares_readPlace (tweet : TweetRow) : Spares Missing (readPlace decoders rows tweet) := by
  unfold readPlace
  split
  next => exact spares_readPart _ _ _ _
  next => exact spares_ok _

theorem spares_readTweet (id : Int) (row : ρ) :
    Spares Missing (readTweet decoders rows id row) := by
  unfold readTweet
  refine (spares_decodeValue _ _ _ _).bind fun tweet _ => ?_
  refine (spares_readPart _ _ _ _).bind fun edit _ => ?_
  refine (spares_readPart _ _ _ _).bind fun policy _ => ?_
  refine (spares_readPart _ _ _ _).bind fun note _ => ?_
  refine (spares_readPart _ _ _ _).bind fun stats _ => ?_
  exact (spares_readPlace tweet).bind fun place _ => spares_ok _

section Answers

variable {α : Type} {stored : Int → Option ρ} {read : Int → ρ → Except String α}
  {build : Int → α → Except String Json.Value} {refs : α → References}
  {lookups : Submit.LookupTables} {field : String} {result : QueryObjectResult} {error : String}

/-- If the reads miss no row, a result that misses one comes from a build. -/
theorem not_hasRows_of_missing (named : field.toList.head?.any (· ≠ 'm') = true)
    (reads : ∀ id row, Spares Missing (read id row))
    (builds : ∀ id parts, HasRows (refs parts) lookups → Spares Missing (build id parts))
    (member : result ∈ selectors.map fun selector =>
      ⟨some selector, select field selector fun id => answerFrom id stored read build⟩)
    (failed : result.object = .failed error) (missing : Missing error) :
    ∃ id row parts, stored id = some row ∧ read id row = .ok parts ∧
      ¬ HasRows (refs parts) lookups := by
  obtain ⟨index, isResult⟩ := List.mem_iff_getElem?.mp member
  have isSelector := isResult
  rw [List.getElem?_map] at isSelector
  obtain ⟨selector, isSelector, -⟩ := Option.map_eq_some_iff.mp isSelector
  have lines := @linesUp_map ρ field selectors stored α read build
  -- An error of a selector names the field, one of a read names no row.
  rcases lines.failed index selector result error isSelector isResult failed with
    unparsed | ⟨id, _, row, found, unread | ⟨parts, isRead, unbuilt⟩⟩
  · exact absurd missing (spares_parse named selector error unparsed)
  · exact absurd missing (reads id row error unread)
  · exact ⟨id, row, parts, found, isRead, fun has => builds id parts has error unbuilt missing⟩

end Answers

theorem results_served : ResultsServed decoders rows selectors where
  users context result member error failed missing := by
    rw [BuildContext.queryUsers_eq] at member
    refine not_hasRows_of_missing (by decide) spares_readUser (fun _ parts has => ?_) member failed
      missing
    exact BuildContext.spares_buildUserJson has parts.user parts.stats
  tweets context result member error failed missing := by
    rw [BuildContext.queryTweetObjects_eq] at member
    refine not_hasRows_of_missing (by decide) spares_readTweet (fun id parts has => ?_) member
      failed missing
    exact BuildContext.spares_buildTweetJson has parts.edit parts.stats (rows.tweetMediaRefs id)

end Requests

/-- Once the lookups of a request are resolved and all that was sent is answered, no conversion and
no part of the preparation ends with an unresolved key; and whatever a query fetches, it asks for
every row that its objects refer to. -/
theorem lookups_cover {store : LookupStore} {payload : SubmitTweetRequest} {ids : SubmitLookupIds}
    (resolved : resolveSubmitLookupIds store payload = .ok ids)
    (answers : ids.AnswersSent payload) :
    ConversionsResolve store ids payload ∧
      (∀ parseUuid clocks, PreparationsResolve store parseUuid clocks payload) ∧
        ∀ (ρ : Type) (decoders : Decoders ρ) (rows : StoredRows ρ) (selectors : List String),
          ObjectsServed decoders rows selectors ∧ ResultsServed decoders rows selectors :=
  ⟨conversions_resolve store answers, preparations_resolve resolved answers,
    fun _ _ _ _ => ⟨objects_served, results_served⟩⟩

/-- A user whose bio has a hashtag and a symbol, with one category. -/
def taggedRequest : SubmitTweetRequest :=
  ⟨[⟨"5", none, some 0, some ⟨none, "Jack", "jack", none, none, none, none, none,
    some ⟨"#lean $X", none,
      ⟨[⟨"lean", ⟨0, 5⟩⟩], [⟨"X", some ⟨6, 8⟩, none, none⟩], [], [], []⟩, []⟩, []⟩, [], none,
    some ⟨none, none, [⟨"13", "Science"⟩]⟩, none, none⟩], [], []⟩

theorem lookups_cover_tagged :
    let store : LookupStore := ⟨fun _ => .ok fun _ => some 1, fun _ => .ok fun _ => some 2,
      fun _ => .ok fun _ => some 3⟩
    ConversionsResolve store ⟨fun _ => some 1, fun _ => some 2, fun _ => some 3⟩ taggedRequest ∧
      (∀ parseUuid clocks, PreparationsResolve store parseUuid clocks taggedRequest) ∧
        ∀ (ρ : Type) (decoders : Decoders ρ) (rows : StoredRows ρ) (selectors : List String),
          ObjectsServed decoders rows selectors ∧ ResultsServed decoders rows selectors :=
  lookups_cover rfl ⟨fun _ _ => rfl, fun _ _ => rfl, fun _ _ => rfl⟩

end TweetDb.Query
