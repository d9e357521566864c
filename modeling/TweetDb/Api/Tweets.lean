import TweetDb.Api.Common
import TweetDb.Relational.Select
import TweetDb.Relational.Table
import TweetDb.Tweet.Types

/-! # Browsing tweets

`list_tweets` for a session that may read tweets: filters as predicates of one
query, pages by keyset on the sort column and the id.
-/

namespace TweetDb.Api

open Paging Relational

/-- A row of `tweet.tweet` with the times the database keeps. -/
structure StoredTweet where
  row : Tweet.TweetRow
  createdAt : Timestamp
  updatedAt : Timestamp
deriving DecidableEq, Repr

def StoredTweet.id (tweet : StoredTweet) : Int := tweet.row.id

instance : Row StoredTweet Int := .ofKey StoredTweet.id

structure TweetListQuery where
  list : ListQuery
  authorId : Option String
  relation : Option String
  sort : Option String
deriving DecidableEq, Repr

inductive TweetListSort where
  | publishedAt
  | createdAt
  | updatedAt
deriving DecidableEq, Repr

def TweetListSort.parse (raw : Option String) : Except ApiError TweetListSort :=
  match trim (raw.getD "publishedAt") with
  | "publishedAt" => .ok .publishedAt
  | "createdAt" => .ok .createdAt
  | "updatedAt" => .ok .updatedAt
  | _ => .error (.badRequest "sort must be one of publishedAt, createdAt, updatedAt")

/-- The column of `sql_column`. -/
def TweetListSort.column : TweetListSort → StoredTweet → Timestamp
  | .publishedAt, tweet => tweet.row.publishedAt
  | .createdAt, tweet => tweet.createdAt
  | .updatedAt, tweet => tweet.updatedAt

structure TweetCursor where
  v : Nat
  q : Option String
  authorId : Option Int
  relation : String
  sort : TweetListSort
  sortAt : Option Timestamp
  publishedAt : Option Timestamp
  id : Int
deriving DecidableEq, Repr

def TweetCursor.sortTime (cursor : TweetCursor) : Except ApiError Timestamp :=
  match cursor.sortAt.or cursor.publishedAt with
  | some time => .ok time
  | none => .error (.badRequest "invalid cursor")

/-- The filters and the sort of a request. -/
structure TweetListFilters where
  q : Option String
  authorId : Option Int
  relation : String
  sort : TweetListSort
deriving DecidableEq, Repr

def TweetListQuery.filters (query : TweetListQuery) : Except ApiError TweetListFilters := do
  let authorId ← parseOptionalI64 query.authorId "authorId"
  let relation ← normalizeTweetRelation query.relation
  let sort ← TweetListSort.parse query.sort
  return ⟨normalizeQuery query.list.q, authorId, relation, sort⟩

/-- The relation predicates; a tweet may meet several. -/
def hasRelation (relation : String) (tweet : StoredTweet) : Bool :=
  relation == "all" ||
  (relation == "original" && tweet.row.replyToTweetId.isNone && tweet.row.quoteTweetId.isNone &&
    tweet.row.repostId.isNone) ||
  (relation == "reply" && tweet.row.replyToTweetId.isSome) ||
  (relation == "quote" && tweet.row.quoteTweetId.isSome) ||
  (relation == "repost" && tweet.row.repostId.isSome)

namespace TweetListFilters

variable (filters : TweetListFilters)

/-- The `WHERE` clause without the cursor. -/
def selects (tweet : StoredTweet) : Bool :=
  (match filters.authorId with
    | none => true
    | some authorId => decide (tweet.row.authorId = authorId)) &&
  hasRelation filters.relation tweet &&
  (match prefixPattern filters.q with
    | none => true
    | some pattern =>
      like (toString tweet.id) pattern || like (toString tweet.row.authorId) pattern)

/-- `(sort column, id) > (sort column, id)`: the first tweet comes before the second. -/
def Precedes (tweet other : StoredTweet) : Prop :=
  filters.sort.column other < filters.sort.column tweet ∨
    filters.sort.column other = filters.sort.column tweet ∧ other.id < tweet.id

instance : DecidableRel filters.Precedes := fun _ _ => inferInstanceAs (Decidable (_ ∨ _))

def cursorAt (tweet : StoredTweet) : TweetCursor where
  v := cursorVersion
  q := filters.q
  authorId := filters.authorId
  relation := filters.relation
  sort := filters.sort
  sortAt := some (filters.sort.column tweet)
  publishedAt := none
  id := tweet.id

/-- The checks of a cursor, and the keyset it stands for. -/
def acceptCursor (cursor : TweetCursor) : Except ApiError (Timestamp × Int) := do
  ensureCursorVersion cursor.v
  ensureFilterMatch cursor.q filters.q "cursor does not match query"
  if cursor.authorId ≠ filters.authorId ∨ cursor.relation ≠ filters.relation then
    throw (.badRequest "cursor does not match filters")
  if cursor.sort ≠ filters.sort then
    throw (.badRequest "cursor does not match sort")
  let sortAt ← cursor.sortTime
  return (sortAt, cursor.id)

/-- The columns of `ORDER BY … DESC, t.id DESC`. -/
def orderColumns (tweet : StoredTweet) : List Int :=
  [-filters.sort.column tweet, -tweet.id]

/-- `NOT use_cursor OR (sort column, id) < (cursor time, cursor id)`. -/
def follows (keyset : Option (Timestamp × Int)) (tweet : StoredTweet) : Bool :=
  match keyset with
  | none => true
  | some (sortAt, id) => decide (filters.sort.column tweet < sortAt ∨
      filters.sort.column tweet = sortAt ∧ tweet.id < id)

/-- The query of `list_tweets`. -/
def selectPage (tweets : Table StoredTweet) (keyset : Option (Timestamp × Int)) (limit : Nat) :
    Except ApiError (List StoredTweet) :=
  if filters.q.all isSqlText then
    .ok ((orderBy filters.orderColumns (tweets.rows.filter fun tweet =>
      filters.selects tweet && filters.follows keyset tweet)).take limit)
  else .error .database

end TweetListFilters

def listTweets (codec : CursorCodec TweetCursor) (tweets : Table StoredTweet)
    (query : TweetListQuery) : Except ApiError (Page StoredTweet String) := do
  let limit := resolveLimit query.list.limit
  let filters ← query.filters
  let cursor ← query.list.cursor.mapM codec.decodeCursor
  let keyset ← cursor.mapM filters.acceptCursor
  let rows ← filters.selectPage tweets keyset (limit + 1)
  paginateRows codec.encodeCursor filters.cursorAt limit rows

/-- The same request with another cursor. -/
def TweetListQuery.withCursor (query : TweetListQuery) (cursor : Option String) :
    TweetListQuery :=
  { query with list := { query.list with cursor } }

@[simp] theorem filters_withCursor (query : TweetListQuery) (cursor : Option String) :
    (query.withCursor cursor).filters = query.filters := rfl

/-! ## The tweets of a listing -/

namespace TweetListFilters

variable {filters : TweetListFilters} {tweets : Table StoredTweet}

/-- All that the filters select, in the order of the listing. -/
def listing (filters : TweetListFilters) (tweets : Table StoredTweet) : List StoredTweet :=
  orderBy filters.orderColumns (tweets.rows.filter filters.selects)

theorem mem_listing {tweet : StoredTweet} :
    tweet ∈ filters.listing tweets ↔ tweet ∈ tweets.rows ∧ filters.selects tweet = true := by
  rw [listing, mem_orderBy, List.mem_filter]

theorem eq_of_orderColumns {tweet other : StoredTweet} (present : tweet ∈ tweets.rows)
    (otherPresent : other ∈ tweets.rows)
    (same : filters.orderColumns tweet = filters.orderColumns other) : tweet = other := by
  simp only [orderColumns, List.cons.injEq, and_true] at same
  have sameId : tweet.id = other.id := by omega
  exact tweets.eq_of_key present otherPresent sameId

theorem precedes_asymm (tweet other : StoredTweet) (ordered : filters.Precedes tweet other) :
    ¬ filters.Precedes other tweet := by
  simp only [Precedes, Timestamp] at ordered ⊢
  omega

theorem listing_nodup : (filters.listing tweets).Nodup := by
  have nodup : tweets.rows.Nodup := tweets.unique.imp fun distinct same =>
    distinct (Row.clash_of_key (by rw [same]))
  exact nodup_orderBy _ (nodup.filter _)

theorem listing_sorted : (filters.listing tweets).Pairwise filters.Precedes := by
  have sorted := orderBy_sorted filters.orderColumns (tweets.rows.filter filters.selects)
  have distinct : (filters.listing tweets).Pairwise fun a b => a ≠ b := listing_nodup
  refine (sorted.and distinct).imp_of_mem fun {tweet other} present otherPresent ordered => ?_
  have different : tweet.id ≠ other.id := fun same => ordered.2
    (tweets.eq_of_key (mem_listing.mp present).1 (mem_listing.mp otherPresent).1 same)
  have le := ordered.1
  simp only [orderColumns, columnsLe_pair] at le
  simp only [Precedes, Timestamp] at le ⊢
  omega

/-- The query of a page reads on from the keyset. -/
theorem selectPage_eq (keyset : Option (Timestamp × Int)) (limit : Nat) :
    filters.selectPage tweets keyset limit =
      if filters.q.all isSqlText then
        .ok (((filters.listing tweets).filter (filters.follows keyset)).take limit)
      else .error .database := by
  have both : tweets.rows.filter (fun tweet =>
      filters.selects tweet && filters.follows keyset tweet) =
      (tweets.rows.filter filters.selects).filter (filters.follows keyset) := by
    rw [List.filter_filter]
    exact List.filter_congr fun tweet _ => Bool.and_comm _ _
  unfold selectPage listing
  rw [both, orderBy_filter]
  intro tweet present other otherPresent same
  exact eq_of_orderColumns (List.mem_of_mem_filter present) (List.mem_of_mem_filter otherPresent)
    same

theorem acceptCursor_cursorAt (tweet : StoredTweet) :
    filters.acceptCursor (filters.cursorAt tweet) =
      .ok (filters.sort.column tweet, tweet.id) := by
  simp [acceptCursor, cursorAt, ensureCursorVersion, ensureFilterMatch, TweetCursor.sortTime,
    bind, Except.bind, pure, Except.pure]

theorem follows_cursorAt (tweet : StoredTweet) :
    filters.follows (some (filters.sort.column tweet, tweet.id)) =
      fun other => decide (filters.Precedes tweet other) := rfl

end TweetListFilters

/-! ## Following the cursors -/

section Listing

variable {codec : CursorCodec TweetCursor} {tweets : Table StoredTweet} {query : TweetListQuery}
  {filters : TweetListFilters}

/-- A cursor stands for what follows the tweet it was made of. -/
def Remaining (codec : CursorCodec TweetCursor) (filters : TweetListFilters)
    (tweets : Table StoredTweet) (cursor : Option String) (rest : List StoredTweet) : Prop :=
  match cursor with
  | none => rest = filters.listing tweets
  | some text => ∃ before tweet, filters.listing tweets = before ++ tweet :: rest ∧
      codec.encodeCursor (filters.cursorAt tweet) = .ok text

theorem Remaining.mem_rows {cursor : Option String} {rest : List StoredTweet}
    {tweet : StoredTweet} (remaining : Remaining codec filters tweets cursor rest)
    (member : tweet ∈ rest) : tweet ∈ tweets.rows := by
  have listed : tweet ∈ filters.listing tweets := by
    cases cursor with
    | none => rwa [remaining] at member
    | some text =>
      obtain ⟨before, last, split, _⟩ := remaining
      rw [split]
      exact List.mem_append_right _ (List.mem_cons_of_mem _ member)
  exact (TweetListFilters.mem_listing.mp listed).1

/-- A request reads the first rows of what its cursor stands for, and one row more. -/
theorem listTweets_eq {cursor : Option String} {rest : List StoredTweet}
    (parsed : query.filters = .ok filters) (sqlText : filters.q.all isSqlText = true)
    (survives : ∀ tweet ∈ tweets.rows, codec.Survives (filters.cursorAt tweet))
    (remaining : Remaining codec filters tweets cursor rest) :
    listTweets codec tweets (query.withCursor cursor) =
      paginateRows codec.encodeCursor filters.cursorAt (resolveLimit query.list.limit)
        (rest.take (resolveLimit query.list.limit + 1)) := by
  unfold listTweets
  rw [filters_withCursor, parsed]
  cases cursor with
  | none =>
    have all : (filters.listing tweets).filter (filters.follows none) = rest := by
      rw [remaining]
      exact List.filter_eq_self.mpr fun _ _ => rfl
    simp [TweetListQuery.withCursor, bind, Except.bind, pure, Except.pure,
      TweetListFilters.selectPage_eq, sqlText, all]
  | some text =>
    obtain ⟨before, tweet, split, encoded⟩ := remaining
    have stored : tweet ∈ tweets.rows := by
      have listed : tweet ∈ filters.listing tweets := by simp [split]
      exact (TweetListFilters.mem_listing.mp listed).1
    have decoded := (survives tweet stored).decode encoded
    have after : (filters.listing tweets).filter
        (filters.follows (some (filters.sort.column tweet, tweet.id))) = rest := by
      have sorted : (filters.listing tweets).Pairwise filters.Precedes :=
        TweetListFilters.listing_sorted
      rw [TweetListFilters.follows_cursorAt, split]
      rw [split] at sorted
      exact filter_after TweetListFilters.precedes_asymm sorted
    simp [TweetListQuery.withCursor, bind, Except.bind, decoded,
      TweetListFilters.acceptCursor_cursorAt, TweetListFilters.selectPage_eq, sqlText, after]

theorem listTweets_serves (parsed : query.filters = .ok filters)
    (sqlText : filters.q.all isSqlText = true)
    (survives : ∀ tweet ∈ tweets.rows, codec.Survives (filters.cursorAt tweet)) :
    Serves (fun cursor => listTweets codec tweets (query.withCursor cursor))
      (resolveLimit query.list.limit) (Remaining codec filters tweets) := by
  constructor
  intro cursor rest remaining
  have encodes : ∀ tweet ∈ rest, ∃ text, codec.encodeCursor (filters.cursorAt tweet) = .ok text := by
    intro tweet member
    obtain ⟨text, encoded, _⟩ := survives tweet (remaining.mem_rows member)
    exact ⟨text, encoded⟩
  obtain ⟨next, paginated, isLast, continues⟩ :=
    paginateRows_take (resolveLimit_pos query.list.limit) encodes
  refine ⟨next, ?_, isLast, fun isSome => ?_⟩
  · simp only [listTweets_eq parsed sqlText survives remaining, paginated]
  · obtain ⟨text, rfl⟩ := Option.ne_none_iff_exists'.mp isSome
    obtain ⟨before, tweet, after, split, atLimit, encoded⟩ := continues text rfl
    have rest' : rest.drop (resolveLimit query.list.limit) = after := by
      have moved : before ++ tweet :: after = (before ++ [tweet]) ++ after := by simp
      rw [split, ← atLimit, moved, List.drop_left]
    rw [rest']
    cases cursor with
    | none => exact ⟨before, tweet, by rw [← remaining, split], encoded⟩
    | some earlier =>
      obtain ⟨before', tweet', split', _⟩ := remaining
      exact ⟨before' ++ tweet' :: before, tweet, by rw [split', split]; simp, encoded⟩

/-- The first request is answered if the database takes its text. -/
theorem sqlText_of_answered {first : Page StoredTweet String} (parsed : query.filters = .ok filters)
    (answered : listTweets codec tweets (query.withCursor none) = .ok first) :
    filters.q.all isSqlText = true := by
  by_contra refused
  unfold listTweets at answered
  rw [filters_withCursor, parsed] at answered
  simp [TweetListQuery.withCursor, bind, Except.bind, pure, Except.pure,
    TweetListFilters.selectPage, refused] at answered

theorem follow_listTweets (parsed : query.filters = .ok filters)
    (sqlText : filters.q.all isSqlText = true)
    (survives : ∀ tweet ∈ tweets.rows, codec.Survives (filters.cursorAt tweet)) :
    ∃ pages, follow (fun cursor => listTweets codec tweets (query.withCursor cursor))
        (tweets.rows.length + 1) none = some (.ok pages) ∧
      pages.flatMap Page.data = filters.listing tweets := by
  have short : (filters.listing tweets).length < tweets.rows.length + 1 := by
    have length := (orderBy_perm filters.orderColumns (tweets.rows.filter filters.selects)).length_eq
    have filtered := List.length_filter_le filters.selects tweets.rows
    simp only [TweetListFilters.listing]
    omega
  have starts : Remaining codec filters tweets none (filters.listing tweets) := rfl
  exact follow_of_serves (resolveLimit_pos query.list.limit)
    (listTweets_serves parsed sqlText survives) starts short

/-- Once the first request is answered, following the cursors comes to an end and visits the
tweets the filters select, each once and in order. -/
theorem list_tweets_visits_each_once {first : Page StoredTweet String}
    (parsed : query.filters = .ok filters)
    (answered : listTweets codec tweets (query.withCursor none) = .ok first)
    (survives : ∀ tweet ∈ tweets.rows, codec.Survives (filters.cursorAt tweet)) :
    ∃ pages, follow (fun cursor => listTweets codec tweets (query.withCursor cursor))
        (tweets.rows.length + 1) none = some (.ok pages) ∧
      (∀ tweet, tweet ∈ pages.flatMap Page.data ↔
        tweet ∈ tweets.rows ∧ filters.selects tweet = true) ∧
      (pages.flatMap Page.data).Nodup ∧
      (pages.flatMap Page.data).Pairwise filters.Precedes := by
  obtain ⟨pages, followed, visited⟩ :=
    follow_listTweets parsed (sqlText_of_answered parsed answered) survives
  refine ⟨pages, followed, ?_⟩
  rw [visited]
  exact ⟨fun _ => TweetListFilters.mem_listing, TweetListFilters.listing_nodup,
    TweetListFilters.listing_sorted⟩

end Listing

/-! A codec that knows some cursors, with the texts `encode_cursor` has for them. -/

def tableCodec {κ : Type} [DecidableEq κ] (texts : List (κ × String)) : CursorCodec κ where
  encodeCursor cursor :=
    match texts.find? fun entry => decide (entry.1 = cursor) with
    | some entry => .ok entry.2
    | none => .error .database
  decodeCursor text :=
    match texts.find? fun entry => decide (entry.2 = text) with
    | some entry => .ok entry.1
    | none => .error (.badRequest "invalid cursor")

/-- A tweet of 2026-04-08 without any relation. -/
def storedTweet (id : Int) : StoredTweet where
  row :=
    { id
      publishedAt := 1775606400000000
      source := none
      authorId := 7
      placeId := none
      legacyText := ⟨"text", none, none, [], [], [], [], [], []⟩
      noteId := none
      noteText := none
      language := none
      conversationId := id
      replyToTweetId := none
      replyToUserId := none
      quoteTweetId := none
      quotePermalink := none
      repostId := none }
  createdAt := 1775606400000000
  updatedAt := 1775606400000000

def twoTweets : Table StoredTweet := ⟨[storedTweet 1, storedTweet 2], by decide⟩

def allByPublication : TweetListFilters := ⟨none, none, "all", .publishedAt⟩

/-- What the two cursors have in common: all but the id. -/
def cursorText : String :=
  "eyJ2IjoxLCJxIjpudWxsLCJhdXRob3JfaWQiOm51bGwsInJlbGF0aW9uIjoiYWxsIiwic29ydCI6InB1Ymxpc2hl" ++
  "ZEF0Iiwic29ydF9hdCI6IjIwMjYtMDQtMDhUMDA6MDA6MDBaIiwiaWQiOj"

def twoCursors : CursorCodec TweetCursor := tableCodec
  [(allByPublication.cursorAt (storedTweet 2), cursorText ++ "J9"),
    (allByPublication.cursorAt (storedTweet 1), cursorText ++ "F9")]

set_option maxRecDepth 4000 in
theorem twoCursors_survive (tweet : StoredTweet) (stored : tweet ∈ twoTweets.rows) :
    twoCursors.Survives (allByPublication.cursorAt tweet) := by
  simp only [twoTweets, List.mem_cons, List.not_mem_nil, or_false] at stored
  obtain rfl | rfl := stored
  · exact ⟨_, rfl, by decide⟩
  · exact ⟨_, rfl, by decide⟩

/-- Two tweets of one time on pages of one. -/
theorem list_tweets_visits_each_once_tied : ∃ pages,
    follow (fun cursor => listTweets twoCursors twoTweets
        (TweetListQuery.withCursor ⟨⟨none, some 1, none⟩, none, none, none⟩ cursor)) 3 none =
      some (.ok pages) ∧
      (∀ tweet, tweet ∈ pages.flatMap Page.data ↔
        tweet ∈ twoTweets.rows ∧ allByPublication.selects tweet = true) ∧
      (pages.flatMap Page.data).Nodup ∧
      (pages.flatMap Page.data).Pairwise allByPublication.Precedes := by
  have answered : ∃ first, listTweets twoCursors twoTweets
      (TweetListQuery.withCursor ⟨⟨none, some 1, none⟩, none, none, none⟩ none) = .ok first :=
    ⟨_, rfl⟩
  obtain ⟨first, answered⟩ := answered
  exact @list_tweets_visits_each_once _ _ _ allByPublication _ rfl answered twoCursors_survive

end TweetDb.Api
