import TweetDb.Api.Tweets
import TweetDb.Search.TweetQuery

/-! # Searching tweets

`search_tweets`, from the request to the pages, over a searcher whose documents
are up to date; and how its listing without a text relates to the one of
`list_tweets`.
-/

namespace TweetDb.Api

open Paging Relational
open Search (SearchHit Searcher TweetSearchSort TweetSearchFilters)

structure TweetSearchListQuery where
  list : ListQuery
  tweetIds : Option String
  authorIds : Option String
  authorUserNames : Option String
  authorId : Option String
  relation : Option String
  sort : Option String
deriving DecidableEq, Repr

def parseSearchSort (raw : Option String) : Except ApiError TweetSearchSort :=
  match trim (raw.getD "relevance") with
  | "relevance" => .ok .relevance
  | "publishedAt" => .ok .publishedAt
  | "createdAt" => .ok .createdAt
  | "updatedAt" => .ok .updatedAt
  | _ => .error (.badRequest "sort must be one of relevance, publishedAt, createdAt, updatedAt")

/-- `split(',')`, trimmed, without empty items. -/
def csvItems (value : Option String) : List String :=
  match value with
  | none => []
  | some value => ((value.splitOn ",").map trim).filter fun item => !item.isEmpty

/-- `sort_unstable` and `dedup`. -/
def sortDedup {α : Type} [DecidableEq α] (le : α → α → Bool) (values : List α) : List α :=
  (values.insertionSort fun a b => le a b = true).dedup

def intLe (a b : Int) : Bool := decide (a ≤ b)

def parseI64Csv (value : Option String) (field : String) : Except ApiError (List Int) := do
  let values ← (csvItems value).mapM fun item =>
    match Submit.parseInt 64 item with
    | some parsed => Except.ok parsed
    | none => Except.error (ApiError.badRequest s!"{field} must be signed 64-bit integers")
  return sortDedup intLe values

def normalizeUserNameCsv (value : Option String) : List String :=
  sortDedup (fun a b => decide (a ≤ b)) <|
    ((csvItems value).map fun item =>
      toAsciiLowercase (trim (trimStartMatches (· == '@') item))).filter fun item => !item.isEmpty

structure TweetQuerySpec where
  q : Option String
  tweetIds : List Int
  authorIds : List Int
  authorUserNames : List String
  relation : String
  sort : TweetSearchSort
  limit : Nat
  cursor : Option String
deriving DecidableEq, Repr

/-- Without a text the default sort is `publishedAt`. -/
def searchSort (q raw : Option String) : Except ApiError TweetSearchSort :=
  match raw with
  | some value => parseSearchSort (some value)
  | none => .ok (if q.isSome then .relevance else .publishedAt)

def tweetQuerySpec (query : TweetSearchListQuery) : Except ApiError TweetQuerySpec := do
  let listed ← parseI64Csv query.authorIds "authorIds"
  let authorId ← parseOptionalI64 query.authorId "authorId"
  let authorIds := match authorId with
    | some authorId => sortDedup intLe (listed ++ [authorId])
    | none => listed
  let q := normalizeQuery query.list.q
  let sort ← searchSort q query.sort
  let tweetIds ← parseI64Csv query.tweetIds "tweetIds"
  let relation ← normalizeTweetRelation query.relation
  return ⟨q, tweetIds, authorIds, normalizeUserNameCsv query.authorUserNames, relation, sort,
    resolveLimit query.list.limit, query.list.cursor⟩

structure TweetSearchCursor where
  v : Nat
  q : Option String
  tweetIds : List Int
  authorIds : List Int
  authorUserNames : List String
  relation : String
  sort : TweetSearchSort
  offset : Nat
deriving DecidableEq, Repr

/-- What `search_tweets` runs on; `usersNamed` are the users that `search_users` finds. -/
structure SearchState where
  searcher : Searcher
  usersNamed : List String → Except ApiError (List Int)

def resolveAuthorUserNameIds (search : SearchState) (userNames : List String) :
    Except ApiError (List Int) :=
  if userNames.isEmpty then .ok [] else search.usersNamed userNames

namespace TweetQuerySpec

variable (spec : TweetQuerySpec)

def cursorAt (offset : Nat) : TweetSearchCursor where
  v := cursorVersion
  q := spec.q
  tweetIds := spec.tweetIds
  authorIds := spec.authorIds
  authorUserNames := spec.authorUserNames
  relation := spec.relation
  sort := spec.sort
  offset

/-- The checks before the author names are resolved. -/
def acceptCursor (cursor : TweetSearchCursor) : Except ApiError Unit := do
  ensureCursorVersion cursor.v
  ensureFilterMatch cursor.q spec.q "cursor does not match query"
  if cursor.tweetIds ≠ spec.tweetIds ∨ cursor.authorUserNames ≠ spec.authorUserNames ∨
      cursor.relation ≠ spec.relation ∨ cursor.sort ≠ spec.sort then
    throw (.badRequest "cursor does not match filters")

/-- An offset is a `usize`, and the cursor that continues there survives. -/
def OffsetSurvives (codec : CursorCodec TweetSearchCursor) (offset : Nat) : Prop :=
  offset ≤ usizeMax ∧ codec.Survives (spec.cursorAt offset)

def filters : TweetSearchFilters where
  tweetIds := spec.tweetIds
  authorIds := spec.authorIds
  authorId := none
  relation := some spec.relation

end TweetQuerySpec

/-- A tweet of a search page. -/
structure SearchedTweet where
  tweet : StoredTweet
  searchSortTime : Option Int
deriving DecidableEq, Repr

def fetchTweetsBySearchHits (tweets : Table StoredTweet) (hits : List SearchHit) :
    List SearchedTweet :=
  hits.filterMap fun hit => (tweets.find hit.id).map fun tweet => ⟨tweet, hit.sortTime⟩

def foundHits (search : SearchState) (spec : TweetQuerySpec) (offset : Nat) :
    Except ApiError (List SearchHit) :=
  match Search.searchTweets search.searcher spec.q spec.filters spec.sort
      (saturatingAdd spec.limit 1) offset with
  | some hits => .ok hits
  | none => .error (.search "indexed document is missing id")

/-- The page of the hits at an offset; one hit more than the limit makes a next cursor. -/
def searchPage (codec : CursorCodec TweetSearchCursor) (tweets : Table StoredTweet)
    (spec : TweetQuerySpec) (offset : Nat) (found : List SearchHit) :
    Except ApiError (Page SearchedTweet String) :=
  if spec.limit < found.length then
    (codec.encodeCursor (spec.cursorAt (saturatingAdd offset spec.limit))).map fun text =>
      ⟨fetchTweetsBySearchHits tweets (found.take spec.limit), some text⟩
  else .ok ⟨fetchTweetsBySearchHits tweets found, none⟩

def executeTweetSearchQuery (codec : CursorCodec TweetSearchCursor) (search : SearchState)
    (tweets : Table StoredTweet) (spec : TweetQuerySpec) (cursor : Option TweetSearchCursor) :
    Except ApiError (Page SearchedTweet String) := do
  let offset := (cursor.map TweetSearchCursor.offset).getD 0
  let found ← foundHits search spec offset
  searchPage codec tweets spec offset found

def executeTweetQuery (codec : CursorCodec TweetSearchCursor) (search : Option SearchState)
    (tweets : Table StoredTweet) (spec : TweetQuerySpec) :
    Except ApiError (Page SearchedTweet String) := do
  let cursor ← spec.cursor.mapM codec.decodeCursor
  cursor.forM spec.acceptCursor
  match search with
  | none => throw (.serviceUnavailable "search subsystem is disabled")
  | some search =>
    let resolved ← resolveAuthorUserNameIds search spec.authorUserNames
    let spec := { spec with authorIds := sortDedup intLe (spec.authorIds ++ resolved) }
    if cursor.all fun cursor => decide (cursor.authorIds = spec.authorIds) then
      executeTweetSearchQuery codec search tweets spec cursor
    else throw (.badRequest "cursor does not match filters")

def searchTweets (codec : CursorCodec TweetSearchCursor) (search : Option SearchState)
    (tweets : Table StoredTweet) (query : TweetSearchListQuery) :
    Except ApiError (Page SearchedTweet String) := do
  let spec ← tweetQuerySpec query
  executeTweetQuery codec search tweets spec

/-- A parsed request keeps its cursor, and its limit is the resolved one. -/
theorem page_of_parsed {query : TweetSearchListQuery} {spec : TweetQuerySpec}
    (parsed : tweetQuerySpec query = .ok spec) :
    spec.cursor = query.list.cursor ∧ spec.limit = resolveLimit query.list.limit := by
  obtain ⟨_, _, parsed⟩ := bind_eq_ok parsed
  obtain ⟨_, _, parsed⟩ := bind_eq_ok parsed
  obtain ⟨_, _, parsed⟩ := bind_eq_ok parsed
  obtain ⟨_, _, parsed⟩ := bind_eq_ok parsed
  obtain ⟨_, _, parsed⟩ := bind_eq_ok parsed
  cases parsed
  exact ⟨rfl, rfl⟩

/-! ## Documents that are up to date -/

/-- The columns of a tweet that are indexed. -/
def StoredTweet.searchRow (tweet : StoredTweet) : Search.TweetRow where
  authorId := tweet.row.authorId
  legacyBody := tweet.row.legacyText.body
  noteBody := tweet.row.noteText.map Tweet.AnnotatedText.body
  repostId := tweet.row.repostId
  quoteTweetId := tweet.row.quoteTweetId
  replyToTweetId := tweet.row.replyToTweetId
  publishedAt := tweet.row.publishedAt
  createdAt := tweet.createdAt
  updatedAt := tweet.updatedAt

def searchFacts (tweets : Table StoredTweet) : Search.Facts where
  tweet id := (tweets.find id).map StoredTweet.searchRow
  user _ := none

/-- The documents that indexing every stored tweet writes. -/
def tweetDocuments (tweets : Table StoredTweet) : List Search.IndexDocument :=
  tweets.rows.filterMap fun tweet =>
    (Search.fetchTweetDocument (searchFacts tweets) tweet.id).map Search.tweetDocument

def StoredTweet.indexDocument (tweet : StoredTweet) : Search.TweetIndexDocument where
  id := tweet.id
  authorId := tweet.row.authorId
  body := (tweet.row.noteText.map Tweet.AnnotatedText.body).getD tweet.row.legacyText.body
  relation := tweet.searchRow.relation
  publishedAt := tweet.row.publishedAt
  createdAt := tweet.createdAt
  updatedAt := tweet.updatedAt

@[simp] theorem StoredTweet.indexDocument_id (tweet : StoredTweet) :
    tweet.indexDocument.id = tweet.id := rfl

theorem tweetDocuments_eq (tweets : Table StoredTweet) :
    tweetDocuments tweets =
      tweets.rows.map fun tweet => Search.tweetDocument tweet.indexDocument := by
  unfold tweetDocuments
  rw [← List.filterMap_eq_map]
  refine List.filterMap_congr fun tweet stored => ?_
  have found : tweets.find tweet.id = some tweet := Table.find_of_mem stored
  simp [Search.fetchTweetDocument, searchFacts, found, StoredTweet.searchRow,
    StoredTweet.indexDocument]

def TweetListSort.toSearch : TweetListSort → TweetSearchSort
  | .publishedAt => .publishedAt
  | .createdAt => .createdAt
  | .updatedAt => .updatedAt

@[simp] theorem sortSeconds_toSearch (sort : TweetListSort) (tweet : StoredTweet) :
    Search.sortSeconds sort.toSearch tweet.indexDocument =
      Search.unixTimestamp (sort.column tweet) := by
  cases sort <;> rfl

theorem topOrder_toSearch (sort : TweetListSort) :
    Search.topOrder sort.toSearch = .fastField (Search.tweetSortField sort.toSearch) := by
  cases sort <;> rfl

/-! ## The relation label and the relation predicates -/

/-- A tweet that the predicate of a relation selects and that is labelled with another one. -/
def hasOtherLabel (relation : String) (tweet : StoredTweet) : Bool :=
  (relation == "reply" && tweet.row.replyToTweetId.isSome &&
    (tweet.row.quoteTweetId.isSome || tweet.row.repostId.isSome)) ||
  (relation == "quote" && tweet.row.quoteTweetId.isSome && tweet.row.repostId.isSome)

theorem hasRelation_iff (relation : String) (tweet : StoredTweet) :
    hasRelation relation tweet = true ↔
      (relation = "all" ∨ relation = tweet.searchRow.relation) ∨
        hasOtherLabel relation tweet = true := by
  simp only [hasRelation, hasOtherLabel, Search.TweetRow.relation, StoredTweet.searchRow,
    Bool.or_eq_true, Bool.and_eq_true, beq_iff_eq, ← Option.not_isSome, Bool.not_eq_true']
  by_cases repost : tweet.row.repostId.isSome = true <;>
    by_cases quote : tweet.row.quoteTweetId.isSome = true <;>
      by_cases reply : tweet.row.replyToTweetId.isSome = true <;>
        simp [repost, quote, reply] <;> grind

theorem label_ne_of_hasOtherLabel {relation : String} {tweet : StoredTweet}
    (other : hasOtherLabel relation tweet = true) :
    ¬ (relation = "all" ∨ relation = tweet.searchRow.relation) := by
  simp only [hasOtherLabel, Bool.or_eq_true, Bool.and_eq_true, beq_iff_eq] at other
  simp only [Search.TweetRow.relation, StoredTweet.searchRow]
  obtain ⟨⟨rfl, _⟩, quote | repost⟩ | ⟨⟨rfl, quote⟩, repost⟩ := other
  · by_cases repost : tweet.row.repostId.isSome = true <;> simp [quote, repost]
  · simp [repost]
  · simp [repost]

/-! ## The pages of a search without a text -/

/-- The request of a list, sent to the search. -/
def TweetListQuery.toSearch (query : TweetListQuery) : TweetSearchListQuery where
  list := query.list
  tweetIds := none
  authorIds := none
  authorUserNames := none
  authorId := query.authorId
  relation := query.relation
  sort := query.sort

/-- What such a request asks for. -/
def TweetListFilters.searchSpec (filters : TweetListFilters) (list : ListQuery) :
    TweetQuerySpec where
  q := none
  tweetIds := []
  authorIds := filters.authorId.toList
  authorUserNames := []
  relation := filters.relation
  sort := filters.sort.toSearch
  limit := resolveLimit list.limit
  cursor := list.cursor

/-- The tweets whose documents such a request matches. -/
def TweetListFilters.searchSelects (filters : TweetListFilters) (tweet : StoredTweet) : Bool :=
  (match filters.authorId with
    | none => true
    | some authorId => decide (tweet.row.authorId = authorId)) &&
  (filters.relation == "all" || filters.relation == tweet.searchRow.relation)

section Search

variable {query : TweetListQuery} {filters : TweetListFilters} {tweets : Table StoredTweet}
  {codec : CursorCodec TweetSearchCursor} {search : SearchState}
  {documents : List Search.IndexDocument}

theorem searchSort_of_parse {raw : Option String} {sort : TweetListSort}
    (parsed : TweetListSort.parse raw = .ok sort) : searchSort none raw = .ok sort.toSearch := by
  cases raw with
  | none =>
    cases parsed
    rfl
  | some value =>
    simp only [TweetListSort.parse, Option.getD_some] at parsed
    simp only [searchSort, parseSearchSort, Option.getD_some]
    split at parsed <;> cases parsed
    next isText => rw [isText]; rfl
    next isText => rw [isText]; rfl
    next isText => rw [isText]; rfl

theorem tweetQuerySpec_toSearch (parsed : query.filters = .ok filters)
    (noText : filters.q = none) :
    tweetQuerySpec query.toSearch = .ok (filters.searchSpec query.list) := by
  unfold TweetListQuery.filters at parsed
  cases author : parseOptionalI64 query.authorId "authorId" with
  | error error =>
    rw [author] at parsed
    cases parsed
  | ok authorId =>
    cases relation : normalizeTweetRelation query.relation with
    | error error =>
      rw [author, relation] at parsed
      cases parsed
    | ok label =>
      cases sort : TweetListSort.parse query.sort with
      | error error =>
        rw [author, relation, sort] at parsed
        cases parsed
      | ok listSort =>
        rw [author, relation, sort] at parsed
        cases parsed
        replace noText : normalizeQuery query.list.q = none := noText
        have listed : parseI64Csv none "authorIds" = .ok [] := rfl
        have tweetIds : parseI64Csv none "tweetIds" = .ok [] := rfl
        have names : normalizeUserNameCsv none = [] := rfl
        have searchSort := searchSort_of_parse sort
        cases authorId <;>
          simp [tweetQuerySpec, TweetListQuery.toSearch, TweetListFilters.searchSpec, author,
            relation, noText, listed, tweetIds, names, searchSort, sortDedup, bind, Except.bind,
            pure, Except.pure]

/-- The documents of tweets are found under their ids. -/
theorem mapM_tweetDocuments (sort : TweetListSort) (page : List StoredTweet) :
    (page.map fun tweet => Search.tweetDocument tweet.indexDocument).mapM (fun document =>
      (Search.storedI64Opt document "id").map fun id =>
        (⟨id, Search.storedI64Opt document (Search.tweetSortField sort.toSearch)⟩ : SearchHit)) =
      some (page.map fun tweet =>
        ⟨tweet.id, some (Search.unixTimestamp (sort.column tweet))⟩) :=
  Search.mapM_map_some (fun tweet => by simp) page

/-- A tweet as a search page shows it. -/
def StoredTweet.searched (sort : TweetListSort) (tweet : StoredTweet) : SearchedTweet :=
  ⟨tweet, some (Search.unixTimestamp (sort.column tweet))⟩

theorem fetch_hits {page : List StoredTweet} (sort : TweetListSort)
    (stored : ∀ tweet ∈ page, tweet ∈ tweets.rows) :
    fetchTweetsBySearchHits tweets (page.map fun tweet =>
      ⟨tweet.id, some (Search.unixTimestamp (sort.column tweet))⟩) =
      page.map (StoredTweet.searched sort) := by
  rw [fetchTweetsBySearchHits, List.filterMap_map, ← List.filterMap_eq_map]
  refine List.filterMap_congr fun tweet member => ?_
  have found : tweets.find tweet.id = some tweet := Table.find_of_mem (stored tweet member)
  simp [found, StoredTweet.searched]

/-- In whole seconds, no tweet is later than the one before it. -/
def DescendsInSeconds (sort : TweetListSort) (listed : List StoredTweet) : Prop :=
  listed.Pairwise fun tweet later =>
    Search.unixTimestamp (sort.column later) ≤ Search.unixTimestamp (sort.column tweet)

theorem searchSelects_iff {tweet : StoredTweet} {fullText : String → Search.IndexDocument → Bool} :
    Search.queryMatches fullText
        (Search.buildTweetQuery none (filters.searchSpec query.list).filters)
        (Search.tweetDocument tweet.indexDocument) = filters.searchSelects tweet := by
  rw [Bool.eq_iff_iff]
  refine Search.queryMatches_tweetDocument.trans ?_
  cases author : filters.authorId <;>
    simp [TweetListFilters.searchSelects, author, TweetListFilters.searchSpec,
      StoredTweet.indexDocument, @eq_comm Int _ tweet.row.authorId]

/-- The order in which an exact searcher returns the tweets of a request. -/
theorem exists_ranking (exact : search.searcher.Exact documents)
    (upToDate : documents.Perm (tweetDocuments tweets)) :
    ∃ ranked : List StoredTweet, ranked.Perm (tweets.rows.filter filters.searchSelects) ∧
      DescendsInSeconds filters.sort ranked ∧
      ∀ limit offset, Search.searchTweets search.searcher none
          (filters.searchSpec query.list).filters filters.sort.toSearch limit offset =
        some (((ranked.drop offset).take limit).map fun tweet =>
          ⟨tweet.id, some (Search.unixTimestamp (filters.sort.column tweet))⟩) := by
  obtain ⟨documents', perm, sorted, top⟩ := exact
    (Search.buildTweetQuery none (filters.searchSpec query.list).filters)
    (Search.tweetSortField filters.sort.toSearch)
  have selected : documents'.Perm ((tweets.rows.filter filters.searchSelects).map fun tweet =>
      Search.tweetDocument tweet.indexDocument) := by
    refine (perm.trans (upToDate.filter _)).trans ?_
    rw [tweetDocuments_eq, List.filter_map]
    refine List.Perm.of_eq (congrArg _ (List.filter_congr fun tweet _ => ?_))
    exact searchSelects_iff
  obtain ⟨ranked, rankedPerm, rfl⟩ := exists_perm_of_perm_map selected
  refine ⟨ranked, rankedPerm, ?_, fun limit offset => ?_⟩
  · rw [List.pairwise_map] at sorted
    exact sorted.imp fun ordered => ordered _ _ (by simp) (by simp)
  · have taken := top limit offset
    simp only [← topOrder_toSearch, ← List.map_drop, ← List.map_take] at taken
    simp only [Search.searchTweets, Search.collectTweetHits, taken]
    exact mapM_tweetDocuments filters.sort _

/-- A cursor stands for what is ranked from its offset on. -/
def SearchRemaining (codec : CursorCodec TweetSearchCursor) (filters : TweetListFilters)
    (list : ListQuery) (ranked : List StoredTweet) (cursor : Option String)
    (rest : List SearchedTweet) : Prop :=
  ∃ offset, rest = (ranked.drop offset).map (StoredTweet.searched filters.sort) ∧
    match cursor with
    | none => offset = 0
    | some text => offset < ranked.length ∧
        codec.encodeCursor ((filters.searchSpec list).cursorAt offset) = .ok text

theorem acceptCursor_searchCursor (spec : TweetQuerySpec) (offset : Nat) :
    spec.acceptCursor (spec.cursorAt offset) = .ok () := by
  simp [TweetQuerySpec.acceptCursor, TweetQuerySpec.cursorAt, ensureCursorVersion,
    ensureFilterMatch, bind, Except.bind, pure, Except.pure]

theorem sortDedup_toList (author : Option Int) :
    sortDedup intLe (author.toList ++ []) = author.toList := by
  cases author <;> rfl

/-- A request runs the query with the offset of its cursor. -/
theorem searchTweets_eq_execute {cursor : Option String} {offset : Nat}
    (parsed : query.filters = .ok filters) (noText : filters.q = none)
    (decoded : cursor.mapM codec.decodeCursor =
      .ok (cursor.map fun _ => (filters.searchSpec query.list).cursorAt offset)) :
    searchTweets codec (some search) tweets (query.withCursor cursor).toSearch =
      executeTweetSearchQuery codec search tweets
        (filters.searchSpec (query.withCursor cursor).list)
        (cursor.map fun _ => (filters.searchSpec query.list).cursorAt offset) := by
  have spec : tweetQuerySpec (query.withCursor cursor).toSearch =
      .ok (filters.searchSpec (query.withCursor cursor).list) :=
    tweetQuerySpec_toSearch parsed noText
  have accepted : ∀ offset, (filters.searchSpec (query.withCursor cursor).list).acceptCursor
      ((filters.searchSpec query.list).cursorAt offset) = .ok () :=
    acceptCursor_searchCursor (filters.searchSpec (query.withCursor cursor).list)
  have sameCursor : (filters.searchSpec (query.withCursor cursor).list).cursor = cursor := rfl
  have names : resolveAuthorUserNameIds search
      (filters.searchSpec (query.withCursor cursor).list).authorUserNames = .ok [] := rfl
  have authors : sortDedup intLe
      ((filters.searchSpec (query.withCursor cursor).list).authorIds ++ []) =
      (filters.searchSpec (query.withCursor cursor).list).authorIds := sortDedup_toList _
  unfold searchTweets executeTweetQuery
  rw [spec]
  simp only [bind, Except.bind, sameCursor, decoded, names, authors]
  cases cursor with
  | none => rfl
  | some text =>
    have checked : (some ((filters.searchSpec query.list).cursorAt offset)).forM
        (filters.searchSpec (query.withCursor (some text)).list).acceptCursor = .ok () :=
      accepted offset
    have sameAuthors : ((filters.searchSpec query.list).cursorAt offset).authorIds =
        (filters.searchSpec (query.withCursor (some text)).list).authorIds := rfl
    simp only [Option.map_some, checked, Option.all_some, sameAuthors, decide_true, if_true]
    rfl

/-- The page at an offset, and a cursor for the next offset if something is left. -/
theorem executeTweetSearchQuery_eq {ranked : List StoredTweet} {list : ListQuery} {offset : Nat}
    {cursor : Option TweetSearchCursor}
    (stored : ∀ tweet ∈ ranked, tweet ∈ tweets.rows)
    (top : ∀ limit offset, Search.searchTweets search.searcher none
        (filters.searchSpec list).filters filters.sort.toSearch limit offset =
      some (((ranked.drop offset).take limit).map fun tweet =>
        ⟨tweet.id, some (Search.unixTimestamp (filters.sort.column tweet))⟩))
    (starts : (cursor.map TweetSearchCursor.offset).getD 0 = offset)
    (inRange : ∀ next < ranked.length, next ≤ usizeMax) :
    executeTweetSearchQuery codec search tweets (filters.searchSpec list) cursor =
      if resolveLimit list.limit < (ranked.drop offset).length then
        (codec.encodeCursor ((filters.searchSpec list).cursorAt
          (offset + resolveLimit list.limit))).map fun text =>
            ⟨((ranked.drop offset).take (resolveLimit list.limit)).map
              (StoredTweet.searched filters.sort), some text⟩
      else .ok ⟨(ranked.drop offset).map (StoredTweet.searched filters.sort), none⟩ := by
  have fetched : ∀ page : List StoredTweet, (∀ tweet ∈ page, tweet ∈ ranked) →
      fetchTweetsBySearchHits tweets (page.map fun tweet =>
        ⟨tweet.id, some (Search.unixTimestamp (filters.sort.column tweet))⟩) =
        page.map (StoredTweet.searched filters.sort) :=
    fun page inRanked => fetch_hits filters.sort fun tweet member =>
      stored tweet (inRanked tweet member)
  have found : foundHits search (filters.searchSpec list) offset =
      .ok (((ranked.drop offset).take (resolveLimit list.limit + 1)).map fun tweet =>
        ⟨tweet.id, some (Search.unixTimestamp (filters.sort.column tweet))⟩) := by
    have hits := top (resolveLimit list.limit + 1) offset
    unfold foundHits
    rw [← saturatingAdd_resolveLimit] at hits
    rw [show Search.searchTweets search.searcher (filters.searchSpec list).q
      (filters.searchSpec list).filters (filters.searchSpec list).sort
      (saturatingAdd (filters.searchSpec list).limit 1) offset = _ from hits,
      saturatingAdd_resolveLimit]
  have limited : (filters.searchSpec list).limit = resolveLimit list.limit := rfl
  simp only [executeTweetSearchQuery, starts, found, bind, Except.bind, searchPage, limited,
    List.length_map, List.length_take]
  by_cases more : resolveLimit list.limit < (ranked.drop offset).length
  · have hasMore : resolveLimit list.limit <
        min (resolveLimit list.limit + 1) (ranked.drop offset).length := by omega
    have page : ((ranked.drop offset).take (resolveLimit list.limit + 1)).take
        (resolveLimit list.limit) = (ranked.drop offset).take (resolveLimit list.limit) := by
      rw [List.take_take, Nat.min_eq_left (by omega)]
    -- The next offset is one of the list, so the addition does not saturate.
    have below : offset + resolveLimit list.limit < ranked.length := by
      rw [List.length_drop] at more
      omega
    simp only [hasMore, if_true, more, ← List.map_take, page,
      saturatingAdd_of_le (inRange _ below)]
    rw [fetched _ fun tweet member => List.mem_of_mem_drop (List.mem_of_mem_take member)]
  · have noMore : ¬ resolveLimit list.limit <
        min (resolveLimit list.limit + 1) (ranked.drop offset).length := by omega
    have page : (ranked.drop offset).take (resolveLimit list.limit + 1) = ranked.drop offset :=
      List.take_of_length_le (by omega)
    simp only [noMore, if_false, more, page]
    rw [fetched _ fun tweet member => List.mem_of_mem_drop member]

theorem searchTweets_serves {ranked : List StoredTweet} (parsed : query.filters = .ok filters)
    (noText : filters.q = none) (stored : ∀ tweet ∈ ranked, tweet ∈ tweets.rows)
    (top : ∀ limit offset, Search.searchTweets search.searcher none
        (filters.searchSpec query.list).filters filters.sort.toSearch limit offset =
      some (((ranked.drop offset).take limit).map fun tweet =>
        ⟨tweet.id, some (Search.unixTimestamp (filters.sort.column tweet))⟩))
    (survives : ∀ offset < ranked.length,
      (filters.searchSpec query.list).OffsetSurvives codec offset) :
    Serves (fun cursor =>
        searchTweets codec (some search) tweets (query.withCursor cursor).toSearch)
      (resolveLimit query.list.limit) (SearchRemaining codec filters query.list ranked) := by
  constructor
  rintro cursor rest ⟨offset, rfl, starts⟩
  have decoded : cursor.mapM codec.decodeCursor =
      .ok (cursor.map fun _ => (filters.searchSpec query.list).cursorAt offset) := by
    cases cursor with
    | none => rfl
    | some text =>
      have decodes := (survives offset starts.1).2.decode starts.2
      simp [decodes, Functor.map, Except.map]
  have atOffset : ((cursor.map fun _ =>
      (filters.searchSpec query.list).cursorAt offset).map TweetSearchCursor.offset).getD 0 =
      offset := by
    cases cursor with
    | none => exact starts.symm
    | some text => rfl
  have executed : searchTweets codec (some search) tweets (query.withCursor cursor).toSearch =
      if resolveLimit query.list.limit < (ranked.drop offset).length then
        (codec.encodeCursor ((filters.searchSpec query.list).cursorAt
          (offset + resolveLimit query.list.limit))).map fun text =>
            ⟨((ranked.drop offset).take (resolveLimit query.list.limit)).map
              (StoredTweet.searched filters.sort), some text⟩
      else .ok ⟨(ranked.drop offset).map (StoredTweet.searched filters.sort), none⟩ :=
    (searchTweets_eq_execute parsed noText decoded).trans
      (executeTweetSearchQuery_eq stored top atOffset fun next below => (survives next below).1)
  simp only [executed]
  by_cases more : resolveLimit query.list.limit < (ranked.drop offset).length
  · have left : offset + resolveLimit query.list.limit < ranked.length := by
      rw [List.length_drop] at more
      omega
    obtain ⟨_, text, encoded, _⟩ := survives _ left
    refine ⟨some text, ?_, by simp at more ⊢; omega, fun _ => ?_⟩
    · simp only [more, if_true, encoded, Except.map, List.map_take]
    · exact ⟨offset + resolveLimit query.list.limit, by simp [List.map_drop, List.drop_drop],
        left, encoded⟩
  · have all : (ranked.drop offset).length ≤ resolveLimit query.list.limit := by omega
    refine ⟨none, ?_, by simpa using all, by simp⟩
    simp only [more, if_false]
    rw [List.take_of_length_le (by simpa using all)]

/-- Following the cursors of the search visits the tweets it selects, each once. -/
theorem follow_searchTweets (parsed : query.filters = .ok filters) (noText : filters.q = none)
    (exact : search.searcher.Exact documents)
    (upToDate : documents.Perm (tweetDocuments tweets))
    (survives : ∀ offset < tweets.rows.length,
      (filters.searchSpec query.list).OffsetSurvives codec offset) :
    ∃ pages ranked, follow (fun cursor =>
        searchTweets codec (some search) tweets (query.withCursor cursor).toSearch)
        (tweets.rows.length + 1) none = some (.ok pages) ∧
      (pages.flatMap Page.data).map SearchedTweet.tweet = ranked ∧
      ranked.Perm (tweets.rows.filter filters.searchSelects) ∧
      DescendsInSeconds filters.sort ranked := by
  obtain ⟨ranked, perm, sorted, top⟩ :=
    @exists_ranking query filters tweets search documents exact upToDate
  have stored : ∀ tweet ∈ ranked, tweet ∈ tweets.rows := fun tweet member =>
    List.mem_of_mem_filter (perm.mem_iff.mp member)
  have short : ranked.length ≤ tweets.rows.length := by
    rw [perm.length_eq]
    exact List.length_filter_le _ _
  have serves : Serves (fun cursor =>
      searchTweets codec (some search) tweets (query.withCursor cursor).toSearch)
      (resolveLimit query.list.limit) (SearchRemaining codec filters query.list ranked) :=
    searchTweets_serves parsed noText stored top fun offset below =>
      survives offset (Nat.lt_of_lt_of_le below short)
  have starts : SearchRemaining codec filters query.list ranked none
      (ranked.map (StoredTweet.searched filters.sort)) := ⟨0, rfl, rfl⟩
  have enough : (ranked.map (StoredTweet.searched filters.sort)).length <
      tweets.rows.length + 1 := by
    rw [List.length_map]
    omega
  obtain ⟨pages, followed, visited⟩ :=
    follow_of_serves (resolveLimit_pos query.list.limit) serves starts enough
  refine ⟨pages, ranked, followed, ?_, perm, sorted⟩
  rw [visited, List.map_map]
  exact List.map_id _

end Search

/-! ## Browsing and searching -/

section Agreement

variable {codec : CursorCodec TweetCursor} {searchCodec : CursorCodec TweetSearchCursor}
  {search : SearchState} {documents : List Search.IndexDocument} {tweets : Table StoredTweet}
  {query : TweetListQuery} {filters : TweetListFilters}

/-- Both listings come to an end with the same ids, each once, and neither goes up in whole
seconds. -/
def BrowseAndSearchAgree (codec : CursorCodec TweetCursor)
    (searchCodec : CursorCodec TweetSearchCursor) (search : SearchState)
    (tweets : Table StoredTweet) (query : TweetListQuery) (sort : TweetListSort) : Prop :=
  ∃ browsed searched,
    follow (fun cursor => listTweets codec tweets (query.withCursor cursor))
      (tweets.rows.length + 1) none = some (.ok browsed) ∧
    follow (fun cursor =>
        searchTweets searchCodec (some search) tweets (query.withCursor cursor).toSearch)
      (tweets.rows.length + 1) none = some (.ok searched) ∧
    (∀ id, id ∈ (browsed.flatMap Page.data).map StoredTweet.id ↔
      id ∈ ((searched.flatMap Page.data).map SearchedTweet.tweet).map StoredTweet.id) ∧
    ((browsed.flatMap Page.data).map StoredTweet.id).Nodup ∧
    (((searched.flatMap Page.data).map SearchedTweet.tweet).map StoredTweet.id).Nodup ∧
    DescendsInSeconds sort (browsed.flatMap Page.data) ∧
    DescendsInSeconds sort ((searched.flatMap Page.data).map SearchedTweet.tweet)

theorem TweetListFilters.Precedes.seconds {tweet later : StoredTweet}
    (ordered : filters.Precedes tweet later) :
    Search.unixTimestamp (filters.sort.column later) ≤
      Search.unixTimestamp (filters.sort.column tweet) := by
  simp only [Precedes, Timestamp] at ordered
  simp only [Search.unixTimestamp]
  omega

/-- Stored tweets have different ids. -/
theorem nodup_ids (tweets : Table StoredTweet) {listed : List StoredTweet} (nodup : listed.Nodup)
    (stored : ∀ tweet ∈ listed, tweet ∈ tweets.rows) : (listed.map StoredTweet.id).Nodup :=
  nodup.map_on fun tweet member other otherMember same =>
    tweets.eq_of_key (stored tweet member) (stored other otherMember) same

theorem rows_nodup : tweets.rows.Nodup :=
  tweets.unique.imp fun distinct same => distinct (Row.clash_of_key (by rw [same]))

/-- Without a text the predicates select what the label selects, and the tweets with another
label. -/
theorem selects_iff (noText : filters.q = none) (tweet : StoredTweet) :
    filters.selects tweet = true ↔ filters.searchSelects tweet = true ∨
      (∀ id, filters.authorId = some id → tweet.row.authorId = id) ∧
        hasOtherLabel filters.relation tweet = true := by
  have relation := hasRelation_iff filters.relation tweet
  cases author : filters.authorId with
  | none =>
    simp only [TweetListFilters.selects, TweetListFilters.searchSelects, author, noText,
      prefixPattern, Option.map_none, Bool.and_true, Bool.true_and, relation]
    simp
  | some id =>
    simp only [TweetListFilters.selects, TweetListFilters.searchSelects, author, noText,
      prefixPattern, Option.map_none, Bool.and_true, Bool.and_eq_true, relation]
    simp only [decide_eq_true_eq, Bool.or_eq_true, beq_iff_eq, Option.some.injEq, forall_eq',
      and_or_left]

/-- A tweet with another label is not found. -/
theorem not_searchSelects {tweet : StoredTweet}
    (other : hasOtherLabel filters.relation tweet = true) :
    filters.searchSelects tweet = false := by
  have label := label_ne_of_hasOtherLabel other
  rw [not_or] at label
  simp [TweetListFilters.searchSelects, label.1, label.2]

/-- The same ids are those of the same stored tweets. -/
theorem same_ids_iff {first second : List StoredTweet} {inFirst inSecond : StoredTweet → Bool}
    (memFirst : ∀ tweet, tweet ∈ first ↔ tweet ∈ tweets.rows ∧ inFirst tweet = true)
    (memSecond : ∀ tweet, tweet ∈ second ↔ tweet ∈ tweets.rows ∧ inSecond tweet = true) :
    (∀ id, id ∈ first.map StoredTweet.id ↔ id ∈ second.map StoredTweet.id) ↔
      ∀ tweet ∈ tweets.rows, inFirst tweet = inSecond tweet := by
  have byId : ∀ (listed : List StoredTweet), (∀ tweet ∈ listed, tweet ∈ tweets.rows) →
      ∀ tweet ∈ tweets.rows, tweet.id ∈ listed.map StoredTweet.id ↔ tweet ∈ listed := by
    intro listed stored tweet present
    constructor
    · intro member
      obtain ⟨other, otherMember, same⟩ := List.mem_map.mp member
      rwa [← tweets.eq_of_key (stored other otherMember) present same]
    · exact List.mem_map_of_mem
  have first' := byId first fun tweet member => ((memFirst tweet).mp member).1
  have second' := byId second fun tweet member => ((memSecond tweet).mp member).1
  constructor
  · intro same tweet present
    have iff := same tweet.id
    rw [first' tweet present, second' tweet present, memFirst, memSecond] at iff
    rw [Bool.eq_iff_iff]
    simpa [present] using iff
  · intro same id
    simp only [List.mem_map, memFirst, memSecond]
    constructor
    · rintro ⟨tweet, ⟨present, selected⟩, isId⟩
      exact ⟨tweet, ⟨present, same tweet present ▸ selected⟩, isId⟩
    · rintro ⟨tweet, ⟨present, selected⟩, isId⟩
      exact ⟨tweet, ⟨present, (same tweet present).symm ▸ selected⟩, isId⟩

/-- Browsing and searching agree exactly if no tweet of the filter's author is in the filter's
relation and labelled with another one: a reply that is also a quote or a repost, or a quote that
is also a repost. -/
theorem browse_and_search_agree_iff (parsed : query.filters = .ok filters)
    (noText : filters.q = none) (exact : search.searcher.Exact documents)
    (upToDate : documents.Perm (tweetDocuments tweets))
    (survives : ∀ tweet ∈ tweets.rows, codec.Survives (filters.cursorAt tweet))
    (searchSurvives : ∀ offset < tweets.rows.length,
      (filters.searchSpec query.list).OffsetSurvives searchCodec offset) :
    BrowseAndSearchAgree codec searchCodec search tweets query filters.sort ↔
      ∀ tweet ∈ tweets.rows, (∀ id, filters.authorId = some id → tweet.row.authorId = id) →
        hasOtherLabel filters.relation tweet = false := by
  have sqlText : filters.q.all isSqlText = true := by rw [noText]; rfl
  obtain ⟨browsed, browsing, visited⟩ := follow_listTweets parsed sqlText survives
  obtain ⟨searched, ranked, searching, found, perm, descends⟩ :=
    follow_searchTweets parsed noText exact upToDate searchSurvives
  have memRanked : ∀ tweet, tweet ∈ ranked ↔
      tweet ∈ tweets.rows ∧ filters.searchSelects tweet = true := by
    intro tweet
    rw [perm.mem_iff, List.mem_filter]
  have sameIds := same_ids_iff (fun _ => @TweetListFilters.mem_listing filters tweets _) memRanked
  have sameSelection : (∀ tweet ∈ tweets.rows,
      filters.selects tweet = filters.searchSelects tweet) ↔
      ∀ tweet ∈ tweets.rows, (∀ id, filters.authorId = some id → tweet.row.authorId = id) →
        hasOtherLabel filters.relation tweet = false := by
    refine forall₂_congr fun tweet _ => ?_
    rw [Bool.eq_iff_iff, selects_iff noText]
    constructor
    · intro same author
      by_contra other
      rw [Bool.not_eq_false] at other
      have selected := same.mp (.inr ⟨author, other⟩)
      rw [not_searchSelects other] at selected
      cases selected
    · intro alike
      refine or_iff_left fun other => ?_
      rw [alike other.1] at other
      cases other.2
  rw [← sameSelection, ← sameIds]
  constructor
  · rintro ⟨browsed', searched', browsing', searching', same, _⟩
    rw [browsing] at browsing'
    rw [searching] at searching'
    cases browsing'
    cases searching'
    rwa [visited, found] at same
  · intro same
    refine ⟨browsed, searched, browsing, searching, ?_⟩
    rw [visited, found]
    refine ⟨same, nodup_ids tweets TweetListFilters.listing_nodup fun tweet member => ?_,
      nodup_ids tweets (perm.nodup_iff.mpr (rows_nodup.filter _)) fun tweet member => ?_, ?_, descends⟩
    · exact (TweetListFilters.mem_listing.mp member).1
    · exact ((memRanked tweet).mp member).1
    · exact TweetListFilters.listing_sorted.imp TweetListFilters.Precedes.seconds

end Agreement

def listSearch (tweets : Table StoredTweet) : SearchState where
  searcher := Search.sortingSearcher (fun _ _ => false) (tweetDocuments tweets)
  usersNamed _ := .ok []

/-- A reply that quotes another tweet. -/
def quotingReply : StoredTweet :=
  { storedTweet 1 with
    row := { (storedTweet 1).row with
      replyToTweetId := some 8
      quoteTweetId := some 9 } }

def oneQuotingReply : Table StoredTweet := ⟨[quotingReply], by decide⟩

def replyCursor : CursorCodec TweetCursor := tableCodec
  [(TweetListFilters.cursorAt ⟨none, none, "reply", .publishedAt⟩ quotingReply,
    "eyJ2IjoxLCJxIjpudWxsLCJhdXRob3JfaWQiOm51bGwsInJlbGF0aW9uIjoicmVwbHkiLCJzb3J0IjoicHVibGlz" ++
    "aGVkQXQiLCJzb3J0X2F0IjoiMjAyNi0wNC0wOFQwMDowMDowMFoiLCJpZCI6MX0")]

/-- The list of replies has it, the search for replies has not: its label is that of a quote. -/
theorem quoting_reply_not_found :
    ¬ BrowseAndSearchAgree replyCursor (tableCodec []) (listSearch oneQuotingReply)
      oneQuotingReply ⟨⟨none, none, none⟩, none, some "reply", none⟩ .publishedAt := by
  rintro ⟨browsed, searched, browsing, searching, same, _⟩
  have isBrowsed : some (Except.ok [⟨[quotingReply], none⟩]) = some (Except.ok browsed) :=
    Eq.trans rfl browsing
  have isSearched : some (Except.ok [⟨[], none⟩]) = some (Except.ok searched) :=
    Eq.trans rfl searching
  cases isBrowsed
  cases isSearched
  have found := (same 1).mp (by decide)
  cases found

/-- What their cursors have in common: all but the offset. -/
def searchCursorText : String :=
  "eyJ2IjoxLCJxIjpudWxsLCJ0d2VldF9pZHMiOltdLCJhdXRob3JfaWRzIjpbXSwiYXV0aG9yX3VzZX" ++
  "JfbmFtZXMiOltdLCJyZWxhdGlvbiI6ImFsbCIsInNvcnQiOiJwdWJsaXNoZWRBdCIsIm9mZnNldCI6M"

/-- The searches that the two pages of `twoTweets` ask for. -/
def twoOffsets : CursorCodec TweetSearchCursor := tableCodec
  [((allByPublication.searchSpec ⟨none, some 1, none⟩).cursorAt 0, searchCursorText ++ "H0"),
    ((allByPublication.searchSpec ⟨none, some 1, none⟩).cursorAt 1, searchCursorText ++ "X0")]

set_option maxRecDepth 4000 in
theorem twoOffsets_survive (offset : Nat) (below : offset < twoTweets.rows.length) :
    (allByPublication.searchSpec ⟨none, some 1, none⟩).OffsetSurvives twoOffsets offset := by
  have isOffset : offset = 0 ∨ offset = 1 := by
    simp only [twoTweets, List.length_cons, List.length_nil] at below
    omega
  obtain rfl | rfl := isOffset
  · exact ⟨by decide, _, rfl, by decide⟩
  · exact ⟨by decide, _, rfl, by decide⟩

theorem browse_and_search_agree_iff_two :
    BrowseAndSearchAgree twoCursors twoOffsets (listSearch twoTweets) twoTweets
      ⟨⟨none, some 1, none⟩, none, none, none⟩ .publishedAt := by
  refine (@browse_and_search_agree_iff twoCursors twoOffsets (listSearch twoTweets)
    (tweetDocuments twoTweets) twoTweets ⟨⟨none, some 1, none⟩, none, none, none⟩ allByPublication
    rfl rfl (Search.sortingSearcher_exact _ _) (.refl _) twoCursors_survive
    twoOffsets_survive).mpr ?_
  intro tweet _ _
  rfl

end TweetDb.Api
