import TweetDb.Api.SearchUsers
import TweetDb.Submit.Stored

/-! # Author filters of a tweet search

`search_tweets` with author ids and author names, over an index of users that
resolves the names; and when each tweet it returns is by a requested author.
-/

namespace TweetDb.Api

open Paging Relational
open Search (SearchHit Searcher UnicodeTables UserIndexDocument UserSearcher IndexDocument
  TweetIndexDocument asciiTables normalizedKeyword userDocument tweetDocument queryMatches)

/-! ## The users of the names -/

def nameFilters (names : List String) : Search.UserSearchFilters where
  q := none
  userIds := []
  userNames := names
  userNamePrefix := none
  displayNamePrefix := none

/-- The users that `resolve_author_user_name_ids` finds: at most four hits for each name. -/
def usersNamed (tables : UnicodeTables) (searcher : UserSearcher) (names : List String) :
    Except ApiError (List Int) :=
  (foundUsers tables searcher (nameFilters names) (max 1 (saturatingMul names.length 4)) 0).map
    fun hits => sortDedup intLe (hits.map SearchHit.id)

def searchState (tables : UnicodeTables) (tweetSearcher : Searcher)
    (userSearcher : UserSearcher) : SearchState where
  searcher := tweetSearcher
  usersNamed := usersNamed tables userSearcher

@[simp] theorem mem_sortDedup {values : List Int} {value : Int} :
    value ∈ sortDedup intLe values ↔ value ∈ values := by
  simp [sortDedup]

section Names

variable {tables : UnicodeTables} {users : List UserIndexDocument} {names : List String}
  {userSearcher : UserSearcher}

/-- A name that is left with a text to search for. -/
def HasKeyword (tables : UnicodeTables) (names : List String) : Prop :=
  ∃ name ∈ names, normalizedKeyword tables.toLowercase name ≠ ""

/-- The indexed handle of the user equals one of the names. -/
def IsNamed (tables : UnicodeTables) (names : List String) (user : UserIndexDocument) : Prop :=
  ∃ name ∈ names, normalizedKeyword tables.toLowercase name ≠ "" ∧
    user.userName.map (normalizedKeyword tables.toLowercase) =
      some (normalizedKeyword tables.toLowercase name)

/-- The user is one that the search for the names matches. -/
def Answers (tables : UnicodeTables) (names : List String) (user : UserIndexDocument) : Prop :=
  names ≠ [] ∧ (¬ HasKeyword tables names ∨ IsNamed tables names user)

theorem nameFilters_matches_iff {user : UserIndexDocument} :
    (Search.buildUserQuery tables (nameFilters names)).matches tables
        (userDocument tables.toLowercase user) = true ↔
      ¬ HasKeyword tables names ∨ IsNamed tables names user := by
  rw [Search.buildUserQuery_matches]
  have terms : Search.userTerms tables (nameFilters names) =
      ((names.map (normalizedKeyword tables.toLowercase)).filter fun value => !value.isEmpty).map
        fun value => ⟨"user_name", .text value, 5⟩ := by
    simp [Search.userTerms, nameFilters]
  rw [terms]
  refine or_congr ?_ ?_
  · simp [HasKeyword]
  · simp [IsNamed, Search.UserTerm.matches, Search.prefixFields, and_assoc]

theorem IsNamed.hasKeyword {user : UserIndexDocument} (named : IsNamed tables names user) :
    HasKeyword tables names := by
  obtain ⟨name, member, keyword, _⟩ := named
  exact ⟨name, member, keyword⟩

theorem IsNamed.answers {user : UserIndexDocument} (isNamed : IsNamed tables names user) :
    Answers tables names user := by
  have named : names ≠ [] := by
    obtain ⟨name, member, _⟩ := isNamed
    exact List.ne_nil_of_mem member
  exact ⟨named, .inr isNamed⟩

theorem resolve_of_found {hits : List SearchHit} (named : names ≠ [])
    (found : foundUsers tables userSearcher (nameFilters names)
      (max 1 (saturatingMul names.length 4)) 0 = .ok hits) (tweetSearcher : Searcher) :
    resolveAuthorUserNameIds (searchState tables tweetSearcher userSearcher) names =
      .ok (sortDedup intLe (hits.map SearchHit.id)) := by
  simp [resolveAuthorUserNameIds, named, searchState, usersNamed, found, Except.map]

/-- The names stand for users that answer, and for none only if nobody does. -/
theorem resolve_names
    (ranks : userSearcher.Ranks tables (users.map (userDocument tables.toLowercase)))
    (tweetSearcher : Searcher) :
    ∃ resolved, resolveAuthorUserNameIds (searchState tables tweetSearcher userSearcher) names =
        .ok resolved ∧
      (∀ id ∈ resolved, ∃ user ∈ users, user.id = id ∧ Answers tables names user) ∧
      ((∃ user ∈ users, Answers tables names user) → resolved ≠ []) := by
  by_cases none : names = []
  · refine ⟨[], by simp [resolveAuthorUserNameIds, none], by simp, ?_⟩
    intro ⟨user, _, named, _⟩
    exact absurd none named
  · -- The names stand for the first matches: all of these answer, and one is there if any does.
    obtain ⟨ranked, perm, read⟩ := Search.exists_ranked_users ranks (nameFilters names) .relevance
    have memRanked : ∀ user, user ∈ ranked ↔ user ∈ users ∧ Answers tables names user := by
      intro user
      rw [perm.mem_iff, List.mem_filter, nameFilters_matches_iff]
      simp [Answers, none]
    refine ⟨_, resolve_of_found none (foundUsers_eq (read _ _)) tweetSearcher, ?_, ?_⟩
    · intro id member
      rw [mem_sortDedup, List.map_map] at member
      obtain ⟨user, inWindow, isId⟩ := List.mem_map.mp member
      have answers := (memRanked user).mp (mem_of_mem_window inWindow)
      exact ⟨user, answers.1, isId, answers.2⟩
    · intro ⟨user, indexed, answers⟩ isEmpty
      have isRanked := (memRanked user).mpr ⟨indexed, answers⟩
      obtain ⟨first, rest, isRanking⟩ := List.exists_cons_of_ne_nil (List.ne_nil_of_mem isRanked)
      have leads : first ∈ window ranked (max 1 (saturatingMul names.length 4)) 0 := by
        rw [isRanking]
        exact head_mem_window rest (by omega)
      have member := mem_sortDedup.mpr (List.mem_map_of_mem (f := SearchHit.id)
        (List.mem_map_of_mem (f := UserIndexDocument.hit) leads))
      rw [isEmpty] at member
      cases member

/-- Whatever the order of the users, the names stand for some of them. -/
theorem resolved_subset {ordered : List UserIndexDocument} {tweetSearcher : Searcher}
    {resolved : List Int} (perm : ordered.Perm users)
    (resolves : resolveAuthorUserNameIds (searchState tables tweetSearcher
      (Search.listUserSearcher tables (ordered.map (userDocument tables.toLowercase)))) names =
        .ok resolved) : ∀ id ∈ resolved, ∃ user ∈ users, user.id = id := by
  obtain ⟨resolved', resolves', areAnswers, _⟩ := resolve_names
    (Search.listUserSearcher_ranks tables (.refl (ordered.map (userDocument tables.toLowercase))))
    tweetSearcher
  rw [resolves] at resolves'
  cases resolves'
  intro id member
  obtain ⟨user, isUser, sameId, _⟩ := areAnswers id member
  exact ⟨user, perm.mem_iff.mp isUser, sameId⟩

/-- A user that answers may come first. -/
theorem resolve_first {user : UserIndexDocument} (answers : Answers tables names user)
    (others : List UserIndexDocument) (tweetSearcher : Searcher) :
    ∃ resolved, resolveAuthorUserNameIds (searchState tables tweetSearcher
        (Search.listUserSearcher tables ((user :: others).map (userDocument tables.toLowercase))))
        names = .ok resolved ∧ user.id ∈ resolved := by
  -- The window has room for at least one user, and the order may put this one first.
  obtain ⟨limit, isLimit⟩ : ∃ limit, max 1 (saturatingMul names.length 4) = limit + 1 :=
    ⟨max 1 (saturatingMul names.length 4) - 1, by omega⟩
  obtain ⟨rest, read⟩ := Search.searchUsers_first others .relevance limit
    (nameFilters_matches_iff.mpr answers.2)
  rw [← isLimit] at read
  refine ⟨_, resolve_of_found answers.1 (foundUsers_eq read) tweetSearcher, ?_⟩
  simp [UserIndexDocument.hit]

end Names

/-! ## The index of tweets -/

/-- No stored tweet goes away or gets another author. -/
def AuthorsKept (earlier later : Table StoredTweet) : Prop :=
  ∀ id tweet, earlier.find id = some tweet →
    ∃ kept, later.find id = some kept ∧ kept.row.authorId = tweet.row.authorId

theorem AuthorsKept.refl (tweets : Table StoredTweet) : AuthorsKept tweets tweets :=
  fun _ tweet found => ⟨tweet, found, rfl⟩

theorem AuthorsKept.trans {earlier middle later : Table StoredTweet}
    (first : AuthorsKept earlier middle) (second : AuthorsKept middle later) :
    AuthorsKept earlier later := by
  intro id tweet found
  obtain ⟨kept, isKept, sameAuthor⟩ := first id tweet found
  obtain ⟨last, isLast, sameLast⟩ := second id kept isKept
  exact ⟨last, isLast, sameLast.trans sameAuthor⟩

/-- The rows are those of `tweet.tweet` in a database. -/
def StoresTweets (db : Submit.Database) (tweets : Table StoredTweet) : Prop :=
  db.tweets.rows = tweets.rows.map StoredTweet.row

theorem StoresTweets.find {db : Submit.Database} {tweets : Table StoredTweet}
    (stores : StoresTweets db tweets) (id : Int) :
    db.tweets.find id = (tweets.find id).map StoredTweet.row := by
  have rows : db.tweets.rows = tweets.rows.map StoredTweet.row := stores
  simp only [Table.find, rows, List.find?_map]
  rfl

/-- A submit call keeps the authors. -/
theorem authorsKept_of_submit {env : Submit.Environment} {prepared : Submit.PreparedSubmitBatch}
    {db : Submit.Database} {earlier later : Table StoredTweet} (before : StoresTweets db earlier)
    (after : StoresTweets (Submit.executePreparedSubmit env prepared db).1 later) :
    AuthorsKept earlier later := by
  intro id tweet found
  have stored : db.tweets.find id = some tweet.row := by rw [before.find, found, Option.map_some]
  obtain ⟨row, isRow, sameAuthor⟩ :=
    @Submit.author_executePreparedSubmit env prepared _ _ _ stored
  rw [after.find] at isRow
  obtain ⟨kept, isKept, rfl⟩ := Option.map_eq_some_iff.mp isRow
  exact ⟨kept, isKept, sameAuthor⟩

/-- What the index workers have written: records of stored tweets, each as of some earlier time. -/
structure TweetIndex (tweets : Table StoredTweet) where
  records : List TweetIndexDocument
  written : ∀ record ∈ records, ∃ earlier, AuthorsKept earlier tweets ∧
    Search.fetchTweetDocument (searchFacts earlier) record.id = some record

/-- The index stays one of the tweets while they are written. -/
def TweetIndex.later {earlier later : Table StoredTweet} (index : TweetIndex earlier)
    (kept : AuthorsKept earlier later) : TweetIndex later where
  records := index.records
  written := by
    intro record indexed
    obtain ⟨oldest, keptFirst, fetched⟩ := index.written record indexed
    exact ⟨oldest, keptFirst.trans kept, fetched⟩

theorem TweetIndex.author_eq {tweets : Table StoredTweet} (index : TweetIndex tweets)
    {record : TweetIndexDocument} {tweet : StoredTweet} (indexed : record ∈ index.records)
    (stored : tweets.find record.id = some tweet) : tweet.row.authorId = record.authorId := by
  obtain ⟨earlier, kept, fetched⟩ := index.written record indexed
  obtain ⟨row, found, isRecord⟩ := Option.map_eq_some_iff.mp fetched
  obtain ⟨old, oldStored, rfl⟩ := Option.map_eq_some_iff.mp found
  obtain ⟨tweet', stored', sameAuthor⟩ := kept record.id old oldStored
  rw [stored] at stored'
  cases stored'
  rw [sameAuthor, ← isRecord]
  rfl

/-- An index that is up to date. -/
def TweetIndex.upToDate (tweets : Table StoredTweet) : TweetIndex tweets where
  records := tweets.rows.map StoredTweet.indexDocument
  written := by
    intro record member
    obtain ⟨tweet, stored, rfl⟩ := List.mem_map.mp member
    refine ⟨tweets, .refl tweets, ?_⟩
    have found : tweets.find tweet.id = some tweet := Table.find_of_mem stored
    simp [Search.fetchTweetDocument, searchFacts, found, StoredTweet.searchRow,
      StoredTweet.indexDocument]

/-! ## What a request returns -/

/-- The same request with another cursor. -/
def TweetSearchListQuery.withCursor (query : TweetSearchListQuery) (cursor : Option String) :
    TweetSearchListQuery :=
  { query with list := { query.list with cursor } }

/-- The query that runs: the cursor of the request and the authors that the names stand for. -/
def TweetQuerySpec.run (spec : TweetQuerySpec) (cursor : Option String) (resolved : List Int) :
    TweetQuerySpec :=
  { spec with cursor, authorIds := sortDedup intLe (spec.authorIds ++ resolved) }

section Request

variable {tables : UnicodeTables} {codec : CursorCodec TweetSearchCursor}
  {tweetSearcher : Searcher} {userSearcher : UserSearcher} {tweets : Table StoredTweet}
  {index : TweetIndex tweets} {users : List UserIndexDocument} {query : TweetSearchListQuery}
  {spec : TweetQuerySpec}

theorem tweetQuerySpec_withCursor (parsed : tweetQuerySpec query = .ok spec)
    (cursor : Option String) :
    tweetQuerySpec (query.withCursor cursor) = .ok { spec with cursor } := by
  unfold tweetQuerySpec at parsed ⊢
  obtain ⟨listed, isListed, parsed⟩ := bind_eq_ok parsed
  obtain ⟨authorId, isAuthor, parsed⟩ := bind_eq_ok parsed
  obtain ⟨sort, isSort, parsed⟩ := bind_eq_ok parsed
  obtain ⟨tweetIds, isTweetIds, parsed⟩ := bind_eq_ok parsed
  obtain ⟨relation, isRelation, parsed⟩ := bind_eq_ok parsed
  cases parsed
  simp only [TweetSearchListQuery.withCursor, isListed, isAuthor, isSort, isTweetIds, isRelation,
    bind, Except.bind, pure, Except.pure]

/-- The other filters of the request: the text, the ids and the relation. -/
def MeetsOthers (fullText : String → IndexDocument → Bool) (spec : TweetQuerySpec)
    (record : TweetIndexDocument) : Prop :=
  queryMatches fullText (Search.buildTweetQuery spec.q { spec.filters with authorIds := [] })
    (tweetDocument record) = true

theorem run_matches_iff {fullText : String → IndexDocument → Bool} {cursor : Option String}
    {resolved : List Int} {record : TweetIndexDocument} :
    queryMatches fullText (Search.buildTweetQuery spec.q (spec.run cursor resolved).filters)
        (tweetDocument record) = true ↔
      MeetsOthers fullText spec record ∧
        ((spec.authorIds = [] ∧ resolved = []) ∨
          record.authorId ∈ spec.authorIds ∨ record.authorId ∈ resolved) := by
  have noAuthors : sortDedup intLe (spec.authorIds ++ resolved) = [] ↔
      spec.authorIds = [] ∧ resolved = [] := by
    simp only [List.eq_nil_iff_forall_not_mem, mem_sortDedup, List.mem_append, not_or, forall_and]
  refine Search.queryMatches_author.trans (and_congr_right fun _ => ?_)
  simp only [TweetQuerySpec.run, noAuthors, mem_sortDedup, List.mem_append]

theorem execute_of_answered {cursor : Option String} {resolved : List Int}
    {page : Page SearchedTweet String} (parsed : tweetQuerySpec query = .ok spec)
    (resolves : resolveAuthorUserNameIds (searchState tables tweetSearcher userSearcher)
      spec.authorUserNames = .ok resolved)
    (answered : searchTweets codec (some (searchState tables tweetSearcher userSearcher)) tweets
      (query.withCursor cursor) = .ok page) :
    ∃ decoded, executeTweetSearchQuery codec (searchState tables tweetSearcher userSearcher)
      tweets (spec.run cursor resolved) decoded = .ok page := by
  unfold searchTweets at answered
  rw [tweetQuerySpec_withCursor parsed] at answered
  -- The authors of a cursor are compared after the names have been looked up, the rest before.
  unfold executeTweetQuery at answered
  obtain ⟨_, isSpec, answered⟩ := bind_eq_ok answered
  cases isSpec
  obtain ⟨decoded, _, answered⟩ := bind_eq_ok answered
  obtain ⟨_, _, answered⟩ := bind_eq_ok answered
  obtain ⟨resolved', resolves', answered⟩ := bind_eq_ok answered
  rw [resolves] at resolves'
  cases resolves'
  dsimp only at answered
  split at answered
  · exact ⟨decoded, answered⟩
  · cases answered

theorem mem_fetchTweets {hits : List SearchHit} {found : SearchedTweet} :
    found ∈ fetchTweetsBySearchHits tweets hits ↔
      ∃ hit ∈ hits, ∃ tweet, tweets.find hit.id = some tweet ∧ ⟨tweet, hit.sortTime⟩ = found := by
  simp [fetchTweetsBySearchHits]

/-- With or without a next cursor, a page has the tweets of the first hits. -/
theorem data_of_tweet_page {offset : Nat} {hits : List SearchHit}
    {page : Page SearchedTweet String}
    (answered : searchPage codec tweets spec offset hits = .ok page) :
    page.data = fetchTweetsBySearchHits tweets (hits.take spec.limit) := by
  unfold searchPage at answered
  split at answered
  · obtain ⟨text, _, rfl⟩ := map_eq_ok answered
    rfl
  · cases answered
    rw [List.take_of_length_le (by omega)]

theorem foundHits_eq {search : SearchState} {ranked : List TweetIndexDocument}
    (read : ∀ limit offset,
      Search.searchTweets search.searcher spec.q spec.filters spec.sort limit offset =
        some ((window ranked limit offset).map (TweetIndexDocument.hit spec.sort)))
    (offset : Nat) :
    foundHits search spec offset =
      .ok ((window ranked (saturatingAdd spec.limit 1) offset).map
        (TweetIndexDocument.hit spec.sort)) := by
  simp only [foundHits, read]

/-- Every tweet of a page has an indexed record that meets the other filters, and its author is one
of the query if the query has any. -/
theorem exists_record_of_tweet_page {cursor : Option String} {resolved : List Int}
    {page : Page SearchedTweet String} {found : SearchedTweet}
    (parsed : tweetQuerySpec query = .ok spec)
    (ranks : tweetSearcher.Ranks (index.records.map tweetDocument))
    (resolves : resolveAuthorUserNameIds (searchState tables tweetSearcher userSearcher)
      spec.authorUserNames = .ok resolved)
    (answered : searchTweets codec (some (searchState tables tweetSearcher userSearcher)) tweets
      (query.withCursor cursor) = .ok page)
    (member : found ∈ page.data) :
    ∃ record ∈ index.records, tweets.find record.id = some found.tweet ∧
      MeetsOthers tweetSearcher.fullText spec record ∧
        ((spec.authorIds = [] ∧ resolved = []) ∨
          record.authorId ∈ spec.authorIds ∨ record.authorId ∈ resolved) := by
  obtain ⟨decoded, executed⟩ := execute_of_answered parsed resolves answered
  obtain ⟨hits, isFound, executed⟩ := bind_eq_ok executed
  obtain ⟨ranked, perm, read⟩ := Search.exists_ranked_tweets ranks spec.q
    (spec.run cursor resolved).filters spec.sort
  rw [@foundHits_eq (spec.run cursor resolved) (searchState tables tweetSearcher userSearcher) _
    read] at isFound
  cases isFound
  rw [data_of_tweet_page executed, mem_fetchTweets] at member
  obtain ⟨hit, isHit, tweet, stored, rfl⟩ := member
  obtain ⟨record, inWindow, rfl⟩ := List.mem_map.mp (List.mem_of_mem_take isHit)
  have selected := perm.mem_iff.mp (mem_of_mem_window inWindow)
  rw [List.mem_filter, run_matches_iff] at selected
  exact ⟨record, selected.1, stored, selected.2⟩

/-- A request runs the query with the offset of its cursor. -/
theorem searchTweets_eq_run {cursor : Option String} {decoded : Option Nat} {resolved : List Int}
    (parsed : tweetQuerySpec query = .ok spec)
    (resolves : resolveAuthorUserNameIds (searchState tables tweetSearcher userSearcher)
      spec.authorUserNames = .ok resolved)
    (isDecoded : cursor.mapM codec.decodeCursor =
      .ok (decoded.map (spec.run none resolved).cursorAt)) :
    searchTweets codec (some (searchState tables tweetSearcher userSearcher)) tweets
        (query.withCursor cursor) =
      executeTweetSearchQuery codec (searchState tables tweetSearcher userSearcher) tweets
        (spec.run cursor resolved) (decoded.map (spec.run none resolved).cursorAt) := by
  unfold searchTweets executeTweetQuery
  rw [tweetQuerySpec_withCursor parsed]
  cases decoded with
  | none =>
    simp only [Option.map_none] at isDecoded
    simp only [bind, Except.bind, isDecoded, resolves]
    rfl
  | some offset =>
    -- The cursor comes from the same query, so neither comparison refuses it.
    simp only [Option.map_some] at isDecoded
    have accepted : (some ((spec.run none resolved).cursorAt offset)).forM
        ({ spec with cursor } : TweetQuerySpec).acceptCursor = .ok () :=
      acceptCursor_searchCursor (spec.run none resolved) offset
    have sameAuthors : ((spec.run none resolved).cursorAt offset).authorIds =
        sortDedup intLe (spec.authorIds ++ resolved) := rfl
    simp only [bind, Except.bind, isDecoded, resolves, accepted, Option.map_some, Option.all_some,
      sameAuthors, decide_true, if_true]
    rfl

theorem exists_tweet_searchPage {hits : List SearchHit} {offset : Nat}
    (encodes : spec.limit < hits.length →
      ∃ text, codec.encodeCursor (spec.cursorAt (saturatingAdd offset spec.limit)) = .ok text) :
    ∃ page, searchPage codec tweets spec offset hits = .ok page := by
  unfold searchPage
  by_cases more : spec.limit < hits.length
  · obtain ⟨text, encoded⟩ := encodes more
    simp only [more, if_true, encoded]
    exact ⟨_, rfl⟩
  · simp only [more, if_false]
    exact ⟨_, rfl⟩

/-- Where a request has more than one page, its cursors survive. -/
def CursorsSurvive (codec : CursorCodec TweetSearchCursor) (spec : TweetQuerySpec)
    (index : TweetIndex tweets) (users : List UserIndexDocument) : Prop :=
  spec.limit < index.records.length → ∀ resolved : List Int,
    (∀ id ∈ resolved, ∃ user ∈ users, user.id = id) → ∀ offset < index.records.length,
      (spec.run none resolved).OffsetSurvives codec offset

/-- A searcher of the index. -/
def TweetIndex.searcher (index : TweetIndex tweets)
    (fullText : String → IndexDocument → Bool) : Searcher :=
  Search.sortingSearcher fullText (index.records.map tweetDocument)

theorem TweetIndex.searcher_ranks (index : TweetIndex tweets)
    (fullText : String → IndexDocument → Bool) :
    (index.searcher fullText).Ranks (index.records.map tweetDocument) :=
  Search.sortingSearcher_ranks _ _

/-- A stored tweet whose record meets the filters that run is on some page. -/
theorem exists_tweet_page {fullText : String → IndexDocument → Bool} {record : TweetIndexDocument}
    {tweet : StoredTweet} {resolved : List Int} (parsed : tweetQuerySpec query = .ok spec)
    (survives : CursorsSurvive codec spec index users) (indexed : record ∈ index.records)
    (stored : tweets.find record.id = some tweet) (others : MeetsOthers fullText spec record)
    (passes : (spec.authorIds = [] ∧ resolved = []) ∨
      record.authorId ∈ spec.authorIds ∨ record.authorId ∈ resolved)
    (resolves : resolveAuthorUserNameIds
      (searchState tables (index.searcher fullText) userSearcher) spec.authorUserNames =
        .ok resolved)
    (areUsers : ∀ id ∈ resolved, ∃ user ∈ users, user.id = id) :
    ∃ cursor page, searchTweets codec
        (some (searchState tables (index.searcher fullText) userSearcher)) tweets
        (query.withCursor cursor) = .ok page ∧
      ∃ found ∈ page.data, found.tweet = tweet := by
  obtain ⟨ranked, perm, read⟩ := Search.exists_ranked_tweets (index.searcher_ranks fullText) spec.q
    (spec.run none resolved).filters spec.sort
  have few : ranked.length ≤ index.records.length := by
    rw [perm.length_eq]
    exact List.length_filter_le _ _
  have isRanked : record ∈ ranked :=
    perm.mem_iff.mpr (List.mem_filter.mpr ⟨indexed, run_matches_iff.mpr ⟨others, passes⟩⟩)
  -- The limit is a resolved one, so that of one hit more does not saturate.
  have limited := (page_of_parsed parsed).2
  have enough : saturatingAdd spec.limit 1 = spec.limit + 1 :=
    limited ▸ saturatingAdd_resolveLimit _
  obtain ⟨offset, onPage, below, onePage⟩ :=
    exists_offset_of_mem (limited ▸ resolveLimit_pos _) isRanked
  -- The first page needs no cursor; a later one is only there if the cursors survive.
  obtain ⟨cursor, decoded, isDecoded, isOffset⟩ : ∃ (cursor : Option String) (decoded : Option Nat),
      cursor.mapM codec.decodeCursor = .ok (decoded.map (spec.run none resolved).cursorAt) ∧
        decoded.getD 0 = offset := by
    by_cases first : offset = 0
    · exact ⟨none, none, rfl, first.symm⟩
    · obtain ⟨_, text, _, decodes⟩ := survives (by omega) resolved areUsers offset (by omega)
      refine ⟨some text, some offset, ?_, rfl⟩
      simp only [Option.mapM_some, decodes, Option.map_some]
      rfl
  have hits := @foundHits_eq (spec.run cursor resolved)
    (searchState tables (index.searcher fullText) userSearcher) _ read offset
  rw [show saturatingAdd (spec.run cursor resolved).limit 1 = spec.limit + 1 from enough] at hits
  have onPage : record.hit spec.sort ∈ ((window ranked (spec.limit + 1) offset).map
      (TweetIndexDocument.hit spec.sort)).take spec.limit := by
    rw [← List.map_take]
    exact List.mem_map_of_mem onPage
  have encodes : spec.limit < ((window ranked (spec.limit + 1) offset).map
      (TweetIndexDocument.hit spec.sort)).length →
        ∃ text, codec.encodeCursor ((spec.run cursor resolved).cursorAt
          (saturatingAdd offset spec.limit)) = .ok text := by
    intro more
    simp only [List.length_map, length_window] at more
    obtain ⟨fits, text, encoded, _⟩ :=
      survives (by omega) resolved areUsers (offset + spec.limit) (by omega)
    rw [saturatingAdd_of_le fits]
    exact ⟨text, encoded⟩
  obtain ⟨page, answered⟩ :=
    @exists_tweet_searchPage codec tweets (spec.run cursor resolved) _ offset encodes
  have found : ∃ found ∈ page.data, found.tweet = tweet := by
    rw [data_of_tweet_page answered]
    exact ⟨_, mem_fetchTweets.mpr ⟨record.hit spec.sort, onPage, tweet, stored, rfl⟩, rfl⟩
  have atOffset : ((decoded.map (spec.run none resolved).cursorAt).map
      TweetSearchCursor.offset).getD 0 = offset := by
    cases decoded <;> exact isOffset
  refine ⟨cursor, page, ?_, found⟩
  rw [searchTweets_eq_run parsed resolves isDecoded]
  simp only [executeTweetSearchQuery, atOffset, hits, bind, Except.bind]
  exact answered

/-! ## When the authors are the requested ones -/

/-- Whatever the rankings, every tweet of every page is by an author with a requested id or with a
handle that is indexed as one of the requested names. -/
def AuthorsAreRequested (tables : UnicodeTables) (codec : CursorCodec TweetSearchCursor)
    (fullText : String → IndexDocument → Bool) (index : TweetIndex tweets)
    (users : List UserIndexDocument) (query : TweetSearchListQuery) (spec : TweetQuerySpec) :
    Prop :=
  ∀ (tweetSearcher : Searcher) (userSearcher : UserSearcher),
    tweetSearcher.fullText = fullText →
    tweetSearcher.Ranks (index.records.map tweetDocument) →
    tweetSearcher.Exact (index.records.map tweetDocument) →
    userSearcher.Ranks tables (users.map (userDocument tables.toLowercase)) →
      ∀ cursor page, searchTweets codec (some (searchState tables tweetSearcher userSearcher))
          tweets (query.withCursor cursor) = .ok page →
        ∀ found ∈ page.data, found.tweet.row.authorId ∈ spec.authorIds ∨
          ∃ user ∈ users, user.id = found.tweet.row.authorId ∧
            IsNamed tables spec.authorUserNames user

/-- The query has an author at all: there is a requested id, or some user answers. -/
def HasAuthor (tables : UnicodeTables) (spec : TweetQuerySpec) (users : List UserIndexDocument) :
    Prop :=
  spec.authorIds ≠ [] ∨ ∃ user ∈ users, Answers tables spec.authorUserNames user

section Requested

variable {fullText : String → IndexDocument → Bool} {record : TweetIndexDocument}

/-- An order of the users that lets a tweet through makes its author a requested one. -/
theorem AuthorsAreRequested.of_passes {ordered : List UserIndexDocument} {resolved : List Int}
    (holds : AuthorsAreRequested tables codec fullText index users query spec)
    (parsed : tweetQuerySpec query = .ok spec) (survives : CursorsSurvive codec spec index users)
    (indexed : record ∈ index.records) (isStored : (tweets.find record.id).isSome = true)
    (others : MeetsOthers fullText spec record) (perm : ordered.Perm users)
    (resolves : resolveAuthorUserNameIds (searchState tables (index.searcher fullText)
      (Search.listUserSearcher tables (ordered.map (userDocument tables.toLowercase))))
        spec.authorUserNames = .ok resolved)
    (passes : (spec.authorIds = [] ∧ resolved = []) ∨
      record.authorId ∈ spec.authorIds ∨ record.authorId ∈ resolved) :
    record.authorId ∈ spec.authorIds ∨
      ∃ user ∈ users, user.id = record.authorId ∧ IsNamed tables spec.authorUserNames user := by
  obtain ⟨tweet, stored⟩ := Option.isSome_iff_exists.mp isStored
  obtain ⟨cursor, page, answered, found, member, rfl⟩ := exists_tweet_page parsed survives indexed
    stored others passes resolves (resolved_subset perm resolves)
  rw [← index.author_eq indexed stored]
  exact holds _ _ rfl (index.searcher_ranks fullText) (Search.sortingSearcher_exact _ _)
    (Search.listUserSearcher_ranks tables (perm.map _)) cursor page answered found member

/-- A query without authors is not restricted, so it would return the tweet. -/
theorem AuthorsAreRequested.hasAuthor
    (holds : AuthorsAreRequested tables codec fullText index users query spec)
    (parsed : tweetQuerySpec query = .ok spec) (survives : CursorsSurvive codec spec index users)
    (indexed : record ∈ index.records) (isStored : (tweets.find record.id).isSome = true)
    (others : MeetsOthers fullText spec record) : HasAuthor tables spec users := by
  by_contra noAuthor
  simp only [HasAuthor, not_or, not_not, not_exists, not_and] at noAuthor
  obtain ⟨noIds, nobody⟩ := noAuthor
  obtain ⟨resolved, resolves, areAnswers, _⟩ := resolve_names
    (Search.listUserSearcher_ranks tables (.refl (users.map (userDocument tables.toLowercase))))
    (index.searcher fullText)
  have noneResolved : resolved = [] := by
    rw [List.eq_nil_iff_forall_not_mem]
    intro id member
    obtain ⟨user, isUser, _, answers⟩ := areAnswers id member
    exact nobody user isUser answers
  -- Nobody is requested, yet the author of the tweet has to be.
  obtain byId | ⟨user, isUser, _, named⟩ := holds.of_passes parsed survives indexed isStored others
    (.refl users) resolves (.inl ⟨noIds, noneResolved⟩)
  · rw [noIds] at byId
    cases byId
  · exact nobody user isUser named.answers

/-- Without a keyword every user may be the first to answer, the author of the tweet too. -/
theorem AuthorsAreRequested.narrow
    (holds : AuthorsAreRequested tables codec fullText index users query spec)
    (parsed : tweetQuerySpec query = .ok spec) (survives : CursorsSurvive codec spec index users)
    (indexed : record ∈ index.records) (isStored : (tweets.find record.id).isSome = true)
    (others : MeetsOthers fullText spec record) :
    HasKeyword tables spec.authorUserNames ∨ spec.authorUserNames = [] ∨
      record.authorId ∈ spec.authorIds ∨ ∀ user ∈ users, user.id ≠ record.authorId := by
  by_contra wide
  simp only [not_or, not_forall, not_not] at wide
  obtain ⟨noKeyword, named, notRequested, user, isUser, sameId⟩ := wide
  -- In this order the author comes first, so the names stand for it.
  have perm : (user :: users.erase user).Perm users := (List.perm_cons_erase isUser).symm
  obtain ⟨resolved, resolves, member⟩ :=
    resolve_first ⟨named, .inl noKeyword⟩ (users.erase user) (index.searcher fullText)
  rw [sameId] at member
  obtain byId | ⟨other, _, _, isNamed⟩ := holds.of_passes parsed survives indexed isStored others
    perm resolves (.inr (.inr member))
  · exact notRequested byId
  · exact noKeyword isNamed.hasKeyword

/-- The authors are the requested ones exactly if, for each stored tweet whose record meets the
other filters, the query has an author and the names do not stand for all users: they have a
keyword, or there are none, or the tweet is by a requested id or by nobody in the user index. -/
theorem authors_are_requested_iff (parsed : tweetQuerySpec query = .ok spec)
    (survives : CursorsSurvive codec spec index users) :
    AuthorsAreRequested tables codec fullText index users query spec ↔
      ∀ record ∈ index.records, (tweets.find record.id).isSome = true →
        MeetsOthers fullText spec record →
          HasAuthor tables spec users ∧
            (HasKeyword tables spec.authorUserNames ∨ spec.authorUserNames = [] ∨
              record.authorId ∈ spec.authorIds ∨ ∀ user ∈ users, user.id ≠ record.authorId) := by
  constructor
  · intro holds record indexed isStored others
    exact ⟨holds.hasAuthor parsed survives indexed isStored others,
      holds.narrow parsed survives indexed isStored others⟩
  · intro condition tweetSearcher userSearcher sameText tweetRanks _ userRanks cursor page answered
      found member
    obtain ⟨resolved, resolves, areAnswers, answersFound⟩ :=
      @resolve_names tables users spec.authorUserNames userSearcher userRanks tweetSearcher
    obtain ⟨record, indexed, stored, others, passes⟩ :=
      exists_record_of_tweet_page parsed tweetRanks resolves answered member
    rw [sameText] at others
    obtain ⟨hasAuthor, narrow⟩ := condition record indexed (by simp [stored]) others
    rw [index.author_eq indexed stored]
    -- A tweet is let through without any author, by a requested id, or by a name.
    obtain ⟨noIds, noneResolved⟩ | byId | byName := passes
    · exact absurd noneResolved (answersFound (hasAuthor.resolve_left fun ids => ids noIds))
    · exact .inl byId
    · obtain ⟨user, isUser, sameId, named, answers⟩ := areAnswers _ byName
      obtain hasKeyword | none | requested | absent := narrow
      · exact .inr ⟨user, isUser, sameId, answers.resolve_left fun without => without hasKeyword⟩
      · exact absurd none named
      · exact .inl requested
      · exact absurd sameId (absent user isUser)

end Requested

end Request

/-- A search by the handles of authors. -/
def byAuthor (names : String) : TweetSearchListQuery :=
  ⟨⟨none, none, none⟩, none, none, some names, none, none, none⟩

def byAuthorSpec (names : List String) : TweetQuerySpec :=
  ⟨none, [], [], names, "all", .publishedAt, 50, none⟩

theorem tweetQuerySpec_byAuthor (names : String) :
    tweetQuerySpec (byAuthor names) = .ok (byAuthorSpec (normalizeUserNameCsv (some names))) := by
  have listed : parseI64Csv none "authorIds" = .ok [] := rfl
  have tweetIds : parseI64Csv none "tweetIds" = .ok [] := rfl
  have author : parseOptionalI64 none "authorId" = .ok none := rfl
  have relation : normalizeTweetRelation none = .ok "all" := by decide
  have text : normalizeQuery none = none := rfl
  have limit : resolveLimit none = 50 := rfl
  simp only [tweetQuerySpec, byAuthor, listed, tweetIds, author, relation, text, limit, searchSort,
    bind, Except.bind, pure, Except.pure]
  rfl

theorem parse_nobody : tweetQuerySpec (byAuthor "nobody") = .ok (byAuthorSpec ["nobody"]) := by
  have items : "nobody".splitOn "," = ["nobody"] := by
    simp only [String.splitOn]
    rw [if_neg (by decide)]
    iterate 7 (unfold String.splitOnAux; simp +decide)
  have names : normalizeUserNameCsv (some "nobody") = ["nobody"] := by
    simp only [normalizeUserNameCsv, csvItems, items]
    decide
  rw [tweetQuerySpec_byAuthor, names]

theorem parse_jack : tweetQuerySpec (byAuthor "@Jack") = .ok (byAuthorSpec ["jack"]) := by
  have items : "@Jack".splitOn "," = ["@Jack"] := by
    simp only [String.splitOn]
    rw [if_neg (by decide)]
    iterate 6 (unfold String.splitOnAux; simp +decide)
  have names : normalizeUserNameCsv (some "@Jack") = ["jack"] := by
    simp only [normalizeUserNameCsv, csvItems, items]
    decide
  rw [tweetQuerySpec_byAuthor, names]

/-- Nobody has the requested name: the tweets of everyone are returned. -/
theorem unknown_author_returns_everything :
    tweetQuerySpec (byAuthor "nobody") = .ok (byAuthorSpec ["nobody"]) ∧
    ¬ AuthorsAreRequested asciiTables (tableCodec []) (fun _ _ => false)
      (TweetIndex.upToDate twoTweets) [jack] (byAuthor "nobody") (byAuthorSpec ["nobody"]) := by
  refine ⟨parse_nobody, fun holds => ?_⟩
  have answered : searchTweets (tableCodec [])
      (some (searchState asciiTables (Search.sortingSearcher (fun _ _ => false)
          ((TweetIndex.upToDate twoTweets).records.map tweetDocument))
        (Search.listUserSearcher asciiTables [userDocument asciiTables.toLowercase jack])))
      twoTweets ((byAuthor "nobody").withCursor none) =
        .ok ⟨twoTweets.rows.map (StoredTweet.searched .publishedAt), none⟩ := by
    unfold searchTweets
    rw [tweetQuerySpec_withCursor parse_nobody]
    decide
  obtain byId | ⟨user, isUser, sameId, _⟩ := holds _ _ rfl
    (Search.sortingSearcher_ranks _ _) (Search.sortingSearcher_exact _ _)
    (Search.listUserSearcher_ranks asciiTables (.refl _)) none _ answered _ List.mem_cons_self
  · cases byId
  · cases List.mem_singleton.mp isUser
    exact absurd sameId (by decide)

theorem authors_are_requested_iff_jack :
    AuthorsAreRequested asciiTables (tableCodec []) (fun _ _ => false)
      (TweetIndex.upToDate twoTweets) [jack] (byAuthor "@Jack") (byAuthorSpec ["jack"]) := by
  have isNamed : IsNamed asciiTables ["jack"] jack :=
    ⟨"jack", List.mem_cons_self, by decide, by decide⟩
  refine (authors_are_requested_iff parse_jack fun more => absurd more (by decide)).mpr ?_
  intro record _ _ _
  exact ⟨.inr ⟨jack, List.mem_cons_self, isNamed.answers⟩, .inl isNamed.hasKeyword⟩

end TweetDb.Api
