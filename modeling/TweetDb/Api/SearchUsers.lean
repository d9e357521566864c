import TweetDb.Api.SearchTweets
import TweetDb.Search.UserQuery

/-! # Searching users

`search_twitter_users` for a session that may read tweets, and when each user it
returns is one that a filter of the request selects.
-/

namespace TweetDb.Api

open Paging Relational
open Search (SearchHit UnicodeTables UserIndexDocument UserSearcher asciiTables
  normalizedPrefixQuery hasPrefixTerm userDocument)
open Tweet (TwitterUser)

structure TwitterUserSearchQuery where
  list : ListQuery
  userIds : Option String
  userNamePrefix : Option String
  displayNamePrefix : Option String
deriving DecidableEq, Repr

def normalizeUserQueryPrefix (raw : Option String) : Option String :=
  (((raw.map trim).filter fun value => !value.isEmpty).map fun value =>
    toAsciiLowercase (trim (trimStartMatches (· == '@') value))).filter fun value => !value.isEmpty

/-- The filters and the limit of a request. -/
structure TwitterUserQuerySpec where
  userIds : List Int
  userNamePrefix : Option String
  displayNamePrefix : Option String
  limit : Nat
deriving DecidableEq, Repr

def twitterUserQuerySpec (query : TwitterUserSearchQuery) :
    Except ApiError TwitterUserQuerySpec := do
  let userIds ← parseI64Csv query.userIds "userIds"
  let userNamePrefix := normalizeUserQueryPrefix query.userNamePrefix
  let displayNamePrefix := normalizeUserQueryPrefix query.displayNamePrefix
  if userIds.isEmpty && userNamePrefix.isNone && displayNamePrefix.isNone then
    throw (.badRequest "one of userIds, userNamePrefix, displayNamePrefix is required")
  return ⟨userIds, userNamePrefix, displayNamePrefix, resolveLimit query.list.limit⟩

structure TwitterUserSearchCursor where
  v : Nat
  userIds : List Int
  userNamePrefix : Option String
  displayNamePrefix : Option String
  offset : Nat
deriving DecidableEq, Repr

/-- A user of a search page. -/
structure SearchedUser where
  user : TwitterUser
  searchSortTime : Option Int
deriving DecidableEq, Repr

def fetchTwitterUsersBySearchHits (users : Table TwitterUser) (hits : List SearchHit) :
    List SearchedUser :=
  hits.filterMap fun hit => (users.find hit.id).map fun user => ⟨user, hit.sortTime⟩

namespace TwitterUserQuerySpec

variable (spec : TwitterUserQuerySpec)

def cursorAt (offset : Nat) : TwitterUserSearchCursor where
  v := cursorVersion
  userIds := spec.userIds
  userNamePrefix := spec.userNamePrefix
  displayNamePrefix := spec.displayNamePrefix
  offset

def acceptCursor (cursor : TwitterUserSearchCursor) : Except ApiError Unit := do
  ensureCursorVersion cursor.v
  if cursor.userIds ≠ spec.userIds ∨ cursor.userNamePrefix ≠ spec.userNamePrefix ∨
      cursor.displayNamePrefix ≠ spec.displayNamePrefix then
    throw (.badRequest "cursor does not match filters")

def filters : Search.UserSearchFilters where
  q := none
  userIds := spec.userIds
  userNames := []
  userNamePrefix := spec.userNamePrefix
  displayNamePrefix := spec.displayNamePrefix

/-- The page of the hits at an offset; one hit more than the limit makes a next cursor. -/
def searchPage (codec : CursorCodec TwitterUserSearchCursor) (users : Table TwitterUser)
    (offset : Nat) (found : List SearchHit) : Except ApiError (Page SearchedUser String) :=
  if spec.limit < found.length then
    (codec.encodeCursor (spec.cursorAt (saturatingAdd offset spec.limit))).map fun text =>
      ⟨fetchTwitterUsersBySearchHits users (found.take spec.limit), some text⟩
  else .ok ⟨fetchTwitterUsersBySearchHits users found, none⟩

end TwitterUserQuerySpec

/-- The hits of `search_users`, by relevance. -/
def foundUsers (tables : UnicodeTables) (searcher : UserSearcher)
    (filters : Search.UserSearchFilters) (limit offset : Nat) :
    Except ApiError (List SearchHit) :=
  match Search.searchUsers tables searcher filters .relevance limit offset with
  | some hits => .ok hits
  | none => .error (.search "indexed document is missing id")

def searchTwitterUsers (tables : UnicodeTables) (codec : CursorCodec TwitterUserSearchCursor)
    (search : Option UserSearcher) (users : Table TwitterUser) (query : TwitterUserSearchQuery) :
    Except ApiError (Page SearchedUser String) := do
  let spec ← twitterUserQuerySpec query
  let cursor ← query.list.cursor.mapM codec.decodeCursor
  cursor.forM spec.acceptCursor
  let offset := (cursor.map TwitterUserSearchCursor.offset).getD 0
  match search with
  | none => throw (.serviceUnavailable "search subsystem is disabled")
  | some searcher =>
    let found ← foundUsers tables searcher spec.filters (saturatingAdd spec.limit 1) offset
    spec.searchPage codec users offset found

/-- The same request with another cursor. -/
def TwitterUserSearchQuery.withCursor (query : TwitterUserSearchQuery) (cursor : Option String) :
    TwitterUserSearchQuery :=
  { query with list := { query.list with cursor } }

@[simp] theorem twitterUserQuerySpec_withCursor (query : TwitterUserSearchQuery)
    (cursor : Option String) :
    twitterUserQuerySpec (query.withCursor cursor) = twitterUserQuerySpec query := rfl

/-! ## What the filters select -/

section Filters

variable {tables : UnicodeTables} {codec : CursorCodec TwitterUserSearchCursor}
  {searcher : UserSearcher} {users : Table TwitterUser} {records : List UserIndexDocument}
  {query : TwitterUserSearchQuery} {spec : TwitterUserQuerySpec}

/-- The record is indexed under the term that a requested prefix stands for. -/
def HasRequestedPrefix (tables : UnicodeTables) (field : String) (requested : Option String)
    (record : UserIndexDocument) : Prop :=
  ∃ term, requested.bind (normalizedPrefixQuery tables) = some term ∧
    hasPrefixTerm tables (userDocument tables.toLowercase record) field term = true

/-- The record has a requested id, or is indexed under a requested prefix of its handle or of its
display name. -/
def TwitterUserQuerySpec.Selects (tables : UnicodeTables) (spec : TwitterUserQuerySpec)
    (record : UserIndexDocument) : Prop :=
  record.id ∈ spec.userIds ∨
    HasRequestedPrefix tables "user_name_prefix" spec.userNamePrefix record ∨
      HasRequestedPrefix tables "display_name_prefix" spec.displayNamePrefix record

/-- One of the filters has a term to search for. -/
def TwitterUserQuerySpec.HasTerm (tables : UnicodeTables) (spec : TwitterUserQuerySpec) : Prop :=
  spec.userIds ≠ [] ∨
    (spec.userNamePrefix.bind (normalizedPrefixQuery tables)).isSome = true ∨
      (spec.displayNamePrefix.bind (normalizedPrefixQuery tables)).isSome = true

theorem userTerms_eq_nil_iff :
    Search.userTerms tables spec.filters = [] ↔ ¬ spec.HasTerm tables := by
  cases userName : spec.userNamePrefix.bind (normalizedPrefixQuery tables) <;>
    cases displayName : spec.displayNamePrefix.bind (normalizedPrefixQuery tables) <;>
      simp [Search.userTerms, TwitterUserQuerySpec.filters, TwitterUserQuerySpec.HasTerm, userName,
        displayName]

theorem exists_term_iff {record : UserIndexDocument} :
    (∃ term ∈ Search.userTerms tables spec.filters,
      term.matches tables (userDocument tables.toLowercase record) = true) ↔
        spec.Selects tables record := by
  simp [Search.userTerms, TwitterUserQuerySpec.filters, TwitterUserQuerySpec.Selects,
    HasRequestedPrefix, Search.UserTerm.matches, Search.prefixFields, or_and_right, exists_or]

/-- The query matches what the filters select, and everything if they have no term. -/
theorem spec_matches_iff {record : UserIndexDocument} :
    (Search.buildUserQuery tables spec.filters).matches tables
        (userDocument tables.toLowercase record) = true ↔
      ¬ spec.HasTerm tables ∨ spec.Selects tables record := by
  rw [Search.buildUserQuery_matches, userTerms_eq_nil_iff, exists_term_iff]

/-! ## The users of a page -/

theorem foundUsers_eq {filters : Search.UserSearchFilters} {limit offset : Nat}
    {hits : List SearchHit}
    (read : Search.searchUsers tables searcher filters .relevance limit offset = some hits) :
    foundUsers tables searcher filters limit offset = .ok hits := by
  simp only [foundUsers, read]

theorem mem_fetchTwitterUsers {hits : List SearchHit} {found : SearchedUser} :
    found ∈ fetchTwitterUsersBySearchHits users hits ↔
      ∃ hit ∈ hits, ∃ user, users.find hit.id = some user ∧ ⟨user, hit.sortTime⟩ = found := by
  simp [fetchTwitterUsersBySearchHits]

/-- With or without a next cursor, a page has the users of the first hits. -/
theorem data_of_searchPage {offset : Nat} {hits : List SearchHit}
    {page : Page SearchedUser String}
    (answered : spec.searchPage codec users offset hits = .ok page) :
    page.data = fetchTwitterUsersBySearchHits users (hits.take spec.limit) := by
  unfold TwitterUserQuerySpec.searchPage at answered
  split at answered
  · obtain ⟨text, _, rfl⟩ := map_eq_ok answered
    rfl
  · cases answered
    rw [List.take_of_length_le (by omega)]

theorem exists_searchPage {offset : Nat} {hits : List SearchHit}
    (encodes : ∃ text, codec.encodeCursor (spec.cursorAt (saturatingAdd offset spec.limit)) =
      .ok text) :
    ∃ page, spec.searchPage codec users offset hits = .ok page := by
  obtain ⟨text, encoded⟩ := encodes
  unfold TwitterUserQuerySpec.searchPage
  by_cases more : spec.limit < hits.length
  · simp only [more, if_true, encoded]
    exact ⟨_, rfl⟩
  · simp only [more, if_false]
    exact ⟨_, rfl⟩

/-- Every user of a page has an indexed record that the query matches. -/
theorem exists_record_of_page {cursor : Option String} {page : Page SearchedUser String}
    {found : SearchedUser} (parsed : twitterUserQuerySpec query = .ok spec)
    (ranks : searcher.Ranks tables (records.map (userDocument tables.toLowercase)))
    (answered : searchTwitterUsers tables codec (some searcher) users (query.withCursor cursor) =
      .ok page)
    (member : found ∈ page.data) :
    ∃ record ∈ records, users.find record.id = some found.user ∧
      (¬ spec.HasTerm tables ∨ spec.Selects tables record) := by
  obtain ⟨ranked, perm, read⟩ := Search.exists_ranked_users ranks spec.filters .relevance
  unfold searchTwitterUsers at answered
  obtain ⟨spec', parsed', answered⟩ := bind_eq_ok answered
  rw [twitterUserQuerySpec_withCursor, parsed] at parsed'
  cases parsed'
  obtain ⟨_, _, answered⟩ := bind_eq_ok answered
  obtain ⟨_, _, answered⟩ := bind_eq_ok answered
  obtain ⟨hits, isFound, answered⟩ := bind_eq_ok answered
  rw [data_of_searchPage answered, mem_fetchTwitterUsers] at member
  obtain ⟨hit, isHit, user, present, rfl⟩ := member
  rw [foundUsers_eq (read _ _)] at isFound
  cases isFound
  -- A hit is one of a record in the ranking, which has only records that the query matches.
  obtain ⟨record, inWindow, rfl⟩ := List.mem_map.mp (List.mem_of_mem_take isHit)
  have selected := perm.mem_iff.mp (mem_of_mem_window inWindow)
  rw [List.mem_filter, spec_matches_iff] at selected
  exact ⟨record, selected.1, present, selected.2⟩

theorem limit_of_parsed (parsed : twitterUserQuerySpec query = .ok spec) :
    spec.limit = resolveLimit query.list.limit := by
  obtain ⟨userIds, _, checked⟩ := bind_eq_ok parsed
  dsimp only at checked
  split at checked
  · cases checked
  · cases checked
    rfl

/-- A user whose record the query matches is on the first page of some ranking. -/
theorem exists_first_page {record : UserIndexDocument} {user : TwitterUser}
    (parsed : twitterUserQuerySpec query = .ok spec)
    (encodes : ∃ text, codec.encodeCursor (spec.cursorAt spec.limit) = .ok text)
    (indexed : record ∈ records) (stored : users.find record.id = some user)
    (selected : ¬ spec.HasTerm tables ∨ spec.Selects tables record) :
    ∃ searcher : UserSearcher,
      searcher.Ranks tables (records.map (userDocument tables.toLowercase)) ∧
      ∃ page, searchTwitterUsers tables codec (some searcher) users (query.withCursor none) =
        .ok page ∧ ∃ found ∈ page.data, found.user = user := by
  have limited := limit_of_parsed parsed
  have positive : 0 < spec.limit := limited ▸ resolveLimit_pos _
  -- Neither addition of the code saturates at a limit this small.
  have enough : saturatingAdd spec.limit 1 = spec.limit + 1 :=
    limited ▸ saturatingAdd_resolveLimit _
  have fits : 0 + spec.limit ≤ usizeMax := by
    have small : spec.limit + 1 ≤ usizeMax := limited ▸ resolveLimit_succ_le _
    omega
  -- The ranking begins with the record.
  have perm : (record :: records.erase record).Perm records := (List.perm_cons_erase indexed).symm
  refine ⟨_, Search.listUserSearcher_ranks tables (perm.map _), ?_⟩
  obtain ⟨rest, read⟩ := Search.searchUsers_first (records.erase record) .relevance spec.limit
    (spec_matches_iff.mpr selected)
  have encodesNext :
      ∃ text, codec.encodeCursor (spec.cursorAt (saturatingAdd 0 spec.limit)) = .ok text := by
    rwa [saturatingAdd_of_le fits, Nat.zero_add]
  obtain ⟨page, answered⟩ :=
    @exists_searchPage codec users spec 0 (record.hit :: rest) encodesNext
  have onPage : record.hit ∈ (record.hit :: rest).take spec.limit := by
    obtain ⟨limit, isLimit⟩ : ∃ limit, spec.limit = limit + 1 := ⟨spec.limit - 1, by omega⟩
    simp [isLimit]
  have found : (⟨user, record.hit.sortTime⟩ : SearchedUser) ∈ page.data := by
    rw [data_of_searchPage answered, mem_fetchTwitterUsers]
    exact ⟨record.hit, onPage, user, stored, rfl⟩
  refine ⟨page, ?_, _, found, rfl⟩
  unfold searchTwitterUsers
  rw [twitterUserQuerySpec_withCursor, parsed]
  simp only [TwitterUserSearchQuery.withCursor, bind, Except.bind, enough]
  exact (congrArg (fun found => Except.bind found (spec.searchPage codec users 0))
    (foundUsers_eq read)).trans answered

/-- Without a term nothing is selected. -/
theorem hasTerm_of_selects {record : UserIndexDocument} (selected : spec.Selects tables record) :
    spec.HasTerm tables := by
  obtain requested | ⟨term, found, _⟩ | ⟨term, found, _⟩ := selected
  · exact .inl (List.ne_nil_of_mem requested)
  · exact .inr (.inl (by simp [found]))
  · exact .inr (.inr (by simp [found]))

/-- Whatever the ranking, every user of every page has an indexed record that the filters select. -/
def ReturnsOnlySelected (tables : UnicodeTables) (codec : CursorCodec TwitterUserSearchCursor)
    (users : Table TwitterUser) (records : List UserIndexDocument)
    (query : TwitterUserSearchQuery) (spec : TwitterUserQuerySpec) : Prop :=
  ∀ searcher : UserSearcher,
    searcher.Ranks tables (records.map (userDocument tables.toLowercase)) →
      ∀ cursor page, searchTwitterUsers tables codec (some searcher) users
          (query.withCursor cursor) = .ok page →
        ∀ found ∈ page.data, ∃ record ∈ records,
          record.id = found.user.id ∧ spec.Selects tables record

/-- Only selected users are returned exactly if a filter has a term, or there is nobody to return:
a request whose prefixes have no term is answered with every user. -/
theorem returns_only_selected_iff (parsed : twitterUserQuerySpec query = .ok spec)
    (encodes : ∃ text, codec.encodeCursor (spec.cursorAt spec.limit) = .ok text) :
    ReturnsOnlySelected tables codec users records query spec ↔
      spec.HasTerm tables ∨ ∀ record ∈ records, users.find record.id = none := by
  constructor
  · intro holds
    -- Without a term a stored user comes first on some page, though nothing selects it.
    by_cases hasTerm : spec.HasTerm tables
    · exact .inl hasTerm
    · refine .inr fun record indexed => ?_
      by_contra isStored
      obtain ⟨user, stored⟩ := Option.ne_none_iff_exists'.mp isStored
      obtain ⟨searcher, ranks, page, answered, found, member, _⟩ :=
        exists_first_page parsed encodes indexed stored (.inl hasTerm)
      obtain ⟨other, _, _, selected⟩ := holds searcher ranks none page answered found member
      exact hasTerm (hasTerm_of_selects selected)
  · intro condition searcher ranks cursor page answered found member
    obtain ⟨record, indexed, stored, selected⟩ :=
      exists_record_of_page parsed ranks answered member
    have sameId : found.user.id = record.id := Table.find_key stored
    obtain hasTerm | nobody := condition
    · exact ⟨record, indexed, sameId.symm, selected.resolve_left fun none => none hasTerm⟩
    · rw [nobody record indexed] at stored
      cases stored

end Filters

def jack : UserIndexDocument := ⟨12, some "jack", some "Jack", 1775606400000000⟩

def onlyJack : Table TwitterUser := ⟨[⟨12, none⟩], by decide⟩

/-- Three exclamation marks are a prefix, but have no term: everyone is returned. -/
theorem exclamation_marks_return_everyone :
    twitterUserQuerySpec ⟨⟨none, none, none⟩, none, some "!!!", none⟩ =
      .ok ⟨[], some "!!!", none, 50⟩ ∧
    ¬ ReturnsOnlySelected asciiTables (tableCodec []) onlyJack [jack]
      ⟨⟨none, none, none⟩, none, some "!!!", none⟩ ⟨[], some "!!!", none, 50⟩ := by
  refine ⟨by decide, fun holds => ?_⟩
  have answered : searchTwitterUsers asciiTables (tableCodec [])
      (some (Search.listUserSearcher asciiTables
        [userDocument asciiTables.toLowercase jack])) onlyJack
      (TwitterUserSearchQuery.withCursor ⟨⟨none, none, none⟩, none, some "!!!", none⟩ none) =
        .ok ⟨[⟨⟨12, none⟩, some 1775606400⟩], none⟩ := by
    decide
  obtain ⟨record, _, _, selected⟩ := holds _
    (Search.listUserSearcher_ranks asciiTables (.refl _)) none _ answered _ List.mem_cons_self
  obtain none | some | some := hasTerm_of_selects selected
  · exact none rfl
  · exact absurd some (by decide)
  · exact absurd some (by decide)

/-- The next cursor of a search for `ja`. -/
def prefixCursor : CursorCodec TwitterUserSearchCursor := tableCodec
  [((⟨[], some "ja", none, 50⟩ : TwitterUserQuerySpec).cursorAt 50,
    "eyJ2IjoxLCJ1c2VyX2lkcyI6W10sInVzZXJfbmFtZV9wcmVmaXgiOiJqYSIsImRpc3BsYXlfbmFtZV9wcmVmaXgi" ++
    "Om51bGwsIm9mZnNldCI6NTB9")]

theorem returns_only_selected_iff_prefix :
    ReturnsOnlySelected asciiTables prefixCursor onlyJack [jack]
      ⟨⟨none, none, none⟩, none, some "@Ja", none⟩ ⟨[], some "ja", none, 50⟩ :=
  (returns_only_selected_iff (by decide) ⟨_, rfl⟩).mpr (.inl (.inr (.inl (by decide))))

end TweetDb.Api
