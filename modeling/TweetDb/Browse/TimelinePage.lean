import TweetDb.Api.AuthorFilters
import TweetDb.Browse.TweetText
import TweetDb.Paging.Loaded
import TweetDb.Transition.Run

/-! # The search page

`BrowseTimelinePage.vue` keeps one list for both kinds of search.  A request is
built from the forms as they are when it is sent; its answer replaces the list
or is put behind it, whatever the page has become since.  What keeps the results
of two searches apart is the server, which refuses a cursor of another search.
-/

namespace TweetDb.Browse

open Api Paging Relational Transition
open Search (UnicodeTables asciiTables UserSearcher)
open Tweet (TwitterUser)

inductive SearchKind where
  | posts
  | users
deriving DecidableEq, Repr

inductive TweetSort where
  | relevance
  | publishedAt
  | createdAt
  | updatedAt
deriving DecidableEq, Repr

def TweetSort.text : TweetSort → String
  | .relevance => "relevance"
  | .publishedAt => "publishedAt"
  | .createdAt => "createdAt"
  | .updatedAt => "updatedAt"

structure PostForm where
  q : String
  tweetIds : String
  authorIds : String
  authorUserNames : String
  relation : String
  sort : TweetSort
deriving DecidableEq, Repr

structure UserForm where
  userIds : String
  userNamePrefix : String
  displayNamePrefix : String
deriving DecidableEq, Repr

/-- The query of `fetchV2TweetSearch` or `fetchV2UserSearch`. -/
inductive PageQuery where
  | posts (query : TweetSearchListQuery)
  | users (query : TwitterUserSearchQuery)
deriving DecidableEq, Repr

def PageQuery.kind : PageQuery → SearchKind
  | .posts _ => .posts
  | .users _ => .users

def PageQuery.list : PageQuery → ListQuery
  | .posts query => query.list
  | .users query => query.list

inductive ResultItem where
  | post (tweet : SearchedTweet)
  | user (user : SearchedUser)
deriving DecidableEq, Repr

/-- A call of `load` that waits for its answer. -/
structure LoadRequest where
  reset : Bool
  query : PageQuery
deriving DecidableEq, Repr

structure TimelinePage where
  resultItems : List ResultItem
  nextCursor : Option String
  searchKind : SearchKind
  queryWasActive : Bool
  loading : Bool
  error : String
  searched : Bool
  postForm : PostForm
  userForm : UserForm
  waiting : List LoadRequest
deriving DecidableEq, Repr

/-- `String.prototype.trim`. -/
def trimmed (value : String) : String :=
  let isBlank := fun c => isWhiteSpace (codePoint c)
  trimEndMatches isBlank (trimStartMatches isBlank value)

/-- `value || undefined`; `withQuery` leaves such a parameter out. -/
def orUndefined (value : String) : Option String := if value = "" then none else some value

namespace TimelinePage

def start : TimelinePage where
  resultItems := []
  nextCursor := none
  searchKind := .posts
  queryWasActive := false
  loading := false
  error := ""
  searched := false
  postForm := ⟨"", "", "", "", "all", .publishedAt⟩
  userForm := ⟨"", "", ""⟩
  waiting := []

def hasPostQuery (page : TimelinePage) : Bool := decide (trimmed page.postForm.q ≠ "")

def requestSort (page : TimelinePage) : TweetSort :=
  if !page.hasPostQuery && decide (page.postForm.sort = .relevance) then .publishedAt
  else page.postForm.sort

/-- The query built from the forms; `limit` is 30 on this page. -/
def query (limit : Nat) (page : TimelinePage) (cursor : Option String) : PageQuery :=
  let cursor := cursor.bind orUndefined
  match page.searchKind with
  | .posts => .posts
      { list := ⟨cursor, some limit, orUndefined (trimmed page.postForm.q)⟩
        tweetIds := orUndefined (trimmed page.postForm.tweetIds)
        authorIds := orUndefined (trimmed page.postForm.authorIds)
        authorUserNames := orUndefined (trimmed page.postForm.authorUserNames)
        authorId := none
        relation := orUndefined page.postForm.relation
        sort := some page.requestSort.text }
  | .users => .users
      { list := ⟨cursor, some limit, none⟩
        userIds := orUndefined (trimmed page.userForm.userIds)
        userNamePrefix := orUndefined (trimmed page.userForm.userNamePrefix)
        displayNamePrefix := orUndefined (trimmed page.userForm.displayNamePrefix) }

/-- `load`, up to the first `await`. -/
def load (limit : Nat) (reset : Bool) (page : TimelinePage) : TimelinePage :=
  { page with
    loading := true
    error := ""
    searched := true
    waiting := page.waiting ++
      [⟨reset, page.query limit (if reset then none else page.nextCursor)⟩] }

/-- `load`, from the answer on. -/
def receive (request : LoadRequest) (answer : Except String (Page ResultItem String))
    (page : TimelinePage) : TimelinePage :=
  match answer with
  | .ok response =>
    { page with
      resultItems :=
        if request.reset then response.data else page.resultItems ++ response.data
      nextCursor := response.nextCursor
      loading := false }
  | .error message => { page with error := message, loading := false }

def handleQueryInput (q : String) (page : TimelinePage) : TimelinePage :=
  let nextActive := decide (trimmed q ≠ "")
  let sort :=
    if nextActive && !page.queryWasActive then .relevance
    else if !nextActive && page.queryWasActive && decide (page.postForm.sort = .relevance) then
      .publishedAt
    else page.postForm.sort
  { page with
    postForm := { page.postForm with q, sort }
    queryWasActive := nextActive }

def setSearchKind (kind : SearchKind) (page : TimelinePage) : TimelinePage :=
  if page.searchKind = kind then page
  else { page with searchKind := kind, resultItems := [], nextCursor := none }

end TimelinePage

/-! ## Runs of the page -/

/-- What the search endpoints run on when they answer. -/
structure SearchServer where
  search : Option SearchState
  tweets : Table StoredTweet
  userSearch : Option UserSearcher
  users : Table TwitterUser

/-- The parts of the server that stay the same. -/
structure SearchContext where
  limit : Nat
  tables : UnicodeTables
  tweetCursors : CursorCodec TweetSearchCursor
  userCursors : CursorCodec TwitterUserSearchCursor
  errorMessage : ApiError → String

/-- The items of an answer, as the page keeps them. -/
def answerOf {α : Type} (context : SearchContext) (item : α → ResultItem) :
    Except ApiError (Page α String) → Except String (Page ResultItem String)
  | .ok page => .ok ⟨page.data.map item, page.nextCursor⟩
  | .error error => .error (context.errorMessage error)

def SearchServer.answer (context : SearchContext) (server : SearchServer) :
    PageQuery → Except String (Page ResultItem String)
  | .posts query => answerOf context .post
      (searchTweets context.tweetCursors server.search server.tweets query)
  | .users query => answerOf context .user
      (searchTwitterUsers context.tables context.userCursors server.userSearch server.users query)

/-- What can happen on the page. -/
inductive PageEvent where
  | mounted
  /-- An edit of a field that nothing listens to. -/
  | editPostForm (form : PostForm)
  | editUserForm (form : UserForm)
  | inputQuery (q : String)
  /-- The sort is chosen from a select that is never disabled. -/
  | selectSort (sort : TweetSort)
  | setSearchKind (kind : SearchKind)
  | reload
  | loadMore
  /-- A waiting request is answered, by the server as it is then. -/
  | answered (index : Nat) (server : SearchServer)
  /-- The request fails before it reaches the search. -/
  | failed (index : Nat) (message : String)

open TimelinePage in
/-- `none` where the event cannot happen: its button is disabled or not there. -/
def pageNext (context : SearchContext) (page : TimelinePage) : PageEvent → Option TimelinePage
  | .mounted => some (page.load context.limit true)
  | .editPostForm form =>
    some { page with postForm := { form with q := page.postForm.q, sort := page.postForm.sort } }
  | .editUserForm form => some { page with userForm := form }
  | .inputQuery q => some (page.handleQueryInput q)
  | .selectSort sort =>
    some ({ page with postForm := { page.postForm with sort } }.load context.limit true)
  | .setSearchKind kind => some (page.setSearchKind kind)
  | .reload => if page.loading then none else some (page.load context.limit true)
  | .loadMore =>
    if page.loading || (page.nextCursor.bind orUndefined).isNone then none
    else some (page.load context.limit false)
  | .answered index server =>
    page.waiting[index]?.map fun request =>
      { page with waiting := page.waiting.eraseIdx index }.receive request
        (server.answer context request.query)
  | .failed index message =>
    page.waiting[index]?.map fun request =>
      { page with waiting := page.waiting.eraseIdx index }.receive request (.error message)

/-- An answer comes back to the kind of search it was asked for, and further results to the place
in the list that they were asked from. -/
def Undisturbed (page : TimelinePage) : PageEvent → Prop
  | .answered index _ => ∀ request, page.waiting[index]? = some request →
      request.query.kind = page.searchKind ∧
        (request.reset = false → page.nextCursor = request.query.list.cursor)
  | _ => True

/-! ## Pages of one search -/

/-- A page of a search for posts, by some state of the index and the table. -/
def PostPage (codec : CursorCodec TweetSearchCursor) (spec : TweetQuerySpec) (position : Nat)
    (page : Page SearchedTweet String) : Prop :=
  ∃ search tweets found, foundHits search spec position = .ok found ∧
    searchPage codec tweets spec position found = .ok page

def UserPage (tables : UnicodeTables) (codec : CursorCodec TwitterUserSearchCursor)
    (spec : TwitterUserQuerySpec) (position : Nat) (page : Page SearchedUser String) : Prop :=
  ∃ searcher users found,
    foundUsers tables searcher spec.filters (saturatingAdd spec.limit 1) position = .ok found ∧
    spec.searchPage codec users position found = .ok page

section Posts

variable {codec : CursorCodec TweetSearchCursor} {search : Option SearchState}
  {tweets : Table StoredTweet} {query : TweetSearchListQuery} {spec : TweetQuerySpec}
  {page : Page SearchedTweet String} {position : Nat}

/-- What stands behind an answer: the query as it runs, whose cursor was accepted. -/
theorem searchTweets_ok (answered : searchTweets codec search tweets query = .ok page) :
    ∃ (asked : TweetQuerySpec) (cursor : Option TweetSearchCursor) (resolved : List Int),
      asked.cursor = query.list.cursor ∧ asked.limit = resolveLimit query.list.limit ∧
      query.list.cursor.mapM codec.decodeCursor = .ok cursor ∧
      cursor.forM asked.acceptCursor = .ok () ∧
      (∀ given ∈ cursor, given.authorIds = (asked.run none resolved).authorIds) ∧
      PostPage codec (asked.run none resolved)
        ((cursor.map TweetSearchCursor.offset).getD 0) page := by
  obtain ⟨asked, parsed, answered⟩ := bind_eq_ok answered
  have fromQuery := page_of_parsed parsed
  obtain ⟨cursor, decoded, answered⟩ := bind_eq_ok answered
  obtain ⟨_, accepted, answered⟩ := bind_eq_ok answered
  cases search with
  | none => cases answered
  | some search =>
    obtain ⟨resolved, _, answered⟩ := bind_eq_ok answered
    dsimp only at answered
    split at answered
    next sameAuthors =>
      obtain ⟨found, isFound, paged⟩ := bind_eq_ok answered
      refine ⟨asked, cursor, resolved, fromQuery.1, fromQuery.2, fromQuery.1 ▸ decoded, accepted,
        ?_, search, tweets, found, isFound, paged⟩
      intro given isCursor
      rw [isCursor] at sameAuthors
      simpa [TweetQuerySpec.run] using sameAuthors
    next => cases answered

theorem postPage_first (answered : searchTweets codec search tweets query = .ok page)
    (noCursor : query.list.cursor = none) :
    ∃ spec, spec.limit = resolveLimit query.list.limit ∧ PostPage codec spec 0 page := by
  obtain ⟨asked, cursor, resolved, _, limit, decoded, _, _, paged⟩ := searchTweets_ok answered
  rw [noCursor] at decoded
  cases decoded
  exact ⟨asked.run none resolved, limit, paged⟩

/-- The checks of `acceptCursor`, of a cursor that the same or another query has made. -/
theorem sameFilters_of_acceptCursor {asked : TweetQuerySpec}
    (accepted : asked.acceptCursor (spec.cursorAt position) = .ok ()) :
    asked.q = spec.q ∧ asked.tweetIds = spec.tweetIds ∧
      asked.authorUserNames = spec.authorUserNames ∧ asked.relation = spec.relation ∧
      asked.sort = spec.sort := by
  -- The version is that of the cursors made here, so the query is checked next.
  obtain ⟨_, sameQuery, accepted⟩ := bind_eq_ok accepted
  have isQuery : spec.q = asked.q := by
    unfold ensureFilterMatch at sameQuery
    split at sameQuery
    next same => exact same
    next => cases sameQuery
  split at accepted
  next => cases accepted
  next same =>
    simp only [TweetQuerySpec.cursorAt, ne_eq, not_or, Decidable.not_not] at same
    exact ⟨isQuery.symm, same.1.symm, same.2.1.symm, same.2.2.1.symm, same.2.2.2.symm⟩

/-- An answer to a cursor belongs to the search that the cursor was made for. -/
theorem postPage_more {text : String}
    (answered : searchTweets codec search tweets query = .ok page)
    (isCursor : query.list.cursor = some text)
    (isDecoded : codec.decodeCursor text = .ok (spec.cursorAt position))
    (limit : spec.limit = resolveLimit query.list.limit) : PostPage codec spec position page := by
  obtain ⟨asked, cursor, resolved, _, askedLimit, decoded, accepted, authors, paged⟩ :=
    searchTweets_ok answered
  have isGiven : cursor = some (spec.cursorAt position) := by
    simp only [isCursor, Option.mapM_some, isDecoded] at decoded
    cases decoded
    rfl
  subst isGiven
  obtain ⟨sameQuery, sameIds, sameNames, sameRelation, sameSort⟩ :=
    sameFilters_of_acceptCursor accepted
  have sameAuthors := authors _ rfl
  -- Only the cursor of the request is left, and the search does not read it.
  obtain ⟨search, tweets, found, isFound, paged⟩ := paged
  have same : asked.run none resolved = { spec with cursor := none } := by
    cases spec
    simp only [TweetQuerySpec.cursorAt, TweetQuerySpec.run] at sameAuthors
    simp_all [TweetQuerySpec.run]
  rw [same] at isFound paged
  exact ⟨search, tweets, found, isFound, paged⟩

theorem encoded_of_postPage {next : String} (paged : PostPage codec spec position page)
    (isNext : page.nextCursor = some next) :
    codec.encodeCursor (spec.cursorAt (saturatingAdd position spec.limit)) = .ok next := by
  obtain ⟨search, tweets, found, _, paged⟩ := paged
  unfold searchPage at paged
  split at paged
  next =>
    obtain ⟨text, encoded, rfl⟩ := map_eq_ok paged
    cases isNext
    exact encoded
  next =>
    cases paged
    cases isNext

end Posts

section Users

variable {tables : UnicodeTables} {codec : CursorCodec TwitterUserSearchCursor}
  {search : Option UserSearcher} {users : Table TwitterUser} {query : TwitterUserSearchQuery}
  {spec : TwitterUserQuerySpec} {page : Page SearchedUser String} {position : Nat}

theorem searchTwitterUsers_ok
    (answered : searchTwitterUsers tables codec search users query = .ok page) :
    ∃ (asked : TwitterUserQuerySpec) (cursor : Option TwitterUserSearchCursor),
      asked.limit = resolveLimit query.list.limit ∧
      query.list.cursor.mapM codec.decodeCursor = .ok cursor ∧
      cursor.forM asked.acceptCursor = .ok () ∧
      UserPage tables codec asked ((cursor.map TwitterUserSearchCursor.offset).getD 0) page := by
  obtain ⟨asked, parsed, answered⟩ := bind_eq_ok answered
  obtain ⟨cursor, decoded, answered⟩ := bind_eq_ok answered
  obtain ⟨_, accepted, answered⟩ := bind_eq_ok answered
  cases search with
  | none => cases answered
  | some searcher =>
    obtain ⟨found, isFound, paged⟩ := bind_eq_ok answered
    exact ⟨asked, cursor, limit_of_parsed parsed, decoded, accepted, searcher, users, found,
      isFound, paged⟩

theorem userPage_first (answered : searchTwitterUsers tables codec search users query = .ok page)
    (noCursor : query.list.cursor = none) :
    ∃ spec, spec.limit = resolveLimit query.list.limit ∧ UserPage tables codec spec 0 page := by
  obtain ⟨asked, cursor, limit, decoded, _, paged⟩ := searchTwitterUsers_ok answered
  rw [noCursor] at decoded
  cases decoded
  exact ⟨asked, limit, paged⟩

theorem userPage_more {text : String}
    (answered : searchTwitterUsers tables codec search users query = .ok page)
    (isCursor : query.list.cursor = some text)
    (isDecoded : codec.decodeCursor text = .ok (spec.cursorAt position))
    (limit : spec.limit = resolveLimit query.list.limit) :
    UserPage tables codec spec position page := by
  obtain ⟨asked, cursor, askedLimit, decoded, accepted, paged⟩ := searchTwitterUsers_ok answered
  have isGiven : cursor = some (spec.cursorAt position) := by
    simp only [isCursor, Option.mapM_some, isDecoded] at decoded
    cases decoded
    rfl
  subst isGiven
  -- All filters of the request are those of the cursor.
  have same : asked = spec := by
    have checked : asked.acceptCursor (spec.cursorAt position) = .ok () := accepted
    unfold TwitterUserQuerySpec.acceptCursor at checked
    obtain ⟨_, _, checked⟩ := bind_eq_ok checked
    split at checked
    next => cases checked
    next same =>
      simp only [TwitterUserQuerySpec.cursorAt, ne_eq, not_or, Decidable.not_not] at same
      cases asked
      cases spec
      simp_all
  rw [same] at paged
  exact paged

theorem encoded_of_userPage {next : String} (paged : UserPage tables codec spec position page)
    (isNext : page.nextCursor = some next) :
    codec.encodeCursor (spec.cursorAt (saturatingAdd position spec.limit)) = .ok next := by
  obtain ⟨searcher, users, found, _, paged⟩ := paged
  unfold TwitterUserQuerySpec.searchPage at paged
  split at paged
  next =>
    obtain ⟨text, encoded, rfl⟩ := map_eq_ok paged
    cases isNext
    exact encoded
  next =>
    cases paged
    cases isNext

end Users

/-! ## The list on the page -/

/-- The items are pages of one of the searches `asked`, each taken where the page before it ended,
and the next cursor is the one of the last page. -/
def ShowsPages {σ α : Type} (asked : σ → Prop) (pageAt : σ → Nat → Page α String → Prop)
    (advance : σ → Nat → Nat) (item : α → ResultItem) (page : TimelinePage) : Prop :=
  ∃ spec position items, asked spec ∧ page.resultItems = items.map item ∧
    Loaded (pageAt spec) (advance spec) position items page.nextCursor

def ShowsPosts (context : SearchContext) : TimelinePage → Prop :=
  ShowsPages (fun spec => spec.limit = resolveLimit (some context.limit))
    (PostPage context.tweetCursors)
    (fun spec position => saturatingAdd position spec.limit) .post

def ShowsUsers (context : SearchContext) : TimelinePage → Prop :=
  ShowsPages (fun spec => spec.limit = resolveLimit (some context.limit))
    (UserPage context.tables context.userCursors)
    (fun spec position => saturatingAdd position spec.limit) .user

/-- The list is empty, or pages of one search of the chosen kind. -/
inductive ShowsOneSearch (context : SearchContext) (page : TimelinePage) : Prop where
  | nothing (noItems : page.resultItems = []) (noCursor : page.nextCursor = none)
  | posts (kind : page.searchKind = .posts) (shows : ShowsPosts context page)
  | users (kind : page.searchKind = .users) (shows : ShowsUsers context page)

/-- What is known of a request that waits. -/
structure LoadRequest.Asks (context : SearchContext) (request : LoadRequest) : Prop where
  limit : request.query.list.limit = some context.limit
  first : request.reset = true → request.query.list.cursor = none
  more : request.reset = false → ∃ text, request.query.list.cursor = some text

structure PageInvariant (context : SearchContext) (page : TimelinePage) : Prop where
  shows : ShowsOneSearch context page
  waiting : ∀ request ∈ page.waiting, request.Asks context

/-- Cursors are JSON in base64: what is encoded is decoded again. -/
structure SearchContext.CodecsInvert (context : SearchContext) : Prop where
  tweets : ∀ cursor text, context.tweetCursors.encodeCursor cursor = .ok text →
    context.tweetCursors.decodeCursor text = .ok cursor
  users : ∀ cursor text, context.userCursors.encodeCursor cursor = .ok text →
    context.userCursors.decodeCursor text = .ok cursor

section Runs

variable {context : SearchContext} {page page' : TimelinePage} {event : PageEvent}

/-- The list depends on these fields alone. -/
theorem ShowsOneSearch.congr (shows : ShowsOneSearch context page)
    (items : page'.resultItems = page.resultItems) (cursor : page'.nextCursor = page.nextCursor)
    (kind : page'.searchKind = page.searchKind) : ShowsOneSearch context page' := by
  cases shows with
  | nothing noItems noCursor => exact .nothing (items.trans noItems) (cursor.trans noCursor)
  | posts isKind shows =>
    obtain ⟨spec, position, loadedItems, limit, isItems, loaded⟩ := shows
    exact .posts (kind.trans isKind)
      ⟨spec, position, loadedItems, limit, items.trans isItems, cursor ▸ loaded⟩
  | users isKind shows =>
    obtain ⟨spec, position, loadedItems, limit, isItems, loaded⟩ := shows
    exact .users (kind.trans isKind)
      ⟨spec, position, loadedItems, limit, items.trans isItems, cursor ▸ loaded⟩

/-- A first page starts a new list; a further page goes on with the search of the list. -/
theorem showsPages_received {σ α : Type} {asked : σ → Prop}
    {pageAt : σ → Nat → Page α String → Prop} {advance : σ → Nat → Nat} {item : α → ResultItem}
    {reset : Bool} {answer : Page α String}
    (first : reset = true → ∃ spec, asked spec ∧ pageAt spec 0 answer)
    (more : reset = false → ShowsPages asked pageAt advance item page ∧
      ∃ text, page.nextCursor = some text ∧ ∀ spec position items, asked spec →
        Loaded (pageAt spec) (advance spec) position items (some text) →
          pageAt spec position answer)
    (items : page'.resultItems =
      if reset then answer.data.map item else page.resultItems ++ answer.data.map item)
    (cursor : page'.nextCursor = answer.nextCursor) :
    ShowsPages asked pageAt advance item page' := by
  cases reset with
  | true =>
    obtain ⟨spec, isAsked, paged⟩ := first rfl
    refine ⟨spec, advance spec 0, answer.data, isAsked, items, ?_⟩
    rw [cursor]
    exact .first paged
  | false =>
    obtain ⟨⟨spec, position, loadedItems, isAsked, isItems, loaded⟩, text, isCursor, continues⟩ :=
      more rfl
    rw [isCursor] at loaded
    have paged := continues spec position loadedItems isAsked loaded
    rw [if_neg Bool.false_ne_true, isItems, ← List.map_append] at items
    refine ⟨spec, advance spec position, loadedItems ++ answer.data, isAsked, items, ?_⟩
    rw [cursor]
    exact .more loaded paged

theorem asks_of_load {reset : Bool} {cursor : Option String}
    (first : reset = true → cursor = none)
    (more : reset = false → (cursor.bind orUndefined).isSome = true) :
    LoadRequest.Asks context ⟨reset, page.query context.limit cursor⟩ := by
  have list : (page.query context.limit cursor).list.limit = some context.limit ∧
      (page.query context.limit cursor).list.cursor = cursor.bind orUndefined := by
    unfold TimelinePage.query
    cases page.searchKind <;> exact ⟨rfl, rfl⟩
  constructor
  · exact list.1
  · intro isFirst
    rw [list.2, first isFirst]
    rfl
  · intro isMore
    rw [list.2]
    exact Option.isSome_iff_exists.mp (more isMore)

/-- An edit of the forms touches neither the list nor the requests. -/
theorem PageInvariant.congr (invariant : PageInvariant context page)
    (items : page'.resultItems = page.resultItems) (cursor : page'.nextCursor = page.nextCursor)
    (kind : page'.searchKind = page.searchKind) (waiting : page'.waiting = page.waiting) :
    PageInvariant context page' where
  shows := invariant.shows.congr items cursor kind
  waiting := waiting ▸ invariant.waiting

theorem PageInvariant.handleQueryInput (q : String) (invariant : PageInvariant context page) :
    PageInvariant context (page.handleQueryInput q) := by
  unfold TimelinePage.handleQueryInput
  exact invariant.congr rfl rfl rfl rfl

theorem PageInvariant.load (invariant : PageInvariant context page) {reset : Bool}
    (more : reset = false → (page.nextCursor.bind orUndefined).isSome = true) :
    PageInvariant context (page.load context.limit reset) where
  shows := invariant.shows.congr rfl rfl rfl
  waiting := by
    intro request member
    rcases List.mem_append.mp member with earlier | isNew
    · exact invariant.waiting request earlier
    · rw [List.mem_singleton.mp isNew]
      apply asks_of_load
      · intro isFirst
        simp [isFirst]
      · intro isMore
        simpa [isMore] using more isMore

/-- The list after an answer to a search for posts. -/
theorem showsPosts_answered {request : LoadRequest} {query : TweetSearchListQuery}
    {search : Option SearchState} {tweets : Table StoredTweet} {answer : Page SearchedTweet String}
    (inverts : context.CodecsInvert) (asks : request.Asks context)
    (isQuery : request.query = .posts query)
    (inPlace : request.reset = false →
      ShowsPosts context page ∧ page.nextCursor = request.query.list.cursor)
    (answered : searchTweets context.tweetCursors search tweets query = .ok answer)
    (items : page'.resultItems =
      if request.reset then answer.data.map .post else page.resultItems ++ answer.data.map .post)
    (cursor : page'.nextCursor = answer.nextCursor) : ShowsPosts context page' := by
  obtain ⟨limit, first, more⟩ := asks
  have list : request.query.list = query.list := by
    rw [isQuery]
    rfl
  rw [list] at limit first more inPlace
  refine showsPages_received (fun isFirst => ?_) (fun isMore => ?_) items cursor
  · have started := postPage_first answered (first isFirst)
    rwa [limit] at started
  · obtain ⟨shows, atCursor⟩ := inPlace isMore
    obtain ⟨text, isCursor⟩ := more isMore
    refine ⟨shows, text, atCursor.trans isCursor, ?_⟩
    intro spec position loadedItems specLimit loaded
    -- The text is the cursor that the last page gave, so the server knows the search by it.
    have encoded := loaded.carried (fun position text =>
        context.tweetCursors.encodeCursor (spec.cursorAt position) = .ok text)
      (fun _ _ _ paged isNext => encoded_of_postPage paged isNext) rfl
    exact postPage_more answered isCursor (inverts.tweets _ _ encoded)
      (by rw [limit]; exact specLimit)

theorem showsUsers_answered {request : LoadRequest} {query : TwitterUserSearchQuery}
    {search : Option UserSearcher} {users : Table TwitterUser} {answer : Page SearchedUser String}
    (inverts : context.CodecsInvert) (asks : request.Asks context)
    (isQuery : request.query = .users query)
    (inPlace : request.reset = false →
      ShowsUsers context page ∧ page.nextCursor = request.query.list.cursor)
    (answered : searchTwitterUsers context.tables context.userCursors search users query =
      .ok answer)
    (items : page'.resultItems =
      if request.reset then answer.data.map .user else page.resultItems ++ answer.data.map .user)
    (cursor : page'.nextCursor = answer.nextCursor) : ShowsUsers context page' := by
  obtain ⟨limit, first, more⟩ := asks
  have list : request.query.list = query.list := by
    rw [isQuery]
    rfl
  rw [list] at limit first more inPlace
  refine showsPages_received (fun isFirst => ?_) (fun isMore => ?_) items cursor
  · have started := userPage_first answered (first isFirst)
    rwa [limit] at started
  · obtain ⟨shows, atCursor⟩ := inPlace isMore
    obtain ⟨text, isCursor⟩ := more isMore
    refine ⟨shows, text, atCursor.trans isCursor, ?_⟩
    intro spec position loadedItems specLimit loaded
    have encoded := loaded.carried (fun position text =>
        context.userCursors.encodeCursor (spec.cursorAt position) = .ok text)
      (fun _ _ _ paged isNext => encoded_of_userPage paged isNext) rfl
    exact userPage_more answered isCursor (inverts.users _ _ encoded)
      (by rw [limit]; exact specLimit)

/-- Another answer than a page leaves the list as it is; a page is put where it was asked for. -/
theorem ShowsOneSearch.answered {request : LoadRequest} {server : SearchServer}
    (inverts : context.CodecsInvert) (asks : request.Asks context)
    (kind : request.query.kind = page.searchKind)
    (inPlace : request.reset = false → page.nextCursor = request.query.list.cursor)
    (shows : ShowsOneSearch context page) :
    ShowsOneSearch context (page.receive request (server.answer context request.query)) := by
  -- A list that is at a cursor is not empty for want of a search, and it is of the chosen kind.
  have atCursor (isMore : request.reset = false) :
      page.nextCursor ≠ none := by
    obtain ⟨text, isCursor⟩ := asks.more isMore
    rw [inPlace isMore, isCursor]
    exact Option.some_ne_none text
  cases isQuery : request.query with
  | posts query =>
    rw [isQuery] at kind
    have posts : page.searchKind = .posts := kind.symm
    cases answered : searchTweets context.tweetCursors server.search server.tweets query with
    | error error =>
      rw [SearchServer.answer, answered]
      exact shows.congr rfl rfl rfl
    | ok answer =>
      rw [SearchServer.answer, answered]
      have inSearch (isMore : request.reset = false) :
          ShowsPosts context page ∧ page.nextCursor = request.query.list.cursor := by
        refine ⟨?_, inPlace isMore⟩
        cases shows with
        | nothing _ noCursor => exact absurd noCursor (atCursor isMore)
        | posts _ shows => exact shows
        | users isUsers _ => rw [posts] at isUsers; cases isUsers
      exact .posts posts (showsPosts_answered inverts asks isQuery inSearch answered rfl rfl)
  | users query =>
    rw [isQuery] at kind
    have users : page.searchKind = .users := kind.symm
    cases answered : searchTwitterUsers context.tables context.userCursors server.userSearch
        server.users query with
    | error error =>
      rw [SearchServer.answer, answered]
      exact shows.congr rfl rfl rfl
    | ok answer =>
      rw [SearchServer.answer, answered]
      have inSearch (isMore : request.reset = false) :
          ShowsUsers context page ∧ page.nextCursor = request.query.list.cursor := by
        refine ⟨?_, inPlace isMore⟩
        cases shows with
        | nothing _ noCursor => exact absurd noCursor (atCursor isMore)
        | posts isPosts _ => rw [users] at isPosts; cases isPosts
        | users _ shows => exact shows
      exact .users users (showsUsers_answered inverts asks isQuery inSearch answered rfl rfl)

theorem ShowsOneSearch.setSearchKind (kind : SearchKind) (shows : ShowsOneSearch context page) :
    ShowsOneSearch context (page.setSearchKind kind) := by
  unfold TimelinePage.setSearchKind
  split
  next => exact shows
  next => exact .nothing rfl rfl

/-- A request that got its answer waits no more; the others wait as before. -/
theorem PageInvariant.received (invariant : PageInvariant context page) {index : Nat}
    {request : LoadRequest} {answer : Except String (Page ResultItem String)}
    (shows : ShowsOneSearch context (page.receive request answer)) :
    PageInvariant context
      ({ page with waiting := page.waiting.eraseIdx index }.receive request answer) := by
  constructor
  · refine shows.congr ?_ ?_ ?_ <;> cases answer <;> rfl
  · have waiting : (TimelinePage.receive request answer
        { page with waiting := page.waiting.eraseIdx index }).waiting =
          page.waiting.eraseIdx index := by
      cases answer <;> rfl
    intro other member
    rw [waiting] at member
    exact invariant.waiting other (List.mem_of_mem_eraseIdx member)

theorem PageInvariant.step (inverts : context.CodecsInvert)
    (invariant : PageInvariant context page)
    (taken : Restrict (Takes (pageNext context)) Undisturbed page event page') :
    PageInvariant context page' := by
  obtain ⟨undisturbed, taken⟩ := taken
  unfold Takes at taken
  cases event with
  | mounted =>
    cases taken
    exact invariant.load nofun
  | editPostForm form =>
    cases taken
    exact invariant.congr rfl rfl rfl rfl
  | editUserForm form =>
    cases taken
    exact invariant.congr rfl rfl rfl rfl
  | inputQuery q =>
    cases taken
    exact invariant.handleQueryInput q
  | selectSort sort =>
    cases taken
    have sorted : PageInvariant context { page with postForm := { page.postForm with sort } } :=
      invariant.congr rfl rfl rfl rfl
    exact sorted.load nofun
  | setSearchKind kind =>
    cases taken
    refine ⟨invariant.shows.setSearchKind kind, ?_⟩
    have waiting : (page.setSearchKind kind).waiting = page.waiting := by
      unfold TimelinePage.setSearchKind
      split <;> rfl
    rw [waiting]
    exact invariant.waiting
  | reload =>
    rw [pageNext] at taken
    split at taken
    next => cases taken
    next =>
      cases taken
      exact invariant.load nofun
  | loadMore =>
    rw [pageNext] at taken
    split at taken
    next => cases taken
    next canLoad =>
      cases taken
      apply invariant.load
      intro _
      rw [Bool.or_eq_true, not_or, Option.isNone_iff_eq_none] at canLoad
      exact Option.isSome_iff_ne_none.mpr canLoad.2
  | answered index server =>
    obtain ⟨request, isRequest, rfl⟩ := Option.map_eq_some_iff.mp taken
    have asks := invariant.waiting request (List.mem_of_getElem? isRequest)
    obtain ⟨kind, inPlace⟩ := undisturbed request isRequest
    exact invariant.received (invariant.shows.answered inverts asks kind inPlace)
  | failed index message =>
    obtain ⟨request, isRequest, rfl⟩ := Option.map_eq_some_iff.mp taken
    exact invariant.received (invariant.shows.congr rfl rfl rfl)

end Runs

/-! Two posts on pages of one. -/

instance (page : TimelinePage) : DecidablePred (Undisturbed page)
  | .answered index _ => inferInstanceAs (Decidable (∀ request ∈ page.waiting[index]?,
      request.query.kind = page.searchKind ∧
        (request.reset = false → page.nextCursor = request.query.list.cursor)))
  | .mounted | .editPostForm _ | .editUserForm _ | .inputQuery _ | .selectSort _
  | .setSearchKind _ | .reload | .loadMore | .failed _ _ => isTrue trivial

end TweetDb.Browse
