import TweetDb.Paging.Ranking
import TweetDb.Relational.Select
import TweetDb.Search.Documents

/-! # Searching the tweet index

`build_tweet_query` and `collect_tweet_hits` over a searcher, which stands for
Tantivy: what its query parser matches, and the documents it returns for a
query, an order, a limit and an offset.
-/

namespace TweetDb.Search

inductive TweetSearchSort where
  | relevance
  | publishedAt
  | createdAt
  | updatedAt
deriving DecidableEq, Repr

structure TweetSearchFilters where
  tweetIds : List Int
  authorIds : List Int
  authorId : Option Int
  relation : Option String
deriving DecidableEq, Repr

/-- A part of a query; a document has to match every one. -/
inductive QueryPart where
  | fullText (rawQuery : String)
  | anyOf (field : String) (values : List Int)
  | term (field value : String)
deriving DecidableEq, Repr

inductive TopOrder where
  | score
  | fastField (name : String)
deriving DecidableEq, Repr

structure Searcher where
  fullText : String → IndexDocument → Bool
  topDocs : List QueryPart → TopOrder → Nat → Nat → List IndexDocument

def QueryPart.matches (fullText : String → IndexDocument → Bool) (document : IndexDocument) :
    QueryPart → Bool
  | .fullText rawQuery => fullText rawQuery document
  | .anyOf field values => values.any fun value => decide ((field, FieldValue.i64 value) ∈ document)
  | .term field value => decide ((field, FieldValue.text value) ∈ document)

def queryMatches (fullText : String → IndexDocument → Bool) (query : List QueryPart)
    (document : IndexDocument) : Bool :=
  query.all (QueryPart.matches fullText document)

/-- `get_first`. -/
def storedI64Opt (document : IndexDocument) (field : String) : Option Int :=
  (document.lookup field).bind fun value =>
    match value with
    | .i64 value => some value
    | .text _ => none

/-- Of the given documents those that match the query are returned, by a fast field in descending
order; a limit and an offset take from one and the same list. -/
def Searcher.Exact (searcher : Searcher) (documents : List IndexDocument) : Prop :=
  ∀ query name, ∃ ranked : List IndexDocument,
    ranked.Perm (documents.filter (queryMatches searcher.fullText query)) ∧
    ranked.Pairwise (fun document later => ∀ time laterTime,
      storedI64Opt document name = some time → storedI64Opt later name = some laterTime →
        laterTime ≤ time) ∧
    ∀ limit offset, searcher.topDocs query (.fastField name) limit offset =
      (ranked.drop offset).take limit

/-- The same of every order, that of the scores included, whatever it is. -/
def Searcher.Ranks (searcher : Searcher) (documents : List IndexDocument) : Prop :=
  ∀ query order, Paging.Ranks (searcher.topDocs query order)
    (documents.filter (queryMatches searcher.fullText query))

/-- A searcher of a list of documents: by score in the order of the list. -/
def sortingSearcher (fullText : String → IndexDocument → Bool)
    (documents : List IndexDocument) : Searcher where
  fullText
  topDocs query order :=
    let matching := documents.filter (queryMatches fullText query)
    match order with
    | .score => Paging.window matching
    | .fastField name => Paging.window
        (Relational.orderBy (fun document => [-(storedI64Opt document name).getD 0]) matching)

theorem sortingSearcher_ranks (fullText : String → IndexDocument → Bool)
    (documents : List IndexDocument) : (sortingSearcher fullText documents).Ranks documents := by
  intro query order
  cases order with
  | score => exact Paging.ranks_window (.refl _)
  | fastField name => exact Paging.ranks_window (Relational.orderBy_perm _ _)

theorem sortingSearcher_exact (fullText : String → IndexDocument → Bool)
    (documents : List IndexDocument) : (sortingSearcher fullText documents).Exact documents := by
  intro query name
  refine ⟨_, Relational.orderBy_perm _ _, (Relational.orderBy_sorted _ _).imp ?_,
    fun limit offset => rfl⟩
  intro document later ordered time laterTime isTime isLater
  rw [isTime, isLater, Relational.columnsLe_cons] at ordered
  simp only [Option.getD_some, Relational.columnsLe_refl, and_true] at ordered
  omega

def pushI64Filter (field : String) (values : List Int) : List QueryPart :=
  if values.isEmpty then [] else [.anyOf field values]

def buildTweetQuery (rawQuery : Option String) (filters : TweetSearchFilters) : List QueryPart :=
  (match rawQuery.filter fun value => !(trim value).isEmpty with
    | some rawQuery => [.fullText rawQuery]
    | none => []) ++
  pushI64Filter "id" filters.tweetIds ++
  pushI64Filter "author_id" (filters.authorId.toList ++ filters.authorIds) ++
  (match filters.relation.filter fun relation => relation != "all" with
    | some relation => [.term "relation" relation]
    | none => [])

def tweetSortField : TweetSearchSort → String
  | .relevance | .publishedAt => "published_at"
  | .createdAt => "created_at"
  | .updatedAt => "updated_at"

/-- The collector of a sort. -/
def topOrder : TweetSearchSort → TopOrder
  | .relevance => .score
  | .publishedAt => .fastField (tweetSortField .publishedAt)
  | .createdAt => .fastField (tweetSortField .createdAt)
  | .updatedAt => .fastField (tweetSortField .updatedAt)

/-- A hit without its score. -/
structure SearchHit where
  id : Int
  sortTime : Option Int
deriving DecidableEq, Repr

/-- `none` where an indexed document has no id. -/
def collectTweetHits (searcher : Searcher) (query : List QueryPart) (sort : TweetSearchSort)
    (limit offset : Nat) : Option (List SearchHit) :=
  (searcher.topDocs query (topOrder sort) limit offset).mapM fun document =>
    (storedI64Opt document "id").map fun id => ⟨id, storedI64Opt document (tweetSortField sort)⟩

def searchTweets (searcher : Searcher) (rawQuery : Option String) (filters : TweetSearchFilters)
    (sort : TweetSearchSort) (limit offset : Nat) : Option (List SearchHit) :=
  collectTweetHits searcher (buildTweetQuery rawQuery filters) sort limit offset

/-! ## The documents of tweets -/

section Documents

variable {record : TweetIndexDocument}

@[simp] theorem id_tweetDocument : storedI64Opt (tweetDocument record) "id" = some record.id := rfl

/-- The column a sort goes by, in whole seconds. -/
def sortSeconds (sort : TweetSearchSort) (record : TweetIndexDocument) : Int :=
  match sort with
  | .relevance | .publishedAt => unixTimestamp record.publishedAt
  | .createdAt => unixTimestamp record.createdAt
  | .updatedAt => unixTimestamp record.updatedAt

@[simp] theorem time_tweetDocument (sort : TweetSearchSort) :
    storedI64Opt (tweetDocument record) (tweetSortField sort) = some (sortSeconds sort record) := by
  cases sort <;> rfl

@[simp] theorem author_mem_tweetDocument {author : Int} :
    ("author_id", FieldValue.i64 author) ∈ tweetDocument record ↔ author = record.authorId := by
  simp [tweetDocument]

@[simp] theorem relation_mem_tweetDocument {relation : String} :
    ("relation", FieldValue.text relation) ∈ tweetDocument record ↔
      relation = record.relation := by
  simp [tweetDocument]

/-- If every converted value can be read, so can a list of them. -/
theorem mapM_map_some {α β γ : Type} {convert : α → β} {read : β → Option γ} {result : α → γ}
    (each : ∀ value, read (convert value) = some (result value)) (values : List α) :
    (values.map convert).mapM read = some (values.map result) := by
  induction values with
  | nil => rfl
  | cons value values inductionHypothesis =>
    simp [each, inductionHypothesis]

/-- A hit of a record. -/
def TweetIndexDocument.hit (sort : TweetSearchSort) (record : TweetIndexDocument) : SearchHit :=
  ⟨record.id, some (sortSeconds sort record)⟩

/-- The hits of a search are those of the indexed records that match, in some order. -/
theorem exists_ranked_tweets {searcher : Searcher} {records : List TweetIndexDocument}
    (ranks : searcher.Ranks (records.map tweetDocument)) (rawQuery : Option String)
    (filters : TweetSearchFilters) (sort : TweetSearchSort) :
    ∃ ranked : List TweetIndexDocument,
      ranked.Perm (records.filter fun record => queryMatches searcher.fullText
        (buildTweetQuery rawQuery filters) (tweetDocument record)) ∧
      ∀ limit offset, searchTweets searcher rawQuery filters sort limit offset =
        some ((Paging.window ranked limit offset).map (TweetIndexDocument.hit sort)) := by
  obtain ⟨documents, perm, read⟩ := ranks (buildTweetQuery rawQuery filters) (topOrder sort)
  rw [List.filter_map] at perm
  obtain ⟨ranked, rankedPerm, rfl⟩ := Relational.exists_perm_of_perm_map perm
  refine ⟨ranked, rankedPerm, fun limit offset => ?_⟩
  simp only [searchTweets, collectTweetHits, read, Paging.window_map]
  exact mapM_map_some (fun record => by simp [TweetIndexDocument.hit]) _

/-- The author filter is one part of the query. -/
theorem queryMatches_author {fullText : String → IndexDocument → Bool} {rawQuery : Option String}
    {tweetIds authorIds : List Int} {relation : Option String} :
    queryMatches fullText (buildTweetQuery rawQuery ⟨tweetIds, authorIds, none, relation⟩)
        (tweetDocument record) = true ↔
      queryMatches fullText (buildTweetQuery rawQuery ⟨tweetIds, [], none, relation⟩)
          (tweetDocument record) = true ∧
        (authorIds = [] ∨ record.authorId ∈ authorIds) := by
  have author : queryMatches fullText (pushI64Filter "author_id" authorIds)
      (tweetDocument record) = true ↔ authorIds = [] ∨ record.authorId ∈ authorIds := by
    by_cases none : authorIds = []
    · simp [pushI64Filter, queryMatches, none]
    · simp [pushI64Filter, queryMatches, QueryPart.matches, none]
  have noAuthor : pushI64Filter "author_id" [] = [] := rfl
  simp only [queryMatches] at author
  simp only [queryMatches, buildTweetQuery, List.all_append, Bool.and_eq_true, Option.toList_none,
    List.nil_append, author, noAuthor, List.all_nil, and_true]
  constructor
  · rintro ⟨⟨⟨text, ids⟩, author⟩, relation⟩
    exact ⟨⟨⟨text, ids⟩, relation⟩, author⟩
  · rintro ⟨⟨⟨text, ids⟩, relation⟩, author⟩
    exact ⟨⟨⟨text, ids⟩, author⟩, relation⟩

/-- What the query of a request without text and ids matches. -/
theorem queryMatches_tweetDocument {fullText : String → IndexDocument → Bool}
    {author : Option Int} {relation : String} :
    queryMatches fullText
        (buildTweetQuery none ⟨[], author.toList, none, some relation⟩) (tweetDocument record) =
      true ↔
      (∀ id, author = some id → id = record.authorId) ∧
        (relation = "all" ∨ relation = record.relation) := by
  cases author with
  | none =>
    by_cases all : relation = "all" <;>
      simp [buildTweetQuery, queryMatches, QueryPart.matches, pushI64Filter, all, Option.filter]
  | some id =>
    by_cases all : relation = "all" <;>
      simp [buildTweetQuery, queryMatches, QueryPart.matches, pushI64Filter, all, Option.filter]

end Documents

end TweetDb.Search
