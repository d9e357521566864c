import TweetDb.Search.TweetQuery

/-! # Searching the user index

`build_user_query` and `collect_user_hits` over a searcher, and the terms under
which the analyzer of the prefix fields indexes a text.  A filter without terms
leaves no trace in the query, and a query without terms matches every user.
-/

namespace TweetDb.Search

inductive UserSearchSort where
  | relevance
  | updatedAt
deriving DecidableEq, Repr

structure UserSearchFilters where
  q : Option String
  userIds : List Int
  userNames : List String
  userNamePrefix : Option String
  displayNamePrefix : Option String
deriving DecidableEq, Repr

/-- What the standard library and the analyzers take from the Unicode tables. -/
structure UnicodeTables where
  isAlphanumeric : Char → Bool
  toLowercase : String → String
  charToLowercase : Char → List Char

/-- The tables on ASCII texts. -/
def asciiTables : UnicodeTables where
  isAlphanumeric := Char.isAlphanum
  toLowercase value := String.ofList (value.toList.map Char.toLower)
  charToLowercase c := [c.toLower]

def maxPrefixChars : Nat := 64

variable (tables : UnicodeTables)

/-! ## Prefixes -/

/-- The part of a text within its `token_text_bounds`. -/
def tokenText (value : String) : Option String :=
  let inner := (value.toList.dropWhile fun c => !tables.isAlphanumeric c).rdropWhile
    fun c => !tables.isAlphanumeric c
  if inner.isEmpty then none else some (String.ofList inner)

def normalizedPrefixQuery (rawQuery : String) : Option String :=
  let raw := trim (trimStartMatches (· == '@') (trim rawQuery))
  if raw.isEmpty then none
  else
    ((tokenText tables (String.ofList (raw.toList.take maxPrefixChars))).map
      (normalizedKeyword tables.toLowercase)).filter fun value => !value.isEmpty

/-- The terms of a text in a prefix field: `NgramTokenizer`, `SearchTextFilter`,
`RemoveLongFilter` and `LowerCaser`. -/
def prefixTerms (text : String) : List String :=
  let grams := (List.range (min text.length maxPrefixChars)).map fun n =>
    String.ofList (text.toList.take (n + 1))
  let tokens := (grams.filterMap (tokenText tables)).filter fun token => token.utf8ByteSize < 80
  tokens.map fun token => String.ofList (token.toList.flatMap tables.charToLowercase)

/-! ## Queries -/

/-- A `TermQuery` in a `BoostQuery`. -/
structure UserTerm where
  field : String
  value : FieldValue
  boost : Nat
deriving DecidableEq, Repr

/-- `BooleanQuery` of `Should` clauses: a document has to match one of them. -/
inductive UserQuery where
  | all
  | should (terms : List UserTerm)
deriving DecidableEq, Repr

def prefixFields : List String := ["id_prefix", "user_name_prefix", "display_name_prefix"]

def hasPrefixTerm (document : IndexDocument) (field value : String) : Bool :=
  document.any fun entry => entry.1 == field &&
    match entry.2 with
    | .text text => decide (value ∈ prefixTerms tables text)
    | .i64 _ => false

def UserTerm.matches (document : IndexDocument) (term : UserTerm) : Bool :=
  match term.value with
  | .text value =>
    if term.field ∈ prefixFields then hasPrefixTerm tables document term.field value
    else decide ((term.field, FieldValue.text value) ∈ document)
  | .i64 value => decide ((term.field, FieldValue.i64 value) ∈ document)

def UserQuery.matches (document : IndexDocument) : UserQuery → Bool
  | .all => true
  | .should terms => terms.any fun term => term.matches tables document

/-- The clauses that the filters give, in the order they are added. -/
def userTerms (filters : UserSearchFilters) : List UserTerm :=
  (match filters.q.bind (normalizedPrefixQuery tables) with
    | some q => [⟨"id_prefix", .text q, 6⟩, ⟨"user_name_prefix", .text q, 4⟩,
        ⟨"display_name_prefix", .text q, 2⟩]
    | none => []) ++
  filters.userIds.map (fun value => ⟨"id", .i64 value, 6⟩) ++
  ((filters.userNames.map (normalizedKeyword tables.toLowercase)).filter
    fun value => !value.isEmpty).map (fun value => ⟨"user_name", .text value, 5⟩) ++
  (filters.userNamePrefix.bind (normalizedPrefixQuery tables)).toList.map
    (fun value => ⟨"user_name_prefix", .text value, 4⟩) ++
  (filters.displayNamePrefix.bind (normalizedPrefixQuery tables)).toList.map
    (fun value => ⟨"display_name_prefix", .text value, 2⟩)

def buildUserQuery (filters : UserSearchFilters) : UserQuery :=
  if (userTerms tables filters).isEmpty then .all else .should (userTerms tables filters)

structure UserSearcher where
  topDocs : UserQuery → UserSearchSort → Nat → Nat → List IndexDocument

/-- `none` where an indexed document has no id. -/
def collectUserHits (searcher : UserSearcher) (query : UserQuery) (sort : UserSearchSort)
    (limit offset : Nat) : Option (List SearchHit) :=
  (searcher.topDocs query sort limit offset).mapM fun document =>
    (storedI64Opt document "id").map fun id => ⟨id, storedI64Opt document "updated_at"⟩

def searchUsers (searcher : UserSearcher) (filters : UserSearchFilters) (sort : UserSearchSort)
    (limit offset : Nat) : Option (List SearchHit) :=
  collectUserHits searcher (buildUserQuery tables filters) sort limit offset

/-- Of the given documents those that match the query are returned, in some order; a limit and an
offset take from one and the same list. -/
def UserSearcher.Ranks (searcher : UserSearcher) (documents : List IndexDocument) : Prop :=
  ∀ query sort, Paging.Ranks (searcher.topDocs query sort)
    (documents.filter fun document => query.matches tables document)

/-- A searcher that ranks all queries as one list of documents. -/
def listUserSearcher (documents : List IndexDocument) : UserSearcher where
  topDocs query _ := Paging.window (documents.filter fun document => query.matches tables document)

theorem listUserSearcher_ranks {ordered documents : List IndexDocument}
    (perm : ordered.Perm documents) : (listUserSearcher tables ordered).Ranks tables documents :=
  fun _ _ => Paging.ranks_window (perm.filter _)

/-! ## The documents of users -/

section Documents

variable {tables} {record : UserIndexDocument} {toLowercase : String → String}

@[simp] theorem id_userDocument : storedI64Opt (userDocument toLowercase record) "id" =
    some record.id := rfl

@[simp] theorem updatedAt_userDocument :
    storedI64Opt (userDocument toLowercase record) "updated_at" =
      some (unixTimestamp record.updatedAt) := rfl

@[simp] theorem id_mem_userDocument {id : Int} :
    ("id", FieldValue.i64 id) ∈ userDocument toLowercase record ↔ id = record.id := by
  cases userName : record.userName <;> cases displayName : record.displayName <;>
    simp [userDocument, userName, displayName]

@[simp] theorem userName_mem_userDocument {keyword : String} :
    ("user_name", FieldValue.text keyword) ∈ userDocument toLowercase record ↔
      record.userName.map (normalizedKeyword toLowercase) = some keyword := by
  cases userName : record.userName <;> cases displayName : record.displayName <;>
    simp [userDocument, userName, displayName, eq_comm]

/-- A query without terms matches every document. -/
theorem buildUserQuery_matches {filters : UserSearchFilters} {document : IndexDocument} :
    (buildUserQuery tables filters).matches tables document = true ↔
      userTerms tables filters = [] ∨
        ∃ term ∈ userTerms tables filters, term.matches tables document = true := by
  simp only [buildUserQuery, List.isEmpty_iff]
  by_cases none : userTerms tables filters = []
  · simp [none, UserQuery.matches]
  · simp [none, UserQuery.matches]

def UserIndexDocument.hit (record : UserIndexDocument) : SearchHit :=
  ⟨record.id, some (unixTimestamp record.updatedAt)⟩

/-- The hits of a search are those of the indexed records that match, in some order. -/
theorem exists_ranked_users {searcher : UserSearcher} {records : List UserIndexDocument}
    (ranks : searcher.Ranks tables (records.map (userDocument tables.toLowercase)))
    (filters : UserSearchFilters) (sort : UserSearchSort) :
    ∃ ranked : List UserIndexDocument,
      ranked.Perm (records.filter fun record =>
        (buildUserQuery tables filters).matches tables (userDocument tables.toLowercase record)) ∧
      ∀ limit offset, searchUsers tables searcher filters sort limit offset =
        some ((Paging.window ranked limit offset).map UserIndexDocument.hit) := by
  obtain ⟨documents, perm, read⟩ := ranks (buildUserQuery tables filters) sort
  rw [List.filter_map] at perm
  obtain ⟨ranked, rankedPerm, rfl⟩ := Relational.exists_perm_of_perm_map perm
  refine ⟨ranked, rankedPerm, fun limit offset => ?_⟩
  simp only [searchUsers, collectUserHits, read, Paging.window_map]
  exact mapM_map_some (fun record => by simp [UserIndexDocument.hit]) _

/-- The hits of a searcher that ranks by the order of the records. -/
theorem searchUsers_list (records : List UserIndexDocument) (filters : UserSearchFilters)
    (sort : UserSearchSort) (limit offset : Nat) :
    searchUsers tables (listUserSearcher tables
        (records.map (userDocument tables.toLowercase))) filters sort limit offset =
      some ((Paging.window (records.filter fun record => (buildUserQuery tables filters).matches
        tables (userDocument tables.toLowercase record)) limit offset).map
          UserIndexDocument.hit) := by
  simp only [searchUsers, collectUserHits, listUserSearcher, List.filter_map, Paging.window_map]
  exact mapM_map_some (fun record => by simp [UserIndexDocument.hit]) _

/-- A searcher whose list begins with a record that matches returns its hit first. -/
theorem searchUsers_first {filters : UserSearchFilters} (others : List UserIndexDocument)
    (sort : UserSearchSort) (limit : Nat)
    (selected : (buildUserQuery tables filters).matches tables
      (userDocument tables.toLowercase record) = true) :
    ∃ rest, searchUsers tables
        (listUserSearcher tables ((record :: others).map (userDocument tables.toLowercase)))
        filters sort (limit + 1) 0 =
      some (record.hit :: rest) := by
  refine ⟨(Paging.window (others.filter fun other => (buildUserQuery tables filters).matches
    tables (userDocument tables.toLowercase other)) limit 0).map UserIndexDocument.hit, ?_⟩
  simp only [searchUsers_list, List.filter_cons, selected, if_true]
  rfl

end Documents

end TweetDb.Search
