import TweetDb.Relational.Select
import TweetDb.Relational.Upsert
import TweetDb.Submit.Checks
import TweetDb.Submit.Prepare
import TweetDb.Transition.Run
import TweetDb.Tweet.Fill

/-! # The lookup tables

`tweet.resolve_user_categories`, `resolve_hashtags` and `resolve_symbols`: each
takes what is new into its table and answers with the ids of all it was asked
for.  The unique column other than the generated id is the key here.
-/

namespace TweetDb.Submit

open Relational

/-! ## Rows -/

structure UserCategoryRow where
  id : Int
  sourceCategoryCode : Int
  name : String
deriving DecidableEq, Repr

instance : Row UserCategoryRow Int := .ofKey UserCategoryRow.sourceCategoryCode

structure HashtagRow where
  id : Int
  tag : String
deriving DecidableEq, Repr

instance : Row HashtagRow String := .ofKey HashtagRow.tag

structure SymbolRow where
  id : Int
  symbol : String
  ticker : Option String
  name : Option String
deriving DecidableEq, Repr

instance : Row SymbolRow String := .ofKey SymbolRow.symbol

/-- The ids the identity columns generate, and the text of a violation. -/
structure NewLookupIds where
  userCategory : Int → Int
  hashtag : String → Int
  symbol : String → Int
  violation : String

/-! ## The functions -/

/-- The ids of a result set, by the key asked for. -/
def answers {ρ κ : Type} [Row ρ κ] (id : ρ → Int) (asked : List κ) (table : Table ρ) :
    κ → Option Int :=
  fun key => if key ∈ asked then (table.find key).map id else none

def UserCategoryRow.onConflict : OnConflict UserCategoryRow where
  set stored excluded := { stored with name := excluded.name }
  condition stored excluded := stored.name.isEmpty && !excluded.name.isEmpty
  keeps _ := ⟨fun _ => rfl, fun _ _ => Iff.rfl⟩

def SymbolRow.onConflict : OnConflict SymbolRow where
  set stored excluded :=
    { stored with
      ticker := Tweet.coalesce stored.ticker excluded.ticker
      name := Tweet.coalesce stored.name excluded.name }
  condition stored excluded :=
    Tweet.fillable stored.ticker excluded.ticker || Tweet.fillable stored.name excluded.name
  keeps _ := ⟨fun _ => rfl, fun _ _ => Iff.rfl⟩

/-- `source_category_code` is an `INTEGER`. -/
def UserCategoryRow.constraints : Constraints UserCategoryRow where
  checks row := decide (Fits 32 row.sourceCategoryCode)
  references _ := true

/-- `SELECT DISTINCT ON (source_category_code) … ORDER BY …, btrim(name) = ''`; the callers send
one category of each code. -/
def distinctCategories (categories : List UserCategory) : List UserCategory :=
  distinctOn UserCategory.sourceCategoryCode categories

namespace NewLookupIds

variable (newIds : NewLookupIds)

def resolveUserCategories (categories : List UserCategory) (table : Table UserCategoryRow) :
    Option ((Int → Option Int) × Table UserCategoryRow) :=
  (UserCategoryRow.onConflict.upsert UserCategoryRow.constraints table
    ((distinctCategories categories).map fun category =>
      ⟨newIds.userCategory category.sourceCategoryCode, category.sourceCategoryCode,
        category.name⟩)).map fun (_, table) =>
    (answers UserCategoryRow.id (categories.map UserCategory.sourceCategoryCode) table, table)

def resolveHashtags (hashtags : List Hashtag) (table : Table HashtagRow) :
    (String → Option Int) × Table HashtagRow :=
  let tags := (hashtags.map Hashtag.tag).dedup
  let inserted := table.insertNew (tags.map fun tag => ⟨newIds.hashtag tag, tag⟩)
  (answers HashtagRow.id tags inserted.2, inserted.2)

def resolveSymbols (symbols : List Symbol) (table : Table SymbolRow) :
    Option ((String → Option Int) × Table SymbolRow) :=
  (SymbolRow.onConflict.upsert ⟨fun _ => true, fun _ => true⟩ table
    ((distinctOn Symbol.symbol symbols).map fun symbol =>
      ⟨newIds.symbol symbol.symbol, symbol.symbol, symbol.ticker, symbol.name⟩)).map
    fun (_, table) => (answers SymbolRow.id (symbols.map Symbol.symbol) table, table)

end NewLookupIds

/-! ## The tables -/

structure LookupTables where
  userCategories : Table UserCategoryRow
  hashtags : Table HashtagRow
  symbols : Table SymbolRow

/-- A statement on one of the tables. -/
inductive LookupCall where
  | userCategories (newIds : NewLookupIds) (categories : List UserCategory)
  | hashtags (newIds : NewLookupIds) (hashtags : List Hashtag)
  | symbols (newIds : NewLookupIds) (symbols : List Symbol)

namespace LookupTables

def empty : LookupTables := ⟨.empty, .empty, .empty⟩

/-- The tables after a statement that succeeds. -/
def next (tables : LookupTables) : LookupCall → Option LookupTables
  | .userCategories newIds categories =>
    (newIds.resolveUserCategories categories tables.userCategories).map fun (_, table) =>
      { tables with userCategories := table }
  | .hashtags newIds hashtags =>
    some { tables with hashtags := (newIds.resolveHashtags hashtags tables.hashtags).2 }
  | .symbols newIds symbols =>
    (newIds.resolveSymbols symbols tables.symbols).map fun (_, table) =>
      { tables with symbols := table }

variable (tables : LookupTables)

/-- `fetch_user_categories`, of one id. -/
def userCategory (id : Int) : Option UserCategoryRow :=
  tables.userCategories.rows.find? fun row => decide (row.id = id)

/-- `fetch_hashtags`, of one id. -/
def hashtag (id : Int) : Option HashtagRow :=
  tables.hashtags.rows.find? fun row => decide (row.id = id)

/-- `fetch_symbols`, of one id. -/
def symbol (id : Int) : Option SymbolRow :=
  tables.symbols.rows.find? fun row => decide (row.id = id)

/-- The answers of the three statements on these tables. -/
def store (newIds : NewLookupIds) : LookupStore where
  upsertUserCategories categories :=
    match newIds.resolveUserCategories categories tables.userCategories with
    | some (ids, _) => .ok ids
    | none => .error newIds.violation
  upsertHashtags hashtags := .ok (newIds.resolveHashtags hashtags tables.hashtags).1
  upsertSymbols symbols :=
    match newIds.resolveSymbols symbols tables.symbols with
    | some (ids, _) => .ok ids
    | none => .error newIds.violation

/-- The ids of everything that is stored. -/
def ids : SubmitLookupIds where
  userCategories code := (tables.userCategories.find code).map UserCategoryRow.id
  hashtags tag := (tables.hashtags.find tag).map HashtagRow.id
  symbols symbol := (tables.symbols.find symbol).map SymbolRow.id

/-- What a store has answered with is in the tables. -/
structure Answered (store : LookupStore) : Prop where
  userCategories : ∀ categories ids code id, store.upsertUserCategories categories = .ok ids →
    ids code = some id → tables.ids.userCategories code = some id
  hashtags : ∀ hashtags ids tag id, store.upsertHashtags hashtags = .ok ids →
    ids tag = some id → tables.ids.hashtags tag = some id
  symbols : ∀ symbols ids symbol id, store.upsertSymbols symbols = .ok ids →
    ids symbol = some id → tables.ids.symbols symbol = some id

/-! ## The codes -/

/-- The codes of the categories fit their column. -/
def Fitting : Prop := ∀ row ∈ tables.userCategories.rows, Fits 32 row.sourceCategoryCode

end LookupTables

theorem fitting_empty : LookupTables.empty.Fitting :=
  fun _ none => absurd none List.not_mem_nil

theorem LookupTables.Fitting.next {tables tables' : LookupTables} {call : LookupCall}
    (fitting : tables.Fitting) (ran : tables.next call = some tables') : tables'.Fitting := by
  cases call with
  | userCategories newIds categories =>
    obtain ⟨⟨_, _⟩, resolved, same⟩ := Option.map_eq_some_iff.mp ran
    obtain ⟨⟨_, _⟩, upserted, same'⟩ := Option.map_eq_some_iff.mp resolved
    cases same'
    cases same
    exact OnConflict.forall_upsert fitting (fun row _ fits _ => of_decide_eq_true fits)
      (fun row _ old fits => fits) upserted
  | hashtags newIds hashtags =>
    cases ran
    exact fitting
  | symbols newIds symbols =>
    obtain ⟨_, _, same⟩ := Option.map_eq_some_iff.mp ran
    cases same
    exact fitting

theorem LookupTables.Fitting.run {tables tables' : LookupTables} {calls : List LookupCall}
    (run : Transition.Run (Transition.Takes LookupTables.next) tables calls tables')
    (fitting : tables.Fitting) : tables'.Fitting :=
  run.invariant (fun _ _ _ before ran => before.next ran) fitting

/-! ## What is stored already -/

section Known

variable {tables : LookupTables}

/-- The stored row says the same. -/
def LookupTables.KnowsCategory (tables : LookupTables) (category : UserCategory) : Prop :=
  ∃ row, tables.userCategories.find category.sourceCategoryCode = some row ∧
    row.name = category.name

def LookupTables.KnowsHashtag (tables : LookupTables) (hashtag : Hashtag) : Prop :=
  ∃ row, tables.hashtags.find hashtag.tag = some row

def LookupTables.KnowsSymbol (tables : LookupTables) (symbol : Symbol) : Prop :=
  ∃ row, tables.symbols.find symbol.symbol = some row ∧ row.ticker = symbol.ticker ∧
    row.name = symbol.name

variable (newIds : NewLookupIds)

/-- Categories that are stored are not written again. -/
theorem resolveUserCategories_of_known {categories : List UserCategory} (fitting : tables.Fitting)
    (known : ∀ category ∈ categories, tables.KnowsCategory category) :
    newIds.resolveUserCategories categories tables.userCategories =
      some (answers UserCategoryRow.id (categories.map UserCategory.sourceCategoryCode)
        tables.userCategories, tables.userCategories) := by
  have quiet := @OnConflict.upsert_of_quiet _ _ _ UserCategoryRow.onConflict
    UserCategoryRow.constraints tables.userCategories ((distinctCategories categories).map
      fun category => ⟨newIds.userCategory category.sourceCategoryCode,
        category.sourceCategoryCode, category.name⟩) fun row member => by
    obtain ⟨category, kept, rfl⟩ := List.mem_map.mp member
    obtain ⟨stored, found, sameName⟩ := known category (mem_of_mem_distinctOn kept)
    have isCode := Table.find_key found
    have fits := fitting stored (Table.mem_of_find found)
    refine ⟨?_, stored, found, ?_⟩
    · rw [show stored.sourceCategoryCode = category.sourceCategoryCode from isCode] at fits
      exact decide_eq_true fits
    · simp [UserCategoryRow.onConflict, sameName]
  rw [NewLookupIds.resolveUserCategories, quiet]
  rfl

theorem resolveHashtags_of_known {hashtags : List Hashtag}
    (known : ∀ hashtag ∈ hashtags, tables.KnowsHashtag hashtag) :
    newIds.resolveHashtags hashtags tables.hashtags =
      (answers HashtagRow.id (hashtags.map Hashtag.tag).dedup tables.hashtags,
        tables.hashtags) := by
  have inserted := @Table.insertNew_of_clash _ _ _ tables.hashtags
    ((hashtags.map Hashtag.tag).dedup.map fun tag => ⟨newIds.hashtag tag, tag⟩) fun row member => by
    obtain ⟨tag, isTag, rfl⟩ := List.mem_map.mp member
    obtain ⟨hashtag, isHashtag, rfl⟩ := List.mem_map.mp (List.mem_dedup.mp isTag)
    obtain ⟨stored, found⟩ := known hashtag isHashtag
    exact ⟨stored, Table.mem_of_find found, Table.find_key found⟩
  simp only [NewLookupIds.resolveHashtags, inserted]

/-- Nor are symbols. -/
theorem resolveSymbols_of_known {symbols : List Symbol}
    (known : ∀ symbol ∈ symbols, tables.KnowsSymbol symbol) :
    newIds.resolveSymbols symbols tables.symbols =
      some (answers SymbolRow.id (symbols.map Symbol.symbol) tables.symbols,
        tables.symbols) := by
  have quiet := @OnConflict.upsert_of_quiet _ _ _ SymbolRow.onConflict
    ⟨fun _ => true, fun _ => true⟩ tables.symbols ((distinctOn Symbol.symbol symbols).map
      fun symbol => ⟨newIds.symbol symbol.symbol, symbol.symbol, symbol.ticker, symbol.name⟩)
    fun row member => by
    obtain ⟨symbol, kept, rfl⟩ := List.mem_map.mp member
    obtain ⟨stored, found, sameTicker, sameName⟩ := known symbol (mem_of_mem_distinctOn kept)
    refine ⟨rfl, stored, found, ?_⟩
    cases given : symbol.ticker <;> cases named : symbol.name <;>
      simp [SymbolRow.onConflict, Tweet.fillable, sameTicker, sameName, given, named]
  rw [NewLookupIds.resolveSymbols, quiet]
  rfl

end Known

end TweetDb.Submit
