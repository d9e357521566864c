import TweetDb.Submit.Lookups
import TweetDb.Submit.Regroup

/-! # Requests whose lookups are stored

The categories, hashtags and symbols of such a request are resolved to the ids
they have, and nothing is written for them.
-/

namespace TweetDb.Submit

open Transition

/-! ## What a request mentions -/

/-- The tables have what a text mentions. -/
structure LookupTables.KnowsText (tables : LookupTables) (item : SubmitAnnotatedText) : Prop where
  hashtags : ∀ hashtag ∈ hashtagModels item, tables.KnowsHashtag hashtag
  symbols : ∀ symbol ∈ symbolModels item, tables.KnowsSymbol symbol

structure LookupTables.Knows (tables : LookupTables) (payload : SubmitTweetRequest) : Prop where
  categories : ∀ category ∈ lookupCategories payload, tables.KnowsCategory category
  texts : ∀ text ∈ lookupTexts payload, tables.KnowsText text

/-- The ids of a call are those of the tables, for what a text mentions. -/
structure SubmitLookupIds.AgreesOnText (ids : SubmitLookupIds) (tables : LookupTables)
    (item : SubmitAnnotatedText) : Prop where
  hashtags : ∀ hashtag ∈ hashtagModels item,
    ids.hashtags hashtag.tag = tables.ids.hashtags hashtag.tag
  symbols : ∀ symbol ∈ symbolModels item,
    ids.symbols symbol.symbol = tables.ids.symbols symbol.symbol

structure SubmitLookupIds.AgreesOn (ids : SubmitLookupIds) (tables : LookupTables)
    (payload : SubmitTweetRequest) : Prop where
  categories : ∀ category ∈ lookupCategories payload,
    ids.userCategories category.sourceCategoryCode =
      tables.ids.userCategories category.sourceCategoryCode
  texts : ∀ text ∈ lookupTexts payload, ids.AgreesOnText tables text

/-! ## Merged entries -/

section Merged

variable {tables : LookupTables}

theorem knowsCategory_merge {existing category : UserCategory}
    (known : tables.KnowsCategory existing) (knownCategory : tables.KnowsCategory category)
    (same : existing.sourceCategoryCode = category.sourceCategoryCode) :
    tables.KnowsCategory (mergeCategory existing category) := by
  obtain ⟨row, found, name⟩ := known
  obtain ⟨row', found', name'⟩ := knownCategory
  rw [← same, found, Option.some.injEq] at found'
  subst found'
  unfold mergeCategory
  split
  · exact ⟨row, found, name'⟩
  · exact ⟨row, found, name⟩

theorem knowsSymbol_merge {existing entity : Symbol} (known : tables.KnowsSymbol existing)
    (knownEntity : tables.KnowsSymbol entity) (same : existing.symbol = entity.symbol) :
    tables.KnowsSymbol (mergeSymbol existing entity) := by
  obtain ⟨row, found, ticker, name⟩ := known
  obtain ⟨row', found', ticker', name'⟩ := knownEntity
  rw [← same, found, Option.some.injEq] at found'
  subst found'
  refine ⟨row, found, ?_, ?_⟩
  · simp [mergeSymbol, ← ticker, ← ticker']
  · simp [mergeSymbol, ← name, ← name']

end Merged

/-! ## The resolved ids -/

section Resolve

variable {tables : LookupTables} {payload : SubmitTweetRequest} (newIds : NewLookupIds)

/-- The categories `resolve_submit_lookup_ids` sends. -/
def sentCategories (payload : SubmitTweetRequest) : List UserCategory :=
  collectEntries UserCategory.sourceCategoryCode mergeCategory (lookupCategories payload)

def sentHashtags (payload : SubmitTweetRequest) : List Hashtag :=
  collectEntries Hashtag.tag (fun existing _ => existing)
    ((lookupTexts payload).flatMap hashtagModels)

def sentSymbols (payload : SubmitTweetRequest) : List Symbol :=
  collectEntries Symbol.symbol mergeSymbol ((lookupTexts payload).flatMap symbolModels)

theorem code_mem_sentCategories {category : UserCategory}
    (member : category ∈ lookupCategories payload) :
    category.sourceCategoryCode ∈ (sentCategories payload).map UserCategory.sourceCategoryCode := by
  refine (mem_keys_foldl_addEntry (fun existing category => ?_) _ _ _).mpr
    (.inr (List.mem_map_of_mem member))
  unfold mergeCategory
  split <;> rfl

theorem tag_mem_sentHashtags {hashtag : Hashtag}
    (member : hashtag ∈ (lookupTexts payload).flatMap hashtagModels) :
    hashtag.tag ∈ (sentHashtags payload).map Hashtag.tag :=
  (mem_keys_foldl_addEntry (fun _ _ => rfl) _ _ _).mpr (.inr (List.mem_map_of_mem member))

theorem symbol_mem_sentSymbols {symbol : Symbol}
    (member : symbol ∈ (lookupTexts payload).flatMap symbolModels) :
    symbol.symbol ∈ (sentSymbols payload).map Symbol.symbol := by
  have keeps : ∀ existing entity, (mergeSymbol existing entity).symbol = existing.symbol :=
    fun _ _ => rfl
  exact (mem_keys_foldl_addEntry keeps _ _ _).mpr (.inr (List.mem_map_of_mem member))

theorem knowsCategory_of_sent (known : tables.Knows payload) :
    ∀ category ∈ sentCategories payload, tables.KnowsCategory category :=
  forall_foldl_addEntry
    (fun _ _ same existing category => knowsCategory_merge existing category same) _ (by simp)
    known.categories

theorem knowsHashtag_of_sent (known : tables.Knows payload) :
    ∀ hashtag ∈ sentHashtags payload, tables.KnowsHashtag hashtag := by
  refine forall_foldl_addEntry (fun _ _ _ existing _ => existing) _ (by simp)
    fun hashtag member => ?_
  obtain ⟨text, isText, mentioned⟩ := List.mem_flatMap.mp member
  exact (known.texts text isText).hashtags hashtag mentioned

theorem knowsSymbol_of_sent (known : tables.Knows payload) :
    ∀ symbol ∈ sentSymbols payload, tables.KnowsSymbol symbol := by
  refine forall_foldl_addEntry
    (fun _ _ same existing entity => knowsSymbol_merge existing entity same) _ (by simp)
    fun symbol member => ?_
  obtain ⟨text, isText, mentioned⟩ := List.mem_flatMap.mp member
  exact (known.texts text isText).symbols symbol mentioned

/-- The answers are the stored ids of all that is asked for. -/
theorem resolveSubmitLookupIds_of_known (fitting : tables.Fitting) (known : tables.Knows payload) :
    ∃ ids, resolveSubmitLookupIds (tables.store newIds) payload = .ok ids ∧
      ids.AgreesOn tables payload := by
  have categories : (tables.store newIds).upsertUserCategories (sentCategories payload) =
      .ok (answers UserCategoryRow.id
        ((sentCategories payload).map UserCategory.sourceCategoryCode) tables.userCategories) := by
    simp only [LookupTables.store,
      resolveUserCategories_of_known newIds fitting (knowsCategory_of_sent known)]
  have hashtags : (tables.store newIds).upsertHashtags (sentHashtags payload) =
      .ok (answers HashtagRow.id ((sentHashtags payload).map Hashtag.tag).dedup
        tables.hashtags) := by
    simp only [LookupTables.store, resolveHashtags_of_known newIds (knowsHashtag_of_sent known)]
  have symbols : (tables.store newIds).upsertSymbols (sentSymbols payload) =
      .ok (answers SymbolRow.id ((sentSymbols payload).map Symbol.symbol) tables.symbols) := by
    simp only [LookupTables.store, resolveSymbols_of_known newIds (knowsSymbol_of_sent known)]
  refine ⟨⟨answers UserCategoryRow.id
      ((sentCategories payload).map UserCategory.sourceCategoryCode) tables.userCategories,
    answers HashtagRow.id ((sentHashtags payload).map Hashtag.tag).dedup tables.hashtags,
    answers SymbolRow.id ((sentSymbols payload).map Symbol.symbol) tables.symbols⟩, ?_, ?_⟩
  · simp only [sentCategories, sentHashtags, sentSymbols] at categories hashtags symbols ⊢
    simp only [resolveSubmitLookupIds, categories, hashtags, symbols, bind, Except.bind, pure,
      Except.pure]
  · constructor
    · intro category member
      exact if_pos (code_mem_sentCategories member)
    · intro text isText
      constructor
      · intro hashtag member
        exact if_pos (List.mem_dedup.mpr
          (tag_mem_sentHashtags (List.mem_flatMap.mpr ⟨text, isText, member⟩)))
      · intro symbol member
        exact if_pos (symbol_mem_sentSymbols (List.mem_flatMap.mpr ⟨text, isText, member⟩))

/-- The three statements of such a call. -/
def lookupCalls (payload : SubmitTweetRequest) : List LookupCall :=
  [.userCategories newIds (sentCategories payload), .hashtags newIds (sentHashtags payload),
    .symbols newIds (sentSymbols payload)]

/-- They leave the tables as they are. -/
theorem exec_lookupCalls (fitting : tables.Fitting) (known : tables.Knows payload) :
    exec LookupTables.next tables (lookupCalls newIds payload) = some tables := by
  have categories := resolveUserCategories_of_known newIds fitting (knowsCategory_of_sent known)
  have hashtags := resolveHashtags_of_known newIds (knowsHashtag_of_sent known)
  have symbols := resolveSymbols_of_known newIds (knowsSymbol_of_sent known)
  simp [lookupCalls, exec, LookupTables.next, categories, hashtags, symbols]

end Resolve

end TweetDb.Submit
