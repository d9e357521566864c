import TweetDb.Query.Collected
import TweetDb.Query.StyleIds
import TweetDb.Query.TextRoundTrip
import TweetDb.Submit.Converted

/-! # Stored texts come back

A text that was accepted and stored is built by a query as an item that is
converted and stored as the same text, whatever was dropped or replaced on the
way in.
-/

namespace TweetDb.Submit

open TweetDb.Tweet (AnnotatedText HashtagEntity SymbolEntity)

/-- A conversion is given the ids of the tables for what its text mentions. -/
structure LookupTables.ResolvesText (tables : LookupTables) (store : LookupStore)
    (lookupIds : Option SubmitLookupIds) (item : SubmitAnnotatedText) : Prop where
  hashtags : ∃ ids, textHashtagIds store lookupIds item = .ok ids ∧
    ∀ hashtag ∈ hashtagModels item, ids hashtag.tag = tables.ids.hashtags hashtag.tag
  symbols : ∃ ids, textSymbolIds store lookupIds item = .ok ids ∧
    ∀ symbol ∈ symbolModels item, ids symbol.symbol = tables.ids.symbols symbol.symbol

section Resolves

variable {tables : LookupTables} {store : LookupStore} {lookupIds : Option SubmitLookupIds}
  {item : SubmitAnnotatedText} {text : AnnotatedText}

/-- What is stored already is resolved without any writing. -/
theorem resolvesText_of_known (newIds : NewLookupIds) (known : tables.KnowsText item) :
    tables.ResolvesText (tables.store newIds) none item := by
  constructor
  · have resolved := resolveHashtags_of_known newIds known.hashtags
    refine ⟨_, rfl, fun hashtag member => ?_⟩
    rw [resolved]
    exact if_pos (List.mem_dedup.mpr (List.mem_map_of_mem member))
  · have resolved := resolveSymbols_of_known newIds known.symbols
    refine ⟨answers SymbolRow.id ((symbolModels item).map Symbol.symbol) tables.symbols, ?_,
      fun symbol member => if_pos (List.mem_map_of_mem member)⟩
    simp only [textSymbolIds, LookupTables.store, resolved]

/-- Then the item is converted to what it stands for. -/
theorem StandsForText.convert (stands : StandsForText tables text item)
    (resolves : tables.ResolvesText store lookupIds item) :
    convertAnnotatedText store lookupIds item = .ok text := by
  obtain ⟨hashtagIds, areHashtags, hashtags⟩ := resolves.hashtags
  obtain ⟨symbolIds, areSymbols, symbols⟩ := resolves.symbols
  have converted := stands.converts store ⟨fun _ => none, hashtagIds, symbolIds⟩
    ⟨hashtags, symbols⟩
  rw [← converted, convertAnnotatedText, convertAnnotatedText, areHashtags, areSymbols]
  rfl

theorem id_of_resolved {κ : Type} {what : String} {ids : κ → Option Int} {key : κ} {id : Int}
    (isResolved : resolved what ids key = .ok id) : ids key = some id := by
  unfold resolved at isResolved
  split at isResolved
  next isId =>
    cases isResolved
    exact isId
  next => cases isResolved

theorem hashtag_of_convert {ids : String → Option Int} {given : SubmitHashtagEntity}
    {entity : HashtagEntity} (converted : convertHashtag ids given = .ok entity) :
    ids given.text = some entity.hashtagId := by
  obtain ⟨range, _, converted⟩ := bind_eq_ok converted
  obtain ⟨hashtagId, isResolved, converted⟩ := bind_eq_ok converted
  cases converted
  exact id_of_resolved isResolved

theorem symbol_of_convert {ids : String → Option Int} {given : SubmitSymbolEntity}
    {range : SubmitTextRange} {entity : SymbolEntity}
    (converted : convertSymbol ids given range = .ok entity) :
    ids given.text = some entity.symbolId := by
  obtain ⟨range, _, converted⟩ := bind_eq_ok converted
  obtain ⟨symbolId, isResolved, converted⟩ := bind_eq_ok converted
  cases converted
  exact id_of_resolved isResolved

end Resolves

end TweetDb.Submit

namespace TweetDb.Query

open Fallible Json Relational Submit
open TweetDb.Tweet (AnnotatedText)

/-! ## Rows -/

section Rows

variable {tables : LookupTables} {store : LookupStore} {lookupIds : Option SubmitLookupIds}
  {item : SubmitAnnotatedText} {text : AnnotatedText}

theorem hashtag_isSome {tag : String} {id : Int} (isId : tables.ids.hashtags tag = some id) :
    (tables.hashtag id).isSome = true := by
  obtain ⟨row, found, rfl⟩ := Option.map_eq_some_iff.mp isId
  exact List.find?_isSome.mpr ⟨row, Table.mem_of_find found, decide_eq_true rfl⟩

theorem symbol_isSome {symbol : String} {id : Int} (isId : tables.ids.symbols symbol = some id) :
    (tables.symbol id).isSome = true := by
  obtain ⟨row, found, rfl⟩ := Option.map_eq_some_iff.mp isId
  exact List.find?_isSome.mpr ⟨row, Table.mem_of_find found, decide_eq_true rfl⟩

/-- The tables have the rows of what was converted with their ids. -/
theorem hasRows_of_convert (resolves : tables.ResolvesText store lookupIds item)
    (converted : convertAnnotatedText store lookupIds item = .ok text) :
    HasRows (textRefs text) tables := by
  obtain ⟨hashtagIds, areHashtags, sameHashtags⟩ := resolves.hashtags
  obtain ⟨symbolIds, areSymbols, sameSymbols⟩ := resolves.symbols
  have parts := convertsText_of_convert converted
  obtain ⟨_, isIds, hashtagsConverted⟩ := parts.hashtags
  cases isIds.symm.trans areHashtags
  obtain ⟨_, isIds, symbolsConverted⟩ := parts.symbols
  cases isIds.symm.trans areSymbols
  -- Every stored id was answered by the tables, which have a row with it.
  refine ⟨fun id member => ?_, fun id member => ?_, nofun⟩
  · obtain ⟨entity, isEntity, rfl⟩ := List.mem_map.mp member
    obtain ⟨given, isGiven, ran⟩ := exists_of_forall₂ (mapM_eq_ok.mp hashtagsConverted) isEntity
    have isId := hashtag_of_convert ran
    rw [sameHashtags ⟨given.text⟩ (List.mem_map_of_mem isGiven)] at isId
    exact hashtag_isSome isId
  · obtain ⟨entity, isEntity, rfl⟩ := List.mem_map.mp member
    obtain ⟨⟨given, range⟩, isGiven, ran⟩ :=
      exists_of_forall₂ (mapM_eq_ok.mp symbolsConverted) isEntity
    obtain ⟨symbol, isSymbol, ranged⟩ := List.mem_filterMap.mp isGiven
    obtain ⟨_, _, same⟩ := Option.map_eq_some_iff.mp ranged
    cases same
    have isId := symbol_of_convert ran
    rw [sameSymbols _ (List.mem_map_of_mem isSymbol)] at isId
    exact symbol_isSome isId

end Rows

/-! ## Building -/

namespace BuildContext

variable {context : BuildContext} {cache : CacheState} {text : AnnotatedText}

theorem exists_buildList {α : Type} {build : α → Except String Value} {values : List α}
    (each : ∀ value ∈ values, ∃ written, build value = .ok written) :
    ∃ written, buildList build values = .ok written := by
  obtain ⟨writtens, built⟩ := exists_mapM_eq_ok each
  exact ⟨.array writtens, by rw [buildList, built]; rfl⟩

/-- A stored text is built if the tables have its rows. -/
theorem exists_buildDbAnnotatedTextJson
    (inverse : ∀ entry id, cache.byKey entry = some id ↔ cache.byId id = some entry)
    {stored : DbAnnotatedText} (isStored : annotatedTextPayload cache text = some stored)
    (rows : HasRows (textRefs text) context.lookups) :
    ∃ written, context.buildDbAnnotatedTextJson cache stored = .ok written := by
  obtain ⟨styles, areStyles, same⟩ := Option.bind_eq_some_iff.mp isStored
  cases same
  have hashtags : ∃ written, buildList context.hashtagJson text.hashtags = .ok written := by
    refine exists_buildList fun entity member => ?_
    have known := rows.hashtags entity.hashtagId (List.mem_map_of_mem member)
    obtain ⟨row, found⟩ := Option.isSome_iff_exists.mp known
    simp only [hashtagJson, found]
    exact ⟨_, rfl⟩
  have symbols : ∃ written, buildList context.symbolJson text.symbols = .ok written := by
    refine exists_buildList fun entity member => ?_
    have known := rows.symbols entity.symbolId (List.mem_map_of_mem member)
    obtain ⟨row, found⟩ := Option.isSome_iff_exists.mp known
    simp only [symbolJson, found]
    exact ⟨_, rfl⟩
  -- The ids of the styles come from the cache, which knows their names.
  have styleNames : ∃ written, buildList (dbStyleJson cache) styles = .ok written := by
    refine exists_buildList fun stored member => ?_
    obtain ⟨style, _, isStyle⟩ := exists_of_forall₂ (mapM_eq_some.mp areStyles) member
    obtain ⟨ids, ensured, same⟩ := Option.bind_eq_some_iff.mp isStyle
    cases same
    simp only [dbStyleJson, mapM_resolveString_of_ensureIds inverse ensured]
    exact ⟨_, rfl⟩
  obtain ⟨hashtagsJson, hashtagsBuilt⟩ := hashtags
  obtain ⟨symbolsJson, symbolsBuilt⟩ := symbols
  obtain ⟨stylesJson, stylesBuilt⟩ := styleNames
  simp only [buildDbAnnotatedTextJson, hashtagsBuilt, symbolsBuilt, stylesBuilt]
  exact ⟨_, rfl⟩

end BuildContext

/-! ## The round trip -/

/-- What a query makes of a stored text can be read, and mentions nothing that is not stored; with
the ids of the tables it is converted to a text that is stored as before. -/
def ComesBack (context : BuildContext) (cache : CacheState) (stored : DbAnnotatedText) : Prop :=
  ∃ row, decodeDbAnnotatedText stored.json = some row ∧
    ∃ written, context.buildDbAnnotatedTextJson cache row = .ok written ∧
      ∃ item, decodeAnnotatedText written = some item ∧
        (∀ newIds, context.lookups.ResolvesText (context.lookups.store newIds) none item) ∧
          ∀ store lookupIds, context.lookups.ResolvesText store lookupIds item →
            ∃ text, convertAnnotatedText store lookupIds item = .ok text ∧
              annotatedTextPayload cache text = some stored

/-- Whatever text is accepted and stored comes back, if names and ids stand for each other. -/
theorem annotated_text_round_trip {context : BuildContext} {cache : CacheState}
    (inverse : ∀ entry id, cache.byKey entry = some id ↔ cache.byId id = some entry)
    {store : LookupStore} {lookupIds : Option SubmitLookupIds} {value : SubmitAnnotatedText}
    {text : AnnotatedText} (resolves : context.lookups.ResolvesText store lookupIds value)
    (converted : convertAnnotatedText store lookupIds value = .ok text)
    {stored : DbAnnotatedText} (isStored : annotatedTextPayload cache text = some stored) :
    ComesBack context cache stored := by
  have rows := hasRows_of_convert resolves converted
  have valid := valid_annotatedTextPayload (valid_of_convertAnnotatedText converted)
  obtain ⟨written, built⟩ := BuildContext.exists_buildDbAnnotatedTextJson inverse isStored rows
  have named := built
  rw [BuildContext.buildDbAnnotatedTextJson_eq context inverse isStored] at named
  -- The item stands for the text with the names that are stored.
  obtain ⟨item, read, stands⟩ := BuildContext.reads_buildAnnotatedTextJson named valid
  refine ⟨stored, decode_json stored, written, built, item, read, fun newIds =>
    resolvesText_of_known newIds stands.known, fun store' lookupIds' resolves' =>
      ⟨TweetModel.annotatedTextPayload text, stands.convert resolves', ?_⟩⟩
  rw [annotatedTextPayload_normalized, isStored]

/-- Two names of styles. -/
def styleNames : Table DictRow :=
  ⟨[⟨7, ⟨.tweetTextStyleName, "Bold"⟩⟩, ⟨8, ⟨.tweetTextStyleName, "Italic"⟩⟩], by decide⟩

def tagTables : LookupTables :=
  ⟨.empty, ⟨[⟨1, "lean"⟩], List.pairwise_singleton _ _⟩,
    ⟨[⟨2, "X", some "X", none⟩], List.pairwise_singleton _ _⟩⟩

/-- A display range that ends before it starts, a symbol and a media entity without a range, and
names with blanks. -/
def styledItem : SubmitAnnotatedText :=
  ⟨"#lean $X", some ⟨5, 2⟩,
    ⟨[⟨"lean", ⟨0, 5⟩⟩], [⟨"X", none, none, none⟩, ⟨"X", some ⟨6, 8⟩, some "X", none⟩],
      [⟨"https://t.co/a", "https://lean", "lean", ⟨0, 1⟩⟩], [⟨"12", ⟨0, 5⟩⟩],
      [⟨"3", none, none, some "", some "https://t.co/b", some ⟨none, some "4"⟩⟩]⟩,
    [⟨⟨0, 8⟩, [" Bold ", " ", "Italic"]⟩]⟩

def storedItem : DbAnnotatedText :=
  ⟨"#lean $X", some 5, some 2, [⟨1, 0, 5⟩], [⟨2, 6, 8⟩],
    [⟨"https://t.co/a", "https://lean", "lean", 0, 1⟩], [⟨12, 0, 5⟩],
    [⟨3, 0, 0, "", "", "https://t.co/b", none, some 4⟩], [⟨0, 8, [7, 8]⟩]⟩

/-- A context with these tables. -/
def tagContext : BuildContext where
  formats := ⟨fun _ => "", fun _ => none, fun _ => "", fun _ => "", fun _ => none⟩
  dict := ⟨fun _ => 0, fun _ => false⟩
  lookups := tagTables

theorem annotated_text_round_trip_styled :
    ComesBack tagContext (.refresh styleNames.rows) storedItem :=
  @annotated_text_round_trip tagContext _ (refresh_faithful styleNames).inverse
    (tagTables.store ⟨fun _ => 0, fun _ => 0, fun _ => 0, ""⟩) (some tagTables.ids) styledItem _
    ⟨⟨_, rfl, fun _ _ => rfl⟩, ⟨_, rfl, fun _ _ => rfl⟩⟩ rfl storedItem rfl

end TweetDb.Query
