import TweetDb.Query.Fetch
import TweetDb.Submit.Deserialize
import TweetDb.Submit.KnownLookups
import TweetDb.Submit.Valid

/-! # Texts that are sent back

What the builders make of a stored text is read as an item that is converted to
the text again.  A hashtag or a symbol is built from its row, so the lookup
tables know it.
-/

namespace TweetDb.Submit

/-- The item is converted to the text. -/
structure StandsForText (tables : LookupTables) (text : Tweet.AnnotatedText)
    (item : SubmitAnnotatedText) : Prop where
  known : tables.KnowsText item
  converts : ∀ store ids, ids.AgreesOnText tables item →
    convertAnnotatedText store (some ids) item = .ok text

end TweetDb.Submit

namespace TweetDb.Query

open Json Relational Submit
open TweetDb.Tweet (AnnotatedText HashtagEntity MediaEntity MentionEntity ResolvedUrl SymbolEntity
  TextStyleRange UrlEntity)

namespace BuildContext

variable {context : BuildContext}

/-! ## Dictionary texts -/

theorem eq_of_resolveString {semantic : StringSemantic} {field value result : String}
    (ran : context.resolveString semantic field value = .ok result) : result = value := by
  simp only [resolveString] at ran
  split at ran
  next =>
    cases ran
    rfl
  next => cases ran

theorem eq_of_resolveOptionalString {semantic : StringSemantic} {field : String}
    {value result : Option String}
    (ran : context.resolveOptionalString value semantic field = .ok result) : result = value := by
  cases value with
  | none =>
    cases ran
    rfl
  | some value =>
    obtain ⟨found, isFound, rfl⟩ := map_eq_ok ran
    rw [eq_of_resolveString isFound]

theorem eq_of_resolveStringList {semantic : StringSemantic} {field : String}
    {values results : List String}
    (ran : context.resolveStringList values semantic field = .ok results) : results = values := by
  have each := (mapM_eq_ok.mp ran).imp fun _ _ isFound => (eq_of_resolveString isFound).symm
  exact (List.forall₂_eq_eq_eq ▸ each).symm

/-! ## Parts -/

section Parts

variable {α β : Type} {build : α → Except String Value} {decode : Decoder β}
  {same : α → β → Prop} {holds : α → Prop}

theorem reads_buildOption (rejects : decode .null = none)
    (reads : ∀ {value written}, build value = .ok written → holds value →
      Reads decode same value written)
    {value : Option α} {written : Value} (ran : buildOption build value = .ok written)
    (valid : ∀ part ∈ value, holds part) :
    Reads (nullable decode) (Option.Rel same) value written := by
  cases value with
  | none =>
    cases ran
    exact reads_none
  | some value => exact (reads ran (valid value rfl)).nullable rejects

theorem reads_buildList
    (reads : ∀ {value written}, build value = .ok written → holds value →
      Reads decode same value written)
    {values : List α} {written : Value} (ran : buildList build values = .ok written)
    (valid : ∀ value ∈ values, holds value) :
    Reads (items decode) (List.Forall₂ same) values written := by
  obtain ⟨writtens, built, rfl⟩ := map_eq_ok ran
  have each := (List.forall₂_and_left ..).mpr ⟨valid, mapM_eq_ok.mp built⟩
  exact reads_items (each.imp fun _ _ both => reads both.2 both.1)

/-- Items that are each converted to a value are converted to the values. -/
theorem mapM_of_forall₂ {convert : β → Except String α} {values : List α} {items : List β}
    (each : List.Forall₂ (fun value item => convert item = .ok value) values items) :
    items.mapM convert = .ok values :=
  mapM_eq_ok.mpr each.flip

end Parts

theorem validateRange_of_inOrder {start stop : Int} (inOrder : InOrder start stop)
    (field : String) : validateRange ⟨start, stop⟩ field = .ok ⟨start, stop⟩ :=
  validateRange_eq_ok.mpr ⟨rfl, inOrder⟩

@[simp] theorem decodeTextRange_rangeJson (start stop : Int) :
    decodeTextRange (rangeJson start stop) = some ⟨start, stop⟩ := by
  simp [decodeTextRange, rangeJson, required, List.lookup_cons]

@[simp] theorem decodeResolvedUrl_resolvedUrlJson (url : ResolvedUrl) :
    decodeResolvedUrl (resolvedUrlJson url) = some ⟨url.url, url.expandedUrl, url.displayText⟩ := by
  simp [decodeResolvedUrl, resolvedUrlJson, required, List.lookup_cons]

/-! ## Entities -/

theorem find_of_hashtag {tables : LookupTables} {id : Int} {row : HashtagRow}
    (found : tables.hashtag id = some row) :
    tables.hashtags.find row.tag = some row ∧ row.id = id :=
  ⟨Table.find_of_mem (List.mem_of_find?_eq_some found), by simpa using List.find?_some found⟩

theorem find_of_symbol {tables : LookupTables} {id : Int} {row : SymbolRow}
    (found : tables.symbol id = some row) :
    tables.symbols.find row.symbol = some row ∧ row.id = id :=
  ⟨Table.find_of_mem (List.mem_of_find?_eq_some found), by simpa using List.find?_some found⟩

/-- What an item says of a hashtag: its tag is stored, with the id of the entity. -/
def StandsForHashtag (tables : LookupTables) (entity : HashtagEntity)
    (item : SubmitHashtagEntity) : Prop :=
  tables.KnowsHashtag ⟨item.text⟩ ∧ ∀ ids : String → Option Int,
    ids item.text = tables.ids.hashtags item.text → convertHashtag ids item = .ok entity

theorem reads_hashtagJson {entity : HashtagEntity} {written : Value}
    (built : context.hashtagJson entity = .ok written)
    (inOrder : InOrder entity.rangeStart entity.rangeEnd) :
    Reads decodeHashtagEntity (StandsForHashtag context.lookups) entity written := by
  unfold hashtagJson at built
  split at built
  next row found =>
    cases built
    obtain ⟨stored, isId⟩ := find_of_hashtag found
    refine ⟨⟨row.tag, ⟨entity.rangeStart, entity.rangeEnd⟩⟩, ?_, ⟨row, stored⟩, fun ids agree => ?_⟩
    · simp [decodeHashtagEntity, required, List.lookup_cons]
    · have resolves : resolved "hashtag dictionary" ids row.tag = .ok entity.hashtagId := by
        simp only [resolved, agree, LookupTables.ids, stored, Option.map_some, isId]
      simp only [convertHashtag, validateRange_of_inOrder inOrder, resolves, bind, Except.bind,
        pure, Except.pure]
  next => cases built

/-- The same of a symbol, whose range is always written. -/
def StandsForSymbol (tables : LookupTables) (entity : SymbolEntity) (item : SubmitSymbolEntity) :
    Prop :=
  tables.KnowsSymbol ⟨item.text, item.ticker, item.name⟩ ∧
    ∃ range, item.range = some range ∧ ∀ ids : String → Option Int,
      ids item.text = tables.ids.symbols item.text → convertSymbol ids item range = .ok entity

theorem reads_symbolJson {entity : SymbolEntity} {written : Value}
    (built : context.symbolJson entity = .ok written)
    (inOrder : InOrder entity.rangeStart entity.rangeEnd) :
    Reads decodeSymbolEntity (StandsForSymbol context.lookups) entity written := by
  unfold symbolJson at built
  split at built
  next row found =>
    cases built
    obtain ⟨stored, isId⟩ := find_of_symbol found
    let range : SubmitTextRange := ⟨entity.rangeStart, entity.rangeEnd⟩
    refine ⟨⟨row.symbol, some range, row.ticker, row.name⟩, ?_, ⟨row, stored, rfl, rfl⟩, range, rfl,
      fun ids agree => ?_⟩
    · have readRange := nullable_of_some rfl
        (decodeTextRange_rangeJson entity.rangeStart entity.rangeEnd)
      simp [decodeSymbolEntity, required, Json.optional, List.lookup_cons, readRange, range]
    · have resolves : resolved "symbol dictionary" ids row.symbol = .ok entity.symbolId := by
        simp only [resolved, agree, LookupTables.ids, stored, Option.map_some, isId]
      simp only [convertSymbol, range, validateRange_of_inOrder inOrder, resolves, bind,
        Except.bind, pure, Except.pure]
  next => cases built

theorem reads_urlJson {entity : UrlEntity} (inOrder : InOrder entity.rangeStart entity.rangeEnd) :
    Reads decodeUrlEntity (fun entity item => convertUrl item = .ok entity) entity
      (urlJson entity) := by
  refine ⟨⟨entity.url, entity.expandedUrl, entity.displayText,
    ⟨entity.rangeStart, entity.rangeEnd⟩⟩, ?_, ?_⟩
  · simp [decodeUrlEntity, urlJson, required, List.lookup_cons]
  · simp only [convertUrl, validateRange_of_inOrder inOrder, bind, Except.bind, pure, Except.pure]

theorem reads_mentionJson {entity : MentionEntity}
    (valid : InOrder entity.rangeStart entity.rangeEnd ∧ Fits 64 entity.userId) :
    Reads decodeMentionEntity (fun entity item => convertMention item = .ok entity) entity
      (mentionJson entity) := by
  refine ⟨⟨toString entity.userId, ⟨entity.rangeStart, entity.rangeEnd⟩⟩, ?_, ?_⟩
  · simp [decodeMentionEntity, mentionJson, idJson, required, Json.optional, List.lookup_cons]
  · simp only [convertMention, validateRange_of_inOrder valid.1, parseI64Id_toString valid.2, bind,
      Except.bind, pure, Except.pure]

/-! ## Origins -/

/-- An origin is written where one of its ids is there; what is read has the same ids. -/
theorem reads_mediaOriginJson (originTweetId originUserId : Option Int) :
    ∃ origin, nullable decodeMediaOrigin (mediaOriginJson originTweetId originUserId) = some origin ∧
      origin.bind SubmitMediaOrigin.tweetId = originTweetId.map toString ∧
      origin.bind SubmitMediaOrigin.userId = originUserId.map toString := by
  unfold mediaOriginJson
  split
  next =>
    refine ⟨some ⟨originTweetId.map toString, originUserId.map toString⟩, ?_, rfl, rfl⟩
    apply nullable_of_some rfl
    cases originTweetId <;> cases originUserId <;>
      simp [decodeMediaOrigin, Json.optional, List.lookup_cons, nullOr, idJson, nullable]
  next absent =>
    refine ⟨none, rfl, ?_⟩
    cases originTweetId <;> cases originUserId <;> simp_all

theorem emptyStringAsNone_getD (value : String) : (emptyStringAsNone value).getD "" = value := by
  by_cases empty : value.isEmpty = true
  · simp [emptyStringAsNone, String.isEmpty_iff.mp empty]
  · simp [emptyStringAsNone, empty]

theorem reads_mediaEntityJson {entity : MediaEntity}
    (valid : InOrder entity.rangeStart entity.rangeEnd ∧ Fits 64 entity.mediaId ∧
      FitsId entity.originTweetId ∧ FitsId entity.originUserId) :
    Reads decodeMediaEntity (fun entity item => convertMediaEntity item = .ok entity) entity
      (mediaEntityJson entity) := by
  obtain ⟨inOrder, fits, fitsTweet, fitsUser⟩ := valid
  obtain ⟨origin, readOrigin, isTweet, isUser⟩ :=
    reads_mediaOriginJson entity.originTweetId entity.originUserId
  have readRange := nullable_of_some rfl
    (decodeTextRange_rangeJson entity.rangeStart entity.rangeEnd)
  refine ⟨⟨toString entity.mediaId, some ⟨entity.rangeStart, entity.rangeEnd⟩,
    emptyStringAsNone entity.displayText, emptyStringAsNone entity.expandedUrl,
    emptyStringAsNone entity.url, origin⟩, ?_, ?_⟩
  · simp [decodeMediaEntity, mediaEntityJson, idJson, required, Json.optional, List.lookup_cons,
      readRange,
      readOrigin]
  · simp only [convertMediaEntity, transpose, validateRange_of_inOrder inOrder,
      parseI64Id_toString fits, isTweet, isUser, parseOptionalI64Id_toString fitsTweet,
      parseOptionalI64Id_toString fitsUser, emptyStringAsNone_getD, bind, Except.bind, Except.map,
      pure, Except.pure, Option.getD_some]

theorem reads_styleJson {style : TextStyleRange} {written : Value}
    (built : context.styleJson style = .ok written)
    (inOrder : InOrder style.rangeStart style.rangeEnd) :
    Reads decodeTextStyleRange (fun style item => convertStyle item = .ok style) style written := by
  obtain ⟨styles, areStyles, built⟩ := bind_eq_ok built
  cases built
  rw [eq_of_resolveStringList areStyles]
  refine ⟨⟨⟨style.rangeStart, style.rangeEnd⟩, style.styles⟩, ?_, ?_⟩
  · simp [decodeTextStyleRange, required, listed, defaulted, List.lookup_cons]
  · simp only [convertStyle, validateRange_of_inOrder inOrder, bind, Except.bind, pure, Except.pure]

/-! ## Texts -/

theorem nullable_displayRangeJson {start stop : Option Int} (both : start.isSome = stop.isSome) :
    ∃ range, nullable decodeTextRange (displayRangeJson start stop) = some range ∧
      range.map SubmitTextRange.start = start ∧ range.map SubmitTextRange.stop = stop := by
  cases start with
  | none =>
    cases stop with
    | none => exact ⟨none, rfl, rfl, rfl⟩
    | some stop => cases both
  | some start =>
    cases stop with
    | none => cases both
    | some stop =>
      exact ⟨some ⟨start, stop⟩, nullable_of_some rfl (decodeTextRange_rangeJson start stop), rfl,
        rfl⟩

/-- Symbols that all have a range are converted one after the other. -/
theorem mapM_rangedSymbols {ids : String → Option Int} {tables : LookupTables}
    {entities : List SymbolEntity} {items : List SubmitSymbolEntity}
    (each : List.Forall₂ (StandsForSymbol tables) entities items)
    (agree : ∀ item ∈ items, ids item.text = tables.ids.symbols item.text) :
    ((items.filterMap fun item => item.range.map fun range => (item, range)).mapM
      fun (item, range) => convertSymbol ids item range) = .ok entities := by
  apply mapM_eq_ok.mpr
  induction each with
  | nil => exact .nil
  | cons stands _ inductionHypothesis =>
    obtain ⟨_, range, isRange, converts⟩ := stands
    rw [List.filterMap_cons_some (by rw [isRange]; rfl)]
    exact .cons (converts ids (agree _ List.mem_cons_self))
      (inductionHypothesis fun item later => agree item (List.mem_cons_of_mem _ later))

theorem reads_buildAnnotatedTextJson {text : AnnotatedText} {written : Value}
    (built : context.buildAnnotatedTextJson text = .ok written) (valid : text.Valid) :
    Reads decodeAnnotatedText (StandsForText context.lookups) text written := by
  obtain ⟨hashtags, hashtagsBuilt, built⟩ := bind_eq_ok built
  obtain ⟨symbols, symbolsBuilt, built⟩ := bind_eq_ok built
  obtain ⟨styles, stylesBuilt, built⟩ := bind_eq_ok built
  cases built
  obtain ⟨hashtagItems, readHashtags, areHashtags⟩ :=
    reads_buildList reads_hashtagJson hashtagsBuilt valid.hashtags
  obtain ⟨symbolItems, readSymbols, areSymbols⟩ :=
    reads_buildList reads_symbolJson symbolsBuilt valid.symbols
  obtain ⟨styleItems, readStyles, areStyles⟩ :=
    reads_buildList reads_styleJson stylesBuilt valid.styles
  obtain ⟨urlItems, readUrls, areUrls⟩ :=
    reads_list fun entity member => reads_urlJson (valid.urls entity member)
  obtain ⟨mentionItems, readMentions, areMentions⟩ :=
    reads_list fun entity member => reads_mentionJson (valid.mentions entity member)
  obtain ⟨mediaItems, readMedia, areMedia⟩ :=
    reads_list fun entity member => reads_mediaEntityJson (valid.mediaRefs entity member)
  obtain ⟨range, readRange, isStart, isStop⟩ := nullable_displayRangeJson valid.displayRange
  refine ⟨⟨text.body, range, ⟨hashtagItems, symbolItems, urlItems, mentionItems, mediaItems⟩,
    styleItems⟩, ?_, ⟨⟨?_, ?_⟩, fun store ids agree => ?_⟩⟩
  · simp [decodeAnnotatedText, decodeTextEntities, required, Json.optional, defaulted, listed,
      List.lookup_cons, readRange, readHashtags, readSymbols, readUrls, readMentions, readMedia,
      readStyles]
  · -- Each hashtag of the item is one of the tables.
    intro hashtag member
    obtain ⟨item, isItem, rfl⟩ := List.mem_map.mp member
    obtain ⟨entity, _, stands⟩ := exists_of_forall₂ areHashtags isItem
    exact stands.1
  · intro symbol member
    obtain ⟨item, isItem, rfl⟩ := List.mem_map.mp member
    obtain ⟨entity, _, stands⟩ := exists_of_forall₂ areSymbols isItem
    exact stands.1
  · have agreeHashtags : ∀ item ∈ hashtagItems,
        ids.hashtags item.text = context.lookups.ids.hashtags item.text :=
      fun item member => agree.hashtags ⟨item.text⟩ (List.mem_map_of_mem member)
    have agreeSymbols : ∀ item ∈ symbolItems,
        ids.symbols item.text = context.lookups.ids.symbols item.text :=
      fun item member => agree.symbols _ (List.mem_map_of_mem member)
    have convertedHashtags : hashtagItems.mapM (convertHashtag ids.hashtags) =
        .ok text.hashtags := by
      have each := (List.forall₂_and_left ..).mpr ⟨agreeHashtags, areHashtags.flip⟩
      exact mapM_eq_ok.mpr (each.imp fun _ _ both => both.2.2 _ both.1)
    have convertedSymbols := mapM_rangedSymbols areSymbols agreeSymbols
    simp only [convertAnnotatedText, textHashtagIds, textSymbolIds, rangedSymbols,
      convertedHashtags, convertedSymbols, mapM_of_forall₂ areUrls, mapM_of_forall₂ areMentions,
      mapM_of_forall₂ areMedia, mapM_of_forall₂ areStyles, isStart, isStop, bind, Except.bind,
      pure, Except.pure]

end BuildContext

end TweetDb.Query
