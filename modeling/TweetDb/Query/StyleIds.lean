import TweetDb.Fallible
import TweetDb.Query.Build
import TweetDb.Submit.DictionaryCache

/-! # Texts with style ids

`AnnotatedTextPayload` as it is stored, and `DbAnnotatedText` as it is read
back: the styles are ids of the string dictionary.  A text is stored and built
as the one that has the names in place of the ids.
-/

namespace TweetDb.Submit

open Fallible Relational Transition
open TweetModel (normalizeValue)

namespace CacheState

variable (cache : CacheState)

/-- `ensure_ids`, as soon as all values are cached. -/
def ensureIds (semantic : StringSemantic) (values : List String) : Option (List Int) :=
  (values.filterMap normalizeValue).mapM fun value => cache.byKey ⟨semantic, value⟩

variable {cache}

theorem ensureIds_eq_some {semantic : StringSemantic} {values : List String} {ids : List Int} :
    cache.ensureIds semantic values = some ids ↔
      List.Forall₂ (fun value id => cache.byKey ⟨semantic, value⟩ = some id)
        (values.filterMap normalizeValue) ids :=
  mapM_eq_some

theorem filterMap_normalizeValue (values : List String) :
    (values.filterMap normalizeValue).filterMap normalizeValue =
      values.filterMap normalizeValue := by
  induction values with
  | nil => rfl
  | cons value values inductionHypothesis =>
    cases isNormalized : normalizeValue value with
    | none => simp [isNormalized, inductionHypothesis]
    | some normalized =>
      simp [isNormalized, normalizeValue_eq isNormalized, inductionHypothesis]

/-- The names that are stored have the same ids. -/
theorem ensureIds_normalized (semantic : StringSemantic) (values : List String) :
    cache.ensureIds semantic (TweetModel.ensureIds values) = cache.ensureIds semantic values := by
  rw [ensureIds, TweetModel.ensureIds, filterMap_normalizeValue]
  rfl

end CacheState

end TweetDb.Submit

namespace TweetDb.Query

open Fallible Json
open Submit (CacheState DictEntry)
open TweetDb.Tweet (AnnotatedText HashtagEntity MediaEntity MentionEntity SymbolEntity
  TextStyleRange UrlEntity)

/-! ## Payloads -/

/-- `TextStyleRangePayload`, and `DbTextStyleRange`. -/
structure DbTextStyleRange where
  rangeStart : Int
  rangeEnd : Int
  styleIds : List Int
deriving DecidableEq, Repr

/-- `AnnotatedTextPayload`, and `DbAnnotatedText`. -/
structure DbAnnotatedText where
  body : String
  displayRangeStart : Option Int
  displayRangeEnd : Option Int
  hashtags : List HashtagEntity
  symbols : List SymbolEntity
  urls : List UrlEntity
  mentions : List MentionEntity
  mediaRefs : List MediaEntity
  styles : List DbTextStyleRange
deriving DecidableEq, Repr

/-- `text_style_range_payload`. -/
def textStyleRangePayload (cache : CacheState) (value : TextStyleRange) :
    Option DbTextStyleRange := do
  let styleIds ← cache.ensureIds .tweetTextStyleName value.styles
  return ⟨value.rangeStart, value.rangeEnd, styleIds⟩

/-- `annotated_text_payload`. -/
def annotatedTextPayload (cache : CacheState) (value : AnnotatedText) :
    Option DbAnnotatedText := do
  let styles ← value.styles.mapM (textStyleRangePayload cache)
  return { body := value.body
           displayRangeStart := value.displayRangeStart
           displayRangeEnd := value.displayRangeEnd
           hashtags := value.hashtags
           symbols := value.symbols
           urls := value.urls
           mentions := value.mentions
           mediaRefs := value.mediaRefs
           styles := styles }

/-- The names that are stored have the same payload. -/
theorem textStyleRangePayload_normalized (cache : CacheState) (value : TextStyleRange) :
    textStyleRangePayload cache (TweetModel.textStyleRangePayload value) =
      textStyleRangePayload cache value := by
  unfold textStyleRangePayload TweetModel.textStyleRangePayload
  rw [CacheState.ensureIds_normalized]

theorem annotatedTextPayload_normalized (cache : CacheState) (value : AnnotatedText) :
    annotatedTextPayload cache (TweetModel.annotatedTextPayload value) =
      annotatedTextPayload cache value := by
  unfold annotatedTextPayload TweetModel.annotatedTextPayload
  simp only [List.mapM_map, Function.comp_def, textStyleRangePayload_normalized]

/-! ## Columns -/

def rangeFields (start stop : Int) : List (String × Value) :=
  [("range_start", .int start), ("range_end", .int stop)]

def hashtagRefJson (entity : HashtagEntity) : Value :=
  .object (("hashtag_id", .int entity.hashtagId) :: rangeFields entity.rangeStart entity.rangeEnd)

def symbolRefJson (entity : SymbolEntity) : Value :=
  .object (("symbol_id", .int entity.symbolId) :: rangeFields entity.rangeStart entity.rangeEnd)

def urlEntityJson (entity : UrlEntity) : Value := .object ([
  ("url", .string entity.url),
  ("expanded_url", .string entity.expandedUrl),
  ("display_text", .string entity.displayText)] ++ rangeFields entity.rangeStart entity.rangeEnd)

def mentionEntityJson (entity : MentionEntity) : Value :=
  .object (("user_id", .int entity.userId) :: rangeFields entity.rangeStart entity.rangeEnd)

def dbMediaEntityJson (entity : MediaEntity) : Value := .object ([
  ("media_id", .int entity.mediaId),
  ("display_text", .string entity.displayText),
  ("expanded_url", .string entity.expandedUrl),
  ("url", .string entity.url),
  ("origin_tweet_id", nullOr .int entity.originTweetId),
  ("origin_user_id", nullOr .int entity.originUserId)] ++
    rangeFields entity.rangeStart entity.rangeEnd)

def dbTextStyleRangeJson (style : DbTextStyleRange) : Value :=
  .object (("style_ids", list .int style.styleIds) :: rangeFields style.rangeStart style.rangeEnd)

/-- What is sent to the database, which gives the same columns back. -/
def DbAnnotatedText.json (text : DbAnnotatedText) : Value := .object [
  ("body", .string text.body),
  ("display_range_start", nullOr .int text.displayRangeStart),
  ("display_range_end", nullOr .int text.displayRangeEnd),
  ("hashtags", list hashtagRefJson text.hashtags),
  ("symbols", list symbolRefJson text.symbols),
  ("urls", list urlEntityJson text.urls),
  ("mentions", list mentionEntityJson text.mentions),
  ("media_refs", list dbMediaEntityJson text.mediaRefs),
  ("styles", list dbTextStyleRangeJson text.styles)]

def decodeHashtagRef : Decoder HashtagEntity := record fun fields => do
  let hashtagId ← required integer "hashtag_id" fields
  let rangeStart ← required integer "range_start" fields
  let rangeEnd ← required integer "range_end" fields
  return ⟨hashtagId, rangeStart, rangeEnd⟩

def decodeSymbolRef : Decoder SymbolEntity := record fun fields => do
  let symbolId ← required integer "symbol_id" fields
  let rangeStart ← required integer "range_start" fields
  let rangeEnd ← required integer "range_end" fields
  return ⟨symbolId, rangeStart, rangeEnd⟩

def decodeDbUrlEntity : Decoder UrlEntity := record fun fields => do
  let url ← required text "url" fields
  let expandedUrl ← required text "expanded_url" fields
  let displayText ← required text "display_text" fields
  let rangeStart ← required integer "range_start" fields
  let rangeEnd ← required integer "range_end" fields
  return ⟨url, expandedUrl, displayText, rangeStart, rangeEnd⟩

def decodeDbMentionEntity : Decoder MentionEntity := record fun fields => do
  let userId ← required integer "user_id" fields
  let rangeStart ← required integer "range_start" fields
  let rangeEnd ← required integer "range_end" fields
  return ⟨userId, rangeStart, rangeEnd⟩

def decodeDbMediaEntity : Decoder MediaEntity := record fun fields => do
  let mediaId ← required integer "media_id" fields
  let rangeStart ← required integer "range_start" fields
  let rangeEnd ← required integer "range_end" fields
  let displayText ← required text "display_text" fields
  let expandedUrl ← required text "expanded_url" fields
  let url ← required text "url" fields
  let originTweetId ← optional integer "origin_tweet_id" fields
  let originUserId ← optional integer "origin_user_id" fields
  return ⟨mediaId, rangeStart, rangeEnd, displayText, expandedUrl, url, originTweetId,
    originUserId⟩

def decodeDbTextStyleRange : Decoder DbTextStyleRange := record fun fields => do
  let rangeStart ← required integer "range_start" fields
  let rangeEnd ← required integer "range_end" fields
  let styleIds ← listed integer "style_ids" fields
  return ⟨rangeStart, rangeEnd, styleIds⟩

/-- The `Deserialize` derivation of `DbAnnotatedText`. -/
def decodeDbAnnotatedText : Decoder DbAnnotatedText := record fun fields => do
  let body ← required text "body" fields
  let displayRangeStart ← optional integer "display_range_start" fields
  let displayRangeEnd ← optional integer "display_range_end" fields
  let hashtags ← listed decodeHashtagRef "hashtags" fields
  let symbols ← listed decodeSymbolRef "symbols" fields
  let urls ← listed decodeDbUrlEntity "urls" fields
  let mentions ← listed decodeDbMentionEntity "mentions" fields
  let mediaRefs ← listed decodeDbMediaEntity "media_refs" fields
  let styles ← listed decodeDbTextStyleRange "styles" fields
  return ⟨body, displayRangeStart, displayRangeEnd, hashtags, symbols, urls, mentions, mediaRefs,
    styles⟩

theorem decode_hashtagRefJson (entity : HashtagEntity) :
    decodeHashtagRef (hashtagRefJson entity) = some entity := by
  simp [decodeHashtagRef, hashtagRefJson, rangeFields, required, List.lookup_cons]

theorem decode_symbolRefJson (entity : SymbolEntity) :
    decodeSymbolRef (symbolRefJson entity) = some entity := by
  simp [decodeSymbolRef, symbolRefJson, rangeFields, required, List.lookup_cons]

theorem decode_urlEntityJson (entity : UrlEntity) :
    decodeDbUrlEntity (urlEntityJson entity) = some entity := by
  simp [decodeDbUrlEntity, urlEntityJson, rangeFields, required, List.lookup_cons]

theorem decode_mentionEntityJson (entity : MentionEntity) :
    decodeDbMentionEntity (mentionEntityJson entity) = some entity := by
  simp [decodeDbMentionEntity, mentionEntityJson, rangeFields, required, List.lookup_cons]

theorem decode_dbMediaEntityJson (entity : MediaEntity) :
    decodeDbMediaEntity (dbMediaEntityJson entity) = some entity := by
  simp [decodeDbMediaEntity, dbMediaEntityJson, rangeFields, required, Json.optional,
    List.lookup_cons]

theorem decode_dbTextStyleRangeJson (style : DbTextStyleRange) :
    decodeDbTextStyleRange (dbTextStyleRangeJson style) = some style := by
  have ids := items_list integer_int style.styleIds
  simp [decodeDbTextStyleRange, dbTextStyleRangeJson, rangeFields, required, listed, defaulted,
    List.lookup_cons, ids]

/-- A text is read back as it was stored. -/
theorem decode_json (text : DbAnnotatedText) : decodeDbAnnotatedText text.json = some text := by
  simp [decodeDbAnnotatedText, DbAnnotatedText.json, required, Json.optional, listed, defaulted,
    List.lookup_cons, items_list decode_hashtagRefJson, items_list decode_symbolRefJson,
    items_list decode_urlEntityJson, items_list decode_mentionEntityJson,
    items_list decode_dbMediaEntityJson, items_list decode_dbTextStyleRangeJson]

/-! ## Building -/

namespace BuildContext

variable (context : BuildContext) (cache : CacheState)

def dbStyleJson (style : DbTextStyleRange) : Except String Value := do
  let styles ← style.styleIds.mapM fun id =>
    cache.resolveString id .tweetTextStyleName "text.styles"
  return .object [
    ("range", rangeJson style.rangeStart style.rangeEnd),
    ("styles", list .string styles)]

/-- `build_annotated_text_json`, of what is stored. -/
def buildDbAnnotatedTextJson (text : DbAnnotatedText) : Except String Value := do
  let hashtags ← buildList context.hashtagJson text.hashtags
  let symbols ← buildList context.symbolJson text.symbols
  let styles ← buildList (dbStyleJson cache) text.styles
  return .object [
    ("text", .string text.body),
    ("displayRange", displayRangeJson text.displayRangeStart text.displayRangeEnd),
    ("entities", .object [
      ("hashtags", hashtags),
      ("symbols", symbols),
      ("urls", list urlJson text.urls),
      ("mentions", list mentionJson text.mentions),
      ("media", list mediaEntityJson text.mediaRefs)]),
    ("styles", styles)]

/-- The context whose dictionary is the cache. -/
def withCache : BuildContext :=
  { context with dict := ⟨fun entry => (cache.byKey entry).getD 0, fun entry =>
      (cache.byKey entry).isSome⟩ }

variable {context cache}

/-- Names that have ids are cached. -/
theorem resolveStringList_of_ensureIds {values : List String} {ids : List Int}
    (ensured : cache.ensureIds .tweetTextStyleName values = some ids) (field : String) :
    (context.withCache cache).resolveStringList (TweetModel.ensureIds values) .tweetTextStyleName
      field = .ok (TweetModel.ensureIds values) := by
  have each := (CacheState.ensureIds_eq_some.mp ensured).flip
  apply Submit.mapM_eq_ok.mpr
  rw [List.forall₂_same]
  intro value member
  obtain ⟨id, _, isId⟩ := Submit.exists_of_forall₂ each member
  simp [resolveString, withCache, isId]

/-- The ids of names are resolved to the names. -/
theorem mapM_resolveString_of_ensureIds
    (inverse : ∀ entry id, cache.byKey entry = some id ↔ cache.byId id = some entry)
    {values : List String} {ids : List Int}
    (ensured : cache.ensureIds .tweetTextStyleName values = some ids) (field : String) :
    (ids.mapM fun id => cache.resolveString id .tweetTextStyleName field) =
      .ok (TweetModel.ensureIds values) := by
  have each := (CacheState.ensureIds_eq_some.mp ensured).flip
  refine Submit.mapM_eq_ok.mpr (each.imp fun id value isId => ?_)
  exact Submit.resolveString_of_cached ((inverse _ id).mp isId) field

variable (context)

theorem dbStyleJson_eq
    (inverse : ∀ entry id, cache.byKey entry = some id ↔ cache.byId id = some entry)
    {style : TextStyleRange} {stored : DbTextStyleRange}
    (isStored : textStyleRangePayload cache style = some stored) :
    dbStyleJson cache stored =
      (context.withCache cache).styleJson (TweetModel.textStyleRangePayload style) := by
  obtain ⟨ids, ensured, same⟩ := Option.bind_eq_some_iff.mp isStored
  cases same
  have names := @resolveStringList_of_ensureIds context cache _ _ ensured "text.styles"
  have resolved := mapM_resolveString_of_ensureIds inverse ensured "text.styles"
  simp only [dbStyleJson, styleJson, TweetModel.textStyleRangePayload, names, resolved]

/-- A stored text is built as the text with the names that are stored. -/
theorem buildDbAnnotatedTextJson_eq
    (inverse : ∀ entry id, cache.byKey entry = some id ↔ cache.byId id = some entry)
    {text : AnnotatedText} {stored : DbAnnotatedText}
    (isStored : annotatedTextPayload cache text = some stored) :
    context.buildDbAnnotatedTextJson cache stored =
      (context.withCache cache).buildAnnotatedTextJson (TweetModel.annotatedTextPayload text) := by
  obtain ⟨styles, areStyles, same⟩ := Option.bind_eq_some_iff.mp isStored
  cases same
  -- Only the styles are stored by number.
  have stylesJson : buildList (dbStyleJson cache) styles =
      buildList (context.withCache cache).styleJson
        (text.styles.map TweetModel.textStyleRangePayload) := by
    have each := (mapM_eq_some.mp areStyles).flip.imp fun _ _ isStored =>
      dbStyleJson_eq context inverse isStored
    rw [buildList, buildList, mapM_congr_forall₂ (List.forall₂_map_right_iff.mpr each)]
  unfold buildDbAnnotatedTextJson buildAnnotatedTextJson
  rw [stylesJson]
  rfl

end BuildContext

end TweetDb.Query
