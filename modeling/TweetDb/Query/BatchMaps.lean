import TweetDb.Query.Batch

/-! # The maps of a query

What is found under the key of a selector is its own row, decoded, and the
lookups that are fetched cover what all decoded objects refer to.
-/

namespace TweetDb.Query

open Json Relational
open Submit (LookupTables parseI64Id transpose)
open TweetDb.Tweet (TweetCommunityNote TweetPlace TweetPolicy TweetRow UserSnapshot)

/-! ## Maps -/

section Maps

variable {ρ α κ : Type} {decode : ρ → Except String α} {label : String} {ids : List κ}
  {rows : κ → Option ρ} {key : κ}

theorem lookup_fetchMany [DecidableEq κ] :
    (fetchMany ids rows).lookup key = if key ∈ ids then rows key else none := by
  induction ids with
  | nil => rfl
  | cons id ids inductionHypothesis =>
    unfold fetchMany at inductionHypothesis ⊢
    by_cases same : key = id
    · subst same
      cases found : rows key with
      | none => simp [found, inductionHypothesis]
      | some row => simp [found]
    · have different : (key == id) = false := by simpa using same
      cases found : rows id with
      | none => simp [found, same, inductionHypothesis]
      | some row => simp [found, same, List.lookup_cons, different, inductionHypothesis]

variable [ToString κ]

theorem decodeValue_eq_ok {row : ρ} {value : α} :
    decodeValue decode label key row = .ok value ↔ decode row = .ok value := by
  unfold decodeValue
  cases decode row <;> simp [Except.mapError]

theorem mem_decodedValues {value : α} :
    value ∈ decodedValues (decodeMap decode label (fetchMany ids rows)) ↔
      ∃ id ∈ ids, ∃ row, rows id = some row ∧ decode row = .ok value := by
  constructor
  · intro member
    obtain ⟨_, isEntry, isValue⟩ := List.mem_filterMap.mp member
    obtain ⟨_, isFetched, rfl⟩ := List.mem_map.mp isEntry
    obtain ⟨id, given, isRow⟩ := List.mem_filterMap.mp isFetched
    obtain ⟨row, found, rfl⟩ := Option.map_eq_some_iff.mp isRow
    exact ⟨id, given, row, found, decodeValue_eq_ok.mp (toOption_eq_some isValue)⟩
  · rintro ⟨id, given, row, found, isValue⟩
    have decoded := (@decodeValue_eq_ok _ _ _ decode label id _ row value).mpr isValue
    have isFetched : (id, row) ∈ fetchMany ids rows :=
      List.mem_filterMap.mpr ⟨id, given, by rw [found]; rfl⟩
    exact List.mem_filterMap.mpr ⟨(id, decodeValue decode label id row),
      List.mem_map.mpr ⟨(id, row), isFetched, rfl⟩, by rw [decoded]; rfl⟩

variable [DecidableEq κ]

theorem lookup_decodeMap (values : List (κ × ρ)) :
    (decodeMap decode label values).lookup key =
      (values.lookup key).map (decodeValue decode label key) := by
  induction values with
  | nil => rfl
  | cons entry values inductionHypothesis =>
    obtain ⟨id, value⟩ := entry
    unfold decodeMap at inductionHypothesis ⊢
    by_cases same : key = id
    · subst same
      simp
    · have different : (key == id) = false := by simpa using same
      simp only [List.map_cons, List.lookup_cons, different, inductionHypothesis]

theorem decodeRequired_of_mem (member : key ∈ ids) :
    decodeRequired (decodeMap decode label (fetchMany ids rows)) key =
      (rows key).map (decodeValue decode label key) := by
  rw [decodeRequired, lookup_decodeMap, lookup_fetchMany, if_pos member]

theorem decodeOptional_of_mem (member : key ∈ ids) :
    decodeOptional (decodeMap decode label (fetchMany ids rows)) key =
      transpose (decodeValue decode label key) (rows key) := by
  rw [decodeOptional, lookup_decodeMap, lookup_fetchMany, if_pos member]
  cases rows key with
  | none => rfl
  | some row => cases isValue : decodeValue decode label key row <;> simp [transpose, isValue, Except.map]

end Maps

/-! ## Selections -/

section Selections

variable {field : String} {selectors : List String}

theorem mem_collectUniqueValidIds {parsed : Int} :
    parsed ∈ collectUniqueValidIds (parseI64Selections field selectors) ↔
      ∃ selector ∈ selectors, parseI64Id selector field = .ok parsed := by
  unfold collectUniqueValidIds parseI64Selections
  rw [mem_distinctOn_id, List.filterMap_map, List.mem_filterMap]
  refine exists_congr fun selector => and_congr_right fun _ => ?_
  simp only [Function.comp_apply]
  cases parseI64Id selector field <;> simp

/-- An answer for each selector, if the answers for the valid ids are these. -/
theorem answers_eq_map {batch answer : Int → QueryObject}
    (same : ∀ id ∈ collectUniqueValidIds (parseI64Selections field selectors),
      batch id = answer id) :
    (if (collectUniqueValidIds (parseI64Selections field selectors)).isEmpty then
        (parseI64Selections field selectors).map selectionFailedOrMissing
      else (parseI64Selections field selectors).map (answerSelection batch)) =
      selectors.map fun selector => ⟨some selector, select field selector answer⟩ := by
  split
  next empty =>
    -- Without a valid id nothing is fetched, and every selector failed already.
    have noIds : ∀ selector ∈ selectors, ∀ id, parseI64Id selector field ≠ .ok id := by
      intro selector member id isParsed
      have given := mem_collectUniqueValidIds.mpr ⟨selector, member, isParsed⟩
      rw [List.isEmpty_iff.mp empty] at given
      cases given
    rw [parseI64Selections, List.map_map]
    refine List.map_congr_left fun selector member => ?_
    simp only [Function.comp_apply, select]
    cases isParsed : parseI64Id selector field with
    | ok id => exact absurd isParsed (noIds selector member id)
    | error error => rfl
  next =>
    rw [parseI64Selections, List.map_map]
    refine List.map_congr_left fun selector member => ?_
    simp only [Function.comp_apply, select]
    cases isParsed : parseI64Id selector field with
    | ok id =>
      show (⟨some selector, batch id⟩ : QueryObjectResult) = ⟨some selector, answer id⟩
      rw [same id (mem_collectUniqueValidIds.mpr ⟨selector, member, isParsed⟩)]
    | error error => rfl

end Selections

/-! ## Fetched lookups -/

section Fetched

variable {refs : References} {request : LookupRequest}

theorem find?_filter_id {ρ : Type} (id : ρ → Int) (ids : List Int) (rows : List ρ) {target : Int}
    (asked : target ∈ ids) :
    (rows.filter fun row => !!ids.contains (id row)).find? (fun row => decide (id row = target)) =
      rows.find? fun row => decide (id row = target) := by
  rw [List.find?_filter]
  congr 1
  funext row
  by_cases same : id row = target
  · simp [same, asked]
  · simp [same]

/-- The request asks for all rows of the references. -/
structure LookupRequest.Covers (request : LookupRequest) (refs : References) : Prop where
  hashtags : ∀ id ∈ refs.hashtags, id ∈ request.hashtagIds
  symbols : ∀ id ∈ refs.symbols, id ∈ request.symbolIds
  categories : ∀ id ∈ refs.categories, id ∈ request.categoryIds

theorem LookupRequest.Covers.agreeOn (covers : request.Covers refs) (context : BuildContext) :
    AgreeOn refs (context.withLookups (request.fetch context.lookups)) context where
  formats := rfl
  caches _ _ := rfl
  ids _ _ := rfl
  hashtags id member := find?_filter_id _ _ _ (covers.hashtags id member)
  symbols id member := find?_filter_id _ _ _ (covers.symbols id member)
  categories id member := find?_filter_id _ _ _ (covers.categories id member)

theorem covers_append {refs' : References} (covers : request.Covers refs)
    (covers' : request.Covers refs') : request.Covers (refs ++ refs') where
  hashtags id member := (List.mem_append.mp member).elim (covers.hashtags id) (covers'.hashtags id)
  symbols id member := (List.mem_append.mp member).elim (covers.symbols id) (covers'.symbols id)
  categories id member :=
    (List.mem_append.mp member).elim (covers.categories id) (covers'.categories id)

theorem covers_ofEntries (entries : List Submit.DictEntry) :
    request.Covers (.ofEntries entries) :=
  ⟨fun _ none => absurd none List.not_mem_nil, fun _ none => absurd none List.not_mem_nil,
    fun _ none => absurd none List.not_mem_nil⟩

theorem covers_ofOption {α : Type} {refs : α → References} {value : Option α}
    (covers : ∀ part ∈ value, request.Covers (refs part)) :
    request.Covers (.ofOption refs value) := by
  cases value with
  | none => exact covers_ofEntries []
  | some part => exact covers part rfl

/-- A text whose ids were collected. -/
theorem covers_textRefs {texts : List Tweet.AnnotatedText} {text : Tweet.AnnotatedText}
    (hashtags : request.hashtagIds = (collectTextLookups texts).hashtagIds)
    (symbols : request.symbolIds = (collectTextLookups texts).symbolIds)
    (member : text ∈ texts) : request.Covers (textRefs text) where
  hashtags _ isId := hashtags ▸ List.mem_flatMap.mpr ⟨text, member, isId⟩
  symbols _ isId := symbols ▸ List.mem_flatMap.mpr ⟨text, member, isId⟩
  categories _ none := absurd none List.not_mem_nil

/-- What a collected snapshot refers to was asked for. -/
theorem covers_snapshotRefs {snapshots : List UserSnapshot} {snapshot : UserSnapshot}
    (member : snapshot ∈ snapshots) :
    (collectUserLookups snapshots).Covers (snapshotRefs snapshot) := by
  refine covers_append (covers_append (covers_append ?_ (covers_ofEntries _)) ?_) ?_
  · refine covers_ofOption fun bio isBio => ?_
    have isText : bio ∈ snapshots.flatMap fun snapshot => snapshot.content.bio.toList :=
      List.mem_flatMap.mpr ⟨snapshot, member, Option.mem_toList.mpr isBio⟩
    exact covers_textRefs rfl rfl isText
  · refine covers_ofOption fun identity _ => ?_
    exact covers_append (covers_append (covers_ofEntries _) (covers_ofEntries _))
      (covers_ofEntries _)
  · refine covers_ofOption fun professional isProfessional => ?_
    refine ⟨fun _ none => absurd none List.not_mem_nil, fun _ none => absurd none List.not_mem_nil,
      fun id isId => List.mem_flatMap.mpr ⟨snapshot, member, ?_⟩⟩
    cases isProfessional' : snapshot.content.professional with
    | none => simp [isProfessional'] at isProfessional
    | some other =>
      simp only [isProfessional', Option.mem_def, Option.some.injEq] at isProfessional
      subst isProfessional
      exact isId

theorem covers_noteRefs {tweets : List TweetRow} {notes : List TweetCommunityNote}
    {note : TweetCommunityNote} (member : note ∈ notes) :
    (collectTweetLookups tweets notes).Covers (noteRefs note) := by
  have texts : ∀ text ∈ note.subtitle.toList ++ note.footer.toList,
      (collectTweetLookups tweets notes).Covers (textRefs text) := fun text isText =>
    covers_textRefs rfl rfl (List.mem_append_right _ (List.mem_flatMap.mpr ⟨note, member, isText⟩))
  refine covers_append (covers_ofOption fun text isText => ?_)
    (covers_ofOption fun text isText => ?_)
  · exact texts text (List.mem_append_left _ (Option.mem_toList.mpr isText))
  · exact texts text (List.mem_append_right _ (Option.mem_toList.mpr isText))

/-- And so is what a tweet and its note refer to. -/
theorem covers_tweetPartRefs {tweets : List TweetRow} {notes : List TweetCommunityNote}
    {tweet : TweetRow} {note : Option TweetCommunityNote} (member : tweet ∈ tweets)
    (noteMember : ∀ part ∈ note, part ∈ notes) (place : Option TweetPlace)
    (policy : Option TweetPolicy) :
    (collectTweetLookups tweets notes).Covers (tweetPartRefs tweet place policy note) := by
  have texts : ∀ text ∈ tweet.legacyText :: tweet.noteText.toList,
      (collectTweetLookups tweets notes).Covers (textRefs text) := fun text isText =>
    covers_textRefs rfl rfl (List.mem_append_left _ (List.mem_flatMap.mpr ⟨tweet, member, isText⟩))
  refine covers_append (covers_append (covers_append ?_ ?_) ?_) ?_
  · refine covers_append (covers_append (covers_append (covers_ofEntries _) ?_) ?_)
      (covers_ofEntries _)
    · exact texts tweet.legacyText List.mem_cons_self
    · exact covers_ofOption fun text isText =>
        texts text (List.mem_cons_of_mem _ (Option.mem_toList.mpr isText))
  · exact covers_ofOption fun place _ => covers_ofEntries _
  · exact covers_ofOption fun policy _ => covers_ofEntries _
  · exact covers_ofOption fun part isPart => covers_noteRefs (noteMember part isPart)

end Fetched

end TweetDb.Query
