import TweetDb.Query.Known
import TweetDb.Submit.ConversionRuns

/-! # What a call resolves before it writes

The ids of hashtags, symbols and categories come from answered lookups, and the
dictionary entries are ensured by the preload.  So every object of the batch is
resolved before the first statement.
-/

namespace TweetDb.Query

open Relational Submit TweetModel
open TweetDb.Tweet (AnnotatedText TweetCommunityNote TweetPlace TweetPolicy TweetRow UserIdentity
  UserProfessional)

/-! ## Ensured entries -/

/-- The normalised entries that `ensure_many` asks for. -/
def ensured (entries : List DictEntry) : List DictEntry :=
  entries.filterMap fun entry => (normalizeValue entry.value).map (DictEntry.mk entry.semantic)

@[simp] theorem ensured_nil : ensured [] = [] := rfl

@[simp] theorem ensured_append (entries entries' : List DictEntry) :
    ensured (entries ++ entries') = ensured entries ++ ensured entries' :=
  List.filterMap_append

@[simp] theorem ensured_optionalEntry (semantic : StringSemantic) (value : Option String) :
    ensured (optionalEntry semantic value) = optionalEntry semantic (ensureId value) := by
  cases value with
  | none => rfl
  | some value =>
    cases normalized : normalizeValue value <;>
      simp [ensured, optionalEntry, ensureId, normalized]

@[simp] theorem ensured_map (semantic : StringSemantic) (values : List String) :
    ensured (values.map (DictEntry.mk semantic)) =
      (ensureIds values).map (DictEntry.mk semantic) := by
  induction values with
  | nil => rfl
  | cons value values inductionHypothesis =>
    have rest : (values.map (DictEntry.mk semantic)).filterMap (fun entry =>
        (normalizeValue entry.value).map (DictEntry.mk entry.semantic)) =
          (values.filterMap normalizeValue).map (DictEntry.mk semantic) := inductionHypothesis
    cases normalized : normalizeValue value <;>
      simp [ensured, ensureIds, normalized, rest]

@[simp] theorem ensured_elim {α : Type} (entries : α → List DictEntry) (value : Option α) :
    ensured (value.elim [] entries) = value.elim [] fun part => ensured (entries part) := by
  cases value <;> rfl

theorem ensured_flatMap {α : Type} (entries : α → List DictEntry) (values : List α) :
    ensured (values.flatMap entries) = values.flatMap fun value => ensured (entries value) := by
  simp only [ensured, List.filterMap_flatMap]

theorem mem_ensured_flatMap {α : Type} {entries : α → List DictEntry} {values : List α} {value : α}
    (member : value ∈ values) {entry : DictEntry} (isEntry : entry ∈ ensured (entries value)) :
    entry ∈ ensured (values.flatMap entries) := by
  rw [ensured_flatMap]
  exact List.mem_flatMap.mpr ⟨value, member, isEntry⟩

/-- The entries of a batch, in the order of `preload_submit_batch_dicts`. -/
def preloadDicts (prepared : PreparedSubmitBatch) : List DictEntry :=
  (prepared.userSnapshots.flatMap fun item => userSnapshotDicts item.value) ++
    (prepared.tweetPlaces.flatMap fun item => tweetPlaceDicts item.value) ++
    (prepared.tweets.flatMap fun item => tweetDicts item.value) ++
    (prepared.tweetPolicies.flatMap fun item => tweetPolicyDicts item.value) ++
    (prepared.tweetCommunityNotes.flatMap fun item => tweetCommunityNoteDicts item.value) ++
    (prepared.media.flatMap fun item => mediaDicts item.value) ++
    (prepared.mediaResources.flatMap fun item => mediaResourceDicts item.value)

/-! ## Answered lookups -/

/-- The answers of the lookups of a context have rows. -/
structure Answers (lookups : LookupTables) (context : PrepareContext) : Prop where
  hashtags : ∀ value ids tag id, context.hashtagIds value = .ok ids → ids tag = some id →
    (lookups.hashtag id).isSome = true
  symbols : ∀ value ids symbol id, context.symbolIds value = .ok ids → ids symbol = some id →
    (lookups.symbol id).isSome = true
  categories : ∀ categories ids code id, context.categoryIds categories = .ok ids →
    ids code = some id → (lookups.userCategory id).isSome = true

section Answered

variable {lookups : LookupTables} {store : LookupStore}

theorem hashtag_of_ids {tag : String} {id : Int} (found : lookups.ids.hashtags tag = some id) :
    (lookups.hashtag id).isSome = true := by
  obtain ⟨row, isRow, rfl⟩ := Option.map_eq_some_iff.mp found
  exact find_id_isSome.mpr ⟨row, Table.mem_of_find isRow, rfl⟩

theorem symbol_of_ids {symbol : String} {id : Int} (found : lookups.ids.symbols symbol = some id) :
    (lookups.symbol id).isSome = true := by
  obtain ⟨row, isRow, rfl⟩ := Option.map_eq_some_iff.mp found
  exact find_id_isSome.mpr ⟨row, Table.mem_of_find isRow, rfl⟩

theorem category_of_ids {code id : Int} (found : lookups.ids.userCategories code = some id) :
    (lookups.userCategory id).isSome = true := by
  obtain ⟨row, isRow, rfl⟩ := Option.map_eq_some_iff.mp found
  exact find_id_isSome.mpr ⟨row, Table.mem_of_find isRow, rfl⟩

/-- Resolved with the request or on its own, an id is one that the store answered with. -/
theorem answers_of_answered {parseUuid : String → Option Uuid} {payload : SubmitTweetRequest}
    (answered : lookups.Answered store) :
    Answers lookups ⟨store, (resolveSubmitLookupIds store payload).toOption, parseUuid⟩ := by
  cases resolution : resolveSubmitLookupIds store payload with
  | error error =>
    constructor
    · exact fun _ ids tag id isIds found =>
        hashtag_of_ids (answered.hashtags _ ids tag id isIds found)
    · exact fun _ ids symbol id isIds found =>
        symbol_of_ids (answered.symbols _ ids symbol id isIds found)
    · exact fun _ ids code id isIds found =>
        category_of_ids (answered.userCategories _ ids code id isIds found)
  | ok resolved =>
    obtain ⟨categories, areCategories, resolution⟩ := bind_eq_ok resolution
    obtain ⟨hashtags, areHashtags, resolution⟩ := bind_eq_ok resolution
    obtain ⟨symbols, areSymbols, resolution⟩ := bind_eq_ok resolution
    cases resolution
    constructor
    · intro _ ids tag id isIds found
      cases isIds
      exact hashtag_of_ids (answered.hashtags _ _ tag id areHashtags found)
    · intro _ ids symbol id isIds found
      cases isIds
      exact symbol_of_ids (answered.symbols _ _ symbol id areSymbols found)
    · intro _ ids code id isIds found
      cases isIds
      exact category_of_ids (answered.userCategories _ _ code id areCategories found)

end Answered

/-! ## Converted objects -/

theorem resolved_eq_ok {α : Type} {what : String} {ids : α → Option Int} {key : α} {id : Int}
    (found : resolved what ids key = .ok id) : ids key = some id := by
  unfold resolved at found
  split at found
  next isId => exact isId.trans (congrArg some (Except.ok.inj found))
  next => cases found

section Converted

variable {known : Known} {context : PrepareContext} (answers : Answers known.lookups context)

include answers

/-- The rows of a converted text. -/
theorem hasRows_of_convertAnnotatedText {value : SubmitAnnotatedText} {text : AnnotatedText}
    (ran : convertAnnotatedText context.store context.lookupIds value = .ok text) :
    HasRows (textRefs (TweetModel.annotatedTextPayload text)) known.lookups := by
  have parts := convertsText_of_convert ran
  obtain ⟨hashtagIds, areHashtagIds, areHashtags⟩ := parts.hashtags
  obtain ⟨symbolIds, areSymbolIds, areSymbols⟩ := parts.symbols
  refine ⟨fun id member => ?_, fun id member => ?_, fun _ none => absurd none List.not_mem_nil⟩
  · obtain ⟨entity, isEntity, rfl⟩ := List.mem_map.mp member
    obtain ⟨item, _, made⟩ := exists_of_forall₂ (mapM_eq_ok.mp areHashtags) isEntity
    obtain ⟨range, _, made⟩ := bind_eq_ok made
    obtain ⟨id, isId, made⟩ := bind_eq_ok made
    cases made
    exact answers.hashtags value hashtagIds _ id areHashtagIds (resolved_eq_ok isId)
  · obtain ⟨entity, isEntity, rfl⟩ := List.mem_map.mp member
    obtain ⟨item, _, made⟩ := exists_of_forall₂ (mapM_eq_ok.mp areSymbols) isEntity
    obtain ⟨range, _, made⟩ := bind_eq_ok made
    obtain ⟨id, isId, made⟩ := bind_eq_ok made
    cases made
    exact answers.symbols value symbolIds _ id areSymbolIds (resolved_eq_ok isId)

theorem resolves_of_convertAnnotatedText {value : SubmitAnnotatedText} {text : AnnotatedText}
    (ran : convertAnnotatedText context.store context.lookupIds value = .ok text)
    (cached : ∀ entry ∈ ensured (annotatedTextDicts text), known.caches entry = true) :
    known.Resolves (textRefs (TweetModel.annotatedTextPayload text)) := by
  refine ⟨hasRows_of_convertAnnotatedText answers ran, fun entry member => cached entry ?_⟩
  rw [annotatedTextDicts, ensured_flatMap]
  simpa [textRefs, annotatedTextDicts, TweetModel.annotatedTextPayload,
    TweetModel.textStyleRangePayload] using member

theorem resolves_of_transpose {α : Type} {given : α → SubmitAnnotatedText} {value : Option α}
    {text : Option AnnotatedText}
    (ran : transpose (fun item => convertAnnotatedText context.store context.lookupIds (given item))
      value = .ok text)
    (cached : ∀ entry ∈ text.elim [] fun part => ensured (annotatedTextDicts part),
      known.caches entry = true) :
    ∀ part ∈ text.map TweetModel.annotatedTextPayload, known.Resolves (textRefs part) := by
  intro part isPart
  obtain ⟨text, rfl, rfl⟩ := Option.map_eq_some_iff.mp isPart
  obtain ⟨value, _, ran⟩ := transpose_eq_some ran
  exact resolves_of_convertAnnotatedText answers ran cached

theorem categories_of_convertUserProfessional {value : SubmitUserProfessional}
    {professional : UserProfessional}
    (ran : convertUserProfessional context.store context.lookupIds value = .ok professional) :
    ∀ id ∈ professional.categoryIds, (known.lookups.userCategory id).isSome = true := by
  rw [convertUserProfessional_eq] at ran
  obtain ⟨categories, _, ran⟩ := bind_eq_ok ran
  obtain ⟨ids, areIds, ran⟩ := bind_eq_ok ran
  obtain ⟨categoryIds, areCategoryIds, ran⟩ := bind_eq_ok ran
  obtain ⟨professionalId, _, ran⟩ := bind_eq_ok ran
  cases ran
  intro id member
  obtain ⟨category, _, found⟩ := exists_of_forall₂ (mapM_eq_ok.mp areCategoryIds) member
  exact answers.categories categories ids _ id areIds (resolved_eq_ok found)

omit answers in
theorem resolves_userIdentityPayload {identity : UserIdentity}
    (verification : ∀ part ∈ ensureId (identity.verification.bind
      Tweet.UserVerification.verifiedType), known.caches ⟨.tweetUserVerificationType, part⟩ = true)
    (disclosure : ∀ part ∈ ensureId (identity.disclosure.bind Tweet.UserDisclosure.relation),
      known.caches ⟨.tweetUserDisclosureRelation, part⟩ = true)
    (parodyLabel : ∀ part ∈ ensureId identity.parodyLabel,
      known.caches ⟨.tweetUserParodyLabel, part⟩ = true) :
    known.Resolves (identityRefs (userIdentityPayload identity)) := by
  simp only [identityRefs, Known.resolves_append, Known.resolves_ofEntries]
  refine ⟨⟨?_, ?_⟩, Known.forall_optionalEntry.mpr parodyLabel⟩
  · cases isVerification : identity.verification with
    | none => simp [userIdentityPayload, isVerification]
    | some given =>
      rw [isVerification] at verification
      simpa [userIdentityPayload, isVerification, userVerificationPayload] using verification
  · cases isDisclosure : identity.disclosure with
    | none => simp [userIdentityPayload, isDisclosure]
    | some given =>
      rw [isDisclosure] at disclosure
      simpa [userIdentityPayload, isDisclosure, userDisclosurePayload] using disclosure

theorem resolves_of_convertUserProfessional {value : Option SubmitUserProfessional}
    {professional : Option UserProfessional}
    (ran : transpose (convertUserProfessional context.store context.lookupIds) value =
      .ok professional)
    (cached : ∀ part ∈ ensureId (professional.bind UserProfessional.professionalType),
      known.caches ⟨.tweetUserProfessionalType, part⟩ = true) :
    ∀ part ∈ professional.map userProfessionalPayload, known.Resolves (professionalRefs part) := by
  intro part isPart
  obtain ⟨professional, rfl, rfl⟩ := Option.map_eq_some_iff.mp isPart
  obtain ⟨value, _, ran⟩ := transpose_eq_some ran
  have rows := categories_of_convertUserProfessional answers ran
  exact ⟨⟨fun _ none => absurd none List.not_mem_nil, fun _ none => absurd none List.not_mem_nil,
    rows⟩, Known.forall_optionalEntry.mpr cached⟩

theorem resolves_of_convertUserSnapshot {userId : Int} {user : SubmitUser}
    {profile : SubmitUserProfile} {now : OffsetDateTime} {snapshot : TweetModel.UserSnapshot}
    (ran : convertUserSnapshot context.store context.lookupIds userId user profile now =
      .ok snapshot)
    (cached : ∀ entry ∈ ensured (userSnapshotDicts snapshot), known.caches entry = true) :
    known.Resolves (snapshotRefs snapshot.payload.toVersion) := by
  obtain ⟨bio, isBio, ran⟩ := bind_eq_ok ran
  obtain ⟨identity, _, ran⟩ := bind_eq_ok ran
  obtain ⟨professional, isProfessional, ran⟩ := bind_eq_ok ran
  obtain ⟨pinned, _, ran⟩ := bind_eq_ok ran
  cases ran
  simp only [userSnapshotDicts, ensured_append, ensured_optionalEntry, ensured_elim,
    List.forall_mem_append, Known.forall_optionalEntry] at cached
  obtain ⟨⟨⟨avatarShape, bioCached⟩, identityCached⟩, professionalType⟩ := cached
  refine Known.resolves_append.mpr ⟨Known.resolves_append.mpr ⟨Known.resolves_append.mpr
    ⟨?_, ?_⟩, ?_⟩, ?_⟩
  · exact Known.resolves_ofOption.mpr (resolves_of_transpose answers isBio bioCached)
  · exact Known.resolves_ofEntries.mpr (Known.forall_optionalEntry.mpr avatarShape)
  · refine Known.resolves_ofOption.mpr fun part isPart => ?_
    obtain ⟨identity, rfl, rfl⟩ := Option.map_eq_some_iff.mp isPart
    simp only [Option.elim_some, List.forall_mem_append, Known.forall_optionalEntry]
      at identityCached
    exact resolves_userIdentityPayload identityCached.1.1 identityCached.1.2 identityCached.2
  · exact Known.resolves_ofOption.mpr
      (resolves_of_convertUserProfessional answers isProfessional professionalType)

theorem resolves_of_convertTweet {tweetId authorId : Int} {placeId : Option String}
    {value : SubmitTweet} {now : OffsetDateTime} {converted : ConvertedTweet}
    (ran : convertTweet context.store context.lookupIds tweetId authorId placeId value now =
      .ok converted)
    (cached : ∀ entry ∈ ensured (tweetDicts converted.tweet), known.caches entry = true) :
    known.Resolves (tweetRefs (tweetPayload converted.tweet)) := by
  obtain ⟨legacyText, isText, ran⟩ := bind_eq_ok ran
  obtain ⟨noteText, isNote, ran⟩ := bind_eq_ok ran
  have texts : converted.tweet.legacyText = legacyText ∧ converted.tweet.noteText = noteText := by
    obtain ⟨_, _, ran⟩ := bind_eq_ok ran
    obtain ⟨_, _, ran⟩ := bind_eq_ok ran
    obtain ⟨_, _, ran⟩ := bind_eq_ok ran
    obtain ⟨_, _, ran⟩ := bind_eq_ok ran
    obtain ⟨_, _, ran⟩ := bind_eq_ok ran
    obtain ⟨_, _, ran⟩ := bind_eq_ok ran
    obtain ⟨_, _, ran⟩ := bind_eq_ok ran
    obtain ⟨_, _, ran⟩ := bind_eq_ok ran
    obtain ⟨_, _, ran⟩ := bind_eq_ok ran
    cases ran
    exact ⟨rfl, rfl⟩
  obtain ⟨rfl, rfl⟩ := texts
  simp only [tweetDicts, ensured_append, ensured_optionalEntry, ensured_elim,
    List.forall_mem_append, Known.forall_optionalEntry] at cached
  obtain ⟨⟨⟨source, language⟩, textCached⟩, noteCached⟩ := cached
  refine Known.resolves_append.mpr ⟨Known.resolves_append.mpr ⟨Known.resolves_append.mpr
    ⟨?_, ?_⟩, ?_⟩, ?_⟩
  · exact Known.resolves_ofEntries.mpr (Known.forall_optionalEntry.mpr source)
  · exact resolves_of_convertAnnotatedText answers isText textCached
  · exact Known.resolves_ofOption.mpr (resolves_of_transpose answers isNote noteCached)
  · exact Known.resolves_ofEntries.mpr (Known.forall_optionalEntry.mpr language)

omit answers in
theorem exists_convertTweetCommunityNote {tweetId authorId : Int} {placeId : Option String}
    {value : SubmitTweet} {now : OffsetDateTime} {converted : ConvertedTweet}
    {note : TweetCommunityNote}
    (ran : convertTweet context.store context.lookupIds tweetId authorId placeId value now =
      .ok converted) (isNote : converted.communityNote = some note) :
    ∃ given,
      convertTweetCommunityNote context.store context.lookupIds tweetId given = .ok note := by
  obtain ⟨_, _, ran⟩ := bind_eq_ok ran
  obtain ⟨_, _, ran⟩ := bind_eq_ok ran
  obtain ⟨_, _, ran⟩ := bind_eq_ok ran
  obtain ⟨_, _, ran⟩ := bind_eq_ok ran
  obtain ⟨_, _, ran⟩ := bind_eq_ok ran
  obtain ⟨_, _, ran⟩ := bind_eq_ok ran
  obtain ⟨_, _, ran⟩ := bind_eq_ok ran
  obtain ⟨_, _, ran⟩ := bind_eq_ok ran
  obtain ⟨_, _, ran⟩ := bind_eq_ok ran
  obtain ⟨communityNote, isConverted, ran⟩ := bind_eq_ok ran
  obtain ⟨_, _, ran⟩ := bind_eq_ok ran
  cases ran
  rw [show communityNote = some note from isNote] at isConverted
  obtain ⟨given, _, ran⟩ := transpose_eq_some isConverted
  exact ⟨given, ran⟩

theorem resolves_of_convertTweetCommunityNote {tweetId : Int} {value : SubmitTweetCommunityNote}
    {note : TweetCommunityNote}
    (ran : convertTweetCommunityNote context.store context.lookupIds tweetId value = .ok note)
    (cached : ∀ entry ∈ ensured (tweetCommunityNoteDicts note), known.caches entry = true) :
    known.Resolves (noteRefs (tweetCommunityNotePayload note)) := by
  obtain ⟨noteId, _, ran⟩ := bind_eq_ok ran
  obtain ⟨subtitle, isSubtitle, ran⟩ := bind_eq_ok ran
  obtain ⟨footer, isFooter, ran⟩ := bind_eq_ok ran
  cases ran
  simp only [tweetCommunityNoteDicts, ensured_append, ensured_elim, List.forall_mem_append]
    at cached
  refine Known.resolves_append.mpr ⟨?_, ?_⟩
  · exact Known.resolves_ofOption.mpr (resolves_of_transpose answers isSubtitle cached.1)
  · exact Known.resolves_ofOption.mpr (resolves_of_transpose answers isFooter cached.2)

end Converted

/-! Places, policies and media have no lookups. -/

section Entries

variable {known : Known}

theorem resolves_tweetPlacePayload {place : TweetPlace}
    (cached : ∀ entry ∈ ensured (tweetPlaceDicts place), known.caches entry = true) :
    known.Resolves (.ofEntries (tweetPlaceDicts (tweetPlacePayload place))) := by
  simpa [tweetPlaceDicts, tweetPlacePayload] using cached

theorem resolves_tweetPolicyPayload {policy : TweetPolicy}
    (cached : ∀ entry ∈ ensured (tweetPolicyDicts policy), known.caches entry = true) :
    known.Resolves (.ofEntries (tweetPolicyDicts (tweetPolicyPayload policy).toRow)) := by
  simpa [tweetPolicyDicts, tweetPolicyPayload, Tweet.TweetPolicyPayload.toRow] using cached

@[simp] theorem variantRefs_payload (variant : TweetModel.MediaSizeVariant) :
    variantRefs variant.payload =
      .ofEntries (optionalEntry .tweetMediaResizeMode (ensureId (some variant.resizeMode))) := by
  simp only [variantRefs, MediaSizeVariant.payload]

@[simp] theorem videoVariantEntries_payload (variant : TweetModel.VideoVariant) :
    optionalEntry .tweetVideoContentType variant.payload.contentType =
      optionalEntry .tweetVideoContentType (ensureId (some variant.contentType)) := by
  simp only [VideoVariant.payload]

theorem resolves_variantPayload {variant : Option TweetModel.MediaSizeVariant}
    (cached : ∀ given ∈ variant, ∀ part ∈ ensureId (some given.resizeMode),
      known.caches ⟨.tweetMediaResizeMode, part⟩ = true) :
    known.Resolves (.ofOption variantRefs (variant.map MediaSizeVariant.payload)) := by
  refine Known.resolves_ofOption.mpr fun part isPart => ?_
  obtain ⟨given, isGiven, rfl⟩ := Option.map_eq_some_iff.mp isPart
  rw [variantRefs_payload, Known.resolves_ofEntries, Known.forall_optionalEntry]
  exact cached given isGiven

theorem resolves_variantsPayload {variants : TweetModel.MediaSizeVariants}
    (cached : ∀ variant ∈ [variants.large, variants.medium, variants.small,
        variants.thumb].reduceOption, ∀ part ∈ ensureId (some variant.resizeMode),
      known.caches ⟨.tweetMediaResizeMode, part⟩ = true) :
    known.Resolves (variantsRefs variants.payload) := by
  have each : ∀ variant ∈ [variants.large, variants.medium, variants.small, variants.thumb],
      known.Resolves (.ofOption variantRefs (variant.map MediaSizeVariant.payload)) := by
    intro variant member
    refine resolves_variantPayload fun given isGiven => cached given ?_
    rw [Option.mem_def.mp isGiven] at member
    exact List.reduceOption_mem_iff.mpr member
  simp only [List.forall_mem_cons] at each
  obtain ⟨large, medium, small, thumb, _⟩ := each
  exact Known.resolves_append.mpr ⟨Known.resolves_append.mpr ⟨Known.resolves_append.mpr
    ⟨large, medium⟩, small⟩, thumb⟩

/-- Entries of one semantic, one for each value. -/
theorem ensured_mapped {α : Type} (semantic : StringSemantic) (text : α → String)
    (values : List α) :
    ensured (values.map fun value => ⟨semantic, text value⟩) =
      values.flatMap fun value => optionalEntry semantic (ensureId (some (text value))) := by
  have entries : values.map (fun value => DictEntry.mk semantic (text value)) =
      values.flatMap fun value => optionalEntry semantic (some (text value)) := by
    rw [List.map_eq_flatMap]
    rfl
  rw [entries, ensured_flatMap]
  simp only [ensured_optionalEntry]

theorem resolves_mediaPayload {media : TweetModel.Media}
    (cached : ∀ entry ∈ ensured (mediaDicts media), known.caches entry = true) :
    known.Resolves (mediaRefs media.payload.toRow) := by
  simp only [mediaDicts, ensured_append, ensured_elim, ensured_flatMap, ensured_optionalEntry,
    ensured_mapped, ensured_map, List.forall_mem_append, List.forall_mem_flatMap,
    Known.forall_optionalEntry] at cached
  obtain ⟨⟨variants, tags⟩, warnings⟩ := cached
  refine Known.resolves_append.mpr ⟨Known.resolves_append.mpr ⟨?_, ?_⟩, ?_⟩
  · refine Known.resolves_ofOption.mpr fun part isPart => ?_
    obtain ⟨given, isGiven, rfl⟩ := Option.map_eq_some_iff.mp isPart
    rw [isGiven] at variants
    simp only [Option.elim_some, List.forall_mem_flatMap, Known.forall_optionalEntry] at variants
    exact resolves_variantsPayload variants
  · refine Known.resolves_ofList.mpr fun tag member => ?_
    obtain ⟨given, isGiven, rfl⟩ := List.mem_map.mp member
    rw [mediaTagPayload, Known.resolves_ofEntries, Known.forall_optionalEntry]
    exact tags given isGiven
  · exact Known.resolves_ofEntries.mpr warnings

theorem resolves_mediaResourcePayload {resource : TweetModel.MediaResource}
    (cached : ∀ entry ∈ ensured (mediaResourceDicts resource), known.caches entry = true) :
    known.Resolves (resourceRefs resource.payload) := by
  simp only [mediaResourceDicts, ensured_append, ensured_optionalEntry, ensured_elim,
    ensured_mapped, List.forall_mem_append, Known.forall_optionalEntry] at cached
  obtain ⟨availability, video⟩ := cached
  refine Known.resolves_append.mpr ⟨?_, ?_⟩
  · exact Known.resolves_ofEntries.mpr (Known.forall_optionalEntry.mpr availability)
  · refine Known.resolves_ofOption.mpr fun part isPart => ?_
    obtain ⟨given, isGiven, rfl⟩ := Option.map_eq_some_iff.mp isPart
    rw [isGiven] at video
    simp only [Option.elim_some, List.forall_mem_flatMap, Known.forall_optionalEntry] at video
    refine Known.resolves_ofList.mpr fun variant member => ?_
    obtain ⟨variant, isVariant, rfl⟩ := List.mem_map.mp member
    rw [videoVariantEntries_payload, Known.resolves_ofEntries, Known.forall_optionalEntry]
    exact video variant isVariant

end Entries

/-! ## The batch -/

/-- Everything that the rows of a batch refer to. -/
structure Known.ResolvesBatch (known : Known) (prepared : PreparedSubmitBatch) : Prop where
  userSnapshots : ∀ item ∈ prepared.userSnapshots,
    known.Resolves (snapshotRefs item.value.payload.toVersion)
  media : ∀ item ∈ prepared.media, known.Resolves (mediaRefs item.value.payload.toRow)
  mediaResources : ∀ item ∈ prepared.mediaResources,
    known.Resolves (resourceRefs item.value.payload)
  tweetPlaces : ∀ item ∈ prepared.tweetPlaces,
    known.Resolves (.ofEntries (tweetPlaceDicts (tweetPlacePayload item.value)))
  tweets : ∀ item ∈ prepared.tweets, known.Resolves (tweetRefs (tweetPayload item.value))
  tweetPolicies : ∀ item ∈ prepared.tweetPolicies,
    known.Resolves (.ofEntries (tweetPolicyDicts (tweetPolicyPayload item.value).toRow))
  tweetCommunityNotes : ∀ item ∈ prepared.tweetCommunityNotes,
    known.Resolves (noteRefs (tweetCommunityNotePayload item.value))

/-- Once its lookups are answered and its entries are cached, a batch is resolved. -/
theorem resolvesBatch_of_provenance {known : Known} {context : PrepareContext} {clocks : Clocks}
    {payload : SubmitTweetRequest} {prepared : PreparedSubmitBatch}
    (provenance : Provenance context clocks payload prepared)
    (answers : Answers known.lookups context)
    (cached : ∀ entry ∈ ensured (preloadDicts prepared), known.caches entry = true) :
    known.ResolvesBatch prepared := by
  simp only [preloadDicts, ensured_append, List.forall_mem_append] at cached
  obtain ⟨⟨⟨⟨⟨⟨snapshots, places⟩, tweets⟩, policies⟩, notes⟩, media⟩, resources⟩ := cached
  constructor
  · intro item member
    obtain ⟨user, userId, _, profile, _, ran⟩ :=
      (provenance.userSnapshots item.index item.value).mp member
    exact resolves_of_convertUserSnapshot answers ran fun entry isEntry =>
      snapshots entry (mem_ensured_flatMap member isEntry)
  · exact fun item member => resolves_mediaPayload fun entry isEntry =>
      media entry (mem_ensured_flatMap member isEntry)
  · exact fun item member => resolves_mediaResourcePayload fun entry isEntry =>
      resources entry (mem_ensured_flatMap member isEntry)
  · exact fun item member => resolves_tweetPlacePayload fun entry isEntry =>
      places entry (mem_ensured_flatMap member isEntry)
  · intro item member
    have isEnsured := fun entry isEntry => tweets entry (mem_ensured_flatMap member isEntry)
    obtain ⟨converted, ⟨tweet, tweetId, authorId, _, ran⟩, isValue⟩ :=
      (provenance.tweets item.index item.value).mp member
    rw [← isValue] at isEnsured ⊢
    exact resolves_of_convertTweet answers ran isEnsured
  · exact fun item member => resolves_tweetPolicyPayload fun entry isEntry =>
      policies entry (mem_ensured_flatMap member isEntry)
  · intro item member
    obtain ⟨converted, ⟨tweet, tweetId, authorId, _, ran⟩, isNote⟩ :=
      (provenance.tweetCommunityNotes item.index item.value).mp member
    obtain ⟨note, ranNote⟩ := exists_convertTweetCommunityNote ran isNote
    exact resolves_of_convertTweetCommunityNote answers ranNote fun entry isEntry =>
      notes entry (mem_ensured_flatMap member isEntry)

end TweetDb.Query
