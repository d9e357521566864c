import TweetDb.Fallible
import TweetDb.Query.Build

/-! # What the builders look up

The dictionary entries, hashtags, symbols and categories that an object refers
to.  Its builder reads nothing else of the dictionary and the tables, and fails
with a missing row only if the tables do not have one.
-/

namespace TweetDb.Query

open Fallible Json
open Submit (DictEntry LookupTables StringSemantic annotatedTextDicts optionalEntry tweetPlaceDicts
  tweetPolicyDicts)
open TweetDb.Tweet (AnnotatedText HashtagEntity Media MediaRef MediaResource MediaSizeVariant
  MediaSizeVariants MediaVideo SymbolEntity TweetCommunityNote TweetEdit TweetPlace TweetPolicy
  TweetRow TweetStatsColumns TwitterUser UserIdentity UserProfessional UserSnapshot
  UserStatsColumns Version)

/-! ## References -/

/-- What is looked up for an object: entries of the dictionary and ids of the tables. -/
structure References where
  entries : List DictEntry
  hashtags : List Int
  symbols : List Int
  categories : List Int

namespace References

def none : References := ⟨[], [], [], []⟩

def ofEntries (entries : List DictEntry) : References := ⟨entries, [], [], []⟩

instance : Append References where
  append a b := ⟨a.entries ++ b.entries, a.hashtags ++ b.hashtags, a.symbols ++ b.symbols,
    a.categories ++ b.categories⟩

def ofOption {α : Type} (refs : α → References) (value : Option α) : References :=
  value.elim none refs

/-- The same tables are read for every element of the list. -/
def ofList {α : Type} (refs : α → References) (values : List α) : References :=
  ⟨values.flatMap fun value => (refs value).entries,
    values.flatMap fun value => (refs value).hashtags,
    values.flatMap fun value => (refs value).symbols,
    values.flatMap fun value => (refs value).categories⟩

end References

/-- `collect_annotated_text_lookup_ids`, and the styles. -/
def textRefs (text : AnnotatedText) : References :=
  ⟨annotatedTextDicts text, text.hashtags.map HashtagEntity.hashtagId,
    text.symbols.map SymbolEntity.symbolId, []⟩

def identityRefs (identity : UserIdentity) : References :=
  .ofEntries (identity.verification.elim [] (fun verification =>
      optionalEntry .tweetUserVerificationType verification.verifiedType)) ++
    .ofEntries (identity.disclosure.elim [] (fun disclosure =>
      optionalEntry .tweetUserDisclosureRelation disclosure.relation)) ++
    .ofEntries (optionalEntry .tweetUserParodyLabel identity.parodyLabel)

def professionalRefs (professional : UserProfessional) : References :=
  ⟨optionalEntry .tweetUserProfessionalType professional.professionalType, [], [],
    professional.categoryIds⟩

def snapshotRefs (snapshot : UserSnapshot) : References :=
  .ofOption textRefs snapshot.content.bio ++
    .ofEntries (optionalEntry .tweetUserAvatarShape snapshot.content.avatarShape) ++
    .ofOption identityRefs snapshot.content.identity ++
    .ofOption professionalRefs snapshot.content.professional

def tweetRefs (tweet : TweetRow) : References :=
  .ofEntries (optionalEntry .tweetSource tweet.source) ++ textRefs tweet.legacyText ++
    .ofOption textRefs tweet.noteText ++
    .ofEntries (optionalEntry .tweetLanguageCode tweet.language)

def noteRefs (note : TweetCommunityNote) : References :=
  .ofOption textRefs note.subtitle ++ .ofOption textRefs note.footer

/-- What is looked up for a tweet with these parts. -/
def tweetPartRefs (tweet : TweetRow) (place : Option TweetPlace) (policy : Option TweetPolicy)
    (note : Option TweetCommunityNote) : References :=
  tweetRefs tweet ++ .ofOption (fun place => .ofEntries (tweetPlaceDicts place)) place ++
    .ofOption (fun policy => .ofEntries (tweetPolicyDicts policy)) policy ++
    .ofOption noteRefs note

def variantRefs (variant : MediaSizeVariant) : References :=
  .ofEntries (optionalEntry .tweetMediaResizeMode variant.resizeMode)

def variantsRefs (variants : MediaSizeVariants) : References :=
  .ofOption variantRefs variants.large ++ .ofOption variantRefs variants.medium ++
    .ofOption variantRefs variants.small ++ .ofOption variantRefs variants.thumb

def mediaRefs (media : Media) : References :=
  .ofOption variantsRefs media.sizeVariants ++
    .ofList (fun tag => .ofEntries (optionalEntry .tweetMediaTagKind tag.kind))
      media.taggedUsers ++
    .ofEntries (media.sensitivityWarnings.map (DictEntry.mk .tweetMediaSensitivityCode))

def videoRefs (video : MediaVideo) : References :=
  .ofList (fun variant => .ofEntries (optionalEntry .tweetVideoContentType variant.contentType))
    video.variants

def resourceRefs (resource : MediaResource) : References :=
  .ofEntries (optionalEntry .tweetMediaAvailabilityStatus resource.content.availability) ++
    .ofOption videoRefs resource.content.video

/-! ## Two contexts -/

/-- The contexts have the same answers for these references. -/
structure AgreeOn (refs : References) (context context' : BuildContext) : Prop where
  formats : context.formats = context'.formats
  caches : ∀ entry ∈ refs.entries, context.dict.caches entry = context'.dict.caches entry
  ids : ∀ entry ∈ refs.entries, context.dict.id entry = context'.dict.id entry
  hashtags : ∀ id ∈ refs.hashtags, context.lookups.hashtag id = context'.lookups.hashtag id
  symbols : ∀ id ∈ refs.symbols, context.lookups.symbol id = context'.lookups.symbol id
  categories : ∀ id ∈ refs.categories,
    context.lookups.userCategory id = context'.lookups.userCategory id

namespace AgreeOn

variable {refs refs' : References} {context context' : BuildContext}

/-- They agree on what is part of it. -/
theorem part (agree : AgreeOn refs context context') (entries : refs'.entries ⊆ refs.entries)
    (hashtags : refs'.hashtags ⊆ refs.hashtags) (symbols : refs'.symbols ⊆ refs.symbols)
    (categories : refs'.categories ⊆ refs.categories) : AgreeOn refs' context context' where
  formats := agree.formats
  caches entry member := agree.caches entry (entries member)
  ids entry member := agree.ids entry (entries member)
  hashtags id member := agree.hashtags id (hashtags member)
  symbols id member := agree.symbols id (symbols member)
  categories id member := agree.categories id (categories member)

theorem left (agree : AgreeOn (refs ++ refs') context context') : AgreeOn refs context context' :=
  agree.part (List.subset_append_left _ _) (List.subset_append_left _ _)
    (List.subset_append_left _ _) (List.subset_append_left _ _)

theorem right (agree : AgreeOn (refs ++ refs') context context') :
    AgreeOn refs' context context' :=
  agree.part (List.subset_append_right _ _) (List.subset_append_right _ _)
    (List.subset_append_right _ _) (List.subset_append_right _ _)

theorem element {α : Type} {refs : α → References} {values : List α}
    (agree : AgreeOn (.ofList refs values) context context') {value : α} (member : value ∈ values) :
    AgreeOn (refs value) context context' :=
  agree.part (fun _ isPart => List.mem_flatMap.mpr ⟨value, member, isPart⟩)
    (fun _ isPart => List.mem_flatMap.mpr ⟨value, member, isPart⟩)
    (fun _ isPart => List.mem_flatMap.mpr ⟨value, member, isPart⟩)
    (fun _ isPart => List.mem_flatMap.mpr ⟨value, member, isPart⟩)

theorem timeJson (agree : AgreeOn refs context context') :
    context.timeJson = context'.timeJson := by
  unfold BuildContext.timeJson
  rw [agree.formats]

end AgreeOn

namespace BuildContext

variable {context context' : BuildContext}

theorem buildOption_congr {α : Type} {refs : α → References}
    {build build' : α → Except String Value}
    (same : ∀ {part}, AgreeOn (refs part) context context' → build part = build' part)
    {value : Option α} (agree : AgreeOn (.ofOption refs value) context context') :
    buildOption build value = buildOption build' value := by
  cases value with
  | none => rfl
  | some part => exact same agree

theorem buildList_congr {α : Type} {build build' : α → Except String Value} {values : List α}
    (same : ∀ value ∈ values, build value = build' value) :
    buildList build values = buildList build' values := by
  rw [buildList, buildList, mapM_congr same]

theorem resolveString_congr {semantic : StringSemantic} {value : String} (field : String)
    (agree : AgreeOn (.ofEntries [⟨semantic, value⟩]) context context') :
    context.resolveString semantic field value = context'.resolveString semantic field value := by
  have caches := agree.caches _ List.mem_cons_self
  have ids := agree.ids _ List.mem_cons_self
  simp only [resolveString, caches, ids]

theorem resolveOptionalString_congr {semantic : StringSemantic} {value : Option String}
    (field : String)
    (agree : AgreeOn (.ofEntries (optionalEntry semantic value)) context context') :
    context.resolveOptionalString value semantic field =
      context'.resolveOptionalString value semantic field := by
  cases value with
  | none => rfl
  | some value =>
    simp only [resolveOptionalString]
    rw [resolveString_congr field agree]

theorem resolveStringList_congr {semantic : StringSemantic} {values : List String}
    (field : String)
    (agree : AgreeOn (.ofEntries (values.map (DictEntry.mk semantic))) context context') :
    context.resolveStringList values semantic field =
      context'.resolveStringList values semantic field := by
  refine mapM_congr fun value member => resolveString_congr field (agree.part ?_ ?_ ?_ ?_)
  · simpa [References.ofEntries] using member
  all_goals exact List.Subset.refl _

/-! ## Texts and users -/

theorem buildAnnotatedTextJson_congr {text : AnnotatedText}
    (agree : AgreeOn (textRefs text) context context') :
    context.buildAnnotatedTextJson text = context'.buildAnnotatedTextJson text := by
  have hashtags : buildList context.hashtagJson text.hashtags =
      buildList context'.hashtagJson text.hashtags := by
    refine buildList_congr fun entity member => ?_
    have same := agree.hashtags entity.hashtagId (List.mem_map_of_mem member)
    simp only [hashtagJson, same]
  have symbols : buildList context.symbolJson text.symbols =
      buildList context'.symbolJson text.symbols := by
    refine buildList_congr fun entity member => ?_
    have same := agree.symbols entity.symbolId (List.mem_map_of_mem member)
    simp only [symbolJson, same]
  -- The names of a style are among those of its text.
  have styles : buildList context.styleJson text.styles =
      buildList context'.styleJson text.styles := by
    refine buildList_congr fun style member => ?_
    have names : AgreeOn (.ofEntries (style.styles.map (DictEntry.mk .tweetTextStyleName)))
        context context' :=
      agree.part (fun _ isPart => List.mem_flatMap.mpr ⟨style, member, isPart⟩)
        (List.nil_subset _) (List.nil_subset _) (List.nil_subset _)
    rw [styleJson, styleJson, resolveStringList_congr "text.styles" names]
  rw [buildAnnotatedTextJson, buildAnnotatedTextJson, hashtags, symbols, styles]

theorem buildOption_text_congr {text : Option AnnotatedText}
    (agree : AgreeOn (.ofOption textRefs text) context context') :
    buildOption context.buildAnnotatedTextJson text =
      buildOption context'.buildAnnotatedTextJson text :=
  buildOption_congr buildAnnotatedTextJson_congr agree

theorem buildUserProfileJson_congr {snapshot : UserSnapshot}
    (agree : AgreeOn (snapshotRefs snapshot) context context') :
    context.buildUserProfileJson snapshot = context'.buildUserProfileJson snapshot := by
  have bio := buildOption_text_congr agree.left.left.left
  have avatarShape := resolveOptionalString_congr "user.profile.avatarShape" agree.left.left.right
  rw [buildUserProfileJson, buildUserProfileJson, bio, avatarShape, agree.timeJson]

theorem buildUserIdentityJson_congr {identity : UserIdentity}
    (agree : AgreeOn (identityRefs identity) context context') :
    context.buildUserIdentityJson identity = context'.buildUserIdentityJson identity := by
  have verification : buildOption context.buildUserVerificationJson identity.verification =
      buildOption context'.buildUserVerificationJson identity.verification := by
    have entry := agree.left.left
    cases isVerification : identity.verification with
    | none => rfl
    | some verification =>
      rw [isVerification] at entry
      have verifiedType := resolveOptionalString_congr "user.identity.verification.type" entry
      rw [buildOption, buildOption, buildUserVerificationJson, buildUserVerificationJson,
        verifiedType]
  have disclosure : buildOption context.buildUserDisclosureJson identity.disclosure =
      buildOption context'.buildUserDisclosureJson identity.disclosure := by
    have entry := agree.left.right
    cases isDisclosure : identity.disclosure with
    | none => rfl
    | some disclosure =>
      rw [isDisclosure] at entry
      have relation := resolveOptionalString_congr "user.identity.disclosure.relation" entry
      rw [buildOption, buildOption, buildUserDisclosureJson, buildUserDisclosureJson, relation]
  have parodyLabel := resolveOptionalString_congr "user.identity.parodyLabel" agree.right
  rw [buildUserIdentityJson, buildUserIdentityJson, verification, disclosure, parodyLabel]

theorem buildUserProfessionalJson_congr {professional : UserProfessional}
    (agree : AgreeOn (professionalRefs professional) context context') :
    context.buildUserProfessionalJson professional =
      context'.buildUserProfessionalJson professional := by
  have professionalType := resolveOptionalString_congr "user.professional.type"
    (agree.part (List.Subset.refl _) (List.Subset.refl _) (List.Subset.refl _) (List.nil_subset _) :
      AgreeOn (.ofEntries (optionalEntry .tweetUserProfessionalType
        professional.professionalType)) context context')
  have categories : buildList context.categoryJson professional.categoryIds =
      buildList context'.categoryJson professional.categoryIds := by
    refine buildList_congr fun categoryId member => ?_
    simp only [categoryJson, agree.categories categoryId member]
  rw [buildUserProfessionalJson, buildUserProfessionalJson, professionalType, categories]

/-- `build_user_json` looks up what its snapshot refers to. -/
theorem buildUserJson_congr {user : TwitterUser} {snapshot : Option UserSnapshot}
    {stats : Option (Version UserStatsColumns)}
    (agree : AgreeOn (.ofOption snapshotRefs snapshot) context context') :
    context.buildUserJson user snapshot stats = context'.buildUserJson user snapshot stats := by
  have profile := buildOption_congr buildUserProfileJson_congr agree
  have identity : buildOption context.buildUserIdentityJson
        (snapshot.bind fun snapshot => snapshot.content.identity) =
      buildOption context'.buildUserIdentityJson
        (snapshot.bind fun snapshot => snapshot.content.identity) := by
    cases snapshot with
    | none => rfl
    | some snapshot =>
      exact buildOption_congr buildUserIdentityJson_congr (AgreeOn.right agree.left)
  have professional : buildOption context.buildUserProfessionalJson
        (snapshot.bind fun snapshot => snapshot.content.professional) =
      buildOption context'.buildUserProfessionalJson
        (snapshot.bind fun snapshot => snapshot.content.professional) := by
    cases snapshot with
    | none => rfl
    | some snapshot =>
      exact buildOption_congr buildUserProfessionalJson_congr (AgreeOn.right agree)
  have statsJson : context.buildUserStatsJson = context'.buildUserStatsJson := by
    unfold buildUserStatsJson
    rw [agree.timeJson]
  rw [buildUserJson, buildUserJson, profile, identity, professional, statsJson, agree.timeJson]

/-! ## Tweets -/

theorem buildTweetPlaceJson_congr {place : TweetPlace}
    (agree : AgreeOn (.ofEntries (tweetPlaceDicts place)) context context') :
    context.buildTweetPlaceJson place = context'.buildTweetPlaceJson place := by
  have parts : AgreeOn (.ofEntries (optionalEntry .tweetCountryName place.country) ++
      .ofEntries (optionalEntry .tweetCountryCode place.countryCode) ++
      .ofEntries (optionalEntry .tweetPlaceKind place.kind)) context context' := agree
  have country := resolveOptionalString_congr "tweet.place.country" parts.left.left
  have countryCode := resolveOptionalString_congr "tweet.place.countryCode" parts.left.right
  have kind := resolveOptionalString_congr "tweet.place.kind" parts.right
  rw [buildTweetPlaceJson, buildTweetPlaceJson, country, countryCode, kind]

theorem buildTweetContentJson_congr {tweet : TweetRow} {mediaRefs : List MediaRef}
    (agree : AgreeOn (tweetRefs tweet) context context') :
    context.buildTweetContentJson tweet mediaRefs =
      context'.buildTweetContentJson tweet mediaRefs := by
  have legacyText := buildAnnotatedTextJson_congr agree.left.left.right
  have noteText := buildOption_text_congr agree.left.right
  have language := resolveOptionalString_congr "tweet.content.language" agree.right
  rw [buildTweetContentJson, buildTweetContentJson, buildTweetNoteJson, buildTweetNoteJson,
    legacyText, noteText, language]

theorem buildTweetPolicyJson_congr {policy : TweetPolicy}
    (agree : AgreeOn (.ofEntries (tweetPolicyDicts policy)) context context') :
    context.buildTweetPolicyJson policy = context'.buildTweetPolicyJson policy := by
  have parts : AgreeOn (.ofEntries (optionalEntry .tweetReplyPolicyCode policy.replyPolicy) ++
      .ofEntries (policy.availableActions.map (DictEntry.mk .tweetActionCode)))
      context context' := agree
  have replyPolicy := resolveOptionalString_congr "tweet.policy.replyPolicy" parts.left
  have availableActions := resolveStringList_congr "tweet.policy.availableActions" parts.right
  rw [buildTweetPolicyJson, buildTweetPolicyJson, replyPolicy, availableActions]

theorem buildTweetCommunityNoteJson_congr {note : TweetCommunityNote}
    (agree : AgreeOn (noteRefs note) context context') :
    context.buildTweetCommunityNoteJson note = context'.buildTweetCommunityNoteJson note := by
  have subtitle := buildOption_text_congr agree.left
  have footer := buildOption_text_congr agree.right
  rw [buildTweetCommunityNoteJson, buildTweetCommunityNoteJson, subtitle, footer]

/-- `build_tweet_json` looks up what the tweet, its place, its policy and its note refer to. -/
theorem buildTweetJson_congr {tweet : TweetRow} {place : Option TweetPlace}
    {edit : Option TweetEdit} {policy : Option TweetPolicy} {note : Option TweetCommunityNote}
    {stats : Option (Version TweetStatsColumns)} {mediaRefs : List MediaRef}
    (agree : AgreeOn (tweetPartRefs tweet place policy note) context context') :
    context.buildTweetJson tweet place edit policy note stats mediaRefs =
      context'.buildTweetJson tweet place edit policy note stats mediaRefs := by
  have ofTweet : AgreeOn (tweetRefs tweet) context context' := agree.left.left.left
  have source := resolveOptionalString_congr "tweet.source" ofTweet.left.left.left
  have placeJson := buildOption_congr buildTweetPlaceJson_congr agree.left.left.right
  have content := @buildTweetContentJson_congr _ _ tweet mediaRefs ofTweet
  have policyJson := buildOption_congr buildTweetPolicyJson_congr agree.left.right
  have noteJson := buildOption_congr buildTweetCommunityNoteJson_congr agree.right
  have statsJson : context.buildTweetStatsJson = context'.buildTweetStatsJson := by
    unfold buildTweetStatsJson
    rw [agree.timeJson]
  have editJson : context.buildTweetEditJson = context'.buildTweetEditJson := by
    unfold buildTweetEditJson
    rw [agree.timeJson]
  rw [buildTweetJson, buildTweetJson, source, placeJson, content, policyJson, noteJson, statsJson,
    editJson, agree.timeJson]

/-! ## Media -/

theorem buildMediaVariantJson_congr {variant : MediaSizeVariant}
    (agree : AgreeOn (variantRefs variant) context context') :
    context.buildMediaVariantJson variant = context'.buildMediaVariantJson variant := by
  have resizeMode := resolveOptionalString_congr "media.variants.resizeMode" agree
  rw [buildMediaVariantJson, buildMediaVariantJson, resizeMode]

theorem buildMediaVariantsJson_congr {variants : MediaSizeVariants}
    (agree : AgreeOn (variantsRefs variants) context context') :
    context.buildMediaVariantsJson variants = context'.buildMediaVariantsJson variants := by
  have large := buildOption_congr buildMediaVariantJson_congr agree.left.left.left
  have medium := buildOption_congr buildMediaVariantJson_congr agree.left.left.right
  have small := buildOption_congr buildMediaVariantJson_congr agree.left.right
  have thumb := buildOption_congr buildMediaVariantJson_congr agree.right
  rw [buildMediaVariantsJson, buildMediaVariantsJson, large, medium, small, thumb]

theorem buildMediaVideoJson_congr {video : MediaVideo}
    (agree : AgreeOn (videoRefs video) context context') :
    context.buildMediaVideoJson video = context'.buildMediaVideoJson video := by
  have variants : buildList context.buildVideoVariantJson video.variants =
      buildList context'.buildVideoVariantJson video.variants := by
    refine buildList_congr fun variant member => ?_
    have contentType := resolveOptionalString_congr "media.video.variants.contentType"
      (agree.element member)
    rw [buildVideoVariantJson, buildVideoVariantJson, contentType]
  rw [buildMediaVideoJson, buildMediaVideoJson, variants]

theorem buildMediaResourceJson_congr {resource : MediaResource}
    (agree : AgreeOn (resourceRefs resource) context context') :
    context.buildMediaResourceJson resource = context'.buildMediaResourceJson resource := by
  have availability := resolveOptionalString_congr "media.resource.availability" agree.left
  have video := buildOption_congr buildMediaVideoJson_congr agree.right
  rw [buildMediaResourceJson, buildMediaResourceJson, availability, video, agree.timeJson]

/-- `build_media_json` looks up what the media and its resource refer to. -/
theorem buildMediaJson_congr {media : Media} {resource : Option MediaResource}
    (agree : AgreeOn (mediaRefs media ++ .ofOption resourceRefs resource) context context') :
    context.buildMediaJson media resource = context'.buildMediaJson media resource := by
  have ofMedia : AgreeOn (mediaRefs media) context context' := agree.left
  have variants := buildOption_congr buildMediaVariantsJson_congr ofMedia.left.left
  have taggedUsers : buildList context.buildMediaTagJson media.taggedUsers =
      buildList context'.buildMediaTagJson media.taggedUsers := by
    refine buildList_congr fun tag member => ?_
    have kind := resolveOptionalString_congr "media.taggedUsers.kind"
      (ofMedia.left.right.element member)
    rw [buildMediaTagJson, buildMediaTagJson, kind]
  have warnings := resolveStringList_congr "media.sensitivityWarnings" ofMedia.right
  have resourceJson := buildOption_congr buildMediaResourceJson_congr agree.right
  rw [buildMediaJson, buildMediaJson, variants, taggedUsers, warnings, resourceJson,
    agree.formats]

end BuildContext

/-! ## Missing rows -/

/-- The errors of an id that the tables do not have. -/
def Missing (error : String) : Prop :=
  ∃ id : Int, error = s!"missing hashtag {id}" ∨ error = s!"missing symbol {id}" ∨
    error = s!"missing user category {id}"

theorem not_missing_dict (id : Int) (field : String) :
    ¬ Missing s!"missing string dictionary entry {id} for {field}" := by
  rintro ⟨other, same | same | same⟩
  all_goals
    -- the tenth letter differs
    have start := congrArg (fun text => text.toList.take 10) same
    simp only [String.toList_append, List.append_assoc] at start
    rw [List.take_append_of_le_length (by decide), List.take_append_of_le_length (by decide)]
      at start
    exact absurd start (by decide)

/-- The tables have the rows of these references. -/
structure HasRows (refs : References) (lookups : LookupTables) : Prop where
  hashtags : ∀ id ∈ refs.hashtags, (lookups.hashtag id).isSome = true
  symbols : ∀ id ∈ refs.symbols, (lookups.symbol id).isSome = true
  categories : ∀ id ∈ refs.categories, (lookups.userCategory id).isSome = true

namespace HasRows

variable {refs refs' : References} {lookups : LookupTables}

theorem left (stored : HasRows (refs ++ refs') lookups) : HasRows refs lookups where
  hashtags id member := stored.hashtags id (List.mem_append_left _ member)
  symbols id member := stored.symbols id (List.mem_append_left _ member)
  categories id member := stored.categories id (List.mem_append_left _ member)

theorem right (stored : HasRows (refs ++ refs') lookups) : HasRows refs' lookups where
  hashtags id member := stored.hashtags id (List.mem_append_right _ member)
  symbols id member := stored.symbols id (List.mem_append_right _ member)
  categories id member := stored.categories id (List.mem_append_right _ member)

end HasRows

/-- The rows are there, and no entry that the cache lacks makes for a bad error. -/
structure Served (bad : String → Prop) (context : BuildContext) (refs : References) : Prop
    extends HasRows refs context.lookups where
  entries : ∀ entry ∈ refs.entries, context.dict.caches entry = true ∨
    ∀ field : String, ¬ bad s!"missing string dictionary entry {context.dict.id entry} for {field}"

namespace Served

variable {bad : String → Prop} {context : BuildContext} {refs refs' : References}

theorem left (served : Served bad context (refs ++ refs')) : Served bad context refs :=
  ⟨served.toHasRows.left, fun entry member => served.entries entry (List.mem_append_left _ member)⟩

theorem right (served : Served bad context (refs ++ refs')) : Served bad context refs' :=
  ⟨served.toHasRows.right,
    fun entry member => served.entries entry (List.mem_append_right _ member)⟩

theorem part {α : Type} {refs : α → References} {value : Option α}
    (served : Served bad context (.ofOption refs value)) {part : α} (isPart : part ∈ value) :
    Served bad context (refs part) := by
  cases isPart
  exact served

theorem element {α : Type} {refs : α → References} {values : List α}
    (served : Served bad context (.ofList refs values)) {value : α} (member : value ∈ values) :
    Served bad context (refs value) where
  hashtags id isPart := served.hashtags id (List.mem_flatMap.mpr ⟨value, member, isPart⟩)
  symbols id isPart := served.symbols id (List.mem_flatMap.mpr ⟨value, member, isPart⟩)
  categories id isPart := served.categories id (List.mem_flatMap.mpr ⟨value, member, isPart⟩)
  entries entry isPart := served.entries entry (List.mem_flatMap.mpr ⟨value, member, isPart⟩)

theorem ofEntries {entries : List DictEntry} (each : ∀ entry ∈ entries,
      context.dict.caches entry = true ∨
        ∀ field : String,
          ¬ bad s!"missing string dictionary entry {context.dict.id entry} for {field}") :
    Served bad context (.ofEntries entries) :=
  ⟨⟨fun _ none => absurd none List.not_mem_nil, fun _ none => absurd none List.not_mem_nil,
    fun _ none => absurd none List.not_mem_nil⟩, each⟩

end Served

/-- A missing entry is not a missing row. -/
theorem HasRows.served {refs : References} {context : BuildContext}
    (stored : HasRows refs context.lookups) : Served Missing context refs :=
  ⟨stored, fun _ _ => .inr fun _ => not_missing_dict _ _⟩

namespace BuildContext

variable {bad : String → Prop} {context : BuildContext}

theorem spares_buildOption {α : Type} {build : α → Except String Value}
    {value : Option α} (each : ∀ part ∈ value, Spares bad (build part)) :
    Spares bad (buildOption build value) := by
  cases value with
  | none => exact spares_ok _
  | some part => exact each part rfl

theorem spares_buildList {α : Type} {build : α → Except String Value}
    {values : List α} (each : ∀ value ∈ values, Spares bad (build value)) :
    Spares bad (buildList build values) :=
  (spares_mapM each).map

theorem spares_resolveString {semantic : StringSemantic} {value : String}
    (served : Served bad context (.ofEntries [⟨semantic, value⟩])) (field : String) :
    Spares bad (context.resolveString semantic field value) := by
  unfold resolveString
  dsimp only
  split
  · exact spares_ok _
  next uncached =>
    rcases served.entries _ List.mem_cons_self with cached | other
    · exact absurd cached uncached
    · exact spares_error (other field)

theorem spares_resolveOptionalString {value : Option String} {semantic : StringSemantic}
    (served : Served bad context (.ofEntries (optionalEntry semantic value))) (field : String) :
    Spares bad (context.resolveOptionalString value semantic field) := by
  cases value with
  | none => exact spares_ok _
  | some value => exact (spares_resolveString served field).map

theorem spares_resolveStringList {values : List String} {semantic : StringSemantic}
    (served : Served bad context (.ofEntries (values.map (DictEntry.mk semantic))))
    (field : String) : Spares bad (context.resolveStringList values semantic field) := by
  refine spares_mapM fun value member => spares_resolveString ?_ field
  refine .ofEntries fun entry isEntry => served.entries entry ?_
  rw [List.mem_singleton.mp isEntry]
  exact List.mem_map_of_mem member

theorem spares_buildAnnotatedTextJson {text : AnnotatedText}
    (served : Served bad context (textRefs text)) :
    Spares bad (context.buildAnnotatedTextJson text) := by
  unfold buildAnnotatedTextJson
  refine Spares.bind (spares_buildList fun entity member => ?_) fun _ _ => ?_
  · have known := served.hashtags entity.hashtagId (List.mem_map_of_mem member)
    unfold hashtagJson
    cases found : context.lookups.hashtag entity.hashtagId with
    | some row => exact spares_ok _
    | none => simp [found] at known
  refine Spares.bind (spares_buildList fun entity member => ?_) fun _ _ => ?_
  · have known := served.symbols entity.symbolId (List.mem_map_of_mem member)
    unfold symbolJson
    cases found : context.lookups.symbol entity.symbolId with
    | some row => exact spares_ok _
    | none => simp [found] at known
  refine Spares.bind (spares_buildList fun style member => ?_) fun _ _ => spares_ok _
  -- The names of a style are among those of its text.
  have names : Served bad context
      (.ofEntries (style.styles.map (DictEntry.mk .tweetTextStyleName))) :=
    .ofEntries fun entry isEntry =>
      served.entries entry (List.mem_flatMap.mpr ⟨style, member, isEntry⟩)
  exact (spares_resolveStringList names _).bind fun _ _ => spares_ok _

theorem spares_buildOption_text {text : Option AnnotatedText}
    (served : Served bad context (.ofOption textRefs text)) :
    Spares bad (buildOption context.buildAnnotatedTextJson text) :=
  spares_buildOption fun _ isPart => spares_buildAnnotatedTextJson (served.part isPart)

theorem spares_buildUserProfileJson {snapshot : UserSnapshot}
    (served : Served bad context (snapshotRefs snapshot)) :
    Spares bad (context.buildUserProfileJson snapshot) := by
  unfold buildUserProfileJson
  refine (spares_buildOption_text served.left.left.left).bind fun _ _ => ?_
  exact (spares_resolveOptionalString served.left.left.right _).bind fun _ _ => spares_ok _

theorem spares_buildUserIdentityJson {identity : UserIdentity}
    (served : Served bad context (identityRefs identity)) :
    Spares bad (context.buildUserIdentityJson identity) := by
  unfold buildUserIdentityJson
  refine Spares.bind (spares_buildOption fun verification isPart => ?_) fun _ _ => ?_
  · have verifiedType := served.left.left
    rw [Option.mem_def.mp isPart] at verifiedType
    exact (spares_resolveOptionalString verifiedType _).bind fun _ _ => spares_ok _
  refine Spares.bind (spares_buildOption fun disclosure isPart => ?_) fun _ _ => ?_
  · have relation := served.left.right
    rw [Option.mem_def.mp isPart] at relation
    exact (spares_resolveOptionalString relation _).bind fun _ _ => spares_ok _
  exact (spares_resolveOptionalString served.right _).bind fun _ _ => spares_ok _

theorem spares_buildUserProfessionalJson {professional : UserProfessional}
    (served : Served bad context (professionalRefs professional)) :
    Spares bad (context.buildUserProfessionalJson professional) := by
  unfold buildUserProfessionalJson
  have professionalType : Served bad context
      (.ofEntries (optionalEntry .tweetUserProfessionalType professional.professionalType)) :=
    .ofEntries served.entries
  refine (spares_resolveOptionalString professionalType _).bind fun _ _ => ?_
  refine Spares.bind (spares_buildList fun categoryId member => ?_) fun _ _ => spares_ok _
  have known := served.categories categoryId member
  unfold categoryJson
  cases found : context.lookups.userCategory categoryId with
  | some row => exact spares_ok _
  | none => simp [found] at known

theorem spares_buildUserJson_of_served {snapshot : Option UserSnapshot}
    (served : Served bad context (.ofOption snapshotRefs snapshot)) (user : TwitterUser)
    (stats : Option (Version UserStatsColumns)) :
    Spares bad (context.buildUserJson user snapshot stats) := by
  unfold buildUserJson
  cases snapshot with
  | none => exact spares_ok _
  | some snapshot =>
    have parts : Served bad context (snapshotRefs snapshot) := served
    refine (spares_buildUserProfileJson parts).bind fun _ _ => ?_
    refine (spares_buildOption fun identity isPart =>
      spares_buildUserIdentityJson (parts.left.right.part isPart)).bind fun _ _ => ?_
    exact Spares.bind (spares_buildOption fun professional isPart =>
      spares_buildUserProfessionalJson (parts.right.part isPart)) fun _ _ => spares_ok _

/-- Where the tables have the rows of a snapshot, its user misses none. -/
theorem spares_buildUserJson {snapshot : Option UserSnapshot}
    (stored : HasRows (.ofOption snapshotRefs snapshot) context.lookups) (user : TwitterUser)
    (stats : Option (Version UserStatsColumns)) :
    Spares Missing (context.buildUserJson user snapshot stats) :=
  spares_buildUserJson_of_served stored.served user stats

theorem spares_buildTweetPlaceJson {place : TweetPlace}
    (served : Served bad context (.ofEntries (tweetPlaceDicts place))) :
    Spares bad (context.buildTweetPlaceJson place) := by
  unfold buildTweetPlaceJson
  have parts : Served bad context (.ofEntries (optionalEntry .tweetCountryName place.country) ++
      .ofEntries (optionalEntry .tweetCountryCode place.countryCode) ++
      .ofEntries (optionalEntry .tweetPlaceKind place.kind)) := served
  refine (spares_resolveOptionalString parts.left.left _).bind fun _ _ => ?_
  refine (spares_resolveOptionalString parts.left.right _).bind fun _ _ => ?_
  exact (spares_resolveOptionalString parts.right _).bind fun _ _ => spares_ok _

theorem spares_buildTweetContentJson {tweet : TweetRow} (mediaRefs : List MediaRef)
    (served : Served bad context (tweetRefs tweet)) :
    Spares bad (context.buildTweetContentJson tweet mediaRefs) := by
  unfold buildTweetContentJson
  refine Spares.bind ?_ fun _ _ => ?_
  · unfold buildTweetNoteJson
    split
    · exact spares_ok _
    · exact (spares_buildOption_text served.left.right).bind fun _ _ => spares_ok _
  refine (spares_resolveOptionalString served.right _).bind fun _ _ => ?_
  exact (spares_buildAnnotatedTextJson served.left.left.right).bind fun _ _ => spares_ok _

theorem spares_buildTweetPolicyJson {policy : TweetPolicy}
    (served : Served bad context (.ofEntries (tweetPolicyDicts policy))) :
    Spares bad (context.buildTweetPolicyJson policy) := by
  unfold buildTweetPolicyJson
  have parts : Served bad context
      (.ofEntries (optionalEntry .tweetReplyPolicyCode policy.replyPolicy) ++
        .ofEntries (policy.availableActions.map (DictEntry.mk .tweetActionCode))) := served
  refine (spares_resolveOptionalString parts.left _).bind fun _ _ => ?_
  exact (spares_resolveStringList parts.right _).bind fun _ _ => spares_ok _

theorem spares_buildTweetCommunityNoteJson {note : TweetCommunityNote}
    (served : Served bad context (noteRefs note)) :
    Spares bad (context.buildTweetCommunityNoteJson note) := by
  unfold buildTweetCommunityNoteJson
  refine (spares_buildOption_text served.left).bind fun _ _ => ?_
  exact (spares_buildOption_text served.right).bind fun _ _ => spares_ok _

theorem spares_buildTweetJson_of_served {tweet : TweetRow} {place : Option TweetPlace}
    {policy : Option TweetPolicy} {note : Option TweetCommunityNote}
    (served : Served bad context (tweetPartRefs tweet place policy note))
    (edit : Option TweetEdit) (stats : Option (Version TweetStatsColumns))
    (mediaRefs : List MediaRef) :
    Spares bad (context.buildTweetJson tweet place edit policy note stats mediaRefs) := by
  have ofTweet : Served bad context (tweetRefs tweet) := served.left.left.left
  unfold buildTweetJson
  refine (spares_resolveOptionalString ofTweet.left.left.left _).bind fun _ _ => ?_
  refine (spares_buildOption fun place isPart =>
    spares_buildTweetPlaceJson (served.left.left.right.part isPart)).bind fun _ _ => ?_
  refine (spares_buildTweetContentJson mediaRefs ofTweet).bind fun _ _ => ?_
  refine (spares_buildOption fun policy isPart =>
    spares_buildTweetPolicyJson (served.left.right.part isPart)).bind fun _ _ => ?_
  exact Spares.bind (spares_buildOption fun note isPart =>
    spares_buildTweetCommunityNoteJson (served.right.part isPart)) fun _ _ => spares_ok _

/-- Where the tables have the rows of a tweet and its note, none is missed. -/
theorem spares_buildTweetJson {tweet : TweetRow} {place : Option TweetPlace}
    {policy : Option TweetPolicy} {note : Option TweetCommunityNote}
    (stored : HasRows (tweetPartRefs tweet place policy note) context.lookups)
    (edit : Option TweetEdit) (stats : Option (Version TweetStatsColumns))
    (mediaRefs : List MediaRef) :
    Spares Missing (context.buildTweetJson tweet place edit policy note stats mediaRefs) :=
  spares_buildTweetJson_of_served stored.served edit stats mediaRefs

/-! ### Media have no rows to miss -/

theorem spares_buildMediaVariantJson {variant : Option MediaSizeVariant}
    (served : Served bad context (.ofOption variantRefs variant)) :
    Spares bad (buildOption context.buildMediaVariantJson variant) :=
  spares_buildOption fun _ isPart =>
    (spares_resolveOptionalString (served.part isPart) _).bind fun _ _ => spares_ok _

theorem spares_buildMediaVariantsJson {variants : MediaSizeVariants}
    (served : Served bad context (variantsRefs variants)) :
    Spares bad (context.buildMediaVariantsJson variants) := by
  unfold buildMediaVariantsJson
  refine (spares_buildMediaVariantJson served.left.left.left).bind fun _ _ => ?_
  refine (spares_buildMediaVariantJson served.left.left.right).bind fun _ _ => ?_
  refine (spares_buildMediaVariantJson served.left.right).bind fun _ _ => ?_
  exact (spares_buildMediaVariantJson served.right).bind fun _ _ => spares_ok _

theorem spares_buildMediaResourceJson {resource : MediaResource}
    (served : Served bad context (resourceRefs resource)) :
    Spares bad (context.buildMediaResourceJson resource) := by
  unfold buildMediaResourceJson
  refine (spares_resolveOptionalString served.left _).bind fun _ _ => ?_
  refine Spares.bind (spares_buildOption fun video isPart => ?_) fun _ _ => spares_ok _
  refine Spares.bind (spares_buildList fun variant member => ?_) fun _ _ => spares_ok _
  have contentType := (served.right.part isPart).element member
  exact (spares_resolveOptionalString contentType _).bind fun _ _ => spares_ok _

theorem spares_buildMediaJson {media : Media} {resource : Option MediaResource}
    (served : Served bad context (mediaRefs media ++ .ofOption resourceRefs resource)) :
    Spares bad (context.buildMediaJson media resource) := by
  have ofMedia : Served bad context (mediaRefs media) := served.left
  unfold buildMediaJson
  refine (spares_buildOption fun variants isPart =>
    spares_buildMediaVariantsJson (ofMedia.left.left.part isPart)).bind fun _ _ => ?_
  refine Spares.bind (spares_buildList fun tag member => ?_) fun _ _ => ?_
  · have kind := ofMedia.left.right.element member
    exact (spares_resolveOptionalString kind _).bind fun _ _ => spares_ok _
  refine (spares_resolveStringList ofMedia.right _).bind fun _ _ => ?_
  exact Spares.bind (spares_buildOption fun resource isPart =>
    spares_buildMediaResourceJson (served.right.part isPart)) fun _ _ => spares_ok _

end BuildContext

end TweetDb.Query
