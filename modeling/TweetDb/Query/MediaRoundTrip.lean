import TweetDb.Query.UserRoundTrip

/-! # Media that are sent back

A size without a mode and a video variant without a type are written as null,
which their fields do not accept.  Of media that have them the object is read as
an item that is converted, and its batch repeats the rows it was built from.
-/

namespace TweetDb.Query

open Json Relational Submit TweetModel
open TweetDb.Tweet (MediaDetails MediaGeometry MediaRect MediaTag MediaType Version)

/-! ## Complete media -/

/-- Each size has a mode. -/
def HasResizeModes (variants : Tweet.MediaSizeVariants) : Prop :=
  ∀ variant ∈ [variants.large, variants.medium, variants.small, variants.thumb].reduceOption,
    variant.resizeMode.isSome = true

def HasContentTypes (video : Tweet.MediaVideo) : Prop :=
  ∀ variant ∈ video.variants, variant.contentType.isSome = true

structure CompleteMedia (media : Tweet.Media) (resource : Option Tweet.MediaResource) : Prop where
  resizeModes : ∀ variants ∈ media.sizeVariants, HasResizeModes variants
  contentTypes : ∀ row ∈ resource, ∀ video ∈ row.content.video, HasContentTypes video

namespace BuildContext

variable {context : BuildContext}

/-! ## Parts without dictionary texts -/

@[simp] theorem decodeMediaType_mediaTypeJson (mediaType : MediaType) :
    decodeMediaType (mediaTypeJson mediaType) = some mediaType := by
  cases mediaType <;> rfl

theorem reads_mediaRectJson {rect : MediaRect} (valid : rect.Valid) :
    Reads decodeMediaRect (fun rect item => convertMediaRect item = .ok rect) rect
      (mediaRectJson rect) := by
  refine ⟨⟨rect.x, rect.y, rect.w, rect.h⟩, ?_, ?_⟩
  · simp [decodeMediaRect, mediaRectJson, required, List.lookup_cons]
  · have x : ∀ field, ensureNonnegative field rect.x = .ok () :=
      fun _ => ensureNonnegative_eq_ok.mpr valid.x
    have y : ∀ field, ensureNonnegative field rect.y = .ok () :=
      fun _ => ensureNonnegative_eq_ok.mpr valid.y
    have w : ∀ field, ensurePositive field rect.w = .ok () :=
      fun _ => ensurePositive_eq_ok.mpr valid.w
    have h : ∀ field, ensurePositive field rect.h = .ok () :=
      fun _ => ensurePositive_eq_ok.mpr valid.h
    simp only [convertMediaRect, x, y, w, h, bind, Except.bind, pure, Except.pure]

theorem reads_mediaGeometryJson {geometry : MediaGeometry} (valid : geometry.Valid) :
    Reads decodeMediaGeometry (fun geometry item => convertMediaGeometry item = .ok geometry)
      geometry (mediaGeometryJson geometry) := by
  obtain ⟨rects, readRects, areRects⟩ :=
    reads_list fun rect member => reads_mediaRectJson (valid.focusRects rect member)
  refine ⟨⟨geometry.w, geometry.h, rects⟩, ?_, ?_⟩
  · simp [decodeMediaGeometry, mediaGeometryJson, required, listed, defaulted, List.lookup_cons,
      readRects]
  · have w : ∀ field, ensurePositive field geometry.w = .ok () :=
      fun _ => ensurePositive_eq_ok.mpr valid.w
    have h : ∀ field, ensurePositive field geometry.h = .ok () :=
      fun _ => ensurePositive_eq_ok.mpr valid.h
    simp only [convertMediaGeometry, w, h, mapM_of_forall₂ areRects, bind, Except.bind, pure,
      Except.pure]

/-- The item of the details. -/
def submitMediaDetails (details : MediaDetails) : SubmitMediaDetails :=
  ⟨details.title, details.description, details.siteUrl, details.isEmbeddable,
    details.isMonetizable⟩

theorem nullable_mediaDetailsJson (details : Option MediaDetails) :
    nullable decodeMediaDetails (nullOr mediaDetailsJson details) =
      some (details.map submitMediaDetails) :=
  nullable_nullOr rfl fun part _ => by
    simp [decodeMediaDetails, mediaDetailsJson, submitMediaDetails, Json.optional, List.lookup_cons]

/-! ## Sizes -/

theorem reads_buildMediaVariantJson {variant : Tweet.MediaSizeVariant} {written : Value}
    (built : context.buildMediaVariantJson variant = .ok written)
    (valid : variant.Valid ∧ variant.resizeMode.isSome = true) :
    Reads decodeMediaVariant (fun _ item => ∃ converted, convertMediaVariant item = .ok converted)
      variant written := by
  obtain ⟨⟨positiveW, positiveH⟩, hasMode⟩ := valid
  obtain ⟨mode, isMode⟩ := Option.isSome_iff_exists.mp hasMode
  obtain ⟨resizeMode, isResizeMode, built⟩ := bind_eq_ok built
  cases built
  rw [eq_of_resolveOptionalString isResizeMode, isMode]
  refine ⟨⟨variant.w, variant.h, mode⟩, ?_, ⟨variant.w, variant.h, mode⟩, ?_⟩
  · simp [decodeMediaVariant, required, List.lookup_cons]
  · have w : ∀ field, ensurePositive field variant.w = .ok () :=
      fun _ => ensurePositive_eq_ok.mpr positiveW
    have h : ∀ field, ensurePositive field variant.h = .ok () :=
      fun _ => ensurePositive_eq_ok.mpr positiveH
    simp only [convertMediaVariant, w, h, bind, Except.bind, pure, Except.pure]

/-- The sizes are converted, and the same ones are there. -/
def StandsForVariants (variants : Tweet.MediaSizeVariants) (item : SubmitMediaVariants) : Prop :=
  ∃ converted, convertMediaVariants item = .ok converted ∧
    Tweet.Composite.fieldNulls converted.payload = Tweet.Composite.fieldNulls variants

/-- What an optional part is converted to, if any one of it is. -/
theorem exists_transpose {α β γ : Type} {convert : β → Except String γ} {value : Option α}
    {item : Option β}
    (each : Option.Rel (fun _ item => ∃ converted, convert item = .ok converted) value item) :
    ∃ converted, transpose convert item = .ok converted ∧ converted.isNone = value.isNone := by
  cases each with
  | none => exact ⟨none, rfl, rfl⟩
  | some related =>
    obtain ⟨converted, ran⟩ := related
    exact ⟨some converted, by rw [transpose, ran]; rfl, rfl⟩

theorem reads_buildMediaVariantsJson {variants : Tweet.MediaSizeVariants} {written : Value}
    (built : context.buildMediaVariantsJson variants = .ok written)
    (valid : variants.Valid ∧ HasResizeModes variants) :
    Reads decodeMediaVariants StandsForVariants variants written := by
  obtain ⟨large, largeBuilt, built⟩ := bind_eq_ok built
  obtain ⟨medium, mediumBuilt, built⟩ := bind_eq_ok built
  obtain ⟨small, smallBuilt, built⟩ := bind_eq_ok built
  obtain ⟨thumb, thumbBuilt, built⟩ := bind_eq_ok built
  cases built
  have hasMode : ∀ size ∈ [variants.large, variants.medium, variants.small, variants.thumb],
      ∀ variant ∈ size, variant.resizeMode.isSome = true :=
    fun size listed variant isVariant =>
      valid.2 variant (List.reduceOption_mem_iff.mpr (isVariant ▸ listed))
  obtain ⟨largeItem, readLarge, isLarge⟩ := reads_buildOption rfl reads_buildMediaVariantJson
    largeBuilt fun variant isVariant => ⟨valid.1.large variant isVariant,
      hasMode _ (by simp) variant isVariant⟩
  obtain ⟨mediumItem, readMedium, isMedium⟩ := reads_buildOption rfl reads_buildMediaVariantJson
    mediumBuilt fun variant isVariant => ⟨valid.1.medium variant isVariant,
      hasMode _ (by simp) variant isVariant⟩
  obtain ⟨smallItem, readSmall, isSmall⟩ := reads_buildOption rfl reads_buildMediaVariantJson
    smallBuilt fun variant isVariant => ⟨valid.1.small variant isVariant,
      hasMode _ (by simp) variant isVariant⟩
  obtain ⟨thumbItem, readThumb, isThumb⟩ := reads_buildOption rfl reads_buildMediaVariantJson
    thumbBuilt fun variant isVariant => ⟨valid.1.thumb variant isVariant,
      hasMode _ (by simp) variant isVariant⟩
  obtain ⟨convertedLarge, largeRan, sameLarge⟩ := exists_transpose isLarge
  obtain ⟨convertedMedium, mediumRan, sameMedium⟩ := exists_transpose isMedium
  obtain ⟨convertedSmall, smallRan, sameSmall⟩ := exists_transpose isSmall
  obtain ⟨convertedThumb, thumbRan, sameThumb⟩ := exists_transpose isThumb
  refine ⟨⟨largeItem, mediumItem, smallItem, thumbItem⟩, ?_,
    ⟨convertedLarge, convertedMedium, convertedSmall, convertedThumb⟩, ?_, ?_⟩
  · simp [decodeMediaVariants, Json.optional, List.lookup_cons, readLarge, readMedium, readSmall,
      readThumb]
  · simp only [convertMediaVariants, largeRan, mediumRan, smallRan, thumbRan, bind, Except.bind,
      pure, Except.pure]
  · simp only [Tweet.Composite.fieldNulls, MediaSizeVariants.payload, Option.isNone_map, sameLarge,
      sameMedium, sameSmall, sameThumb]

/-! ## Tags -/

theorem reads_buildMediaTagJson {tag : MediaTag} {written : Value}
    (built : context.buildMediaTagJson tag = .ok written) (fits : FitsId tag.userId) :
    Reads decodeMediaTag (fun tag item => convertMediaTag item = .ok tag) tag written := by
  obtain ⟨kind, isKind, built⟩ := bind_eq_ok built
  cases built
  rw [eq_of_resolveOptionalString isKind]
  refine ⟨⟨tag.userId.map toString, tag.kind⟩, ?_, ?_⟩
  · simp [decodeMediaTag, Json.optional, List.lookup_cons]
  · simp only [convertMediaTag, parseOptionalI64Id_toString fits, bind, Except.bind, pure,
      Except.pure]

/-! ## Resources -/

theorem reads_buildVideoVariantJson {variant : Tweet.VideoVariant} {written : Value}
    (built : context.buildVideoVariantJson variant = .ok written)
    (valid : Counts variant.bitrate ∧ variant.contentType.isSome = true) :
    Reads decodeVideoVariant (fun _ item => ∃ converted, convertVideoVariant item = .ok converted)
      variant written := by
  obtain ⟨counts, hasType⟩ := valid
  obtain ⟨value, isValue⟩ := Option.isSome_iff_exists.mp hasType
  obtain ⟨contentType, isType, built⟩ := bind_eq_ok built
  cases built
  rw [eq_of_resolveOptionalString isType, isValue]
  refine ⟨⟨value, variant.bitrate, variant.url⟩, ?_, ⟨value, variant.bitrate, variant.url⟩, ?_⟩
  · simp [decodeVideoVariant, required, Json.optional, List.lookup_cons]
  · have bitrate : ∀ field, validateOptionalNonnegative field variant.bitrate =
        .ok variant.bitrate :=
      fun _ => validateOptionalNonnegative_eq_ok.mpr ⟨rfl, counts⟩
    simp only [convertVideoVariant, bitrate, bind, Except.bind, pure, Except.pure]

theorem mapM_exists {α β γ : Type} {convert : β → Except String γ} {values : List α}
    {items : List β}
    (each : List.Forall₂ (fun _ item => ∃ converted, convert item = .ok converted) values items) :
    ∃ converted, items.mapM convert = .ok converted := by
  induction each with
  | nil => exact ⟨[], rfl⟩
  | cons first _ inductionHypothesis =>
    obtain ⟨converted, ran⟩ := first
    obtain ⟨others, ranOthers⟩ := inductionHypothesis
    exact ⟨converted :: others, by rw [List.mapM_cons, ran, ranOthers]; rfl⟩

/-- An aspect ratio has both of its numbers or none. -/
theorem nullable_aspectRatioJson {w h : Option Int} (both : w.isSome = h.isSome) :
    ∃ ratio, nullable decodeAspectRatio (aspectRatioJson w h) = some ratio ∧
      ratio.map Prod.fst = w ∧ ratio.map Prod.snd = h := by
  cases w with
  | none =>
    cases h with
    | none => exact ⟨none, rfl, rfl, rfl⟩
    | some h => cases both
  | some w =>
    cases h with
    | none => cases both
    | some h => exact ⟨some (w, h), rfl, rfl, rfl⟩

theorem reads_buildMediaVideoJson {video : Tweet.MediaVideo} {written : Value}
    (built : context.buildMediaVideoJson video = .ok written)
    (valid : video.Valid ∧ HasContentTypes video) :
    Reads decodeMediaVideo (fun _ item => ∃ converted, convertMediaVideo item = .ok converted)
      video written := by
  obtain ⟨variants, variantsBuilt, built⟩ := bind_eq_ok built
  cases built
  obtain ⟨items, readVariants, areVariants⟩ := reads_buildList reads_buildVideoVariantJson
    variantsBuilt fun variant member =>
      ⟨valid.1.variants variant member, valid.2 variant member⟩
  obtain ⟨ratio, readRatio, isW, isH⟩ := nullable_aspectRatioJson valid.1.aspectRatio
  obtain ⟨converted, ran⟩ := mapM_exists areVariants
  refine ⟨⟨ratio, video.durationMs, items⟩, ?_,
    ⟨video.aspectRatioW, video.aspectRatioH, video.durationMs, converted⟩, ?_⟩
  · simp [decodeMediaVideo, Json.optional, listed, defaulted, List.lookup_cons, readRatio,
      readVariants]
  · have duration : ∀ field, validateOptionalNonnegative field video.durationMs =
        .ok video.durationMs :=
      fun _ => validateOptionalNonnegative_eq_ok.mpr ⟨rfl, valid.1.durationMs⟩
    cases ratio with
    | none => simp [convertMediaVideo, duration, ran, ← isW, ← isH, bind, Except.bind, pure,
        Except.pure]
    | some ratio =>
      have w : ∀ field, ensurePositive field ratio.1 = .ok () :=
        fun _ => ensurePositive_eq_ok.mpr (valid.1.aspectRatioW ratio.1 isW.symm)
      have h : ∀ field, ensurePositive field ratio.2 = .ok () :=
        fun _ => ensurePositive_eq_ok.mpr (valid.1.aspectRatioH ratio.2 isH.symm)
      simp [convertMediaVideo, w, h, duration, ran, ← isW, ← isH, bind, Except.bind, pure,
        Except.pure]

/-- The resource has the time of the stored one, and its video is converted. -/
structure StandsForResource (resource : Tweet.MediaResource) (item : SubmitMediaResource) :
    Prop where
  fetchedAt : item.fetchedAt = some (resource.recordedAt * 1000)
  video : Option.Rel (fun _ item => ∃ converted, convertMediaVideo item = .ok converted)
    resource.content.video item.video

theorem reads_buildMediaResourceJson (lawful : context.formats.Lawful)
    {resource : Tweet.MediaResource} {written : Value}
    (built : context.buildMediaResourceJson resource = .ok written)
    (valid : resource.content.Valid ∧ (∀ video ∈ resource.content.video, HasContentTypes video) ∧
      readable resource.recordedAt = true) :
    Reads (decodeMediaResource context.formats.parseTime) StandsForResource resource written := by
  obtain ⟨availability, isAvailability, built⟩ := bind_eq_ok built
  obtain ⟨video, videoBuilt, built⟩ := bind_eq_ok built
  cases built
  rw [eq_of_resolveOptionalString isAvailability]
  obtain ⟨videoItem, readVideo, isVideo⟩ := reads_buildOption rfl reads_buildMediaVideoJson
    videoBuilt fun video isVideo => ⟨valid.1 video isVideo, valid.2.1 video isVideo⟩
  refine ⟨⟨some (resource.recordedAt * 1000), resource.content.mediaUrl,
    resource.content.availability, videoItem⟩, ?_, rfl, isVideo⟩
  simp [decodeMediaResource, timeField, Json.optional, List.lookup_cons,
    nullable_timeJson lawful valid.2.2, readVideo]

/-! ## Media -/

/-- The media is converted to one that fills nothing, and the resource to a version of the time
the stored one has. -/
structure StandsForMedia (parseUuid : String → Option Uuid) (media : Tweet.Media)
    (resource : Option Tweet.MediaResource) (item : SubmitMedia) : Prop where
  id : item.id = toString media.id
  converts : ∃ converted, convertMedia parseUuid media.id item = .ok converted ∧
    converted.id = media.id ∧ Tweet.Media.onConflict.condition media converted.payload.toRow = false
  resource : ∀ now, ∀ result ∈ convertMediaResource media.id item now,
    ∃ converted, result = .ok converted ∧ ∃ row ∈ resource,
      converted.mediaId = media.id ∧ converted.recordedAt = row.recordedAt

theorem transpose_variants {stored : Option Tweet.MediaSizeVariants}
    {item : Option SubmitMediaVariants} (each : Option.Rel StandsForVariants stored item) :
    ∃ sizes, transpose convertMediaVariants item = .ok sizes ∧
      Option.Rel (fun stored excluded => Tweet.Composite.fieldNulls excluded =
        Tweet.Composite.fieldNulls stored) stored (sizes.map MediaSizeVariants.payload) := by
  cases each with
  | none => exact ⟨none, rfl, .none⟩
  | some stands =>
    obtain ⟨converted, ran, same⟩ := stands
    exact ⟨some converted, by rw [transpose, ran]; rfl, .some same⟩

section Whole

variable (lawful : context.formats.Lawful)

include lawful

theorem reads_buildMediaJson {media : Tweet.Media} {resource : Option Tweet.MediaResource}
    {written : Value} (built : context.buildMediaJson media resource = .ok written)
    (valid : media.Valid) (complete : CompleteMedia media resource)
    (validResource : ∀ row ∈ resource, row.content.Valid ∧ readable row.recordedAt = true) :
    ∃ item, decodeMedia context.formats.parseTime written = some item ∧
      StandsForMedia context.formats.parseUuid media resource item := by
  obtain ⟨variants, variantsBuilt, built⟩ := bind_eq_ok built
  obtain ⟨taggedUsers, tagsBuilt, built⟩ := bind_eq_ok built
  obtain ⟨warnings, areWarnings, built⟩ := bind_eq_ok built
  obtain ⟨resourceWritten, resourceBuilt, built⟩ := bind_eq_ok built
  cases built
  rw [eq_of_resolveStringList areWarnings]
  obtain ⟨variantsItem, readVariants, areVariants⟩ :=
    reads_buildOption rfl reads_buildMediaVariantsJson variantsBuilt fun part isPart =>
      ⟨valid.sizeVariants part isPart, complete.resizeModes part isPart⟩
  obtain ⟨tags, readTags, areTags⟩ :=
    reads_buildList reads_buildMediaTagJson tagsBuilt valid.taggedUsers
  obtain ⟨resourceItem, readResource, isResource⟩ :=
    reads_buildOption rfl (reads_buildMediaResourceJson lawful) resourceBuilt fun row isRow =>
      ⟨(validResource row isRow).1, complete.contentTypes row isRow, (validResource row isRow).2⟩
  obtain ⟨geometryItem, readGeometry, isGeometry⟩ :=
    reads_nullOr rfl fun part isPart => reads_mediaGeometryJson (valid.geometry part isPart)
  obtain ⟨origin, readOrigin, isTweet, isUser⟩ :=
    reads_mediaOriginJson media.originTweetId media.originUserId
  have readUuid : nullable text
      (nullOr (fun id => .string (context.formats.formatUuid id)) media.grokPostId) =
        some (media.grokPostId.map context.formats.formatUuid) :=
    nullable_nullOr rfl fun _ _ => rfl
  let item : SubmitMedia := ⟨toString media.id, none, media.mediaType, none, media.altText,
    media.grokPostId.map context.formats.formatUuid, geometryItem, variantsItem, tags,
    media.sensitivityWarnings, none, none, origin, media.details.map submitMediaDetails,
    resourceItem⟩
  refine ⟨item, ?_, rfl, ?_, fun now result isResult => ?_⟩
  · -- Each field is found by its name; the ones left out are read as absent.
    simp only [decodeMedia, record_object, timeField, required, Json.optional, listed, defaulted,
      List.lookup_cons, List.lookup_nil, String.reduceBEq, Option.bind_some, Option.getD_some,
      Option.getD_none,
      nullable_null, text_idJson, decodeMediaType_mediaTypeJson, nullable_text_nullOr, readUuid,
      readGeometry, readVariants,
      readTags, items_text_list, readOrigin, nullable_mediaDetailsJson media.details, readResource]
    rfl
  · obtain ⟨sizes, sizesRan, sameSizes⟩ := transpose_variants areVariants
    have geometryRan : transpose convertMediaGeometry geometryItem = .ok media.geometry :=
      transpose_of_rel isGeometry fun _ _ _ _ converts => converts
    have ran : convertMedia context.formats.parseUuid media.id item =
        .ok ⟨media.id, media.mediaType, media.altText, media.grokPostId, media.geometry, sizes,
          media.taggedUsers, media.sensitivityWarnings, media.originTweetId, media.originUserId,
          (media.details.map submitMediaDetails).map convertMediaDetails⟩ := by
      rw [convertMedia, transpose_map]
      · simp only [geometryRan, sizesRan, mapM_of_forall₂ areTags, item, isTweet, isUser,
          parseOptionalI64Id_toString valid.originTweetId,
          parseOptionalI64Id_toString valid.originUserId, bind, Except.bind, pure, Except.pure]
      · exact fun id _ => by rw [lawful.parseUuid]
    refine ⟨_, ran, rfl, ?_⟩
    have sameDetails : (media.details.map submitMediaDetails).map convertMediaDetails =
        media.details := by
      cases media.details <;> rfl
    have sizesFilled := fillableRow_of_fieldNulls sameSizes fun row _ => by
      simp [Tweet.Composite.fieldNulls]
    have warningsFilled := fillableArray_ensureIds media.sensitivityWarnings
    have tagsFilled := fillableArray_map media.taggedUsers mediaTagPayload
    simp [Tweet.Media.onConflict, Tweet.MediaPayload.toRow, Media.payload, sizesFilled,
      warningsFilled, tagsFilled, sameDetails, Tweet.Composite.fieldNulls]
  · cases isResource with
    | none => simp [convertMediaResource, item] at isResult
    | @some row part stands =>
      have isTime : ((item.resource.bind SubmitMediaResource.fetchedAt).or item.fetchedAt) =
          some (row.recordedAt * 1000) := by
        simp [item, stands.fetchedAt]
      obtain ⟨video, videoRan, _⟩ := exists_transpose stands.video
      simp only [convertMediaResource, isTime] at isResult
      split at isResult
      next => cases isResult
      next =>
        have isVideo : (item.resource.bind SubmitMediaResource.video).or item.video =
            part.video := by
          simp [item]
        rw [isVideo, videoRan] at isResult
        cases isResult
        exact ⟨_, rfl, row, rfl, rfl, postgresTimestamptz_microseconds row.recordedAt⟩

end Whole

/-- What the one media of a request is prepared to. -/
theorem prepareMedia_of_stands {media : Tweet.Media} {resource : Option Tweet.MediaResource}
    {item : SubmitMedia} {prepareContext : PrepareContext} {parseUuid : String → Option Uuid}
    (fits : Fits 64 media.id) (stands : StandsForMedia parseUuid media resource item)
    (sameParse : prepareContext.parseUuid = parseUuid) (now : OffsetDateTime) :
    let prepared := prepareMedia prepareContext now
      (lastValidIndex "media.id" SubmitMedia.id [item]) 0 item
    prepared.result = .new item.id ∧
      (∀ converted ∈ prepared.media, converted.id = media.id ∧
        Tweet.Media.onConflict.condition media converted.payload.toRow = false) ∧
      ∀ converted ∈ prepared.resource, ∃ row ∈ resource,
        converted.mediaId = media.id ∧ converted.recordedAt = row.recordedAt := by
  have isParsed : ∀ field, parseI64Id item.id field = .ok media.id :=
    fun _ => parseI64Id_of_isId fits stands.id
  have isLast : lastValidIndex "media.id" SubmitMedia.id [item] media.id = some 0 :=
    lastValidIndex_single (isParsed "media.id")
  obtain ⟨noMediaError, models⟩ := @part_of_converts _
    (some (convertMedia prepareContext.parseUuid media.id item))
    (fun converted => converted.id = media.id ∧
      Tweet.Media.onConflict.condition media converted.payload.toRow = false)
    fun result isResult => by
    cases isResult
    rw [sameParse]
    exact stands.converts
  obtain ⟨noResourceError, resources⟩ := @part_of_converts _
    (convertMediaResource media.id item now)
    (fun converted => ∃ row ∈ resource,
      converted.mediaId = media.id ∧ converted.recordedAt = row.recordedAt) fun result isResult =>
    stands.resource now result isResult
  simp only [prepareMedia, isParsed, isLast, ne_eq, not_true_eq_false, if_false, noMediaError,
    noResourceError]
  exact ⟨trivial, models, resources⟩

/-- A found media whose sizes have modes and whose videos have types can be sent again. -/
theorem media_repeats {db : Database} {id : Int} {data : Value} (lawful : context.formats.Lawful)
    (fitting : context.lookups.Fitting) (valid : db.Valid)
    (complete : ∀ media ∈ db.media.find id, CompleteMedia media (latest db.mediaResources id))
    (found : context.queryMedia db id = .found data) :
    ∃ item, decodeMedia context.formats.parseTime data = some item ∧
      RequestRepeats context.lookups context.formats.parseUuid [] db ⟨[], [], [item]⟩ := by
  unfold queryMedia at found
  split at found
  next => cases found
  next media isStored =>
    obtain ⟨resource, isResource, built⟩ := bind_eq_ok (answer_eq_found found)
    have member := Table.mem_of_find isStored
    have isId : media.id = id := Table.find_key isStored
    have latestResource := decodeLatest_eq_ok isResource
    obtain ⟨rfl, _⟩ := decodeOptional_eq_ok isResource
    have validMedia := valid.media media member
    obtain ⟨item, read, stands⟩ := reads_buildMediaJson lawful built validMedia
      (complete media isStored) fun row isRow =>
        ⟨valid.mediaResources row (latestResource row isRow).1, (latestResource row isRow).2.2⟩
    have nothing : lookupTexts ⟨[], [], [item]⟩ = [] := rfl
    have known : context.lookups.Knows ⟨[], [], [item]⟩ := ⟨by simp [lookupCategories], by
      simp [nothing]⟩
    refine ⟨item, read, known, fun newIds clocks => ?_⟩
    obtain ⟨ids, resolved, agree⟩ := resolveSubmitLookupIds_of_known newIds fitting known
    let prepareContext : PrepareContext :=
      ⟨context.lookups.store newIds, some ids, context.formats.parseUuid⟩
    let prepared := prepareMedia prepareContext (clocks.media 0)
      (lastValidIndex "media.id" SubmitMedia.id [item]) 0 item
    have batch : prepareSubmitBatch (context.lookups.store newIds) context.formats.parseUuid clocks
        ⟨[], [], [item]⟩ = collectBatch [] [prepared] [] := by
      rw [prepareSubmitBatch, resolved]
      rfl
    obtain ⟨isResult, models, resources⟩ :=
      @prepareMedia_of_stands _ _ _ prepareContext _ validMedia.id stands rfl (clocks.media 0)
    rw [batch]
    refine ⟨?_, ?_, rfl⟩
    · intro result member
      have isNew : result = .new item.id := by simpa [collectBatch, prepared, isResult] using member
      rw [isNew]
      exact ⟨rfl, rfl⟩
    · constructor
      case media =>
        intro entry inBatch
        obtain ⟨sameId, quiet⟩ := models _ (mem_collect_single inBatch)
        exact ⟨media, by rw [← isStored, ← isId, ← sameId]; rfl, quiet⟩
      case mediaResources =>
        intro entry inBatch
        obtain ⟨row, isRow, sameMedia, sameTime⟩ := resources _ (mem_collect_single inBatch)
        obtain ⟨isStoredRow, isSubject, _⟩ := latestResource row isRow
        exact ⟨row, isStoredRow, Version.clash_iff.mpr
          ⟨isSubject.trans (isId.symm.trans sameMedia.symm), sameTime.symm⟩⟩
      all_goals exact fun _ nothing => absurd nothing List.not_mem_nil

end BuildContext

end TweetDb.Query
