import TweetDb.Submit.Valid

/-! # Converted objects are valid

Each conversion returns an object whose row has the form of a stored one.
-/

namespace TweetDb.Submit

open TweetModel
open TweetDb.Tweet (AnnotatedText HashtagEntity MediaEntity MediaGeometry MediaRect MediaTag
  MentionEntity SymbolEntity TextStyleRange TweetCommunityNote TweetEdit TweetRow TweetStats
  UrlEntity UserDisclosure UserIdentity UserProfessional UserStats)

section Parts

variable {α β : Type}

/-- A conversion that starts with a range goes on with it. -/
theorem checked_range {range : SubmitTextRange} {field : String}
    {rest : SubmitTextRange → Except String α} {result : α}
    (ran : (validateRange range field).bind rest = .ok result) :
    InOrder range.start range.stop ∧ rest range = .ok result := by
  obtain ⟨checked, isChecked, ran⟩ := bind_eq_ok ran
  obtain ⟨same, inOrder⟩ := validateRange_eq_ok.mp isChecked
  exact ⟨inOrder, same ▸ ran⟩

theorem forall_of_mapM {convert : α → Except String β} {holds : β → Prop}
    (valid : ∀ {value result}, convert value = .ok result → holds result)
    {values : List α} {results : List β} (ran : values.mapM convert = .ok results) :
    ∀ result ∈ results, holds result := by
  intro result member
  obtain ⟨value, _, isConverted⟩ := exists_of_forall₂ (mapM_eq_ok.mp ran) member
  exact valid isConverted

theorem forall_of_transpose {convert : α → Except String β} {holds : β → Prop}
    (valid : ∀ {value result}, convert value = .ok result → holds result)
    {value : Option α} {result : Option β} (ran : transpose convert value = .ok result) :
    ∀ part ∈ result, holds part := by
  intro part isPart
  cases isPart
  have parts := transpose_eq_ok.mp ran
  cases parts with
  | some isConverted => exact valid isConverted

end Parts

/-! ## Payloads -/

section Payload

theorem forall_map_payload {α β : Type} (payload : α → β) {holds : α → Prop} {holds' : β → Prop}
    (keeps : ∀ {value}, holds value → holds' (payload value)) {value : Option α}
    (valid : ∀ part ∈ value, holds part) : ∀ part ∈ value.map payload, holds' part := by
  intro part isPart
  cases value with
  | none => cases isPart
  | some value =>
    cases isPart
    exact keeps (valid value rfl)

theorem valid_annotatedTextPayload {text : AnnotatedText} (valid : text.Valid) :
    (annotatedTextPayload text).Valid where
  displayRange := valid.displayRange
  hashtags := valid.hashtags
  symbols := valid.symbols
  urls := valid.urls
  mentions := valid.mentions
  mediaRefs := valid.mediaRefs
  styles := by
    intro style member
    obtain ⟨object, isObject, rfl⟩ := List.mem_map.mp member
    exact valid.styles object isObject

theorem valid_userIdentityPayload {identity : UserIdentity} (valid : identity.Valid) :
    (userIdentityPayload identity).Valid :=
  forall_map_payload userDisclosurePayload (fun fits => fits) valid

end Payload

/-! ## Texts -/

section Text

variable {store : LookupStore} {lookupIds : Option SubmitLookupIds}

theorem inOrder_of_convertHashtag {hashtagIds : String → Option Int} {item : SubmitHashtagEntity}
    {entity : HashtagEntity} (ran : convertHashtag hashtagIds item = .ok entity) :
    InOrder entity.rangeStart entity.rangeEnd := by
  obtain ⟨inOrder, ran⟩ := checked_range ran
  obtain ⟨hashtagId, _, ran⟩ := bind_eq_ok ran
  cases ran
  exact inOrder

theorem inOrder_of_convertSymbol {symbolIds : String → Option Int}
    {item : SubmitSymbolEntity × SubmitTextRange} {entity : SymbolEntity}
    (ran : convertSymbol symbolIds item.1 item.2 = .ok entity) :
    InOrder entity.rangeStart entity.rangeEnd := by
  obtain ⟨inOrder, ran⟩ := checked_range ran
  obtain ⟨symbolId, _, ran⟩ := bind_eq_ok ran
  cases ran
  exact inOrder

theorem inOrder_of_convertUrl {item : SubmitUrlEntity} {entity : UrlEntity}
    (ran : convertUrl item = .ok entity) : InOrder entity.rangeStart entity.rangeEnd := by
  obtain ⟨inOrder, ran⟩ := checked_range ran
  cases ran
  exact inOrder

theorem valid_of_convertMention {item : SubmitMentionEntity} {entity : MentionEntity}
    (ran : convertMention item = .ok entity) :
    InOrder entity.rangeStart entity.rangeEnd ∧ Fits 64 entity.userId := by
  obtain ⟨inOrder, ran⟩ := checked_range ran
  obtain ⟨userId, isId, ran⟩ := bind_eq_ok ran
  cases ran
  exact ⟨inOrder, fits_of_parseI64Id isId⟩

theorem valid_of_convertMediaEntity {item : SubmitMediaEntity} {entity : MediaEntity}
    (ran : convertMediaEntity item = .ok entity) :
    InOrder entity.rangeStart entity.rangeEnd ∧ Fits 64 entity.mediaId ∧
      FitsId entity.originTweetId ∧ FitsId entity.originUserId := by
  obtain ⟨range, isRange, ran⟩ := bind_eq_ok ran
  obtain ⟨mediaId, isId, ran⟩ := bind_eq_ok ran
  obtain ⟨originTweetId, isTweet, ran⟩ := bind_eq_ok ran
  obtain ⟨originUserId, isUser, ran⟩ := bind_eq_ok ran
  cases ran
  refine ⟨?_, fits_of_parseI64Id isId, (fitsId_of_parse isTweet).1, (fitsId_of_parse isUser).1⟩
  have ranges := transpose_eq_ok.mp isRange
  generalize item.range = given at ranges
  cases ranges with
  | none => simp [InOrder] -- without a range the entity is put at the start
  | some isChecked =>
    obtain ⟨rfl, inOrder⟩ := validateRange_eq_ok.mp isChecked
    exact inOrder

theorem inOrder_of_convertStyle {item : SubmitTextStyleRange} {style : TextStyleRange}
    (ran : convertStyle item = .ok style) : InOrder style.rangeStart style.rangeEnd := by
  obtain ⟨inOrder, ran⟩ := checked_range ran
  cases ran
  exact inOrder

/-- What a conversion that succeeds makes of the parts of a text. -/
structure ConvertsText (store : LookupStore) (lookupIds : Option SubmitLookupIds)
    (value : SubmitAnnotatedText) (text : AnnotatedText) : Prop where
  displayRangeStart : text.displayRangeStart = value.displayRange.map SubmitTextRange.start
  displayRangeEnd : text.displayRangeEnd = value.displayRange.map SubmitTextRange.stop
  hashtags : ∃ ids, textHashtagIds store lookupIds value = .ok ids ∧
    value.entities.hashtags.mapM (convertHashtag ids) = .ok text.hashtags
  symbols : ∃ ids, textSymbolIds store lookupIds value = .ok ids ∧
    (rangedSymbols value).mapM (fun (entity, range) => convertSymbol ids entity range) =
      .ok text.symbols
  urls : value.entities.urls.mapM convertUrl = .ok text.urls
  mentions : value.entities.mentions.mapM convertMention = .ok text.mentions
  mediaRefs : value.entities.media.mapM convertMediaEntity = .ok text.mediaRefs
  styles : value.styles.mapM convertStyle = .ok text.styles

theorem convertsText_of_convert {value : SubmitAnnotatedText} {text : AnnotatedText}
    (ran : convertAnnotatedText store lookupIds value = .ok text) :
    ConvertsText store lookupIds value text := by
  obtain ⟨hashtagIds, areHashtagIds, ran⟩ := bind_eq_ok ran
  obtain ⟨symbolIds, areSymbolIds, ran⟩ := bind_eq_ok ran
  obtain ⟨hashtags, areHashtags, ran⟩ := bind_eq_ok ran
  obtain ⟨symbols, areSymbols, ran⟩ := bind_eq_ok ran
  obtain ⟨urls, areUrls, ran⟩ := bind_eq_ok ran
  obtain ⟨mentions, areMentions, ran⟩ := bind_eq_ok ran
  obtain ⟨mediaRefs, areMediaRefs, ran⟩ := bind_eq_ok ran
  obtain ⟨styles, areStyles, ran⟩ := bind_eq_ok ran
  cases ran
  exact ⟨rfl, rfl, ⟨hashtagIds, areHashtagIds, areHashtags⟩, ⟨symbolIds, areSymbolIds, areSymbols⟩,
    areUrls, areMentions, areMediaRefs, areStyles⟩

theorem valid_of_convertAnnotatedText {value : SubmitAnnotatedText} {text : AnnotatedText}
    (ran : convertAnnotatedText store lookupIds value = .ok text) : text.Valid := by
  have parts := convertsText_of_convert ran
  obtain ⟨_, _, areHashtags⟩ := parts.hashtags
  obtain ⟨_, _, areSymbols⟩ := parts.symbols
  exact
    { displayRange := by
        rw [parts.displayRangeStart, parts.displayRangeEnd]
        cases value.displayRange <;> rfl
      hashtags := forall_of_mapM inOrder_of_convertHashtag areHashtags
      symbols := forall_of_mapM inOrder_of_convertSymbol areSymbols
      urls := forall_of_mapM inOrder_of_convertUrl parts.urls
      mentions := forall_of_mapM valid_of_convertMention parts.mentions
      mediaRefs := forall_of_mapM valid_of_convertMediaEntity parts.mediaRefs
      styles := forall_of_mapM inOrder_of_convertStyle parts.styles }

theorem valid_of_convertTweetCommunityNote {tweetId : Int} {value : SubmitTweetCommunityNote}
    {note : TweetCommunityNote}
    (ran : convertTweetCommunityNote store lookupIds tweetId value = .ok note) : note.Valid := by
  obtain ⟨noteId, isId, ran⟩ := bind_eq_ok ran
  obtain ⟨subtitle, isSubtitle, ran⟩ := bind_eq_ok ran
  obtain ⟨footer, isFooter, ran⟩ := bind_eq_ok ran
  cases ran
  exact ⟨(fitsId_of_parse isId).1, forall_of_transpose valid_of_convertAnnotatedText isSubtitle,
    forall_of_transpose valid_of_convertAnnotatedText isFooter⟩

/-! ## Users -/

theorem fitsId_of_disclosure {field : String} {item : SubmitUserDisclosure}
    {disclosure : UserDisclosure}
    (ran : ((parseOptionalI64Id item.subjectId field).bind fun subjectId =>
      .ok ⟨item.relation, subjectId, item.subjectHandle, item.subjectName, item.subjectUrl⟩) =
        .ok disclosure) : FitsId disclosure.subjectId := by
  obtain ⟨subjectId, isId, ran⟩ := bind_eq_ok ran
  cases ran
  exact (fitsId_of_parse isId).1

theorem valid_of_convertUserIdentity {value : SubmitUserIdentity} {identity : UserIdentity}
    (ran : convertUserIdentity value = .ok identity) : identity.Valid := by
  obtain ⟨disclosure, isDisclosure, ran⟩ := bind_eq_ok ran
  cases ran
  exact forall_of_transpose fitsId_of_disclosure isDisclosure

theorem fitsId_of_convertUserProfessional {value : SubmitUserProfessional}
    {professional : UserProfessional}
    (ran : convertUserProfessional store lookupIds value = .ok professional) :
    FitsId professional.professionalId := by
  obtain ⟨categories, _, ran⟩ := bind_eq_ok ran
  -- Both ways to the category ids go on alike.
  split at ran
  all_goals
    obtain ⟨ids, _, ran⟩ := bind_eq_ok ran
    obtain ⟨categoryIds, _, ran⟩ := bind_eq_ok ran
    obtain ⟨professionalId, isId, ran⟩ := bind_eq_ok ran
    cases ran
    exact (fitsId_of_parse isId).1

theorem valid_of_convertUserSnapshot {userId : Int} {user : SubmitUser}
    {profile : SubmitUserProfile} {now : OffsetDateTime} {snapshot : UserSnapshot}
    (ran : convertUserSnapshot store lookupIds userId user profile now = .ok snapshot) :
    snapshot.payload.toVersion.content.Valid := by
  obtain ⟨bio, isBio, ran⟩ := bind_eq_ok ran
  obtain ⟨identity, isIdentity, ran⟩ := bind_eq_ok ran
  obtain ⟨professional, isProfessional, ran⟩ := bind_eq_ok ran
  obtain ⟨pinnedTweetIds, areIds, ran⟩ := bind_eq_ok ran
  cases ran
  exact
    { bio := forall_map_payload _ valid_annotatedTextPayload
        (forall_of_transpose valid_of_convertAnnotatedText isBio)
      identity := forall_map_payload _ valid_userIdentityPayload
        (forall_of_transpose valid_of_convertUserIdentity isIdentity)
      professional := forall_map_payload userProfessionalPayload (fun fits => fits)
        (forall_of_transpose fitsId_of_convertUserProfessional isProfessional)
      pinnedTweetIds := (fits_of_parseI64Ids areIds).1 }

theorem valid_of_convertUserStats {userId : Int} {fetchedAt : Option OffsetDateTime}
    {value : SubmitUserStats} {now : OffsetDateTime} {stats : UserStats}
    (ran : convertUserStats userId fetchedAt value now = .ok stats) :
    stats.toVersion.content.Valid := by
  obtain ⟨_, checked, ran⟩ := bind_eq_ok ran
  cases ran
  exact ensureNonnegativeOptions_eq_ok.mp checked

/-! ## Tweets -/

theorem valid_of_convertTweetEdit {tweetId : Int} {value : SubmitTweetEdit} {edit : TweetEdit}
    (ran : convertTweetEdit tweetId value = .ok edit) : edit.Valid := by
  obtain ⟨versionIds, areIds, ran⟩ := bind_eq_ok ran
  obtain ⟨remainingEdits, isCount, ran⟩ := bind_eq_ok ran
  cases ran
  obtain ⟨counts, fits⟩ := checked_of_parseOptionalI32String isCount
  exact ⟨(fits_of_parseI64Ids areIds).1, counts, fits⟩

theorem valid_of_convertTweetStats {tweetId : Int} {fetchedAt : Option OffsetDateTime}
    {value : SubmitTweetStats} {now : OffsetDateTime} {stats : TweetStats}
    (ran : convertTweetStats tweetId fetchedAt value now = .ok stats) :
    stats.toVersion.content.Valid := by
  obtain ⟨_, checked, ran⟩ := bind_eq_ok ran
  obtain ⟨views, isViews, ran⟩ := bind_eq_ok ran
  cases ran
  obtain ⟨counts, fits⟩ := checked_of_parseOptionalI64String isViews
  exact ⟨ensureNonnegativeOptions_eq_ok.mp checked, counts, fits⟩

/-- The parts of a converted tweet. -/
structure ConvertedTweet.Valid (converted : ConvertedTweet) : Prop where
  tweet : (tweetPayload converted.tweet).Valid
  edit : ∀ edit ∈ converted.edit, edit.Valid
  communityNote : ∀ note ∈ converted.communityNote, (tweetCommunityNotePayload note).Valid
  stats : ∀ stats ∈ converted.stats, stats.toVersion.content.Valid

theorem valid_tweetCommunityNotePayload {note : TweetCommunityNote} (valid : note.Valid) :
    (tweetCommunityNotePayload note).Valid where
  noteId := valid.noteId
  subtitle := forall_map_payload _ valid_annotatedTextPayload valid.subtitle
  footer := forall_map_payload _ valid_annotatedTextPayload valid.footer

theorem valid_of_convertTweet {tweetId authorId : Int} {placeId : Option String}
    {value : SubmitTweet} {now : OffsetDateTime} {converted : ConvertedTweet}
    (fitsTweet : Fits 64 tweetId) (fitsAuthor : Fits 64 authorId)
    (ran : convertTweet store lookupIds tweetId authorId placeId value now = .ok converted) :
    converted.Valid := by
  obtain ⟨legacyText, isLegacy, ran⟩ := bind_eq_ok ran
  obtain ⟨noteText, isNote, ran⟩ := bind_eq_ok ran
  obtain ⟨conversationId, isConversation, ran⟩ := bind_eq_ok ran
  obtain ⟨replyToTweetId, isReply, ran⟩ := bind_eq_ok ran
  obtain ⟨replyToUserId, isReplyUser, ran⟩ := bind_eq_ok ran
  obtain ⟨quoteTweetId, isQuote, ran⟩ := bind_eq_ok ran
  obtain ⟨repostId, isRepost, ran⟩ := bind_eq_ok ran
  obtain ⟨edit, isEdit, ran⟩ := bind_eq_ok ran
  obtain ⟨stats, areStats, ran⟩ := bind_eq_ok ran
  obtain ⟨communityNote, isCommunityNote, ran⟩ := bind_eq_ok ran
  obtain ⟨mediaRefs, _, ran⟩ := bind_eq_ok ran
  cases ran
  constructor
  case tweet =>
    exact
      { id := fitsTweet
        authorId := fitsAuthor
        legacyText := valid_annotatedTextPayload (valid_of_convertAnnotatedText isLegacy)
        noteText := forall_map_payload _ valid_annotatedTextPayload
          (forall_of_transpose valid_of_convertAnnotatedText isNote)
        note := by
          have texts := transpose_eq_ok.mp isNote
          generalize value.content.note = note at texts
          cases texts <;> simp [tweetPayload]
        conversationId := fits_of_parseI64Id isConversation
        replyToTweetId := (fitsId_of_parse isReply).1
        replyToUserId := (fitsId_of_parse isReplyUser).1
        reply := by
          have replies := (fitsId_of_parse isReply).2
          have users := (fitsId_of_parse isReplyUser).2
          intro absent
          cases reply : value.conversation.replyTo <;> simp_all [tweetPayload]
        quoteTweetId := (fitsId_of_parse isQuote).1
        quote := by
          have quotes := (fitsId_of_parse isQuote).2
          intro absent
          cases quote : value.conversation.quote <;> simp_all [tweetPayload]
        repostId := (fitsId_of_parse isRepost).1 }
  case edit => exact forall_of_transpose valid_of_convertTweetEdit isEdit
  case communityNote =>
    exact fun note isNote => valid_tweetCommunityNotePayload
      (forall_of_transpose valid_of_convertTweetCommunityNote isCommunityNote note isNote)
  case stats => exact forall_of_transpose valid_of_convertTweetStats areStats

end Text

/-! ## Media -/

theorem valid_of_convertMediaRect {item : SubmitMediaRect} {rect : MediaRect}
    (ran : convertMediaRect item = .ok rect) : rect.Valid := by
  obtain ⟨_, x, ran⟩ := bind_eq_ok ran
  obtain ⟨_, y, ran⟩ := bind_eq_ok ran
  obtain ⟨_, w, ran⟩ := bind_eq_ok ran
  obtain ⟨_, h, ran⟩ := bind_eq_ok ran
  cases ran
  exact ⟨ensureNonnegative_eq_ok.mp x, ensureNonnegative_eq_ok.mp y, ensurePositive_eq_ok.mp w,
    ensurePositive_eq_ok.mp h⟩

theorem valid_of_convertMediaGeometry {item : SubmitMediaGeometry} {geometry : MediaGeometry}
    (ran : convertMediaGeometry item = .ok geometry) : geometry.Valid := by
  obtain ⟨_, w, ran⟩ := bind_eq_ok ran
  obtain ⟨_, h, ran⟩ := bind_eq_ok ran
  obtain ⟨focusRects, areRects, ran⟩ := bind_eq_ok ran
  cases ran
  exact ⟨ensurePositive_eq_ok.mp w, ensurePositive_eq_ok.mp h,
    forall_of_mapM valid_of_convertMediaRect areRects⟩

theorem valid_of_convertMediaVariant {item : SubmitMediaVariant} {variant : MediaSizeVariant}
    (ran : convertMediaVariant item = .ok variant) : variant.payload.Valid := by
  obtain ⟨_, w, ran⟩ := bind_eq_ok ran
  obtain ⟨_, h, ran⟩ := bind_eq_ok ran
  cases ran
  exact ⟨ensurePositive_eq_ok.mp w, ensurePositive_eq_ok.mp h⟩

theorem valid_of_convertMediaVariants {item : SubmitMediaVariants} {variants : MediaSizeVariants}
    (ran : convertMediaVariants item = .ok variants) : variants.payload.Valid := by
  obtain ⟨large, isLarge, ran⟩ := bind_eq_ok ran
  obtain ⟨medium, isMedium, ran⟩ := bind_eq_ok ran
  obtain ⟨small, isSmall, ran⟩ := bind_eq_ok ran
  obtain ⟨thumb, isThumb, ran⟩ := bind_eq_ok ran
  cases ran
  have payload : ∀ {item variant}, transpose convertMediaVariant item = .ok variant →
      ∀ part ∈ variant.map MediaSizeVariant.payload, part.Valid :=
    fun ran => forall_map_payload MediaSizeVariant.payload id
      (forall_of_transpose valid_of_convertMediaVariant ran)
  exact ⟨payload isLarge, payload isMedium, payload isSmall, payload isThumb⟩

theorem fitsId_of_convertMediaTag {item : SubmitMediaTag} {tag : MediaTag}
    (ran : convertMediaTag item = .ok tag) : FitsId (mediaTagPayload tag).userId := by
  obtain ⟨userId, isId, ran⟩ := bind_eq_ok ran
  cases ran
  exact (fitsId_of_parse isId).1

theorem valid_of_convertMedia {parseUuid : String → Option Uuid} {mediaId : Int}
    {value : SubmitMedia} {media : Media} (fits : Fits 64 mediaId)
    (ran : convertMedia parseUuid mediaId value = .ok media) : media.payload.toRow.Valid := by
  obtain ⟨grokPostId, _, ran⟩ := bind_eq_ok ran
  obtain ⟨geometry, isGeometry, ran⟩ := bind_eq_ok ran
  obtain ⟨sizeVariants, areVariants, ran⟩ := bind_eq_ok ran
  obtain ⟨taggedUsers, areTags, ran⟩ := bind_eq_ok ran
  obtain ⟨originTweetId, isTweet, ran⟩ := bind_eq_ok ran
  obtain ⟨originUserId, isUser, ran⟩ := bind_eq_ok ran
  cases ran
  exact
    { id := fits
      geometry := forall_of_transpose valid_of_convertMediaGeometry isGeometry
      sizeVariants := forall_map_payload MediaSizeVariants.payload id
        (forall_of_transpose valid_of_convertMediaVariants areVariants)
      taggedUsers := by
        intro tag member
        obtain ⟨object, isObject, rfl⟩ := List.mem_map.mp member
        exact forall_of_mapM fitsId_of_convertMediaTag areTags object isObject
      originTweetId := (fitsId_of_parse isTweet).1
      originUserId := (fitsId_of_parse isUser).1 }

theorem counts_of_convertVideoVariant {item : SubmitVideoVariant} {variant : VideoVariant}
    (ran : convertVideoVariant item = .ok variant) : Counts variant.payload.bitrate := by
  obtain ⟨bitrate, isBitrate, ran⟩ := bind_eq_ok ran
  cases ran
  obtain ⟨rfl, counts⟩ := validateOptionalNonnegative_eq_ok.mp isBitrate
  exact counts

theorem valid_of_convertMediaVideo {item : SubmitMediaVideo} {video : MediaVideo}
    (ran : convertMediaVideo item = .ok video) : video.payload.Valid := by
  obtain ⟨aspectRatio, duration, items⟩ := item
  -- What comes after the ratio is the same with and without one.
  have rest : (∀ w ∈ aspectRatio.map Prod.fst, 0 < w) → (∀ h ∈ aspectRatio.map Prod.snd, 0 < h) →
      ((validateOptionalNonnegative "media.video.durationMs" duration).bind fun durationMs =>
        (items.mapM convertVideoVariant).bind fun variants => .ok
          (⟨aspectRatio.map Prod.fst, aspectRatio.map Prod.snd, durationMs, variants⟩ :
            MediaVideo)) = .ok video → video.payload.Valid := by
    intro width height ran
    obtain ⟨durationMs, isDuration, ran⟩ := bind_eq_ok ran
    obtain ⟨variants, areVariants, ran⟩ := bind_eq_ok ran
    cases ran
    obtain ⟨rfl, counts⟩ := validateOptionalNonnegative_eq_ok.mp isDuration
    exact
      { aspectRatio := by simp [MediaVideo.payload]
        aspectRatioW := width
        aspectRatioH := height
        durationMs := counts
        variants := by
          intro variant member
          obtain ⟨object, isObject, rfl⟩ := List.mem_map.mp member
          exact forall_of_mapM counts_of_convertVideoVariant areVariants object isObject }
  cases aspectRatio with
  | none => exact rest (by simp) (by simp) ran
  | some ratio =>
    obtain ⟨w, h⟩ := ratio
    obtain ⟨_, isWidth, ran⟩ := bind_eq_ok ran
    obtain ⟨_, isHeight, ran⟩ := bind_eq_ok ran
    exact rest (by simpa using ensurePositive_eq_ok.mp isWidth)
      (by simpa using ensurePositive_eq_ok.mp isHeight) ran

theorem valid_of_convertMediaResource {mediaId : Int} {value : SubmitMedia} {now : OffsetDateTime}
    {resource : MediaResource}
    (ran : convertMediaResource mediaId value now = some (.ok resource)) :
    resource.payload.content.Valid := by
  unfold convertMediaResource at ran
  simp only at ran
  split at ran
  next => cases ran
  next =>
    obtain ⟨video, isVideo, ran⟩ := map_eq_ok (Option.some.inj ran)
    cases ran
    exact forall_map_payload MediaVideo.payload id
      (forall_of_transpose valid_of_convertMediaVideo isVideo)

end TweetDb.Submit
