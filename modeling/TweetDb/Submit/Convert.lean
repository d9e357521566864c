import TweetDb.Submit.Validate
import TweetDb.Tweet.Payloads
import TweetDb.Tweet.RelationSync

/-! # Conversion

`convert/*.rs`: what the validated request says, as objects of the model.  The
dictionary functions of the store are given by their answers.
-/

namespace TweetDb.Submit

open Relational TweetModel
open TweetDb.Tweet (AnnotatedText GeoPoint HashtagEntity HashtagRef MediaDetails MediaEntity
  MediaGeometry MediaRect MediaRef MediaTag MentionEntity MentionRef ResolvedUrl SymbolEntity
  SymbolRef TextStyleRange TweetCommunityNote TweetEdit TweetPlace TweetPolicy TweetRow TweetStats
  UrlEntity UserDisclosure UserFeatures UserIdentity UserProfessional UserStats UserVerification)

/-! ## Lookup ids -/

structure UserCategory where
  sourceCategoryCode : Int
  name : String
deriving DecidableEq, Repr

structure Hashtag where
  tag : String
deriving DecidableEq, Repr

structure Symbol where
  symbol : String
  ticker : Option String
  name : Option String
deriving DecidableEq, Repr

/-- The answers of `upsert_user_categories`, `upsert_hashtags` and `upsert_symbols`. -/
structure LookupStore where
  upsertUserCategories : List UserCategory → Except String (Int → Option Int)
  upsertHashtags : List Hashtag → Except String (String → Option Int)
  upsertSymbols : List Symbol → Except String (String → Option Int)

structure SubmitLookupIds where
  userCategories : Int → Option Int
  hashtags : String → Option Int
  symbols : String → Option Int

/-- `get(…).copied().ok_or_else(…)`. -/
def resolved {α : Type} (what : String) (ids : α → Option Int) (key : α) : Except String Int :=
  match ids key with
  | some id => .ok id
  | none => .error s!"failed to resolve {what} id"

/-! ## Texts -/

section Text

variable (store : LookupStore) (lookupIds : Option SubmitLookupIds)

def convertHashtag (hashtagIds : String → Option Int) (entity : SubmitHashtagEntity) :
    Except String HashtagEntity := do
  let range ← validateRange entity.range "text.hashtags.range"
  let hashtagId ← resolved "hashtag dictionary" hashtagIds entity.text
  return { hashtagId := hashtagId, rangeStart := range.start, rangeEnd := range.stop }

/-- A symbol without a range is left out. -/
def convertSymbol (symbolIds : String → Option Int) (entity : SubmitSymbolEntity)
    (range : SubmitTextRange) : Except String SymbolEntity := do
  let range ← validateRange range "text.symbols.range"
  let symbolId ← resolved "symbol dictionary" symbolIds entity.text
  return { symbolId := symbolId, rangeStart := range.start, rangeEnd := range.stop }

def convertUrl (entity : SubmitUrlEntity) : Except String UrlEntity := do
  let range ← validateRange entity.range "text.urls.range"
  return { url := entity.url, expandedUrl := entity.expandedUrl, displayText := entity.displayText,
           rangeStart := range.start, rangeEnd := range.stop }

def convertMention (entity : SubmitMentionEntity) : Except String MentionEntity := do
  let range ← validateRange entity.range "text.mentions.range"
  let userId ← parseI64Id entity.userId "text.mentions.userId"
  return { userId := userId, rangeStart := range.start, rangeEnd := range.stop }

def convertMediaEntity (entity : SubmitMediaEntity) : Except String MediaEntity := do
  let range ← transpose (fun range => validateRange range "text.media.range") entity.range
  let range := range.getD ⟨0, 0⟩
  let mediaId ← parseI64Id entity.mediaId "text.media.mediaId"
  let originTweetId ← parseOptionalI64Id (entity.origin.bind SubmitMediaOrigin.tweetId)
    "text.media.origin.tweetId"
  let originUserId ← parseOptionalI64Id (entity.origin.bind SubmitMediaOrigin.userId)
    "text.media.origin.userId"
  return { mediaId := mediaId, rangeStart := range.start, rangeEnd := range.stop,
           displayText := entity.displayText.getD "", expandedUrl := entity.expandedUrl.getD "",
           url := entity.url.getD "", originTweetId := originTweetId,
           originUserId := originUserId }

def convertStyle (style : SubmitTextStyleRange) : Except String TextStyleRange := do
  let range ← validateRange style.range "text.styles.range"
  return { rangeStart := range.start, rangeEnd := range.stop, styles := style.styles }

def hashtagModels (value : SubmitAnnotatedText) : List Hashtag :=
  value.entities.hashtags.map fun entity => ⟨entity.text⟩

def symbolModels (value : SubmitAnnotatedText) : List Symbol :=
  value.entities.symbols.map fun entity => ⟨entity.text, entity.ticker, entity.name⟩

/-- Without shared ids each text resolves its own. -/
def textHashtagIds (value : SubmitAnnotatedText) : Except String (String → Option Int) :=
  match lookupIds with
  | some ids => .ok ids.hashtags
  | none => store.upsertHashtags (hashtagModels value)

def textSymbolIds (value : SubmitAnnotatedText) : Except String (String → Option Int) :=
  match lookupIds with
  | some ids => .ok ids.symbols
  | none => store.upsertSymbols (symbolModels value)

/-- `filter_map(|entity| entity.range.map(…))`. -/
def rangedSymbols (value : SubmitAnnotatedText) : List (SubmitSymbolEntity × SubmitTextRange) :=
  value.entities.symbols.filterMap fun entity => entity.range.map fun range => (entity, range)

/-- `convert_annotated_text`. -/
def convertAnnotatedText (value : SubmitAnnotatedText) : Except String AnnotatedText := do
  let hashtagIds ← textHashtagIds store lookupIds value
  let symbolIds ← textSymbolIds store lookupIds value
  let hashtags ← value.entities.hashtags.mapM (convertHashtag hashtagIds)
  let symbols ← (rangedSymbols value).mapM fun (entity, range) =>
    convertSymbol symbolIds entity range
  let urls ← value.entities.urls.mapM convertUrl
  let mentions ← value.entities.mentions.mapM convertMention
  let mediaRefs ← value.entities.media.mapM convertMediaEntity
  let styles ← value.styles.mapM convertStyle
  return { body := value.text
           displayRangeStart := value.displayRange.map SubmitTextRange.start
           displayRangeEnd := value.displayRange.map SubmitTextRange.stop
           hashtags := hashtags
           symbols := symbols
           urls := urls
           mentions := mentions
           mediaRefs := mediaRefs
           styles := styles }

def convertResolvedUrl (value : SubmitResolvedUrl) : ResolvedUrl :=
  ⟨value.url, value.expandedUrl, value.displayText⟩

end Text

/-! ## Users -/

/-- `convert_user_stats`. -/
def convertUserStats (userId : Int) (parentFetchedAt : Option OffsetDateTime)
    (stats : SubmitUserStats) (now : OffsetDateTime) : Except String UserStats := do
  ensureNonnegativeOptions "user.stats" [stats.followers, stats.following, stats.likes,
    stats.mediaPosts, stats.tweets, stats.listed]
  return { userId := userId
           recordedAt := postgresTimestamptz ((stats.fetchedAt.or parentFetchedAt).getD now)
           followers := stats.followers
           following := stats.following
           likes := stats.likes
           mediaPosts := stats.mediaPosts
           tweets := stats.tweets
           listed := stats.listed }

/-- `convert_user_identity`. -/
def convertUserIdentity (identity : SubmitUserIdentity) : Except String UserIdentity := do
  let disclosure ← transpose (fun disclosure => do
    let subjectId ← parseOptionalI64Id disclosure.subjectId "user.identity.disclosure.subjectId"
    return ({ relation := disclosure.relation
              subjectId := subjectId
              subjectHandle := disclosure.subjectHandle
              subjectName := disclosure.subjectName
              subjectUrl := disclosure.subjectUrl } : UserDisclosure)) identity.disclosure
  return { verification := identity.verification.map fun verification =>
             ⟨verification.isBlueVerified, verification.verificationType⟩
           disclosure := disclosure
           parodyLabel := identity.parodyLabel
           hasCompletedNewAccountReview := identity.hasCompletedNewAccountReview
           isPossiblySensitive := identity.isPossiblySensitive }

def convertUserFeatures (features : SubmitUserFeatures) : UserFeatures :=
  ⟨features.canDm, features.canTagMedia, features.isProtected, features.canBeSubscribed⟩

section User

variable (store : LookupStore) (lookupIds : Option SubmitLookupIds)

/-- `convert_user_professional`. -/
def convertUserProfessional (professional : SubmitUserProfessional) :
    Except String UserProfessional := do
  let categories ← professional.categories.mapM fun category => do
    let code ← parseI32Id category.id "user.professional.categories.id"
    return (⟨code, category.name⟩ : UserCategory)
  let ids ← match lookupIds with
    | some ids => .ok ids.userCategories
    | none => store.upsertUserCategories categories
  let categoryIds ← categories.mapM fun category =>
    resolved "user category" ids category.sourceCategoryCode
  let professionalId ← parseOptionalI64Id professional.id "user.professional.id"
  return { professionalId := professionalId
           professionalType := professional.professionalType
           categoryIds := categoryIds }

/-- `convert_user_snapshot`. -/
def convertUserSnapshot (userId : Int) (user : SubmitUser) (profile : SubmitUserProfile)
    (now : OffsetDateTime) : Except String UserSnapshot := do
  let bio ← transpose (convertAnnotatedText store lookupIds) profile.bio
  let identity ← transpose convertUserIdentity user.identity
  let professional ← transpose (convertUserProfessional store lookupIds) user.professional
  let pinnedTweetIds ← parseI64Ids user.pinnedTweetIds "user.pinnedTweetIds"
  return { userId := userId
           recordedAt := postgresTimestamptz ((profile.fetchedAt.or user.fetchedAt).getD now)
           displayName := profile.displayName
           userName := profile.userName
           avatarUrl := profile.avatarUrl
           usesDefaultAvatar := profile.usesDefaultAvatar
           avatarShape := profile.avatarShape
           bannerUrl := profile.bannerUrl
           location := profile.location
           bio := bio
           profileLinks := profile.profileLinks.map convertResolvedUrl
           identity := identity
           features := user.features.map convertUserFeatures
           professional := professional
           pinnedTweetIds := pinnedTweetIds }

end User

/-! ## Media -/

/-- `convert_media_rect`. -/
def convertMediaRect (rect : SubmitMediaRect) : Except String MediaRect := do
  ensureNonnegative "media.rect.x" rect.x
  ensureNonnegative "media.rect.y" rect.y
  ensurePositive "media.rect.width" rect.width
  ensurePositive "media.rect.height" rect.height
  return ⟨rect.x, rect.y, rect.width, rect.height⟩

/-- `convert_media_geometry`. -/
def convertMediaGeometry (geometry : SubmitMediaGeometry) : Except String MediaGeometry := do
  ensurePositive "media.geometry.width" geometry.width
  ensurePositive "media.geometry.height" geometry.height
  let focusRects ← geometry.focusRects.mapM convertMediaRect
  return ⟨geometry.width, geometry.height, focusRects⟩

/-- `convert_media_variant`. -/
def convertMediaVariant (variant : SubmitMediaVariant) : Except String MediaSizeVariant := do
  ensurePositive "media.variant.width" variant.width
  ensurePositive "media.variant.height" variant.height
  return ⟨variant.width, variant.height, variant.resizeMode⟩

/-- `convert_media_variants`. -/
def convertMediaVariants (variants : SubmitMediaVariants) : Except String MediaSizeVariants := do
  let large ← transpose convertMediaVariant variants.large
  let medium ← transpose convertMediaVariant variants.medium
  let small ← transpose convertMediaVariant variants.small
  let thumb ← transpose convertMediaVariant variants.thumb
  return ⟨large, medium, small, thumb⟩

/-- `convert_media_tag`. -/
def convertMediaTag (tag : SubmitMediaTag) : Except String MediaTag := do
  let userId ← parseOptionalI64Id tag.userId "media.taggedUsers.userId"
  return ⟨userId, tag.kind⟩

def convertMediaDetails (details : SubmitMediaDetails) : MediaDetails :=
  ⟨details.title, details.description, details.siteUrl, details.isEmbeddable,
    details.isMonetizable⟩

/-- `convert_video_variant`; a bit rate is never too large for the way back. -/
def convertVideoVariant (variant : SubmitVideoVariant) : Except String VideoVariant := do
  let bitrate ← validateOptionalNonnegative "media.video.variant.bitrate" variant.bitrate
  return ⟨variant.contentType, bitrate, variant.url⟩

/-- `convert_media_video`. -/
def convertMediaVideo (video : SubmitMediaVideo) : Except String MediaVideo := do
  if let some (w, h) := video.aspectRatio then
    ensurePositive "media.video.aspectRatio[0]" w
    ensurePositive "media.video.aspectRatio[1]" h
  let durationMs ← validateOptionalNonnegative "media.video.durationMs" video.durationMs
  let variants ← video.variants.mapM convertVideoVariant
  return ⟨video.aspectRatio.map Prod.fst, video.aspectRatio.map Prod.snd, durationMs, variants⟩

/-- `convert_media`; `parseUuid` is `Uuid::parse_str`. -/
def convertMedia (parseUuid : String → Option Uuid) (mediaId : Int) (media : SubmitMedia) :
    Except String Media := do
  let grokPostId ← transpose (fun value =>
    match parseUuid value with
    | some id => Except.ok id
    | none => .error "media.grokPostId must be a UUID") media.grokPostId
  let geometry ← transpose convertMediaGeometry media.geometry
  let sizeVariants ← transpose convertMediaVariants media.variants
  let taggedUsers ← media.taggedUsers.mapM convertMediaTag
  let originTweetId ← parseOptionalI64Id (media.origin.bind SubmitMediaOrigin.tweetId)
    "media.origin.tweetId"
  let originUserId ← parseOptionalI64Id (media.origin.bind SubmitMediaOrigin.userId)
    "media.origin.userId"
  return { id := mediaId
           mediaType := media.mediaType
           altText := media.altText
           grokPostId := grokPostId
           geometry := geometry
           sizeVariants := sizeVariants
           taggedUsers := taggedUsers
           sensitivityWarnings := media.sensitivityWarnings
           originTweetId := originTweetId
           originUserId := originUserId
           details := media.details.map convertMediaDetails }

/-- `convert_media_resource`; there is none without an URL, an availability and a video. -/
def convertMediaResource (mediaId : Int) (media : SubmitMedia) (now : OffsetDateTime) :
    Option (Except String MediaResource) :=
  let mediaUrl := (media.resource.bind SubmitMediaResource.mediaUrl).or media.mediaUrl
  let availability := (media.resource.bind SubmitMediaResource.availability).or media.availability
  let video := (media.resource.bind SubmitMediaResource.video).or media.video
  if mediaUrl.isNone && availability.isNone && video.isNone then none
  else some ((transpose convertMediaVideo video).map fun video =>
    { mediaId := mediaId
      recordedAt := postgresTimestamptz
        (((media.resource.bind SubmitMediaResource.fetchedAt).or media.fetchedAt).getD now)
      mediaUrl := mediaUrl
      availability := availability
      video := video })

/-! ## Tweets -/

/-- `convert_tweet_edit`. -/
def convertTweetEdit (tweetId : Int) (edit : SubmitTweetEdit) : Except String TweetEdit := do
  let versionIds ← parseI64Ids edit.versionIds "tweet.edit.versionIds"
  let remainingEdits ← parseOptionalI32String edit.remainingEdits "tweet.edit.remainingEdits"
  return { tweetId := tweetId
           versionIds := versionIds
           editableUntil := edit.editableUntilAt.map roundedTimestamptz
           remainingEdits := remainingEdits }

def convertTweetPolicy (tweetId : Int) (policy : SubmitTweetPolicy) : TweetPolicy where
  tweetId := tweetId
  replyPolicy := policy.replyPolicy
  followersOnly := policy.followersOnly
  isPossiblySensitive := policy.isPossiblySensitive
  availableActions := policy.availableActions
  isMediaVisibilityRestricted := policy.isMediaVisibilityRestricted
  paidPromotion := policy.paidPromotion

/-- `convert_tweet_stats`. -/
def convertTweetStats (tweetId : Int) (parentFetchedAt : Option OffsetDateTime)
    (stats : SubmitTweetStats) (now : OffsetDateTime) : Except String TweetStats := do
  ensureNonnegativeOptions "tweet.stats"
    [stats.replies, stats.reposts, stats.quotes, stats.likes, stats.bookmarks]
  let views ← parseOptionalI64String stats.views "tweet.stats.views"
  return { tweetId := tweetId
           recordedAt := postgresTimestamptz ((stats.fetchedAt.or parentFetchedAt).getD now)
           views := views
           replies := stats.replies
           reposts := stats.reposts
           quotes := stats.quotes
           likes := stats.likes
           bookmarks := stats.bookmarks }

/-- `convert_tweet_place`. -/
def convertTweetPlace (place : SubmitTweetPlace) : Option TweetPlace :=
  place.id.map fun id =>
    { id := id
      name := place.name
      fullName := place.fullName
      country := place.country
      countryCode := place.countryCode
      kind := place.kind
      boundary := place.boundary }

section Tweet

variable (store : LookupStore) (lookupIds : Option SubmitLookupIds)

/-- `convert_tweet_community_note`. -/
def convertTweetCommunityNote (tweetId : Int) (note : SubmitTweetCommunityNote) :
    Except String TweetCommunityNote := do
  let noteId ← parseOptionalI64Id note.id "tweet.communityNote.id"
  let subtitle ← transpose (convertAnnotatedText store lookupIds) note.subtitle
  let footer ← transpose (convertAnnotatedText store lookupIds) note.footer
  return { tweetId := tweetId
           noteId := noteId
           title := note.title
           shortTitle := note.shortTitle
           subtitle := subtitle
           footer := footer
           destinationUrl := note.destinationUrl }

structure ConvertedTweet where
  tweet : TweetRow
  edit : Option TweetEdit
  policy : Option TweetPolicy
  stats : Option TweetStats
  communityNote : Option TweetCommunityNote
  mediaRefs : List MediaRef
  mentionRefs : List MentionRef
  hashtagRefs : List HashtagRef
  symbolRefs : List SymbolRef
deriving DecidableEq, Repr

/-- The loop over `media_ids`; `display_order` is an `i16`. -/
def convertMediaRefs (tweetId : Int) (mediaIds : List String) : Except String (List MediaRef) :=
  mediaIds.zipIdx.mapM fun (mediaId, index) => do
    let mediaId ← parseI64Id mediaId "tweet.content.mediaIds"
    if index < 2 ^ 15 then return ⟨tweetId, mediaId, index⟩
    else throw "tweet.content.mediaIds is too large"

/-- The texts `collect_text_refs` visits. -/
def refTexts (legacyText : AnnotatedText) (noteText : Option AnnotatedText) : List AnnotatedText :=
  legacyText :: noteText.toList

/-- `collect_text_refs` and `dedupe_refs`; of equal ids the first stays. -/
def collectRefs {ρ : Type} (refId : ρ → Int) (make : Int → ρ) (ids : AnnotatedText → List Int)
    (texts : List AnnotatedText) : List ρ :=
  distinctOn refId (texts.flatMap fun text => (ids text).map make)

def mentionRefs (tweetId : Int) (texts : List AnnotatedText) : List MentionRef :=
  collectRefs MentionRef.userId (MentionRef.mk tweetId)
    (fun text => text.mentions.map Tweet.MentionEntity.userId) texts

def hashtagRefs (tweetId : Int) (texts : List AnnotatedText) : List HashtagRef :=
  collectRefs HashtagRef.hashtagId (HashtagRef.mk tweetId)
    (fun text => text.hashtags.map Tweet.HashtagEntity.hashtagId) texts

def symbolRefs (tweetId : Int) (texts : List AnnotatedText) : List SymbolRef :=
  collectRefs SymbolRef.symbolId (SymbolRef.mk tweetId)
    (fun text => text.symbols.map Tweet.SymbolEntity.symbolId) texts

/-- `convert_tweet`. -/
def convertTweet (tweetId authorId : Int) (placeId : Option String) (value : SubmitTweet)
    (now : OffsetDateTime) : Except String ConvertedTweet := do
  let legacyText ← convertAnnotatedText store lookupIds value.content.legacyText
  let noteText ← transpose (fun note => convertAnnotatedText store lookupIds note.text)
    value.content.note
  let conversationId ← parseI64Id value.conversation.conversationId "tweet.conversationId"
  let replyToTweetId ← parseOptionalI64Id
    (value.conversation.replyTo.map SubmitTweetReplyTarget.tweetId) "tweet.replyTo.tweetId"
  let replyToUserId ← parseOptionalI64Id
    (value.conversation.replyTo.bind SubmitTweetReplyTarget.userId) "tweet.replyTo.userId"
  let quoteTweetId ← parseOptionalI64Id
    (value.conversation.quote.map SubmitTweetQuote.tweetId) "tweet.quote.tweetId"
  let repostId ← parseOptionalI64Id value.conversation.repostId "tweet.repostId"
  let edit ← transpose (convertTweetEdit tweetId) value.edit
  let stats ← transpose (fun stats => convertTweetStats tweetId value.fetchedAt stats now)
    value.stats
  let communityNote ← transpose (convertTweetCommunityNote store lookupIds tweetId)
    value.communityNote
  let mediaRefs ← convertMediaRefs tweetId value.content.mediaIds
  let texts := refTexts legacyText noteText
  return { tweet :=
             { id := tweetId
               publishedAt := roundedTimestamptz value.publishedAt
               source := value.source
               authorId := authorId
               placeId := placeId
               legacyText := legacyText
               noteId := value.content.note.bind SubmitTweetNote.id
               noteText := noteText
               language := value.content.language
               conversationId := conversationId
               replyToTweetId := replyToTweetId
               replyToUserId := replyToUserId
               quoteTweetId := quoteTweetId
               quotePermalink := (value.conversation.quote.bind SubmitTweetQuote.permalink).map
                 convertResolvedUrl
               repostId := repostId }
           edit := edit
           policy := value.policy.map (convertTweetPolicy tweetId)
           stats := stats
           communityNote := communityNote
           mediaRefs := distinctOn MediaRef.mediaId mediaRefs
           mentionRefs := mentionRefs tweetId texts
           hashtagRefs := hashtagRefs tweetId texts
           symbolRefs := symbolRefs tweetId texts }

/-! ## What a converted tweet refers to -/

variable {store} {lookupIds}

/-- The refs are collected from the texts of the converted tweet. -/
theorem convertTweet_ok {tweetId authorId : Int} {placeId : Option String} {value : SubmitTweet}
    {now : OffsetDateTime} {converted : ConvertedTweet}
    (ran : convertTweet store lookupIds tweetId authorId placeId value now = .ok converted) :
    converted.tweet.id = tweetId ∧
      converted.mentionRefs =
        mentionRefs tweetId (refTexts converted.tweet.legacyText converted.tweet.noteText) ∧
      converted.hashtagRefs =
        hashtagRefs tweetId (refTexts converted.tweet.legacyText converted.tweet.noteText) ∧
      converted.symbolRefs =
        symbolRefs tweetId (refTexts converted.tweet.legacyText converted.tweet.noteText) ∧
      ∃ mediaRefs, convertMediaRefs tweetId value.content.mediaIds = .ok mediaRefs ∧
        converted.mediaRefs = distinctOn MediaRef.mediaId mediaRefs := by
  obtain ⟨legacyText, _, ran⟩ := bind_eq_ok ran
  obtain ⟨noteText, _, ran⟩ := bind_eq_ok ran
  obtain ⟨conversationId, _, ran⟩ := bind_eq_ok ran
  obtain ⟨replyToTweetId, _, ran⟩ := bind_eq_ok ran
  obtain ⟨replyToUserId, _, ran⟩ := bind_eq_ok ran
  obtain ⟨quoteTweetId, _, ran⟩ := bind_eq_ok ran
  obtain ⟨repostId, _, ran⟩ := bind_eq_ok ran
  obtain ⟨edit, _, ran⟩ := bind_eq_ok ran
  obtain ⟨stats, _, ran⟩ := bind_eq_ok ran
  obtain ⟨communityNote, _, ran⟩ := bind_eq_ok ran
  obtain ⟨mediaRefs, areRefs, ran⟩ := bind_eq_ok ran
  cases ran
  exact ⟨rfl, rfl, rfl, rfl, mediaRefs, areRefs, rfl⟩

theorem mem_collectRefs {ρ : Type} {refId : ρ → Int} {make : Int → ρ}
    {ids : AnnotatedText → List Int} {texts : List AnnotatedText} {ref : ρ}
    (made : ∀ id, refId (make id) = id) :
    ref ∈ collectRefs refId make ids texts ↔
      make (refId ref) = ref ∧ refId ref ∈ texts.flatMap ids := by
  rw [collectRefs, mem_distinctOn_of_injective]
  · simp only [List.mem_flatMap, List.mem_map]
    constructor
    · rintro ⟨text, member, id, used, rfl⟩
      rw [made]
      exact ⟨rfl, text, member, used⟩
    · rintro ⟨same, text, member, used⟩
      exact ⟨text, member, refId ref, used, same⟩
  · intro a memberA b memberB same
    simp only [List.mem_flatMap, List.mem_map] at memberA memberB
    obtain ⟨_, _, _, _, rfl⟩ := memberA
    obtain ⟨_, _, _, _, rfl⟩ := memberB
    rw [made, made] at same
    rw [same]

end Tweet

end TweetDb.Submit
