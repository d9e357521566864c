import TweetDb.Json.Value
import TweetDb.Submit.Lookups
import TweetDb.Submit.Statements

/-! # Building query data

`tweet_query/build/*.rs`.  The rows have texts where the code reads dictionary
ids, so an entry is never one of another semantic; the cache may still not know
it.
-/

namespace TweetDb.Query

open Json
open Submit (DictEntry LookupTables OffsetDateTime StringSemantic)
open TweetDb.Tweet (AnnotatedText GeoPoint HashtagEntity Media MediaDetails MediaEntity
  MediaGeometry MediaRect MediaRef MediaResource MediaSizeVariant MediaSizeVariants MediaTag
  MediaType MediaVideo MentionEntity ResolvedUrl SymbolEntity TextStyleRange TweetCommunityNote
  TweetEdit TweetPlace TweetPolicy TweetRow TweetStatsColumns TwitterUser UrlEntity
  UserDisclosure UserFeatures UserIdentity UserProfessional UserSnapshot UserStatsColumns
  UserVerification Version VideoVariant)

/-- The string dictionary as the process knows it: the ids, and which of them are cached. -/
structure StringDictCache where
  id : DictEntry → Int
  caches : DictEntry → Bool

/-- The formats of `time` and `uuid`, and the text of a time that is none. -/
structure Formats where
  formatTime : OffsetDateTime → String
  parseTime : String → Option OffsetDateTime
  timeError : Timestamp → String
  formatUuid : Uuid → String
  parseUuid : String → Option Uuid

/-- What the builders look things up in. -/
structure BuildContext where
  formats : Formats
  dict : StringDictCache
  lookups : LookupTables

namespace BuildContext

variable (context : BuildContext)

/-! ## Values -/

/-- `to_string` of an id. -/
def idJson (id : Int) : Value := .string (toString id)

/-- `match … { Some(value) => Some(build(value).await?), None => None }`. -/
def buildOption {α : Type} (build : α → Except String Value) : Option α → Except String Value
  | none => .ok .null
  | some value => build value

def buildList {α : Type} (build : α → Except String Value) (values : List α) :
    Except String Value :=
  (values.mapM build).map .array

/-- `format_time`, of a column. -/
def timeJson (time : Timestamp) : Value := .string (context.formats.formatTime (time * 1000))

/-- `resolve_string`. -/
def resolveString (semantic : StringSemantic) (field value : String) : Except String String :=
  let entry := ⟨semantic, value⟩
  if context.dict.caches entry then .ok value
  else .error s!"missing string dictionary entry {context.dict.id entry} for {field}"

/-- `resolve_optional_string`. -/
def resolveOptionalString (value : Option String) (semantic : StringSemantic) (field : String) :
    Except String (Option String) :=
  match value with
  | some value => (context.resolveString semantic field value).map some
  | none => .ok none

/-- `resolve_string_list`. -/
def resolveStringList (values : List String) (semantic : StringSemantic) (field : String) :
    Except String (List String) :=
  values.mapM (context.resolveString semantic field)

/-! ## Texts -/

def rangeJson (start stop : Int) : Value := .object [("start", .int start), ("end", .int stop)]

def displayRangeJson (start stop : Option Int) : Value :=
  match start, stop with
  | some start, some stop => rangeJson start stop
  | _, _ => .null

def emptyStringAsNone (value : String) : Option String :=
  if value.isEmpty then none else some value

def mediaOriginJson (originTweetId originUserId : Option Int) : Value :=
  if originTweetId.isSome || originUserId.isSome then
    .object [("tweetId", nullOr idJson originTweetId), ("userId", nullOr idJson originUserId)]
  else .null

def hashtagJson (entity : HashtagEntity) : Except String Value :=
  match context.lookups.hashtag entity.hashtagId with
  | some hashtag => .ok (.object [
      ("text", .string hashtag.tag),
      ("range", rangeJson entity.rangeStart entity.rangeEnd)])
  | none => .error s!"missing hashtag {entity.hashtagId}"

def symbolJson (entity : SymbolEntity) : Except String Value :=
  match context.lookups.symbol entity.symbolId with
  | some symbol => .ok (.object [
      ("text", .string symbol.symbol),
      ("range", rangeJson entity.rangeStart entity.rangeEnd),
      ("ticker", nullOr .string symbol.ticker),
      ("name", nullOr .string symbol.name)])
  | none => .error s!"missing symbol {entity.symbolId}"

def urlJson (entity : UrlEntity) : Value := .object [
  ("url", .string entity.url),
  ("expandedUrl", .string entity.expandedUrl),
  ("displayText", .string entity.displayText),
  ("range", rangeJson entity.rangeStart entity.rangeEnd)]

def mentionJson (entity : MentionEntity) : Value := .object [
  ("userId", idJson entity.userId),
  ("range", rangeJson entity.rangeStart entity.rangeEnd)]

def mediaEntityJson (entity : MediaEntity) : Value := .object [
  ("mediaId", idJson entity.mediaId),
  ("range", rangeJson entity.rangeStart entity.rangeEnd),
  ("displayText", nullOr .string (emptyStringAsNone entity.displayText)),
  ("expandedUrl", nullOr .string (emptyStringAsNone entity.expandedUrl)),
  ("url", nullOr .string (emptyStringAsNone entity.url)),
  ("origin", mediaOriginJson entity.originTweetId entity.originUserId)]

def styleJson (style : TextStyleRange) : Except String Value := do
  let styles ← context.resolveStringList style.styles .tweetTextStyleName "text.styles"
  return .object [
    ("range", rangeJson style.rangeStart style.rangeEnd),
    ("styles", list .string styles)]

/-- `build_annotated_text_json`. -/
def buildAnnotatedTextJson (text : AnnotatedText) : Except String Value := do
  let hashtags ← buildList context.hashtagJson text.hashtags
  let symbols ← buildList context.symbolJson text.symbols
  let styles ← buildList context.styleJson text.styles
  return .object [
    ("text", .string text.body),
    ("displayRange", displayRangeJson text.displayRangeStart text.displayRangeEnd),
    ("entities", .object [
      ("hashtags", hashtags),
      ("symbols", symbols),
      ("urls", list urlJson text.urls),
      ("mentions", list mentionJson text.mentions),
      ("media", list mediaEntityJson text.mediaRefs)]),
    ("styles", styles)]

def resolvedUrlJson (url : ResolvedUrl) : Value := .object [
  ("url", .string url.url),
  ("expandedUrl", .string url.expandedUrl),
  ("displayText", .string url.displayText)]

def geoPointJson (point : GeoPoint) : Value := .object [
  ("longitude", .double point.longitude),
  ("latitude", .double point.latitude)]

/-! ## Users -/

/-- `build_user_profile_json`. -/
def buildUserProfileJson (snapshot : UserSnapshot) : Except String Value := do
  let bio ← buildOption context.buildAnnotatedTextJson snapshot.content.bio
  let avatarShape ← context.resolveOptionalString snapshot.content.avatarShape
    .tweetUserAvatarShape "user.profile.avatarShape"
  return .object [
    ("fetchedAt", context.timeJson snapshot.recordedAt),
    ("displayName", .string snapshot.content.displayName),
    ("userName", .string snapshot.content.userName),
    ("avatarUrl", nullOr .string snapshot.content.avatarUrl),
    ("usesDefaultAvatar", nullOr .bool snapshot.content.usesDefaultAvatar),
    ("avatarShape", nullOr .string avatarShape),
    ("bannerUrl", nullOr .string snapshot.content.bannerUrl),
    ("location", nullOr .string snapshot.content.location),
    ("bio", bio),
    ("profileLinks", list resolvedUrlJson snapshot.content.profileLinks)]

def buildUserStatsJson (stats : Version UserStatsColumns) : Value := .object [
  ("fetchedAt", context.timeJson stats.recordedAt),
  ("followers", nullOr .int stats.content.followers),
  ("following", nullOr .int stats.content.following),
  ("likes", nullOr .int stats.content.likes),
  ("mediaPosts", nullOr .int stats.content.mediaPosts),
  ("tweets", nullOr .int stats.content.tweets),
  ("listed", nullOr .int stats.content.listed)]

def buildUserFeaturesJson (features : UserFeatures) : Value := .object [
  ("canDm", nullOr .bool features.canDm),
  ("canTagMedia", nullOr .bool features.canTagMedia),
  ("isProtected", nullOr .bool features.isProtected),
  ("canBeSubscribed", nullOr .bool features.canBeSubscribed)]

/-- `build_user_verification_json`. -/
def buildUserVerificationJson (verification : UserVerification) : Except String Value := do
  let verificationType ← context.resolveOptionalString verification.verifiedType
    .tweetUserVerificationType "user.identity.verification.type"
  return .object [
    ("isBlueVerified", nullOr .bool verification.isBlueVerified),
    ("type", nullOr .string verificationType)]

/-- `build_user_disclosure_json`. -/
def buildUserDisclosureJson (disclosure : UserDisclosure) : Except String Value := do
  let relation ← context.resolveOptionalString disclosure.relation .tweetUserDisclosureRelation
    "user.identity.disclosure.relation"
  return .object [
    ("relation", nullOr .string relation),
    ("subjectId", nullOr idJson disclosure.subjectId),
    ("subjectHandle", nullOr .string disclosure.subjectHandle),
    ("subjectName", nullOr .string disclosure.subjectName),
    ("subjectUrl", nullOr .string disclosure.subjectUrl)]

/-- `build_user_identity_json`. -/
def buildUserIdentityJson (identity : UserIdentity) : Except String Value := do
  let verification ← buildOption context.buildUserVerificationJson identity.verification
  let disclosure ← buildOption context.buildUserDisclosureJson identity.disclosure
  let parodyLabel ← context.resolveOptionalString identity.parodyLabel .tweetUserParodyLabel
    "user.identity.parodyLabel"
  return .object [
    ("verification", verification),
    ("disclosure", disclosure),
    ("parodyLabel", nullOr .string parodyLabel),
    ("hasCompletedNewAccountReview", nullOr .bool identity.hasCompletedNewAccountReview),
    ("isPossiblySensitive", nullOr .bool identity.isPossiblySensitive)]

def categoryJson (categoryId : Int) : Except String Value :=
  match context.lookups.userCategory categoryId with
  | some category => .ok (.object [
      ("id", idJson category.sourceCategoryCode),
      ("name", .string category.name)])
  | none => .error s!"missing user category {categoryId}"

/-- `build_user_professional_json`. -/
def buildUserProfessionalJson (professional : UserProfessional) : Except String Value := do
  let professionalType ← context.resolveOptionalString professional.professionalType
    .tweetUserProfessionalType "user.professional.type"
  let categories ← buildList context.categoryJson professional.categoryIds
  return .object [
    ("id", nullOr idJson professional.professionalId),
    ("type", nullOr .string professionalType),
    ("categories", categories)]

/-- `build_user_json`. -/
def buildUserJson (user : TwitterUser) (snapshot : Option UserSnapshot)
    (stats : Option (Version UserStatsColumns)) : Except String Value := do
  let profile ← buildOption context.buildUserProfileJson snapshot
  let identity ← buildOption context.buildUserIdentityJson
    (snapshot.bind fun snapshot => snapshot.content.identity)
  let professional ← buildOption context.buildUserProfessionalJson
    (snapshot.bind fun snapshot => snapshot.content.professional)
  return .object [
    ("id", idJson user.id),
    ("registeredAt", nullOr context.timeJson user.registeredAt),
    ("profile", profile),
    ("pinnedTweetIds",
      list idJson (snapshot.elim [] fun snapshot => snapshot.content.pinnedTweetIds)),
    ("identity", identity),
    ("professional", professional),
    ("stats", nullOr context.buildUserStatsJson stats),
    ("features", nullOr buildUserFeaturesJson
      (snapshot.bind fun snapshot => snapshot.content.features))]

/-! ## Tweets -/

/-- `build_tweet_place_json`. -/
def buildTweetPlaceJson (place : TweetPlace) : Except String Value := do
  let country ← context.resolveOptionalString place.country .tweetCountryName
    "tweet.place.country"
  let countryCode ← context.resolveOptionalString place.countryCode .tweetCountryCode
    "tweet.place.countryCode"
  let kind ← context.resolveOptionalString place.kind .tweetPlaceKind "tweet.place.kind"
  return .object [
    ("id", .string place.id),
    ("name", nullOr .string place.name),
    ("fullName", nullOr .string place.fullName),
    ("country", nullOr .string country),
    ("countryCode", nullOr .string countryCode),
    ("kind", nullOr .string kind),
    ("boundary", nullOr (list geoPointJson) place.boundary)]

/-- The note of a tweet that has an id or a text of it. -/
def buildTweetNoteJson (tweet : TweetRow) : Except String Value :=
  if tweet.noteId.isNone && tweet.noteText.isNone then .ok .null
  else do
    let value ← buildOption context.buildAnnotatedTextJson tweet.noteText
    return .object [("id", nullOr .string tweet.noteId), ("text", value)]

/-- `build_tweet_content_json`. -/
def buildTweetContentJson (tweet : TweetRow) (mediaRefs : List MediaRef) :
    Except String Value := do
  let note ← context.buildTweetNoteJson tweet
  let language ← context.resolveOptionalString tweet.language .tweetLanguageCode
    "tweet.content.language"
  let legacyText ← context.buildAnnotatedTextJson tweet.legacyText
  return .object [
    ("legacyText", legacyText),
    ("note", note),
    ("mediaIds", list idJson (mediaRefs.map MediaRef.mediaId)),
    ("language", nullOr .string language)]

def conversationJson (tweet : TweetRow) : Value := .object [
  ("conversationId", idJson tweet.conversationId),
  ("replyTo", nullOr (fun tweetId => .object [
    ("tweetId", idJson tweetId),
    ("userId", nullOr idJson tweet.replyToUserId)]) tweet.replyToTweetId),
  ("quote", nullOr (fun tweetId => .object [
    ("tweetId", idJson tweetId),
    ("permalink", nullOr resolvedUrlJson tweet.quotePermalink)]) tweet.quoteTweetId),
  ("repostId", nullOr idJson tweet.repostId)]

def buildTweetStatsJson (stats : Version TweetStatsColumns) : Value := .object [
  ("fetchedAt", context.timeJson stats.recordedAt),
  ("views", nullOr idJson stats.content.views),
  ("replies", nullOr .int stats.content.replies),
  ("reposts", nullOr .int stats.content.reposts),
  ("quotes", nullOr .int stats.content.quotes),
  ("likes", nullOr .int stats.content.likes),
  ("bookmarks", nullOr .int stats.content.bookmarks)]

def buildTweetEditJson (edit : TweetEdit) : Value := .object [
  ("versionIds", list idJson edit.versionIds),
  ("editableUntilAt", nullOr context.timeJson edit.editableUntil),
  ("remainingEdits", nullOr idJson edit.remainingEdits)]

/-- `build_tweet_policy_json`. -/
def buildTweetPolicyJson (policy : TweetPolicy) : Except String Value := do
  let replyPolicy ← context.resolveOptionalString policy.replyPolicy .tweetReplyPolicyCode
    "tweet.policy.replyPolicy"
  let availableActions ← context.resolveStringList policy.availableActions .tweetActionCode
    "tweet.policy.availableActions"
  return .object [
    ("replyPolicy", nullOr .string replyPolicy),
    ("followersOnly", nullOr .bool policy.followersOnly),
    ("isPossiblySensitive", nullOr .bool policy.isPossiblySensitive),
    ("availableActions", list .string availableActions),
    ("isMediaVisibilityRestricted", nullOr .bool policy.isMediaVisibilityRestricted),
    ("paidPromotion", nullOr .bool policy.paidPromotion)]

/-- `build_tweet_community_note_json`. -/
def buildTweetCommunityNoteJson (note : TweetCommunityNote) : Except String Value := do
  let subtitle ← buildOption context.buildAnnotatedTextJson note.subtitle
  let footer ← buildOption context.buildAnnotatedTextJson note.footer
  return .object [
    ("id", nullOr idJson note.noteId),
    ("title", nullOr .string note.title),
    ("shortTitle", nullOr .string note.shortTitle),
    ("subtitle", subtitle),
    ("footer", footer),
    ("destinationUrl", nullOr .string note.destinationUrl)]

/-- `build_tweet_json`. -/
def buildTweetJson (tweet : TweetRow) (place : Option TweetPlace) (edit : Option TweetEdit)
    (policy : Option TweetPolicy) (note : Option TweetCommunityNote)
    (stats : Option (Version TweetStatsColumns)) (mediaRefs : List MediaRef) :
    Except String Value := do
  let source ← context.resolveOptionalString tweet.source .tweetSource "tweet.source"
  let place ← buildOption context.buildTweetPlaceJson place
  let content ← context.buildTweetContentJson tweet mediaRefs
  let policy ← buildOption context.buildTweetPolicyJson policy
  let communityNote ← buildOption context.buildTweetCommunityNoteJson note
  return .object [
    ("id", idJson tweet.id),
    ("publishedAt", context.timeJson tweet.publishedAt),
    ("source", nullOr .string source),
    ("authorId", idJson tweet.authorId),
    ("place", place),
    ("content", content),
    ("conversation", conversationJson tweet),
    ("stats", nullOr context.buildTweetStatsJson stats),
    ("edit", nullOr context.buildTweetEditJson edit),
    ("policy", policy),
    ("communityNote", communityNote)]

/-! ## Media -/

def mediaRectJson (rect : MediaRect) : Value := .object [
  ("x", .int rect.x),
  ("y", .int rect.y),
  ("width", .int rect.w),
  ("height", .int rect.h)]

def mediaGeometryJson (geometry : MediaGeometry) : Value := .object [
  ("width", .int geometry.w),
  ("height", .int geometry.h),
  ("focusRects", list mediaRectJson geometry.focusRects)]

def mediaDetailsJson (details : MediaDetails) : Value := .object [
  ("title", nullOr .string details.title),
  ("description", nullOr .string details.description),
  ("siteUrl", nullOr .string details.siteUrl),
  ("isEmbeddable", nullOr .bool details.isEmbeddable),
  ("isMonetizable", nullOr .bool details.isMonetizable)]

/-- `build_media_variant_json`; without a mode it is null. -/
def buildMediaVariantJson (variant : MediaSizeVariant) : Except String Value := do
  let resizeMode ← context.resolveOptionalString variant.resizeMode .tweetMediaResizeMode
    "media.variants.resizeMode"
  return .object [
    ("width", .int variant.w),
    ("height", .int variant.h),
    ("resizeMode", nullOr .string resizeMode)]

/-- `build_media_variants_json`. -/
def buildMediaVariantsJson (variants : MediaSizeVariants) : Except String Value := do
  let large ← buildOption context.buildMediaVariantJson variants.large
  let medium ← buildOption context.buildMediaVariantJson variants.medium
  let small ← buildOption context.buildMediaVariantJson variants.small
  let thumb ← buildOption context.buildMediaVariantJson variants.thumb
  return .object [("large", large), ("medium", medium), ("small", small), ("thumb", thumb)]

def buildMediaTagJson (tag : MediaTag) : Except String Value := do
  let kind ← context.resolveOptionalString tag.kind .tweetMediaTagKind "media.taggedUsers.kind"
  return .object [("userId", nullOr idJson tag.userId), ("kind", nullOr .string kind)]

/-- Without a type the content type is null. -/
def buildVideoVariantJson (variant : VideoVariant) : Except String Value := do
  let contentType ← context.resolveOptionalString variant.contentType .tweetVideoContentType
    "media.video.variants.contentType"
  return .object [
    ("contentType", nullOr .string contentType),
    ("bitrate", nullOr .int variant.bitrate),
    ("url", .string variant.url)]

def aspectRatioJson (w h : Option Int) : Value :=
  match w, h with
  | some w, some h => .array [.int w, .int h]
  | _, _ => .null

/-- `build_media_video_json`. -/
def buildMediaVideoJson (video : MediaVideo) : Except String Value := do
  let variants ← buildList context.buildVideoVariantJson video.variants
  return .object [
    ("aspectRatio", aspectRatioJson video.aspectRatioW video.aspectRatioH),
    ("durationMs", nullOr .int video.durationMs),
    ("variants", variants)]

/-- `build_media_resource_json`. -/
def buildMediaResourceJson (resource : MediaResource) : Except String Value := do
  let availability ← context.resolveOptionalString resource.content.availability
    .tweetMediaAvailabilityStatus "media.resource.availability"
  let video ← buildOption context.buildMediaVideoJson resource.content.video
  return .object [
    ("fetchedAt", context.timeJson resource.recordedAt),
    ("mediaUrl", nullOr .string resource.content.mediaUrl),
    ("availability", nullOr .string availability),
    ("video", video)]

/-- `tweet.media_type_enum`, as text. -/
def mediaTypeJson : MediaType → Value
  | .photo => .string "photo"
  | .video => .string "video"
  | .animatedGif => .string "animated_gif"

/-- `build_media_json`. -/
def buildMediaJson (media : Media) (resource : Option MediaResource) : Except String Value := do
  let variants ← buildOption context.buildMediaVariantsJson media.sizeVariants
  let taggedUsers ← buildList context.buildMediaTagJson media.taggedUsers
  let sensitivityWarnings ← context.resolveStringList media.sensitivityWarnings
    .tweetMediaSensitivityCode "media.sensitivityWarnings"
  let resource ← buildOption context.buildMediaResourceJson resource
  return .object [
    ("id", idJson media.id),
    ("type", mediaTypeJson media.mediaType),
    ("altText", nullOr .string media.altText),
    ("grokPostId", nullOr (fun id => .string (context.formats.formatUuid id)) media.grokPostId),
    ("geometry", nullOr mediaGeometryJson media.geometry),
    ("variants", variants),
    ("taggedUsers", taggedUsers),
    ("sensitivityWarnings", list .string sensitivityWarnings),
    ("origin", mediaOriginJson media.originTweetId media.originUserId),
    ("details", nullOr mediaDetailsJson media.details),
    ("resource", resource)]

end BuildContext

end TweetDb.Query
