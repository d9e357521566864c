import TweetDb.Json.Value
import TweetDb.Submit.Contract

/-! # Deserialising the request

The `Deserialize` derivations of `contract.rs`.  A field that nothing reads is
still decoded, since a bad one fails the request.  An integer field is as wide
as the column it is stored in, so its range is left out; an unknown field is
ignored.
-/

namespace TweetDb.Submit

open Json

/-- `time::serde::rfc3339`, over the parser of the format. -/
def decodeTime (parseTime : String → Option OffsetDateTime) : Decoder OffsetDateTime
  | .string value => parseTime value
  | _ => none

/-! ## Annotated text -/

def decodeTextRange : Decoder SubmitTextRange := record fun fields => do
  let start ← required integer "start" fields
  let stop ← required integer "end" fields
  return ⟨start, stop⟩

def decodeTextStyleRange : Decoder SubmitTextStyleRange := record fun fields => do
  let range ← required decodeTextRange "range" fields
  let styles ← listed text "styles" fields
  return ⟨range, styles⟩

def decodeResolvedUrl : Decoder SubmitResolvedUrl := record fun fields => do
  let url ← required text "url" fields
  let expandedUrl ← required text "expandedUrl" fields
  let displayText ← required text "displayText" fields
  return ⟨url, expandedUrl, displayText⟩

def decodeHashtagEntity : Decoder SubmitHashtagEntity := record fun fields => do
  let value ← required text "text" fields
  let range ← required decodeTextRange "range" fields
  return ⟨value, range⟩

def decodeSymbolEntity : Decoder SubmitSymbolEntity := record fun fields => do
  let value ← required text "text" fields
  let range ← optional decodeTextRange "range" fields
  let ticker ← optional text "ticker" fields
  let name ← optional text "name" fields
  return ⟨value, range, ticker, name⟩

def decodeUrlEntity : Decoder SubmitUrlEntity := record fun fields => do
  let url ← required text "url" fields
  let expandedUrl ← required text "expandedUrl" fields
  let displayText ← required text "displayText" fields
  let range ← required decodeTextRange "range" fields
  return ⟨url, expandedUrl, displayText, range⟩

/-- `name` and `user_name` are not read any further. -/
def decodeMentionEntity : Decoder SubmitMentionEntity := record fun fields => do
  let userId ← required text "userId" fields
  let _ ← optional text "name" fields
  let _ ← optional text "userName" fields
  let range ← required decodeTextRange "range" fields
  return ⟨userId, range⟩

def decodeMediaOrigin : Decoder SubmitMediaOrigin := record fun fields => do
  let tweetId ← optional text "tweetId" fields
  let userId ← optional text "userId" fields
  return ⟨tweetId, userId⟩

def decodeMediaEntity : Decoder SubmitMediaEntity := record fun fields => do
  let mediaId ← required text "mediaId" fields
  let range ← optional decodeTextRange "range" fields
  let displayText ← optional text "displayText" fields
  let expandedUrl ← optional text "expandedUrl" fields
  let url ← optional text "url" fields
  let origin ← optional decodeMediaOrigin "origin" fields
  return ⟨mediaId, range, displayText, expandedUrl, url, origin⟩

def decodeTextEntities : Decoder SubmitTextEntities := record fun fields => do
  let hashtags ← listed decodeHashtagEntity "hashtags" fields
  let symbols ← listed decodeSymbolEntity "symbols" fields
  let urls ← listed decodeUrlEntity "urls" fields
  let mentions ← listed decodeMentionEntity "mentions" fields
  let media ← listed decodeMediaEntity "media" fields
  return ⟨hashtags, symbols, urls, mentions, media⟩

def decodeAnnotatedText : Decoder SubmitAnnotatedText := record fun fields => do
  let value ← required text "text" fields
  let displayRange ← optional decodeTextRange "displayRange" fields
  let entities ← defaulted decodeTextEntities "entities" fields ⟨[], [], [], [], []⟩
  let styles ← listed decodeTextStyleRange "styles" fields
  return ⟨value, displayRange, entities, styles⟩

section Timed

variable (parseTime : String → Option OffsetDateTime)

/-- `default` with `rfc3339::option`. -/
def timeField (name : String) (fields : Fields) : Option (Option OffsetDateTime) :=
  optional (decodeTime parseTime) name fields

/-! ## Users -/

def decodeUserProfile : Decoder SubmitUserProfile := record fun fields => do
  let fetchedAt ← timeField parseTime "fetchedAt" fields
  let displayName ← required text "displayName" fields
  let userName ← required text "userName" fields
  let avatarUrl ← optional text "avatarUrl" fields
  let usesDefaultAvatar ← optional boolean "usesDefaultAvatar" fields
  let avatarShape ← optional text "avatarShape" fields
  let bannerUrl ← optional text "bannerUrl" fields
  let location ← optional text "location" fields
  let bio ← optional decodeAnnotatedText "bio" fields
  let profileLinks ← listed decodeResolvedUrl "profileLinks" fields
  return ⟨fetchedAt, displayName, userName, avatarUrl, usesDefaultAvatar, avatarShape, bannerUrl,
    location, bio, profileLinks⟩

def decodeUserStats : Decoder SubmitUserStats := record fun fields => do
  let fetchedAt ← timeField parseTime "fetchedAt" fields
  let followers ← optional integer "followers" fields
  let following ← optional integer "following" fields
  let likes ← optional integer "likes" fields
  let mediaPosts ← optional integer "mediaPosts" fields
  let tweets ← optional integer "tweets" fields
  let listed ← optional integer "listed" fields
  return ⟨fetchedAt, followers, following, likes, mediaPosts, tweets, listed⟩

def decodeUserFeatures : Decoder SubmitUserFeatures := record fun fields => do
  let canDm ← optional boolean "canDm" fields
  let canTagMedia ← optional boolean "canTagMedia" fields
  let isProtected ← optional boolean "isProtected" fields
  let canBeSubscribed ← optional boolean "canBeSubscribed" fields
  return ⟨canDm, canTagMedia, isProtected, canBeSubscribed⟩

def decodeUserVerification : Decoder SubmitUserVerification := record fun fields => do
  let isBlueVerified ← optional boolean "isBlueVerified" fields
  let verificationType ← optional text "type" fields
  return ⟨isBlueVerified, verificationType⟩

def decodeUserDisclosure : Decoder SubmitUserDisclosure := record fun fields => do
  let relation ← optional text "relation" fields
  let subjectId ← optional text "subjectId" fields
  let subjectHandle ← optional text "subjectHandle" fields
  let subjectName ← optional text "subjectName" fields
  let subjectUrl ← optional text "subjectUrl" fields
  return ⟨relation, subjectId, subjectHandle, subjectName, subjectUrl⟩

def decodeUserIdentity : Decoder SubmitUserIdentity := record fun fields => do
  let verification ← optional decodeUserVerification "verification" fields
  let disclosure ← optional decodeUserDisclosure "disclosure" fields
  let parodyLabel ← optional text "parodyLabel" fields
  let hasCompletedNewAccountReview ← optional boolean "hasCompletedNewAccountReview" fields
  let isPossiblySensitive ← optional boolean "isPossiblySensitive" fields
  return ⟨verification, disclosure, parodyLabel, hasCompletedNewAccountReview,
    isPossiblySensitive⟩

def decodeUserCategory : Decoder SubmitUserCategory := record fun fields => do
  let id ← required text "id" fields
  let name ← required text "name" fields
  return ⟨id, name⟩

def decodeUserProfessional : Decoder SubmitUserProfessional := record fun fields => do
  let id ← optional text "id" fields
  let professionalType ← optional text "type" fields
  let categories ← listed decodeUserCategory "categories" fields
  return ⟨id, professionalType, categories⟩

def decodeUser : Decoder SubmitUser := record fun fields => do
  let id ← required text "id" fields
  let fetchedAt ← timeField parseTime "fetchedAt" fields
  let registeredAt ← optionalAlias (decodeTime parseTime) "registeredAt" fields "createdAt"
  let profile ← optional (decodeUserProfile parseTime) "profile" fields
  let pinnedTweetIds ← listed text "pinnedTweetIds" fields
  let identity ← optional decodeUserIdentity "identity" fields
  let professional ← optional decodeUserProfessional "professional" fields
  let stats ← optional (decodeUserStats parseTime) "stats" fields
  let features ← optional decodeUserFeatures "features" fields
  return ⟨id, fetchedAt, registeredAt, profile, pinnedTweetIds, identity, professional, stats,
    features⟩

/-! ## Tweets -/

def decodeTweetNote : Decoder SubmitTweetNote := record fun fields => do
  let id ← optional text "id" fields
  let value ← required decodeAnnotatedText "text" fields
  return ⟨id, value⟩

def decodeTweetContent : Decoder SubmitTweetContent := record fun fields => do
  let legacyText ← required decodeAnnotatedText "legacyText" fields
  let note ← optional decodeTweetNote "note" fields
  let mediaIds ← listed text "mediaIds" fields
  let language ← optional text "language" fields
  return ⟨legacyText, note, mediaIds, language⟩

/-- `user_name` is not read any further. -/
def decodeTweetReplyTarget : Decoder SubmitTweetReplyTarget := record fun fields => do
  let tweetId ← required text "tweetId" fields
  let userId ← optional text "userId" fields
  let _ ← optional text "userName" fields
  return ⟨tweetId, userId⟩

def decodeTweetQuote : Decoder SubmitTweetQuote := record fun fields => do
  let tweetId ← required text "tweetId" fields
  let permalink ← optional decodeResolvedUrl "permalink" fields
  return ⟨tweetId, permalink⟩

def decodeTweetConversation : Decoder SubmitTweetConversation := record fun fields => do
  let conversationId ← required text "conversationId" fields
  let replyTo ← optional decodeTweetReplyTarget "replyTo" fields
  let quote ← optional decodeTweetQuote "quote" fields
  let repostId ← optional text "repostId" fields
  return ⟨conversationId, replyTo, quote, repostId⟩

def decodeTweetStats : Decoder SubmitTweetStats := record fun fields => do
  let fetchedAt ← timeField parseTime "fetchedAt" fields
  let views ← optional text "views" fields
  let replies ← optional integer "replies" fields
  let reposts ← optional integer "reposts" fields
  let quotes ← optional integer "quotes" fields
  let likes ← optional integer "likes" fields
  let bookmarks ← optional integer "bookmarks" fields
  return ⟨fetchedAt, views, replies, reposts, quotes, likes, bookmarks⟩

/-- The `fetchedAt` of an edit, a policy or a note is not read any further. -/
def decodeTweetEdit : Decoder SubmitTweetEdit := record fun fields => do
  let _ ← timeField parseTime "fetchedAt" fields
  let versionIds ← listed text "versionIds" fields
  let editableUntilAt ← timeField parseTime "editableUntilAt" fields
  let remainingEdits ← optional text "remainingEdits" fields
  return ⟨versionIds, editableUntilAt, remainingEdits⟩

def decodeTweetPolicy : Decoder SubmitTweetPolicy := record fun fields => do
  let _ ← timeField parseTime "fetchedAt" fields
  let replyPolicy ← optional text "replyPolicy" fields
  let followersOnly ← optional boolean "followersOnly" fields
  let isPossiblySensitive ← optional boolean "isPossiblySensitive" fields
  let availableActions ← listed text "availableActions" fields
  let isMediaVisibilityRestricted ← optional boolean "isMediaVisibilityRestricted" fields
  let paidPromotion ← optional boolean "paidPromotion" fields
  return ⟨replyPolicy, followersOnly, isPossiblySensitive, availableActions,
    isMediaVisibilityRestricted, paidPromotion⟩

def decodeTweetCommunityNote : Decoder SubmitTweetCommunityNote := record fun fields => do
  let _ ← timeField parseTime "fetchedAt" fields
  let id ← optional text "id" fields
  let title ← optional text "title" fields
  let shortTitle ← optional text "shortTitle" fields
  let subtitle ← optional decodeAnnotatedText "subtitle" fields
  let footer ← optional decodeAnnotatedText "footer" fields
  let destinationUrl ← optional text "destinationUrl" fields
  return ⟨id, title, shortTitle, subtitle, footer, destinationUrl⟩

def decodeGeoPoint : Decoder Tweet.GeoPoint := record fun fields => do
  let longitude ← required number "longitude" fields
  let latitude ← required number "latitude" fields
  return ⟨longitude, latitude⟩

def decodeTweetPlace : Decoder SubmitTweetPlace := record fun fields => do
  let id ← optional text "id" fields
  let name ← optional text "name" fields
  let fullName ← optional text "fullName" fields
  let country ← optional text "country" fields
  let countryCode ← optional text "countryCode" fields
  let kind ← optional text "kind" fields
  let boundary ← optional (items decodeGeoPoint) "boundary" fields
  return ⟨id, name, fullName, country, countryCode, kind, boundary⟩

def decodeTweet : Decoder SubmitTweet := record fun fields => do
  let id ← required text "id" fields
  let fetchedAt ← timeField parseTime "fetchedAt" fields
  let publishedAt ← requiredAlias (decodeTime parseTime) "publishedAt" fields "createdAt"
  let source ← optional text "source" fields
  let authorId ← required text "authorId" fields
  let place ← optional decodeTweetPlace "place" fields
  let content ← required decodeTweetContent "content" fields
  let conversation ← required decodeTweetConversation "conversation" fields
  let stats ← optional (decodeTweetStats parseTime) "stats" fields
  let edit ← optional (decodeTweetEdit parseTime) "edit" fields
  let policy ← optional (decodeTweetPolicy parseTime) "policy" fields
  let communityNote ← optional (decodeTweetCommunityNote parseTime) "communityNote" fields
  return ⟨id, fetchedAt, publishedAt, source, authorId, place, content, conversation, stats, edit,
    policy, communityNote⟩

/-! ## Media -/

def decodeMediaDetails : Decoder SubmitMediaDetails := record fun fields => do
  let title ← optional text "title" fields
  let description ← optional text "description" fields
  let siteUrl ← optional text "siteUrl" fields
  let isEmbeddable ← optional boolean "isEmbeddable" fields
  let isMonetizable ← optional boolean "isMonetizable" fields
  return ⟨title, description, siteUrl, isEmbeddable, isMonetizable⟩

def decodeMediaRect : Decoder SubmitMediaRect := record fun fields => do
  let x ← required integer "x" fields
  let y ← required integer "y" fields
  let width ← required integer "width" fields
  let height ← required integer "height" fields
  return ⟨x, y, width, height⟩

def decodeMediaGeometry : Decoder SubmitMediaGeometry := record fun fields => do
  let width ← required integer "width" fields
  let height ← required integer "height" fields
  let focusRects ← listed decodeMediaRect "focusRects" fields
  return ⟨width, height, focusRects⟩

/-- The mode is required. -/
def decodeMediaVariant : Decoder SubmitMediaVariant := record fun fields => do
  let width ← required integer "width" fields
  let height ← required integer "height" fields
  let resizeMode ← required text "resizeMode" fields
  return ⟨width, height, resizeMode⟩

def decodeMediaVariants : Decoder SubmitMediaVariants := record fun fields => do
  let large ← optional decodeMediaVariant "large" fields
  let medium ← optional decodeMediaVariant "medium" fields
  let small ← optional decodeMediaVariant "small" fields
  let thumb ← optional decodeMediaVariant "thumb" fields
  return ⟨large, medium, small, thumb⟩

def decodeMediaTag : Decoder SubmitMediaTag := record fun fields => do
  let userId ← optional text "userId" fields
  let kind ← optional text "kind" fields
  return ⟨userId, kind⟩

/-- The content type is required. -/
def decodeVideoVariant : Decoder SubmitVideoVariant := record fun fields => do
  let contentType ← required text "contentType" fields
  let bitrate ← optional integer "bitrate" fields
  let url ← required text "url" fields
  return ⟨contentType, bitrate, url⟩

/-- `[i32; 2]`. -/
def decodeAspectRatio : Decoder (Int × Int)
  | .array [width, height] => do
    let width ← integer width
    let height ← integer height
    return (width, height)
  | _ => none

def decodeMediaVideo : Decoder SubmitMediaVideo := record fun fields => do
  let aspectRatio ← optional decodeAspectRatio "aspectRatio" fields
  let durationMs ← optional integer "durationMs" fields
  let variants ← listed decodeVideoVariant "variants" fields
  return ⟨aspectRatio, durationMs, variants⟩

def decodeMediaResource : Decoder SubmitMediaResource := record fun fields => do
  let fetchedAt ← timeField parseTime "fetchedAt" fields
  let mediaUrl ← optional text "mediaUrl" fields
  let availability ← optional text "availability" fields
  let video ← optional decodeMediaVideo "video" fields
  return ⟨fetchedAt, mediaUrl, availability, video⟩

/-- `SubmitMediaType`. -/
def decodeMediaType : Decoder Tweet.MediaType
  | .string "photo" => some .photo
  | .string "video" => some .video
  | .string "animated_gif" => some .animatedGif
  | _ => none

def decodeMedia : Decoder SubmitMedia := record fun fields => do
  let id ← required text "id" fields
  let fetchedAt ← timeField parseTime "fetchedAt" fields
  let mediaType ← required decodeMediaType "type" fields
  let mediaUrl ← optional text "mediaUrl" fields
  let altText ← optional text "altText" fields
  let grokPostId ← optional text "grokPostId" fields
  let geometry ← optional decodeMediaGeometry "geometry" fields
  let variants ← optional decodeMediaVariants "variants" fields
  let taggedUsers ← listed decodeMediaTag "taggedUsers" fields
  let sensitivityWarnings ← listed text "sensitivityWarnings" fields
  let availability ← optional text "availability" fields
  let video ← optional decodeMediaVideo "video" fields
  let origin ← optional decodeMediaOrigin "origin" fields
  let details ← optional decodeMediaDetails "details" fields
  let resource ← optional (decodeMediaResource parseTime) "resource" fields
  return ⟨id, fetchedAt, mediaType, mediaUrl, altText, grokPostId, geometry, variants, taggedUsers,
    sensitivityWarnings, availability, video, origin, details, resource⟩

def decodeRequest : Decoder SubmitTweetRequest := record fun fields => do
  let users ← listed (decodeUser parseTime) "users" fields
  let tweets ← listed (decodeTweet parseTime) "tweets" fields
  let media ← listed (decodeMedia parseTime) "media" fields
  return ⟨users, tweets, media⟩

end Timed

end TweetDb.Submit
