import TweetDb.Text
import TweetDb.Tweet.Fill
import TweetDb.Tweet.Snapshots

/-! # Payloads

The objects of `tweet_model.rs` have plain texts where the rows have dictionary
ids; an object that differs from its row in nothing else is written as the row.
The payloads the store makes of them replace the texts: `ensure_id` gives a
trimmed text its id and a blank one none.
-/

namespace TweetDb.TweetModel

open TweetDb.Tweet (AnnotatedText MediaDetails MediaGeometry MediaTag MediaType ResolvedUrl
  TextStyleRange TweetCommunityNote TweetEdit TweetPlace TweetPolicy TweetRow UserDisclosure
  UserFeatures UserIdentity UserProfessional UserVerification)

/-! ## Objects -/

structure VideoVariant where
  contentType : String
  bitrate : Option Int
  url : String
deriving DecidableEq, Repr

structure MediaVideo where
  aspectRatioW : Option Int
  aspectRatioH : Option Int
  durationMs : Option Int
  variants : List VideoVariant
deriving DecidableEq, Repr

structure MediaResource where
  mediaId : Int
  recordedAt : Timestamp
  mediaUrl : Option String
  availability : Option String
  video : Option MediaVideo
deriving DecidableEq, Repr

structure MediaSizeVariant where
  w : Int
  h : Int
  resizeMode : String
deriving DecidableEq, Repr

structure MediaSizeVariants where
  large : Option MediaSizeVariant
  medium : Option MediaSizeVariant
  small : Option MediaSizeVariant
  thumb : Option MediaSizeVariant
deriving DecidableEq, Repr

structure Media where
  id : Int
  mediaType : MediaType
  altText : Option String
  grokPostId : Option Uuid
  geometry : Option MediaGeometry
  sizeVariants : Option MediaSizeVariants
  taggedUsers : List MediaTag
  sensitivityWarnings : List String
  originTweetId : Option Int
  originUserId : Option Int
  details : Option MediaDetails
deriving DecidableEq, Repr

structure UserSnapshot where
  userId : Int
  recordedAt : Timestamp
  displayName : String
  userName : String
  avatarUrl : Option String
  usesDefaultAvatar : Option Bool
  avatarShape : Option String
  bannerUrl : Option String
  location : Option String
  bio : Option AnnotatedText
  profileLinks : List ResolvedUrl
  identity : Option UserIdentity
  features : Option UserFeatures
  professional : Option UserProfessional
  pinnedTweetIds : List Int
deriving DecidableEq, Repr

/-! ## Dictionary texts -/

/-- `normalize_value` of the dictionary. -/
def normalizeValue (value : String) : Option String :=
  let value := trim value
  if value.isEmpty then none else some value

/-- `ensure_id`, with the text in place of its id. -/
def ensureId (value : Option String) : Option String := value.bind normalizeValue

/-- `ensure_ids`. -/
def ensureIds (values : List String) : List String := values.filterMap normalizeValue

/-! ## Payloads -/

def textStyleRangePayload (value : TextStyleRange) : TextStyleRange :=
  { value with styles := ensureIds value.styles }

def annotatedTextPayload (value : AnnotatedText) : AnnotatedText :=
  { value with styles := value.styles.map textStyleRangePayload }

def userVerificationPayload (value : UserVerification) : UserVerification :=
  { value with verifiedType := ensureId value.verifiedType }

def userDisclosurePayload (value : UserDisclosure) : UserDisclosure :=
  { value with relation := ensureId value.relation }

def userIdentityPayload (value : UserIdentity) : UserIdentity :=
  { value with
    verification := value.verification.map userVerificationPayload
    disclosure := value.disclosure.map userDisclosurePayload
    parodyLabel := ensureId value.parodyLabel }

def userProfessionalPayload (value : UserProfessional) : UserProfessional :=
  { value with professionalType := ensureId value.professionalType }

/-- `user_snapshot_payload`. -/
def UserSnapshot.payload (value : UserSnapshot) : Tweet.UserSnapshotPayload where
  userId := value.userId
  recordedAt := value.recordedAt
  displayName := value.displayName
  userName := value.userName
  avatarUrl := value.avatarUrl
  usesDefaultAvatar := value.usesDefaultAvatar
  avatarShape := ensureId value.avatarShape
  bannerUrl := value.bannerUrl
  location := value.location
  bio := value.bio.map annotatedTextPayload
  profileLinks := some value.profileLinks
  identity := value.identity.map userIdentityPayload
  features := value.features
  professional := value.professional.map userProfessionalPayload
  pinnedTweetIds := some value.pinnedTweetIds

def tweetPlacePayload (value : TweetPlace) : TweetPlace :=
  { value with
    country := ensureId value.country
    countryCode := ensureId value.countryCode
    kind := ensureId value.kind }

def tweetPayload (value : TweetRow) : TweetRow :=
  { value with
    source := ensureId value.source
    legacyText := annotatedTextPayload value.legacyText
    noteText := value.noteText.map annotatedTextPayload
    language := ensureId value.language }

/-- An edit has no dictionary column. -/
def tweetEditPayload (value : TweetEdit) : Tweet.TweetEditPayload where
  tweetId := value.tweetId
  versionIds := some value.versionIds
  editableUntil := value.editableUntil
  remainingEdits := value.remainingEdits

def tweetPolicyPayload (value : TweetPolicy) : Tweet.TweetPolicyPayload where
  tweetId := value.tweetId
  replyPolicy := ensureId value.replyPolicy
  followersOnly := value.followersOnly
  isPossiblySensitive := value.isPossiblySensitive
  availableActions := some (ensureIds value.availableActions)
  isMediaVisibilityRestricted := value.isMediaVisibilityRestricted
  paidPromotion := value.paidPromotion

def tweetCommunityNotePayload (value : TweetCommunityNote) : TweetCommunityNote :=
  { value with
    subtitle := value.subtitle.map annotatedTextPayload
    footer := value.footer.map annotatedTextPayload }

def MediaSizeVariant.payload (value : MediaSizeVariant) : Tweet.MediaSizeVariant where
  w := value.w
  h := value.h
  resizeMode := ensureId (some value.resizeMode)

def MediaSizeVariants.payload (value : MediaSizeVariants) : Tweet.MediaSizeVariants where
  large := value.large.map MediaSizeVariant.payload
  medium := value.medium.map MediaSizeVariant.payload
  small := value.small.map MediaSizeVariant.payload
  thumb := value.thumb.map MediaSizeVariant.payload

def mediaTagPayload (tag : MediaTag) : MediaTag := { tag with kind := ensureId tag.kind }

/-- `media_payload`. -/
def Media.payload (value : Media) : Tweet.MediaPayload where
  id := value.id
  mediaType := value.mediaType
  altText := value.altText
  grokPostId := value.grokPostId
  geometry := value.geometry
  sizeVariants := value.sizeVariants.map MediaSizeVariants.payload
  taggedUsers := some (value.taggedUsers.map mediaTagPayload)
  sensitivityWarnings := some (ensureIds value.sensitivityWarnings)
  originTweetId := value.originTweetId
  originUserId := value.originUserId
  details := value.details

def VideoVariant.payload (value : VideoVariant) : Tweet.VideoVariant where
  contentType := ensureId (some value.contentType)
  bitrate := value.bitrate
  url := value.url

def MediaVideo.payload (value : MediaVideo) : Tweet.MediaVideo where
  aspectRatioW := value.aspectRatioW
  aspectRatioH := value.aspectRatioH
  durationMs := value.durationMs
  variants := value.variants.map VideoVariant.payload

/-- `media_resource_payload`. -/
def MediaResource.payload (value : MediaResource) : Tweet.MediaResource where
  subjectId := value.mediaId
  recordedAt := value.recordedAt
  content :=
    { mediaUrl := value.mediaUrl
      availability := ensureId value.availability
      video := value.video.map MediaVideo.payload }

end TweetDb.TweetModel
