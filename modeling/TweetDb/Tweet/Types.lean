import TweetDb.Basic
import TweetDb.Relational.Table

/-! # Composite columns of the tweet schema

A `SMALLINT` column that refers to `tweet.string_dict` is modelled by the value
it refers to: the pair of semantic and value is unique there.
-/

namespace TweetDb.Tweet

open Relational

/-- `tweet.hashtag_ref`. -/
structure HashtagEntity where
  hashtagId : Int
  rangeStart : Int
  rangeEnd : Int
deriving DecidableEq, Repr

/-- `tweet.symbol_ref`. -/
structure SymbolEntity where
  symbolId : Int
  rangeStart : Int
  rangeEnd : Int
deriving DecidableEq, Repr

structure ResolvedUrl where
  url : String
  expandedUrl : String
  displayText : String
deriving DecidableEq, Repr

structure UrlEntity where
  url : String
  expandedUrl : String
  displayText : String
  rangeStart : Int
  rangeEnd : Int
deriving DecidableEq, Repr

structure MentionEntity where
  userId : Int
  rangeStart : Int
  rangeEnd : Int
deriving DecidableEq, Repr

structure MediaEntity where
  mediaId : Int
  rangeStart : Int
  rangeEnd : Int
  displayText : String
  expandedUrl : String
  url : String
  originTweetId : Option Int
  originUserId : Option Int
deriving DecidableEq, Repr

structure TextStyleRange where
  rangeStart : Int
  rangeEnd : Int
  styles : List String
deriving DecidableEq, Repr

structure AnnotatedText where
  body : String
  displayRangeStart : Option Int
  displayRangeEnd : Option Int
  hashtags : List HashtagEntity
  symbols : List SymbolEntity
  urls : List UrlEntity
  mentions : List MentionEntity
  mediaRefs : List MediaEntity
  styles : List TextStyleRange
deriving DecidableEq, Repr

structure UserVerification where
  isBlueVerified : Option Bool
  verifiedType : Option String
deriving DecidableEq, Repr

structure UserDisclosure where
  relation : Option String
  subjectId : Option Int
  subjectHandle : Option String
  subjectName : Option String
  subjectUrl : Option String
deriving DecidableEq, Repr

structure UserIdentity where
  verification : Option UserVerification
  disclosure : Option UserDisclosure
  parodyLabel : Option String
  hasCompletedNewAccountReview : Option Bool
  isPossiblySensitive : Option Bool
deriving DecidableEq, Repr

structure UserFeatures where
  canDm : Option Bool
  canTagMedia : Option Bool
  isProtected : Option Bool
  canBeSubscribed : Option Bool
deriving DecidableEq, Repr

structure UserProfessional where
  professionalId : Option Int
  professionalType : Option String
  categoryIds : List Int
deriving DecidableEq, Repr

structure MediaRect where
  x : Int
  y : Int
  w : Int
  h : Int
deriving DecidableEq, Repr

structure MediaSizeVariant where
  w : Int
  h : Int
  resizeMode : Option String
deriving DecidableEq, Repr

structure MediaSizeVariants where
  large : Option MediaSizeVariant
  medium : Option MediaSizeVariant
  small : Option MediaSizeVariant
  thumb : Option MediaSizeVariant
deriving DecidableEq, Repr

structure MediaGeometry where
  w : Int
  h : Int
  focusRects : List MediaRect
deriving DecidableEq, Repr

structure MediaTag where
  userId : Option Int
  kind : Option String
deriving DecidableEq, Repr

structure MediaDetails where
  title : Option String
  description : Option String
  siteUrl : Option String
  isEmbeddable : Option Bool
  isMonetizable : Option Bool
deriving DecidableEq, Repr

structure VideoVariant where
  contentType : Option String
  bitrate : Option Int
  url : String
deriving DecidableEq, Repr

structure MediaVideo where
  aspectRatioW : Option Int
  aspectRatioH : Option Int
  durationMs : Option Int
  variants : List VideoVariant
deriving DecidableEq, Repr

/-- `tweet.geo_point`; the doubles that JSON can carry. -/
structure GeoPoint where
  longitude : Rat
  latitude : Rat
deriving DecidableEq, Repr

/-- `tweet.media_type_enum`. -/
inductive MediaType where
  | photo
  | video
  | animatedGif
deriving DecidableEq, Repr

/-! ## Rows with an id -/

/-- `tweet.twitter_user`. -/
structure TwitterUser where
  id : Int
  registeredAt : Option Timestamp
deriving DecidableEq, Repr

instance : Row TwitterUser Int := .ofKey TwitterUser.id

/-- `tweet.media`. -/
structure Media where
  id : Int
  mediaType : MediaType
  altText : Option String
  grokPostId : Option Uuid
  geometry : Option MediaGeometry
  sizeVariants : Option MediaSizeVariants
  taggedUsers : List MediaTag
  sensitivityWarnings : List String
  originTweetId : Option Int
  originUserId : Option Int
  details : Option MediaDetails
deriving DecidableEq, Repr

instance : Row Media Int := .ofKey Media.id

/-- `tweet.tweet_place`. -/
structure TweetPlace where
  id : String
  name : Option String
  fullName : Option String
  country : Option String
  countryCode : Option String
  kind : Option String
  boundary : Option (List GeoPoint)
deriving DecidableEq, Repr

instance : Row TweetPlace String := .ofKey TweetPlace.id

/-- `tweet.tweet`. -/
structure TweetRow where
  id : Int
  publishedAt : Timestamp
  source : Option String
  authorId : Int
  placeId : Option String
  legacyText : AnnotatedText
  noteId : Option String
  noteText : Option AnnotatedText
  language : Option String
  conversationId : Int
  replyToTweetId : Option Int
  replyToUserId : Option Int
  quoteTweetId : Option Int
  quotePermalink : Option ResolvedUrl
  repostId : Option Int
deriving DecidableEq, Repr

instance : Row TweetRow Int := .ofKey TweetRow.id

/-- `tweet.tweet_edit`. -/
structure TweetEdit where
  tweetId : Int
  versionIds : List Int
  editableUntil : Option Timestamp
  remainingEdits : Option Int
deriving DecidableEq, Repr

instance : Row TweetEdit Int := .ofKey TweetEdit.tweetId

/-- `tweet.tweet_policy`. -/
structure TweetPolicy where
  tweetId : Int
  replyPolicy : Option String
  followersOnly : Option Bool
  isPossiblySensitive : Option Bool
  availableActions : List String
  isMediaVisibilityRestricted : Option Bool
  paidPromotion : Option Bool
deriving DecidableEq, Repr

instance : Row TweetPolicy Int := .ofKey TweetPolicy.tweetId

/-- `tweet.tweet_community_note`. -/
structure TweetCommunityNote where
  tweetId : Int
  noteId : Option Int
  title : Option String
  shortTitle : Option String
  subtitle : Option AnnotatedText
  footer : Option AnnotatedText
  destinationUrl : Option String
deriving DecidableEq, Repr

instance : Row TweetCommunityNote Int := .ofKey TweetCommunityNote.tweetId

/-! ## Statistics -/

/-- `tweet.user_stats`. -/
structure UserStats where
  userId : Int
  recordedAt : Timestamp
  followers : Option Int
  following : Option Int
  likes : Option Int
  mediaPosts : Option Int
  tweets : Option Int
  listed : Option Int
deriving DecidableEq, Repr

/-- `tweet.tweet_stats`. -/
structure TweetStats where
  tweetId : Int
  recordedAt : Timestamp
  views : Option Int
  replies : Option Int
  reposts : Option Int
  quotes : Option Int
  likes : Option Int
  bookmarks : Option Int
deriving DecidableEq, Repr

end TweetDb.Tweet
