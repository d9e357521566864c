import TweetDb.Tweet.Types

/-! # The submitted request

`contract.rs` after deserialisation, without the fields nothing reads.  Ids are
still texts here; absent lists are empty.
-/

namespace TweetDb.Submit

/-- `OffsetDateTime`, in nanoseconds since the epoch; the offset takes no part in equality. -/
abbrev OffsetDateTime := Int

/-! ## Annotated text -/

structure SubmitTextRange where
  start : Int
  stop : Int
deriving DecidableEq, Repr

structure SubmitTextStyleRange where
  range : SubmitTextRange
  styles : List String
deriving DecidableEq, Repr

structure SubmitResolvedUrl where
  url : String
  expandedUrl : String
  displayText : String
deriving DecidableEq, Repr

structure SubmitHashtagEntity where
  text : String
  range : SubmitTextRange
deriving DecidableEq, Repr

structure SubmitSymbolEntity where
  text : String
  range : Option SubmitTextRange
  ticker : Option String
  name : Option String
deriving DecidableEq, Repr

structure SubmitUrlEntity where
  url : String
  expandedUrl : String
  displayText : String
  range : SubmitTextRange
deriving DecidableEq, Repr

structure SubmitMentionEntity where
  userId : String
  range : SubmitTextRange
deriving DecidableEq, Repr

structure SubmitMediaOrigin where
  tweetId : Option String
  userId : Option String
deriving DecidableEq, Repr

structure SubmitMediaEntity where
  mediaId : String
  range : Option SubmitTextRange
  displayText : Option String
  expandedUrl : Option String
  url : Option String
  origin : Option SubmitMediaOrigin
deriving DecidableEq, Repr

structure SubmitTextEntities where
  hashtags : List SubmitHashtagEntity
  symbols : List SubmitSymbolEntity
  urls : List SubmitUrlEntity
  mentions : List SubmitMentionEntity
  media : List SubmitMediaEntity
deriving DecidableEq, Repr

structure SubmitAnnotatedText where
  text : String
  displayRange : Option SubmitTextRange
  entities : SubmitTextEntities
  styles : List SubmitTextStyleRange
deriving DecidableEq, Repr

/-! ## Users -/

structure SubmitUserProfile where
  fetchedAt : Option OffsetDateTime
  displayName : String
  userName : String
  avatarUrl : Option String
  usesDefaultAvatar : Option Bool
  avatarShape : Option String
  bannerUrl : Option String
  location : Option String
  bio : Option SubmitAnnotatedText
  profileLinks : List SubmitResolvedUrl
deriving DecidableEq, Repr

structure SubmitUserStats where
  fetchedAt : Option OffsetDateTime
  followers : Option Int
  following : Option Int
  likes : Option Int
  mediaPosts : Option Int
  tweets : Option Int
  listed : Option Int
deriving DecidableEq, Repr

structure SubmitUserFeatures where
  canDm : Option Bool
  canTagMedia : Option Bool
  isProtected : Option Bool
  canBeSubscribed : Option Bool
deriving DecidableEq, Repr

structure SubmitUserVerification where
  isBlueVerified : Option Bool
  verificationType : Option String
deriving DecidableEq, Repr

structure SubmitUserDisclosure where
  relation : Option String
  subjectId : Option String
  subjectHandle : Option String
  subjectName : Option String
  subjectUrl : Option String
deriving DecidableEq, Repr

structure SubmitUserIdentity where
  verification : Option SubmitUserVerification
  disclosure : Option SubmitUserDisclosure
  parodyLabel : Option String
  hasCompletedNewAccountReview : Option Bool
  isPossiblySensitive : Option Bool
deriving DecidableEq, Repr

structure SubmitUserCategory where
  id : String
  name : String
deriving DecidableEq, Repr

structure SubmitUserProfessional where
  id : Option String
  professionalType : Option String
  categories : List SubmitUserCategory
deriving DecidableEq, Repr

structure SubmitUser where
  id : String
  fetchedAt : Option OffsetDateTime
  registeredAt : Option OffsetDateTime
  profile : Option SubmitUserProfile
  pinnedTweetIds : List String
  identity : Option SubmitUserIdentity
  professional : Option SubmitUserProfessional
  stats : Option SubmitUserStats
  features : Option SubmitUserFeatures
deriving DecidableEq, Repr

/-! ## Tweets -/

structure SubmitTweetNote where
  id : Option String
  text : SubmitAnnotatedText
deriving DecidableEq, Repr

structure SubmitTweetContent where
  legacyText : SubmitAnnotatedText
  note : Option SubmitTweetNote
  mediaIds : List String
  language : Option String
deriving DecidableEq, Repr

structure SubmitTweetReplyTarget where
  tweetId : String
  userId : Option String
deriving DecidableEq, Repr

structure SubmitTweetQuote where
  tweetId : String
  permalink : Option SubmitResolvedUrl
deriving DecidableEq, Repr

structure SubmitTweetConversation where
  conversationId : String
  replyTo : Option SubmitTweetReplyTarget
  quote : Option SubmitTweetQuote
  repostId : Option String
deriving DecidableEq, Repr

structure SubmitTweetStats where
  fetchedAt : Option OffsetDateTime
  views : Option String
  replies : Option Int
  reposts : Option Int
  quotes : Option Int
  likes : Option Int
  bookmarks : Option Int
deriving DecidableEq, Repr

structure SubmitTweetEdit where
  versionIds : List String
  editableUntilAt : Option OffsetDateTime
  remainingEdits : Option String
deriving DecidableEq, Repr

structure SubmitTweetPolicy where
  replyPolicy : Option String
  followersOnly : Option Bool
  isPossiblySensitive : Option Bool
  availableActions : List String
  isMediaVisibilityRestricted : Option Bool
  paidPromotion : Option Bool
deriving DecidableEq, Repr

structure SubmitTweetCommunityNote where
  id : Option String
  title : Option String
  shortTitle : Option String
  subtitle : Option SubmitAnnotatedText
  footer : Option SubmitAnnotatedText
  destinationUrl : Option String
deriving DecidableEq, Repr

structure SubmitTweetPlace where
  id : Option String
  name : Option String
  fullName : Option String
  country : Option String
  countryCode : Option String
  kind : Option String
  boundary : Option (List Tweet.GeoPoint)
deriving DecidableEq, Repr

structure SubmitTweet where
  id : String
  fetchedAt : Option OffsetDateTime
  publishedAt : OffsetDateTime
  source : Option String
  authorId : String
  place : Option SubmitTweetPlace
  content : SubmitTweetContent
  conversation : SubmitTweetConversation
  stats : Option SubmitTweetStats
  edit : Option SubmitTweetEdit
  policy : Option SubmitTweetPolicy
  communityNote : Option SubmitTweetCommunityNote
deriving DecidableEq, Repr

/-! ## Media -/

structure SubmitMediaDetails where
  title : Option String
  description : Option String
  siteUrl : Option String
  isEmbeddable : Option Bool
  isMonetizable : Option Bool
deriving DecidableEq, Repr

structure SubmitMediaRect where
  x : Int
  y : Int
  width : Int
  height : Int
deriving DecidableEq, Repr

structure SubmitMediaGeometry where
  width : Int
  height : Int
  focusRects : List SubmitMediaRect
deriving DecidableEq, Repr

structure SubmitMediaVariant where
  width : Int
  height : Int
  resizeMode : String
deriving DecidableEq, Repr

structure SubmitMediaVariants where
  large : Option SubmitMediaVariant
  medium : Option SubmitMediaVariant
  small : Option SubmitMediaVariant
  thumb : Option SubmitMediaVariant
deriving DecidableEq, Repr

structure SubmitMediaTag where
  userId : Option String
  kind : Option String
deriving DecidableEq, Repr

structure SubmitVideoVariant where
  contentType : String
  bitrate : Option Int
  url : String
deriving DecidableEq, Repr

structure SubmitMediaVideo where
  aspectRatio : Option (Int × Int)
  durationMs : Option Int
  variants : List SubmitVideoVariant
deriving DecidableEq, Repr

structure SubmitMediaResource where
  fetchedAt : Option OffsetDateTime
  mediaUrl : Option String
  availability : Option String
  video : Option SubmitMediaVideo
deriving DecidableEq, Repr

structure SubmitMedia where
  id : String
  fetchedAt : Option OffsetDateTime
  mediaType : Tweet.MediaType
  mediaUrl : Option String
  altText : Option String
  grokPostId : Option String
  geometry : Option SubmitMediaGeometry
  variants : Option SubmitMediaVariants
  taggedUsers : List SubmitMediaTag
  sensitivityWarnings : List String
  availability : Option String
  video : Option SubmitMediaVideo
  origin : Option SubmitMediaOrigin
  details : Option SubmitMediaDetails
  resource : Option SubmitMediaResource
deriving DecidableEq, Repr

structure SubmitTweetRequest where
  users : List SubmitUser
  tweets : List SubmitTweet
  media : List SubmitMedia
deriving DecidableEq, Repr

end TweetDb.Submit
