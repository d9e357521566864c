import TweetDb.Submit.Checks
import TweetDb.Submit.Convert
import TweetDb.Tweet.Stats

/-! # The form of stored values

What the conversions let through, as predicates on the rows.  They say nothing of
the texts that the dictionary replaces, so a payload has the form of its object.
-/

namespace TweetDb.Tweet

open Submit (Counts Fits FitsId InOrder)

/-! ## Texts -/

structure AnnotatedText.Valid (text : AnnotatedText) : Prop where
  displayRange : text.displayRangeStart.isSome = text.displayRangeEnd.isSome
  hashtags : ∀ entity ∈ text.hashtags, InOrder entity.rangeStart entity.rangeEnd
  symbols : ∀ entity ∈ text.symbols, InOrder entity.rangeStart entity.rangeEnd
  urls : ∀ entity ∈ text.urls, InOrder entity.rangeStart entity.rangeEnd
  mentions : ∀ entity ∈ text.mentions,
    InOrder entity.rangeStart entity.rangeEnd ∧ Fits 64 entity.userId
  mediaRefs : ∀ entity ∈ text.mediaRefs,
    InOrder entity.rangeStart entity.rangeEnd ∧ Fits 64 entity.mediaId ∧
      FitsId entity.originTweetId ∧ FitsId entity.originUserId
  styles : ∀ style ∈ text.styles, InOrder style.rangeStart style.rangeEnd

/-! ## Users -/

def UserIdentity.Valid (identity : UserIdentity) : Prop :=
  ∀ disclosure ∈ identity.disclosure, FitsId disclosure.subjectId

structure UserSnapshotColumns.Valid (snapshot : UserSnapshotColumns) : Prop where
  bio : ∀ text ∈ snapshot.bio, text.Valid
  identity : ∀ identity ∈ snapshot.identity, identity.Valid
  professional : ∀ professional ∈ snapshot.professional, FitsId professional.professionalId
  pinnedTweetIds : ∀ id ∈ snapshot.pinnedTweetIds, Fits 64 id

def UserStatsColumns.Valid (stats : UserStatsColumns) : Prop :=
  ∀ value ∈ [stats.followers, stats.following, stats.likes, stats.mediaPosts, stats.tweets,
    stats.listed], Counts value

/-! ## Tweets -/

/-- A reply names its tweet, a permalink its quote, and a note has a text. -/
structure TweetRow.Valid (tweet : TweetRow) : Prop where
  id : Fits 64 tweet.id
  authorId : Fits 64 tweet.authorId
  legacyText : tweet.legacyText.Valid
  noteText : ∀ text ∈ tweet.noteText, text.Valid
  note : tweet.noteText = none → tweet.noteId = none
  conversationId : Fits 64 tweet.conversationId
  replyToTweetId : FitsId tweet.replyToTweetId
  replyToUserId : FitsId tweet.replyToUserId
  reply : tweet.replyToTweetId = none → tweet.replyToUserId = none
  quoteTweetId : FitsId tweet.quoteTweetId
  quote : tweet.quoteTweetId = none → tweet.quotePermalink = none
  repostId : FitsId tweet.repostId

structure TweetEdit.Valid (edit : TweetEdit) : Prop where
  versionIds : ∀ id ∈ edit.versionIds, Fits 64 id
  counts : Counts edit.remainingEdits
  remainingEdits : ∀ number ∈ edit.remainingEdits, Fits 32 number

structure TweetCommunityNote.Valid (note : TweetCommunityNote) : Prop where
  noteId : FitsId note.noteId
  subtitle : ∀ text ∈ note.subtitle, text.Valid
  footer : ∀ text ∈ note.footer, text.Valid

structure TweetStatsColumns.Valid (stats : TweetStatsColumns) : Prop where
  counts : ∀ value ∈ [stats.replies, stats.reposts, stats.quotes, stats.likes, stats.bookmarks],
    Counts value
  views : Counts stats.views
  fits : FitsId stats.views

/-! ## Media -/

structure MediaRect.Valid (rect : MediaRect) : Prop where
  x : 0 ≤ rect.x
  y : 0 ≤ rect.y
  w : 0 < rect.w
  h : 0 < rect.h

structure MediaGeometry.Valid (geometry : MediaGeometry) : Prop where
  w : 0 < geometry.w
  h : 0 < geometry.h
  focusRects : ∀ rect ∈ geometry.focusRects, rect.Valid

def MediaSizeVariant.Valid (variant : MediaSizeVariant) : Prop := 0 < variant.w ∧ 0 < variant.h

structure MediaSizeVariants.Valid (variants : MediaSizeVariants) : Prop where
  large : ∀ variant ∈ variants.large, variant.Valid
  medium : ∀ variant ∈ variants.medium, variant.Valid
  small : ∀ variant ∈ variants.small, variant.Valid
  thumb : ∀ variant ∈ variants.thumb, variant.Valid

structure Media.Valid (media : Media) : Prop where
  id : Fits 64 media.id
  geometry : ∀ geometry ∈ media.geometry, geometry.Valid
  sizeVariants : ∀ variants ∈ media.sizeVariants, variants.Valid
  taggedUsers : ∀ tag ∈ media.taggedUsers, FitsId tag.userId
  originTweetId : FitsId media.originTweetId
  originUserId : FitsId media.originUserId

structure MediaVideo.Valid (video : MediaVideo) : Prop where
  aspectRatio : video.aspectRatioW.isSome = video.aspectRatioH.isSome
  aspectRatioW : ∀ w ∈ video.aspectRatioW, 0 < w
  aspectRatioH : ∀ h ∈ video.aspectRatioH, 0 < h
  durationMs : Counts video.durationMs
  variants : ∀ variant ∈ video.variants, Counts variant.bitrate

def MediaResourceColumns.Valid (resource : MediaResourceColumns) : Prop :=
  ∀ video ∈ resource.video, video.Valid

/-! ## What fills a row keeps its form -/

section Fill

variable {α : Type}

theorem forall_coalesce {holds : α → Prop} {stored excluded : Option α}
    (first : ∀ value ∈ stored, holds value) (second : ∀ value ∈ excluded, holds value) :
    ∀ value ∈ coalesce stored excluded, holds value := by
  cases stored with
  | none => exact second
  | some value => exact first

theorem forall_fillArray {holds : α → Prop} {stored excluded : List α}
    (first : ∀ value ∈ stored, holds value) (second : ∀ value ∈ excluded, holds value) :
    ∀ value ∈ fillArray stored excluded, holds value := by
  unfold fillArray
  split
  · exact second
  · exact first

/-- A column that another one needs is filled with it. -/
theorem coalesce_eq_none_of {β : Type} {stored excluded : Option α} {needs needs' : Option β}
    (first : needs = none → stored = none) (second : needs' = none → excluded = none)
    (absent : coalesce needs needs' = none) : coalesce stored excluded = none := by
  cases needs with
  | none =>
    rw [first rfl]
    exact second absent
  | some value => cases absent

end Fill

theorem TweetRow.Valid.set {stored excluded : TweetRow} (valid : stored.Valid)
    (validExcluded : excluded.Valid) : (TweetRow.onConflict.set stored excluded).Valid where
  id := valid.id
  authorId := valid.authorId
  legacyText := valid.legacyText
  noteText := forall_coalesce valid.noteText validExcluded.noteText
  note := coalesce_eq_none_of valid.note validExcluded.note
  conversationId := valid.conversationId
  replyToTweetId := forall_coalesce valid.replyToTweetId validExcluded.replyToTweetId
  replyToUserId := forall_coalesce valid.replyToUserId validExcluded.replyToUserId
  reply := coalesce_eq_none_of valid.reply validExcluded.reply
  quoteTweetId := forall_coalesce valid.quoteTweetId validExcluded.quoteTweetId
  quote := coalesce_eq_none_of valid.quote validExcluded.quote
  repostId := forall_coalesce valid.repostId validExcluded.repostId

theorem TweetEdit.Valid.set {stored excluded : TweetEdit} (valid : stored.Valid)
    (validExcluded : excluded.Valid) : (TweetEdit.onConflict.set stored excluded).Valid where
  versionIds := forall_fillArray valid.versionIds validExcluded.versionIds
  counts := forall_coalesce valid.counts validExcluded.counts
  remainingEdits := forall_coalesce valid.remainingEdits validExcluded.remainingEdits

theorem TweetCommunityNote.Valid.set {stored excluded : TweetCommunityNote} (valid : stored.Valid)
    (validExcluded : excluded.Valid) :
    (TweetCommunityNote.onConflict.set stored excluded).Valid where
  noteId := forall_coalesce valid.noteId validExcluded.noteId
  subtitle := forall_coalesce valid.subtitle validExcluded.subtitle
  footer := forall_coalesce valid.footer validExcluded.footer

theorem Media.Valid.set {stored excluded : Media} (valid : stored.Valid)
    (validExcluded : excluded.Valid) : (Media.onConflict.set stored excluded).Valid where
  id := valid.id
  geometry := forall_coalesce valid.geometry validExcluded.geometry
  sizeVariants := forall_coalesce valid.sizeVariants validExcluded.sizeVariants
  taggedUsers := forall_fillArray valid.taggedUsers validExcluded.taggedUsers
  originTweetId := forall_coalesce valid.originTweetId validExcluded.originTweetId
  originUserId := forall_coalesce valid.originUserId validExcluded.originUserId

end TweetDb.Tweet
