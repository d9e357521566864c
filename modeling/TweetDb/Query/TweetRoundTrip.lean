import TweetDb.Query.UserRoundTrip

/-! # Tweets that are sent back

The object of a stored tweet is read as an item that is converted to the rows it
was built from, with the relations its stored texts name.
-/

namespace TweetDb.Query

open Json Relational Submit TweetModel
open TweetDb.Tweet (MediaRef TweetCommunityNote TweetEdit TweetPlace TweetPolicy TweetRow
  TweetStats TweetStatsColumns Version)

/-- The relations of a tweet as it is read: its media in their order, and what its texts name. -/
def currentRelations (tweet : TweetRow) (mediaRefs : List MediaRef) : TweetRelations where
  tweetId := tweet.id
  mediaRefs := mediaRefs.zipIdx.map fun (ref, index) => ⟨tweet.id, ref.mediaId, index⟩
  mentionRefs := mentionRefs tweet.id (refTexts tweet.legacyText tweet.noteText)
  hashtagRefs := hashtagRefs tweet.id (refTexts tweet.legacyText tweet.noteText)
  symbolRefs := symbolRefs tweet.id (refTexts tweet.legacyText tweet.noteText)

namespace BuildContext

variable {context : BuildContext}

/-! ## Places -/

/-- The item of a place. -/
def submitTweetPlace (place : TweetPlace) : SubmitTweetPlace :=
  ⟨some place.id, place.name, place.fullName, place.country, place.countryCode, place.kind,
    place.boundary⟩

@[simp] theorem decodeGeoPoint_geoPointJson (point : Tweet.GeoPoint) :
    decodeGeoPoint (geoPointJson point) = some point := by
  simp [decodeGeoPoint, geoPointJson, required, List.lookup_cons]

theorem nullable_items_geoPoints (boundary : Option (List Tweet.GeoPoint)) :
    nullable (items decodeGeoPoint) (nullOr (list geoPointJson) boundary) = some boundary := by
  have each : ∀ points ∈ boundary,
      items decodeGeoPoint (list geoPointJson points) = some points := by
    intro points _
    obtain ⟨read, isRead, same⟩ := @reads_list _ _ decodeGeoPoint Eq geoPointJson points
      fun point _ => ⟨point, decodeGeoPoint_geoPointJson point, rfl⟩
    rw [List.forall₂_eq_eq_eq] at same
    rw [isRead, same]
  simpa using nullable_nullOr rfl each

theorem reads_buildTweetPlaceJson {place : TweetPlace} {written : Value}
    (built : context.buildTweetPlaceJson place = .ok written) :
    decodeTweetPlace written = some (submitTweetPlace place) := by
  obtain ⟨country, isCountry, built⟩ := bind_eq_ok built
  obtain ⟨countryCode, isCode, built⟩ := bind_eq_ok built
  obtain ⟨kind, isKind, built⟩ := bind_eq_ok built
  cases built
  rw [eq_of_resolveOptionalString isCountry, eq_of_resolveOptionalString isCode,
    eq_of_resolveOptionalString isKind]
  simp only [decodeTweetPlace, record_object, Json.optional, List.lookup_cons, String.reduceBEq,
    Option.getD_some, nullable_of_some rfl (text_string place.id), nullable_text_nullOr,
    nullable_items_geoPoints]
  rfl

/-! ## Contents -/

/-- The texts of the item are converted to the stored ones. -/
structure StandsForContent (tables : LookupTables) (tweet : TweetRow) (mediaRefs : List MediaRef)
    (item : SubmitTweetContent) : Prop where
  legacyText : StandsForText tables tweet.legacyText item.legacyText
  noteText : Option.Rel (fun text note => StandsForText tables text note.text) tweet.noteText
    item.note
  noteId : item.note.bind SubmitTweetNote.id = tweet.noteId
  mediaIds : item.mediaIds = (mediaRefs.map MediaRef.mediaId).map toString
  language : item.language = tweet.language

theorem reads_buildTweetNoteJson {tweet : TweetRow} {written : Value}
    (built : context.buildTweetNoteJson tweet = .ok written) (valid : tweet.Valid) :
    ∃ item, nullable decodeTweetNote written = some item ∧
      Option.Rel (fun text note => StandsForText context.lookups text note.text) tweet.noteText
        item ∧ item.bind SubmitTweetNote.id = tweet.noteId := by
  unfold buildTweetNoteJson at built
  cases given : tweet.noteText with
  | none =>
    -- Without a text there is no id, so the note is null.
    have noId := valid.note given
    rw [given, noId] at built
    cases built
    exact ⟨none, rfl, .none, noId.symm⟩
  | some text =>
    rw [given] at built
    simp only [Option.isNone_some, Bool.and_false, Bool.false_eq_true, if_false] at built
    obtain ⟨value, textBuilt, built⟩ := bind_eq_ok built
    cases built
    obtain ⟨item, read, stands⟩ :=
      reads_buildAnnotatedTextJson textBuilt (valid.noteText text given)
    refine ⟨some ⟨tweet.noteId, item⟩, ?_, .some stands, rfl⟩
    apply nullable_of_some rfl
    simp [decodeTweetNote, required, Json.optional, List.lookup_cons, read]

theorem reads_buildTweetContentJson {tweet : TweetRow} {mediaRefs : List MediaRef}
    {written : Value} (built : context.buildTweetContentJson tweet mediaRefs = .ok written)
    (valid : tweet.Valid) :
    ∃ item, decodeTweetContent written = some item ∧
      StandsForContent context.lookups tweet mediaRefs item := by
  obtain ⟨note, noteBuilt, built⟩ := bind_eq_ok built
  obtain ⟨language, isLanguage, built⟩ := bind_eq_ok built
  obtain ⟨legacyText, textBuilt, built⟩ := bind_eq_ok built
  cases built
  rw [eq_of_resolveOptionalString isLanguage]
  obtain ⟨noteItem, readNote, isNote, isNoteId⟩ := reads_buildTweetNoteJson noteBuilt valid
  obtain ⟨textItem, readText, isText⟩ := reads_buildAnnotatedTextJson textBuilt valid.legacyText
  refine ⟨⟨textItem, noteItem, (mediaRefs.map MediaRef.mediaId).map toString, tweet.language⟩, ?_,
    isText, isNote, isNoteId, rfl, rfl⟩
  simp [decodeTweetContent, required, Json.optional, listed, defaulted, List.lookup_cons, readNote,
    readText]

/-- The item of the conversation. -/
def submitTweetConversation (tweet : TweetRow) : SubmitTweetConversation where
  conversationId := toString tweet.conversationId
  replyTo := tweet.replyToTweetId.map fun id => ⟨toString id, tweet.replyToUserId.map toString⟩
  quote := tweet.quoteTweetId.map fun id =>
    ⟨toString id, tweet.quotePermalink.map fun url => ⟨url.url, url.expandedUrl, url.displayText⟩⟩
  repostId := tweet.repostId.map toString

theorem decodeTweetConversation_conversationJson (tweet : TweetRow) :
    decodeTweetConversation (conversationJson tweet) = some (submitTweetConversation tweet) := by
  have readPermalink : nullable decodeResolvedUrl (nullOr resolvedUrlJson tweet.quotePermalink) =
      some (tweet.quotePermalink.map fun url => ⟨url.url, url.expandedUrl, url.displayText⟩) :=
    nullable_nullOr rfl fun url _ => decodeResolvedUrl_resolvedUrlJson url
  have readReply : nullable decodeTweetReplyTarget (nullOr (fun tweetId => .object [
      ("tweetId", idJson tweetId),
      ("userId", nullOr idJson tweet.replyToUserId)]) tweet.replyToTweetId) =
        some (submitTweetConversation tweet).replyTo :=
    nullable_nullOr rfl fun id _ => by
      simp [decodeTweetReplyTarget, required, Json.optional, List.lookup_cons]
  have readQuote : nullable decodeTweetQuote (nullOr (fun tweetId => .object [
      ("tweetId", idJson tweetId),
      ("permalink", nullOr resolvedUrlJson tweet.quotePermalink)]) tweet.quoteTweetId) =
        some (submitTweetConversation tweet).quote :=
    nullable_nullOr rfl fun id _ => by
      simp [decodeTweetQuote, required, Json.optional, List.lookup_cons, readPermalink]
  simp [decodeTweetConversation, conversationJson, required, Json.optional, List.lookup_cons,
    readReply,
    readQuote, submitTweetConversation]

theorem submitTweetConversation_conversationId (tweet : TweetRow) :
    (submitTweetConversation tweet).conversationId = toString tweet.conversationId := rfl

theorem submitTweetConversation_repostId (tweet : TweetRow) :
    (submitTweetConversation tweet).repostId = tweet.repostId.map toString := rfl

theorem submitTweetConversation_replyTo (tweet : TweetRow) :
    (submitTweetConversation tweet).replyTo.map SubmitTweetReplyTarget.tweetId =
      tweet.replyToTweetId.map toString := by
  cases reply : tweet.replyToTweetId <;> simp [submitTweetConversation, reply]

/-- A row names the user it replies to with the tweet only. -/
theorem submitTweetConversation_replyToUser {tweet : TweetRow} (valid : tweet.Valid) :
    (submitTweetConversation tweet).replyTo.bind SubmitTweetReplyTarget.userId =
      tweet.replyToUserId.map toString := by
  cases reply : tweet.replyToTweetId with
  | none => simp [submitTweetConversation, reply, valid.reply reply]
  | some id => simp [submitTweetConversation, reply]

theorem submitTweetConversation_quote (tweet : TweetRow) :
    (submitTweetConversation tweet).quote.map SubmitTweetQuote.tweetId =
      tweet.quoteTweetId.map toString := by
  cases quote : tweet.quoteTweetId <;> simp [submitTweetConversation, quote]

/-- And the permalink with the quote. -/
theorem submitTweetConversation_permalink {tweet : TweetRow} (valid : tweet.Valid) :
    ((submitTweetConversation tweet).quote.bind SubmitTweetQuote.permalink).map
      convertResolvedUrl = tweet.quotePermalink := by
  cases quote : tweet.quoteTweetId with
  | none => simp [submitTweetConversation, quote, valid.quote quote]
  | some id => cases permalink : tweet.quotePermalink <;>
      simp [submitTweetConversation, quote, permalink, convertResolvedUrl]

/-! ## Rows of a tweet -/

/-- The item of the statistics. -/
def submitTweetStats (stats : Version TweetStatsColumns) : SubmitTweetStats :=
  ⟨some (stats.recordedAt * 1000), stats.content.views.map toString, stats.content.replies,
    stats.content.reposts, stats.content.quotes, stats.content.likes, stats.content.bookmarks⟩

/-- The statistics as the model has them. -/
def tweetStatsModel (tweetId : Int) (stats : Version TweetStatsColumns) : TweetStats :=
  ⟨tweetId, stats.recordedAt, stats.content.views, stats.content.replies, stats.content.reposts,
    stats.content.quotes, stats.content.likes, stats.content.bookmarks⟩

theorem nullable_buildTweetStatsJson (lawful : context.formats.Lawful)
    {stats : Option (Version TweetStatsColumns)}
    (areReadable : ∀ row ∈ stats, readable row.recordedAt = true) :
    nullable (decodeTweetStats context.formats.parseTime)
      (nullOr context.buildTweetStatsJson stats) = some (stats.map submitTweetStats) :=
  nullable_nullOr rfl fun row isRow => by
    simp only [decodeTweetStats, buildTweetStatsJson, record_object, timeField, Json.optional,
      List.lookup_cons, String.reduceBEq, Option.getD_some,
      nullable_timeJson lawful (areReadable row isRow),
      nullable_text_nullOr_idJson, nullable_integer_nullOr]
    rfl

theorem convertTweetStats_of_valid {stats : Version TweetStatsColumns} (valid : stats.content.Valid)
    (tweetId : Int) (parentFetchedAt : Option OffsetDateTime) (now : OffsetDateTime) :
    convertTweetStats tweetId parentFetchedAt (submitTweetStats stats) now =
      .ok (tweetStatsModel tweetId stats) := by
  have checked : ensureNonnegativeOptions "tweet.stats" [stats.content.replies,
      stats.content.reposts, stats.content.quotes, stats.content.likes,
      stats.content.bookmarks] = .ok () := ensureNonnegativeOptions_eq_ok.mpr valid.counts
  have time := postgresTimestamptz_microseconds stats.recordedAt
  simp only [convertTweetStats, submitTweetStats, tweetStatsModel, checked, Option.some_or,
    Option.getD_some, time, parseOptionalI64String_toString valid.views valid.fits, bind,
    Except.bind, pure, Except.pure]

/-- The item of an edit. -/
def submitTweetEdit (edit : TweetEdit) : SubmitTweetEdit :=
  ⟨edit.versionIds.map toString, edit.editableUntil.map (· * 1000),
    edit.remainingEdits.map toString⟩

theorem nullable_buildTweetEditJson (lawful : context.formats.Lawful) {edit : Option TweetEdit}
    (areReadable : ∀ row ∈ edit, ∀ time ∈ row.editableUntil, readable time = true) :
    nullable (decodeTweetEdit context.formats.parseTime)
      (nullOr context.buildTweetEditJson edit) = some (edit.map submitTweetEdit) :=
  nullable_nullOr rfl fun row isRow => by
    simp [decodeTweetEdit, buildTweetEditJson, submitTweetEdit, timeField, Json.optional, listed,
      defaulted, List.lookup_cons, nullable_nullOr_timeJson lawful (areReadable row isRow)]

theorem convertTweetEdit_of_valid {edit : TweetEdit} (valid : edit.Valid) :
    convertTweetEdit edit.tweetId (submitTweetEdit edit) = .ok edit := by
  have time : (edit.editableUntil.map (· * 1000)).map roundedTimestamptz = edit.editableUntil := by
    cases edit.editableUntil with
    | none => rfl
    | some time => exact congrArg some (roundedTimestamptz_microseconds time)
  simp only [convertTweetEdit, submitTweetEdit, parseI64Ids_toString valid.versionIds, time,
    parseOptionalI32String_toString valid.counts valid.remainingEdits, bind, Except.bind, pure,
    Except.pure]

/-- The item of a policy. -/
def submitTweetPolicy (policy : TweetPolicy) : SubmitTweetPolicy :=
  ⟨policy.replyPolicy, policy.followersOnly, policy.isPossiblySensitive, policy.availableActions,
    policy.isMediaVisibilityRestricted, policy.paidPromotion⟩

theorem reads_buildTweetPolicyJson {policy : TweetPolicy} {written : Value}
    (built : context.buildTweetPolicyJson policy = .ok written) :
    decodeTweetPolicy context.formats.parseTime written = some (submitTweetPolicy policy) := by
  obtain ⟨replyPolicy, isPolicy, built⟩ := bind_eq_ok built
  obtain ⟨actions, areActions, built⟩ := bind_eq_ok built
  cases built
  rw [eq_of_resolveOptionalString isPolicy, eq_of_resolveStringList areActions]
  simp only [decodeTweetPolicy, record_object, timeField, Json.optional, listed, defaulted,
    List.lookup_cons, List.lookup_nil, String.reduceBEq, Option.getD_some, Option.getD_none,
    nullable_null,
    nullable_text_nullOr, nullable_boolean_nullOr, items_text_list]
  rfl

/-- The texts of the item are converted to the stored ones. -/
structure StandsForNote (tables : LookupTables) (note : TweetCommunityNote)
    (item : SubmitTweetCommunityNote) : Prop where
  known : ∀ text ∈ item.subtitle.toList ++ item.footer.toList, tables.KnowsText text
  converts : ∀ store ids,
    (∀ text ∈ item.subtitle.toList ++ item.footer.toList, ids.AgreesOnText tables text) →
      convertTweetCommunityNote store (some ids) note.tweetId item = .ok note

theorem reads_buildTweetCommunityNoteJson {note : TweetCommunityNote} {written : Value}
    (built : context.buildTweetCommunityNoteJson note = .ok written) (valid : note.Valid) :
    Reads (decodeTweetCommunityNote context.formats.parseTime) (StandsForNote context.lookups) note
      written := by
  obtain ⟨subtitle, subtitleBuilt, built⟩ := bind_eq_ok built
  obtain ⟨footer, footerBuilt, built⟩ := bind_eq_ok built
  cases built
  obtain ⟨subtitleItem, readSubtitle, isSubtitle⟩ :=
    reads_buildOption rfl reads_buildAnnotatedTextJson subtitleBuilt valid.subtitle
  obtain ⟨footerItem, readFooter, isFooter⟩ :=
    reads_buildOption rfl reads_buildAnnotatedTextJson footerBuilt valid.footer
  refine ⟨⟨note.noteId.map toString, note.title, note.shortTitle, subtitleItem, footerItem,
    note.destinationUrl⟩, ?_, fun text member => ?_, fun store ids agree => ?_⟩
  · simp only [decodeTweetCommunityNote, record_object, timeField, Json.optional, List.lookup_cons,
      List.lookup_nil,
      String.reduceBEq, Option.getD_some, Option.getD_none, nullable_null,
      nullable_text_nullOr_idJson, nullable_text_nullOr, readSubtitle, readFooter]
    rfl
  · cases List.mem_append.mp member with
    | inl inSubtitle =>
      obtain ⟨_, _, stands⟩ := exists_of_rel isSubtitle (Option.mem_toList.mp inSubtitle)
      exact stands.known
    | inr inFooter =>
      obtain ⟨_, _, stands⟩ := exists_of_rel isFooter (Option.mem_toList.mp inFooter)
      exact stands.known
  · have subtitleRan : transpose (convertAnnotatedText store (some ids)) subtitleItem =
        .ok note.subtitle :=
      transpose_of_rel isSubtitle fun text isText stored _ stands =>
        stands.converts store ids (agree text (by simp [Option.mem_def.mp isText]))
    have footerRan : transpose (convertAnnotatedText store (some ids)) footerItem =
        .ok note.footer :=
      transpose_of_rel isFooter fun text isText stored _ stands =>
        stands.converts store ids (agree text (by simp [Option.mem_def.mp isText]))
    simp only [convertTweetCommunityNote, parseOptionalI64Id_toString valid.noteId, subtitleRan,
      footerRan, bind, Except.bind, pure, Except.pure]

/-! ## Media references -/

theorem convertMediaRefs_toString {ids : List Int} (fits : ∀ id ∈ ids, Fits 64 id)
    (few : ids.length ≤ 2 ^ 15) (tweetId : Int) :
    convertMediaRefs tweetId (ids.map toString) =
      .ok (ids.zipIdx.map fun (id, index) => ⟨tweetId, id, index⟩) := by
  rw [convertMediaRefs, List.zipIdx_map, mapM_eq_ok, List.forall₂_map_left_iff,
    List.forall₂_map_right_iff, List.forall₂_same]
  intro (mediaId, index) member
  have isFit : Fits 64 mediaId := fits mediaId (List.fst_mem_of_mem_zipIdx member)
  have small : index < 2 ^ 15 := by
    have inside : index < ids.length := List.snd_lt_of_mem_zipIdx member
    omega
  simp only [Prod.map, parseI64Id_toString isFit, bind, Except.bind, id_eq, small, if_true, pure,
    Except.pure]

/-- Different places that fit a column are not more than the column has. -/
theorem length_le_of_ordered {rows mediaRefs : List MediaRef} {tweetId : Int}
    (ordered : Ordered rows) (apart : mediaRefs.Nodup)
    (each : ∀ ref ∈ mediaRefs, ref ∈ rows ∧ ref.tweetId = tweetId) :
    mediaRefs.length ≤ 2 ^ 15 := by
  have places : (mediaRefs.map fun ref => ref.displayOrder.toNat).Nodup := by
    refine List.Nodup.map_on (fun a memberA b memberB same => ?_) apart
    obtain ⟨rowA, tweetA⟩ := each a memberA
    obtain ⟨rowB, tweetB⟩ := each b memberB
    have boundA := ordered.bounds a rowA
    have boundB := ordered.bounds b rowB
    exact ordered.apart a rowA b rowB (tweetA.trans tweetB.symm) (by omega)
  have inside : (mediaRefs.map fun ref => ref.displayOrder.toNat) ⊆ List.range (2 ^ 15) := by
    intro place member
    obtain ⟨ref, isRef, rfl⟩ := List.mem_map.mp member
    have bound := ordered.bounds ref (each ref isRef).1
    exact List.mem_range.mpr (by omega)
  have fewer := (places.subperm inside).length_le
  rwa [List.length_map, List.length_range] at fewer

/-! ## Tweets -/

/-- The rows the object of a tweet is built from. -/
structure TweetRows where
  tweet : TweetRow
  place : Option TweetPlace
  edit : Option TweetEdit
  policy : Option TweetPolicy
  note : Option TweetCommunityNote
  stats : Option (Version TweetStatsColumns)
  mediaRefs : List MediaRef

structure TweetRows.Valid (rows : TweetRows) : Prop where
  tweet : rows.tweet.Valid
  published : readable rows.tweet.publishedAt = true
  edit : ∀ row ∈ rows.edit, row.tweetId = rows.tweet.id ∧ row.Valid ∧
    ∀ time ∈ row.editableUntil, readable time = true
  policy : ∀ row ∈ rows.policy, row.tweetId = rows.tweet.id
  note : ∀ row ∈ rows.note, row.tweetId = rows.tweet.id ∧ row.Valid
  stats : ∀ row ∈ rows.stats, row.content.Valid ∧ readable row.recordedAt = true
  mediaIds : ∀ ref ∈ rows.mediaRefs, Fits 64 ref.mediaId
  few : rows.mediaRefs.length ≤ 2 ^ 15
  apart : rows.mediaRefs.Pairwise fun a b => a.mediaId ≠ b.mediaId

def TweetRows.relations (rows : TweetRows) : TweetRelations :=
  currentRelations rows.tweet rows.mediaRefs

/-- What the item of the rows is converted to. -/
def TweetRows.converted (rows : TweetRows) : ConvertedTweet where
  tweet := { rows.tweet with placeId := rows.place.map TweetPlace.id }
  edit := rows.edit
  policy := rows.policy
  stats := rows.stats.map (tweetStatsModel rows.tweet.id)
  communityNote := rows.note
  mediaRefs := rows.relations.mediaRefs
  mentionRefs := rows.relations.mentionRefs
  hashtagRefs := rows.relations.hashtagRefs
  symbolRefs := rows.relations.symbolRefs

structure StandsForTweet (tables : LookupTables) (rows : TweetRows) (item : SubmitTweet) :
    Prop where
  id : item.id = toString rows.tweet.id
  authorId : item.authorId = toString rows.tweet.authorId
  place : item.place.bind convertTweetPlace = rows.place
  known : tables.Knows ⟨[], [item], []⟩
  converts : ∀ store ids now, ids.AgreesOn tables ⟨[], [item], []⟩ →
    convertTweet store (some ids) rows.tweet.id rows.tweet.authorId
      (rows.place.map TweetPlace.id) item now = .ok rows.converted

theorem lookupTexts_tweet {item : SubmitTweet} (isId : isI64 item.id = true)
    (isAuthor : isI64 item.authorId = true) :
    lookupTexts ⟨[], [item], []⟩ = [item.content.legacyText] ++
      (item.content.note.map SubmitTweetNote.text).toList ++
      (item.communityNote.bind SubmitTweetCommunityNote.subtitle).toList ++
      (item.communityNote.bind SubmitTweetCommunityNote.footer).toList := by
  simp [lookupTexts, isId, isAuthor]

section Whole

variable (lawful : context.formats.Lawful)

include lawful

theorem reads_buildTweetJson {rows : TweetRows} {written : Value}
    (built : context.buildTweetJson rows.tweet rows.place rows.edit rows.policy rows.note rows.stats
      rows.mediaRefs = .ok written) (valid : rows.Valid) :
    ∃ item, decodeTweet context.formats.parseTime written = some item ∧
      StandsForTweet context.lookups rows item := by
  obtain ⟨tweet, place, edit, policy, note, stats, mediaRefs⟩ := rows
  obtain ⟨source, isSource, built⟩ := bind_eq_ok built
  obtain ⟨placeWritten, placeBuilt, built⟩ := bind_eq_ok built
  obtain ⟨content, contentBuilt, built⟩ := bind_eq_ok built
  obtain ⟨policyWritten, policyBuilt, built⟩ := bind_eq_ok built
  obtain ⟨noteWritten, noteBuilt, built⟩ := bind_eq_ok built
  cases built
  rw [eq_of_resolveOptionalString isSource]
  obtain ⟨placeItem, readPlace, isPlace⟩ := @reads_buildOption _ _ _ decodeTweetPlace
    (fun place item => item = submitTweetPlace place) (fun _ => True) rfl
    (fun built _ => ⟨_, reads_buildTweetPlaceJson built, rfl⟩) _ _ placeBuilt fun _ _ => trivial
  obtain ⟨contentItem, readContent, isContent⟩ :=
    reads_buildTweetContentJson contentBuilt valid.tweet
  obtain ⟨policyItem, readPolicy, isPolicy⟩ := @reads_buildOption _ _ _
    (decodeTweetPolicy context.formats.parseTime)
    (fun policy item => item = submitTweetPolicy policy) (fun _ => True) rfl
    (fun built _ => ⟨_, reads_buildTweetPolicyJson built, rfl⟩) _ _ policyBuilt fun _ _ => trivial
  obtain ⟨noteItem, readNote, isNote⟩ := reads_buildOption rfl reads_buildTweetCommunityNoteJson
    noteBuilt fun row isRow => (valid.note row isRow).2
  have readStats := nullable_buildTweetStatsJson lawful fun row isRow => (valid.stats row isRow).2
  have readEdit := nullable_buildTweetEditJson lawful fun row isRow => (valid.edit row isRow).2.2
  have readPublished := decodeTime_timeJson lawful valid.published
  let item : SubmitTweet := ⟨toString tweet.id, none, tweet.publishedAt * 1000, tweet.source,
    toString tweet.authorId, placeItem, contentItem, submitTweetConversation tweet,
    stats.map submitTweetStats, edit.map submitTweetEdit, policyItem, noteItem⟩
  have texts : lookupTexts ⟨[], [item], []⟩ = [contentItem.legacyText] ++
      (contentItem.note.map SubmitTweetNote.text).toList ++
      (noteItem.bind SubmitTweetCommunityNote.subtitle).toList ++
      (noteItem.bind SubmitTweetCommunityNote.footer).toList :=
    lookupTexts_tweet (isI64_toString valid.tweet.id) (isI64_toString valid.tweet.authorId)
  refine ⟨item, ?_, rfl, rfl, ?_, ⟨by simp [lookupCategories], ?_⟩, fun store ids now agree => ?_⟩
  · -- Each field is found by its name; the ones left out are read as absent.
    simp only [decodeTweet, record_object, timeField, required, requiredAlias, Json.optional,
      List.lookup_cons, List.lookup_nil, String.reduceBEq, Option.bind_some, Option.getD_some,
      Option.getD_none,
      nullable_null, text_idJson, nullable_text_nullOr, readPublished, readPlace, readContent,
      decodeTweetConversation_conversationJson, readStats, readEdit, readPolicy, readNote]
    rfl
  · cases isPlace with
    | none => rfl
    | some same =>
      subst same
      rfl
  · -- Each text stands for one of the rows.
    rw [texts]
    intro text member
    simp only [List.mem_append, List.mem_singleton, Option.mem_toList, Option.map_eq_some_iff,
      Option.bind_eq_some_iff] at member
    obtain ((rfl | ⟨part, isPart, rfl⟩) | ⟨part, isPart, isText⟩) | ⟨part, isPart, isText⟩ := member
    · exact isContent.legacyText.known
    · obtain ⟨_, _, stands⟩ := exists_of_rel isContent.noteText isPart
      exact stands.known
    · obtain ⟨_, _, stands⟩ := exists_of_rel isNote isPart
      exact stands.known text (by simp [isText])
    · obtain ⟨_, _, stands⟩ := exists_of_rel isNote isPart
      exact stands.known text (by simp [isText])
  · -- Each part converts back to its row; `convertTweet` then puts the rows together.
    have agreeTexts := agree.texts
    rw [texts] at agreeTexts
    have legacyRan : convertAnnotatedText store (some ids) contentItem.legacyText =
        .ok tweet.legacyText := isContent.legacyText.converts store ids (agreeTexts _ (by simp))
    have noteTextRan : transpose (fun note => convertAnnotatedText store (some ids)
        (SubmitTweetNote.text note)) contentItem.note = .ok tweet.noteText :=
      transpose_of_rel isContent.noteText fun part isPart stored _ stands =>
        stands.converts store ids (agreeTexts _ (by simp [Option.mem_def.mp isPart]))
    have noteRan : transpose (convertTweetCommunityNote store (some ids) tweet.id) noteItem =
        .ok note :=
      transpose_of_rel isNote fun part isPart stored isStored stands => by
        rw [← (valid.note stored isStored).1]
        exact stands.converts store ids fun text member => agreeTexts text (by
          cases List.mem_append.mp member with
          | inl inSubtitle => simp [Option.mem_def.mp isPart, Option.mem_toList.mp inSubtitle]
          | inr inFooter => simp [Option.mem_def.mp isPart, Option.mem_toList.mp inFooter])
    have editRan : transpose (convertTweetEdit tweet.id) (edit.map submitTweetEdit) = .ok edit :=
      transpose_map fun row isRow => by
        rw [← (valid.edit row isRow).1, convertTweetEdit_of_valid (valid.edit row isRow).2.1]
    have statsRan : transpose (fun stats => convertTweetStats tweet.id none stats now)
        (stats.map submitTweetStats) = .ok (stats.map (tweetStatsModel tweet.id)) := by
      cases stats with
      | none => rfl
      | some row =>
        rw [Option.map_some, transpose, convertTweetStats_of_valid (valid.stats row rfl).1]
        rfl
    have refsRan : convertMediaRefs tweet.id contentItem.mediaIds =
        .ok (currentRelations tweet mediaRefs).mediaRefs := by
      rw [isContent.mediaIds, convertMediaRefs_toString]
      · simp [currentRelations, List.zipIdx_map, List.map_map]
      · simpa using valid.mediaIds
      · simpa using valid.few
    -- the stored media are already different, so none is dropped as repeated
    have apart : distinctOn MediaRef.mediaId (currentRelations tweet mediaRefs).mediaRefs =
        (currentRelations tweet mediaRefs).mediaRefs := by
      apply distinctOn_of_pairwise
      have mediaIds := valid.apart
      rw [← List.zipIdx_map_fst 0 mediaRefs, List.pairwise_map] at mediaIds
      exact List.pairwise_map.mpr mediaIds
    have samePolicy : policyItem.map (convertTweetPolicy tweet.id) = policy := by
      cases isPolicy with
      | none => rfl
      | @some row _ same =>
        subst same
        have isTweet : row.tweetId = tweet.id := valid.policy row rfl
        simp [convertTweetPolicy, submitTweetPolicy, ← isTweet]
    have conversationRan := parseI64Id_toString valid.tweet.conversationId
    have replyRan := parseOptionalI64Id_toString valid.tweet.replyToTweetId
    have replyUserRan := parseOptionalI64Id_toString valid.tweet.replyToUserId
    have quoteRan := parseOptionalI64Id_toString valid.tweet.quoteTweetId
    have repostRan := parseOptionalI64Id_toString valid.tweet.repostId
    simp only [convertTweet, item, legacyRan, noteTextRan, noteRan, editRan, statsRan, refsRan,
      apart, samePolicy, submitTweetConversation_replyTo,
      submitTweetConversation_replyToUser valid.tweet, submitTweetConversation_quote,
      submitTweetConversation_permalink valid.tweet, roundedTimestamptz_microseconds,
      isContent.noteId, isContent.language, conversationRan, repostRan, replyRan, replyUserRan,
      quoteRan, submitTweetConversation_conversationId, submitTweetConversation_repostId, bind,
      Except.bind, pure, Except.pure]
    rfl

end Whole

/-- What the one tweet of a request is prepared to. -/
theorem prepareTweet_of_stands {tables : LookupTables} {rows : TweetRows} {item : SubmitTweet}
    {prepareContext : PrepareContext} {ids : SubmitLookupIds} (valid : rows.tweet.Valid)
    (stands : StandsForTweet tables rows item) (shared : prepareContext.lookupIds = some ids)
    (agree : ids.AgreesOn tables ⟨[], [item], []⟩) (now : OffsetDateTime) :
    let prepared := prepareTweet prepareContext now
      (lastValidIndex "tweet.id" SubmitTweet.id [item]) 0 item
    prepared.result = .new item.id ∧ prepared.author = some ⟨rows.tweet.authorId, none⟩ ∧
      prepared.place = rows.place ∧ prepared.converted = some rows.converted := by
  have isParsed : ∀ field, parseI64Id item.id field = .ok rows.tweet.id :=
    fun _ => parseI64Id_of_isId valid.id stands.id
  have isAuthor : ∀ field, parseI64Id item.authorId field = .ok rows.tweet.authorId :=
    fun _ => parseI64Id_of_isId valid.authorId stands.authorId
  have isLast : lastValidIndex "tweet.id" SubmitTweet.id [item] rows.tweet.id = some 0 :=
    lastValidIndex_single (isParsed "tweet.id")
  simp only [prepareTweet, isParsed, isAuthor, isLast, ne_eq, not_true_eq_false, if_false,
    stands.place, shared, stands.converts prepareContext.store ids now agree]
  exact ⟨rfl, trivial, trivial, rfl⟩

/-! ## Stored tweets -/

/-- The rows of a stored tweet. -/
def storedRows (db : Database) (tweet : TweetRow) : TweetRows where
  tweet := tweet
  place := tweet.placeId.bind db.tweetPlaces.find
  edit := db.tweetEdits.find tweet.id
  policy := db.tweetPolicies.find tweet.id
  note := db.tweetCommunityNotes.find tweet.id
  stats := latest db.tweetStats tweet.id
  mediaRefs := Tweet.refsOf db.refs.media.rows tweet.id

theorem mem_refsOf {refs : List MediaRef} {tweetId : Int} {ref : MediaRef} :
    ref ∈ Tweet.refsOf refs tweetId ↔ ref ∈ refs ∧ ref.tweetId = tweetId := by
  simp [Tweet.refsOf, Tweet.RefRow.tweetId]

/-- The media of one tweet are different. -/
theorem refsOf_pairwise (table : Table MediaRef) (tweetId : Int) :
    (Tweet.refsOf table.rows tweetId).Pairwise fun a b => a.mediaId ≠ b.mediaId := by
  rw [Tweet.refsOf, (orderBy_perm ..).pairwise_iff Ne.symm]
  refine (table.unique.filter _).imp_of_mem fun {a b} memberA memberB apart same => ?_
  have tweetA : a.tweetId = tweetId := of_decide_eq_true (List.mem_filter.mp memberA).2
  have tweetB : b.tweetId = tweetId := of_decide_eq_true (List.mem_filter.mp memberB).2
  exact apart (Row.clash_of_key (Prod.ext (tweetA.trans tweetB.symm) same))

theorem valid_storedRows {db : Database} (valid : db.Valid) {tweet : TweetRow}
    (member : tweet ∈ db.tweets.rows) (published : readable tweet.publishedAt = true)
    (edit : ∀ row ∈ db.tweetEdits.find tweet.id, ∀ time ∈ row.editableUntil, readable time = true)
    (stats : ∀ row ∈ latest db.tweetStats tweet.id, readable row.recordedAt = true) :
    (storedRows db tweet).Valid where
  tweet := valid.tweets tweet member
  published := published
  edit row isRow := ⟨Table.find_key isRow, valid.tweetEdits row (Table.mem_of_find isRow),
    edit row isRow⟩
  policy _ isRow := Table.find_key isRow
  note row isRow := ⟨Table.find_key isRow, valid.tweetCommunityNotes row (Table.mem_of_find isRow)⟩
  stats row isRow := ⟨valid.tweetStats row (latest_mem isRow).1, stats row isRow⟩
  mediaIds ref isRef := (valid.mediaRefs.bounds ref (mem_refsOf.mp isRef).1).1
  few := length_le_of_ordered valid.mediaRefs
    ((refsOf_pairwise db.refs.media tweet.id).imp fun apart same => apart (congrArg _ same))
    fun _ isRef => mem_refsOf.mp isRef
  apart := refsOf_pairwise db.refs.media tweet.id

/-! ## What a tweet that is sent back fills -/

section Quiet

variable {db : Database} {tweet : TweetRow} (valid : (storedRows db tweet).Valid)

theorem quiet_tweet (isStored : db.tweets.find tweet.id = some tweet) :
    TweetRow.onConflict.Quiet db.tweets (tweetPayload (storedRows db tweet).converted.tweet) := by
  refine ⟨tweet, isStored, ?_⟩
  have place : Tweet.fillable tweet.placeId
      ((tweet.placeId.bind db.tweetPlaces.find).map TweetPlace.id) = false := by
    cases tweet.placeId <;> rfl
  simp [-Option.map_bind, TweetRow.onConflict, tweetPayload, TweetRows.converted, storedRows, place,
    fillable_ensureId, fillableRow_annotatedTextPayload, Tweet.Composite.fieldNulls]

theorem quiet_place {place : TweetPlace} (isPlace : (storedRows db tweet).place = some place) :
    TweetPlace.onConflict.Quiet db.tweetPlaces (tweetPlacePayload place) := by
  obtain ⟨id, _, isStored⟩ := Option.bind_eq_some_iff.mp isPlace
  refine ⟨place, Table.find_of_mem (Table.mem_of_find isStored), ?_⟩
  simp [TweetPlace.onConflict, tweetPlacePayload, fillable_ensureId]

theorem quiet_edit {edit : TweetEdit} (isEdit : db.tweetEdits.find tweet.id = some edit) :
    TweetEdit.onConflict.Quiet db.tweetEdits (tweetEditPayload edit).toRow := by
  refine ⟨edit, Table.find_of_mem (Table.mem_of_find isEdit), ?_⟩
  simp [TweetEdit.onConflict, tweetEditPayload, Tweet.TweetEditPayload.toRow, Tweet.fillableArray]

theorem quiet_policy {policy : TweetPolicy}
    (isPolicy : db.tweetPolicies.find tweet.id = some policy) :
    TweetPolicy.onConflict.Quiet db.tweetPolicies (tweetPolicyPayload policy).toRow := by
  refine ⟨policy, Table.find_of_mem (Table.mem_of_find isPolicy), ?_⟩
  simp [TweetPolicy.onConflict, tweetPolicyPayload, Tweet.TweetPolicyPayload.toRow,
    fillable_ensureId, fillableArray_ensureIds]

theorem quiet_note {note : TweetCommunityNote}
    (isNote : db.tweetCommunityNotes.find tweet.id = some note) :
    TweetCommunityNote.onConflict.Quiet db.tweetCommunityNotes (tweetCommunityNotePayload note) := by
  refine ⟨note, Table.find_of_mem (Table.mem_of_find isNote), ?_⟩
  simp [TweetCommunityNote.onConflict, tweetCommunityNotePayload, fillableRow_annotatedTextPayload]

end Quiet

/-- A found tweet can be sent again; its relations are then those of its texts. -/
theorem tweet_repeats {db : Database} {id : Int} {data : Value} (lawful : context.formats.Lawful)
    (fitting : context.lookups.Fitting) (valid : db.Valid)
    (found : context.queryTweet db id = .found data) :
    ∃ tweet, db.tweets.find id = some tweet ∧
      ∃ item, decodeTweet context.formats.parseTime data = some item ∧
        RequestRepeats context.lookups context.formats.parseUuid
          [(storedRows db tweet).relations] db ⟨[], [item], []⟩ := by
  unfold queryTweet at found
  split at found
  next => cases found
  next tweet isStored =>
    obtain ⟨decodedTweet, isTweet, built⟩ := bind_eq_ok (answer_eq_found found)
    obtain ⟨edit, isEdit, built⟩ := bind_eq_ok built
    obtain ⟨stats, areStats, built⟩ := bind_eq_ok built
    obtain ⟨rfl, published⟩ := decodeRow_eq_ok isTweet
    obtain ⟨rfl, editable⟩ := decodeOptional_eq_ok isEdit
    have latestStats := decodeLatest_eq_ok areStats
    obtain ⟨rfl, _⟩ := decodeOptional_eq_ok areStats
    have member := Table.mem_of_find isStored
    have isId : decodedTweet.id = id := Table.find_key isStored
    subst isId
    have validRows := valid_storedRows valid member (by simpa using published)
      (by simpa using editable)
      fun row isRow => (latestStats row isRow).2.2
    obtain ⟨item, read, stands⟩ := @reads_buildTweetJson _ lawful (storedRows db decodedTweet) _ built
      validRows
    refine ⟨decodedTweet, isStored, item, read, stands.known, fun newIds clocks => ?_⟩
    obtain ⟨ids, resolved, agree⟩ := resolveSubmitLookupIds_of_known newIds fitting stands.known
    let prepareContext : PrepareContext :=
      ⟨context.lookups.store newIds, some ids, context.formats.parseUuid⟩
    let prepared := prepareTweet prepareContext (clocks.tweet 0)
      (lastValidIndex "tweet.id" SubmitTweet.id [item]) 0 item
    have batch : prepareSubmitBatch (context.lookups.store newIds) context.formats.parseUuid clocks
        ⟨[], [item], []⟩ = collectBatch [] [] [prepared] := by
      rw [prepareSubmitBatch, resolved]
      rfl
    obtain ⟨isResult, isAuthor, isPlace, isConverted⟩ := @prepareTweet_of_stands _ _ _
      prepareContext _ validRows.tweet stands rfl agree (clocks.tweet 0)
    have converts : ∀ {α : Type} {part : ConvertedTweet → Option α} {entry : Indexed α},
        entry ∈ collect (fun tweet => tweet.converted.bind part) [prepared] →
          part (storedRows db decodedTweet).converted = some entry.value := by
      intro α part entry inBatch
      have same := mem_collect_single inBatch
      rwa [isConverted] at same
    rw [batch]
    have isRelations : prepared.converted.map ConvertedTweet.relations =
        some (storedRows db decodedTweet).relations := by
      rw [isConverted]
      rfl
    refine ⟨?_, ?_, congrArg (List.map Indexed.value) (collect_single isRelations)⟩
    · intro result member
      have isNew : result = .new item.id := by simpa [collectBatch, prepared, isResult] using member
      rw [isNew]
      exact ⟨rfl, rfl⟩
    · constructor
      case tweetAuthors =>
        intro entry inBatch
        have same := mem_collect_single inBatch
        rw [isAuthor, Option.some.injEq] at same
        obtain ⟨author, isStoredUser⟩ :=
          Option.isSome_iff_exists.mp (valid.authors decodedTweet member)
        rw [← same]
        exact ⟨author, isStoredUser, by simp [Tweet.TwitterUser.onConflict, Tweet.fillable]⟩
      case tweetPlaces =>
        intro entry inBatch
        have same := mem_collect_single inBatch
        rw [isPlace] at same
        exact quiet_place same
      case tweets =>
        intro entry inBatch
        have same := mem_collect_single inBatch
        rw [isConverted, Option.map_some, Option.some.injEq] at same
        rw [← same]
        exact quiet_tweet isStored
      case tweetEdits =>
        intro entry inBatch
        exact quiet_edit (converts inBatch)
      case tweetPolicies =>
        intro entry inBatch
        exact quiet_policy (converts inBatch)
      case tweetCommunityNotes =>
        intro entry inBatch
        exact quiet_note (converts inBatch)
      case tweetStats =>
        intro entry inBatch
        obtain ⟨row, isRow, isEntry⟩ := Option.map_eq_some_iff.mp (converts inBatch)
        obtain ⟨isStoredRow, isSubject, _⟩ := latestStats row isRow
        rw [← isEntry]
        exact ⟨row, isStoredRow, Version.clash_iff.mpr ⟨isSubject, rfl⟩⟩
      all_goals exact fun _ nothing => absurd nothing List.not_mem_nil

end BuildContext

end TweetDb.Query
