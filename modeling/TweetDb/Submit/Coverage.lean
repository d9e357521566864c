import TweetDb.Fallible
import TweetDb.Submit.KnownLookups

/-! # Resolved lookups cover the conversions

What `resolve_submit_lookup_ids` asks for is what the conversions look up: if
every key it sends is answered, no conversion of an item whose root and author
ids are valid ends with an unresolved one.
-/

namespace TweetDb.Submit

open Fallible
open TweetDb.Tweet (AnnotatedText)

/-! ## Errors -/

/-- The errors of a key that the resolved ids do not have. -/
def Unresolved (error : String) : Prop :=
  error = "failed to resolve hashtag dictionary id" ∨
    error = "failed to resolve symbol dictionary id" ∨
    error = "failed to resolve user category id"

/-- The text starts as no unresolved key is reported. -/
def Named (text : String) : Prop := text.toList.head?.any (· ≠ 'f') = true

instance (text : String) : Decidable (Named text) := inferInstanceAs (Decidable (_ = true))

theorem Named.append {text : String} (named : Named text) (rest : String) :
    Named (text ++ rest) := by
  unfold Named at named ⊢
  rw [String.toList_append]
  cases isText : text.toList with
  | nil => simp [isText] at named
  | cons first others => simpa [isText] using named

theorem Named.not_unresolved {text : String} (named : Named text) : ¬ Unresolved text := by
  rintro (rfl | rfl | rfl) <;> exact absurd named (by decide)

/-! ## Checks -/

section Checks

variable {α β : Type} {field : String}

theorem spares_transpose {bad : String → Prop} {convert : α → Except String β} {value : Option α}
    (each : ∀ part ∈ value, Spares bad (convert part)) :
    Spares bad (transpose convert value) := by
  cases value with
  | none => exact spares_ok _
  | some part => exact (each part rfl).map

theorem spares_parseI64Id (value : String) (named : Named field) :
    Spares Unresolved (parseI64Id value field) := by
  unfold parseI64Id
  cases parseInt 64 value with
  | some id => exact spares_ok _
  | none => exact spares_error (named.append _).not_unresolved

theorem spares_parseI32Id (value : String) (named : Named field) :
    Spares Unresolved (parseI32Id value field) := by
  unfold parseI32Id
  cases parseInt 32 value with
  | some id => exact spares_ok _
  | none => exact spares_error (named.append _).not_unresolved

theorem spares_parseI64Ids (values : List String) (named : Named field) :
    Spares Unresolved (parseI64Ids values field) :=
  spares_mapM fun value _ => spares_parseI64Id value named

theorem spares_parseOptionalI64Id (value : Option String) (named : Named field) :
    Spares Unresolved (parseOptionalI64Id value field) :=
  spares_transpose fun value _ => spares_parseI64Id value named

theorem spares_ensureNonnegative (value : Int) (named : Named field) :
    Spares Unresolved (ensureNonnegative field value) := by
  unfold ensureNonnegative
  split
  · exact spares_error (named.append _).not_unresolved
  · exact spares_ok _

theorem spares_ensureNonnegativeOptions (values : List (Option Int)) (named : Named field) :
    Spares Unresolved (ensureNonnegativeOptions field values) := by
  unfold ensureNonnegativeOptions
  induction values.reduceOption with
  | nil => exact spares_ok _
  | cons value values inductionHypothesis =>
    exact (spares_ensureNonnegative value named).bind fun _ _ => inductionHypothesis

theorem spares_validateOptionalNonnegative (value : Option Int) (named : Named field) :
    Spares Unresolved (validateOptionalNonnegative field value) := by
  unfold validateOptionalNonnegative
  cases value with
  | none => exact spares_ok _
  | some value => exact (spares_ensureNonnegative value named).bind fun _ _ => spares_ok _

theorem spares_parseOptionalI64String (value : Option String) (named : Named field) :
    Spares Unresolved (parseOptionalI64String value field) := by
  unfold parseOptionalI64String
  split
  · exact spares_ok _
  · exact spares_ok _
  · exact (spares_parseI64Id _ named).bind fun _ _ => spares_validateOptionalNonnegative _ named

theorem spares_parseOptionalI32String (value : Option String) (named : Named field) :
    Spares Unresolved (parseOptionalI32String value field) := by
  unfold parseOptionalI32String
  split
  · exact spares_ok _
  · exact spares_ok _
  · exact (spares_parseI32Id _ named).bind fun _ _ => spares_validateOptionalNonnegative _ named

theorem spares_validateRange (range : SubmitTextRange) (named : Named field) :
    Spares Unresolved (validateRange range field) := by
  refine (spares_ensureNonnegative range.start (named.append _)).bind fun _ _ => ?_
  refine (spares_ensureNonnegative range.stop (named.append _)).bind fun _ _ => ?_
  split
  · exact spares_error (((named.append _).append _).append _).not_unresolved
  · exact spares_ok _

theorem spares_resolved {κ : Type} {bad : String → Prop} {what : String} {ids : κ → Option Int}
    {key : κ} (answered : (ids key).isSome = true) : Spares bad (resolved what ids key) := by
  unfold resolved
  cases answer : ids key with
  | some id => exact spares_ok _
  | none => simp [answer] at answered

end Checks

/-! ## Texts -/

section Conversions

variable {store : LookupStore} {ids : SubmitLookupIds}

/-- The ids have every hashtag and every symbol of a text. -/
structure SubmitLookupIds.AnswersText (ids : SubmitLookupIds) (item : SubmitAnnotatedText) :
    Prop where
  hashtags : ∀ hashtag ∈ hashtagModels item, (ids.hashtags hashtag.tag).isSome = true
  symbols : ∀ symbol ∈ symbolModels item, (ids.symbols symbol.symbol).isSome = true

theorem spares_convertHashtag {hashtagIds : String → Option Int} {entity : SubmitHashtagEntity}
    (answered : (hashtagIds entity.text).isSome = true) :
    Spares Unresolved (convertHashtag hashtagIds entity) := by
  refine (spares_validateRange entity.range (by decide)).bind fun _ _ => ?_
  exact (spares_resolved answered).bind fun _ _ => spares_ok _

theorem spares_convertSymbol {symbolIds : String → Option Int} {entity : SubmitSymbolEntity}
    (range : SubmitTextRange) (answered : (symbolIds entity.text).isSome = true) :
    Spares Unresolved (convertSymbol symbolIds entity range) := by
  refine (spares_validateRange range (by decide)).bind fun _ _ => ?_
  exact (spares_resolved answered).bind fun _ _ => spares_ok _

theorem spares_convertUrl (entity : SubmitUrlEntity) : Spares Unresolved (convertUrl entity) :=
  (spares_validateRange entity.range (by decide)).bind fun _ _ => spares_ok _

theorem spares_convertMention (entity : SubmitMentionEntity) :
    Spares Unresolved (convertMention entity) := by
  refine (spares_validateRange entity.range (by decide)).bind fun _ _ => ?_
  exact (spares_parseI64Id entity.userId (by decide)).bind fun _ _ => spares_ok _

theorem spares_convertMediaEntity (entity : SubmitMediaEntity) :
    Spares Unresolved (convertMediaEntity entity) := by
  refine (spares_transpose fun range _ => spares_validateRange range (by decide)).bind
    fun _ _ => ?_
  refine (spares_parseI64Id entity.mediaId (by decide)).bind fun _ _ => ?_
  refine (spares_parseOptionalI64Id _ (by decide)).bind fun _ _ => ?_
  exact (spares_parseOptionalI64Id _ (by decide)).bind fun _ _ => spares_ok _

theorem spares_convertStyle (style : SubmitTextStyleRange) :
    Spares Unresolved (convertStyle style) :=
  (spares_validateRange style.range (by decide)).bind fun _ _ => spares_ok _

theorem spares_convertAnnotatedText {value : SubmitAnnotatedText} (answers : ids.AnswersText value) :
    Spares Unresolved (convertAnnotatedText store (some ids) value) := by
  have hashtagIds : Spares Unresolved (textHashtagIds store (some ids) value) := spares_ok _
  have symbolIds : Spares Unresolved (textSymbolIds store (some ids) value) := spares_ok _
  unfold convertAnnotatedText
  refine hashtagIds.bind fun _ isIds => ?_
  cases isIds
  refine symbolIds.bind fun _ isIds => ?_
  cases isIds
  refine (spares_mapM fun entity member => spares_convertHashtag
    (answers.hashtags _ (List.mem_map_of_mem member))).bind fun _ _ => ?_
  refine Spares.bind (spares_mapM fun entity member => ?_) fun _ _ => ?_
  · -- the symbols that are left out are asked for as well
    obtain ⟨symbol, isSymbol, ranged⟩ := List.mem_filterMap.mp member
    obtain ⟨range, _, rfl⟩ := Option.map_eq_some_iff.mp ranged
    exact spares_convertSymbol range (answers.symbols _ (List.mem_map_of_mem isSymbol))
  refine (spares_mapM fun entity _ => spares_convertUrl entity).bind fun _ _ => ?_
  refine (spares_mapM fun entity _ => spares_convertMention entity).bind fun _ _ => ?_
  refine (spares_mapM fun entity _ => spares_convertMediaEntity entity).bind fun _ _ => ?_
  exact (spares_mapM fun style _ => spares_convertStyle style).bind fun _ _ => spares_ok _

/-! ## Users -/

theorem spares_convertUserIdentity (identity : SubmitUserIdentity) :
    Spares Unresolved (convertUserIdentity identity) := by
  refine Spares.bind (spares_transpose fun disclosure _ => ?_) fun _ _ => spares_ok _
  exact (spares_parseOptionalI64Id _ (by decide)).bind fun _ _ => spares_ok _

/-- The ids have every category whose id is valid. -/
def SubmitLookupIds.AnswersProfessional (ids : SubmitLookupIds)
    (professional : SubmitUserProfessional) : Prop :=
  ∀ category ∈ professional.categories, ∀ code, parseInt 32 category.id = some code →
    (ids.userCategories code).isSome = true

theorem spares_convertUserProfessional {professional : SubmitUserProfessional}
    (answers : ids.AnswersProfessional professional) :
    Spares Unresolved (convertUserProfessional store (some ids) professional) := by
  refine Spares.bind (spares_mapM fun category _ => ?_) fun categories areCategories => ?_
  · exact (spares_parseI32Id category.id (by decide)).bind fun _ _ => spares_ok _
  refine (spares_ok ids.userCategories).bind fun userCategories isIds => ?_
  cases isIds
  -- A category that is looked up was parsed from one that was sent.
  refine Spares.bind (spares_mapM fun category member => spares_resolved ?_) fun _ _ => ?_
  · obtain ⟨item, isItem, isCategory⟩ := exists_of_forall₂ (mapM_eq_ok.mp areCategories) member
    obtain ⟨code, isCode, made⟩ := bind_eq_ok isCategory
    cases made
    exact answers item isItem code (parseInt_of_parseI32Id isCode)
  · exact (spares_parseOptionalI64Id _ (by decide)).bind fun _ _ => spares_ok _

/-- The ids have what the lookups of a user ask for. -/
structure SubmitLookupIds.AnswersUser (ids : SubmitLookupIds) (user : SubmitUser) : Prop where
  bio : ∀ profile ∈ user.profile, ∀ bio ∈ profile.bio, ids.AnswersText bio
  professional : ∀ professional ∈ user.professional, ids.AnswersProfessional professional

theorem spares_convertUserSnapshot {user : SubmitUser} {profile : SubmitUserProfile}
    (answers : ids.AnswersUser user) (isProfile : user.profile = some profile) (userId : Int)
    (now : OffsetDateTime) :
    Spares Unresolved (convertUserSnapshot store (some ids) userId user profile now) := by
  refine (spares_transpose fun bio isBio => spares_convertAnnotatedText
    (answers.bio profile isProfile bio isBio)).bind fun _ _ => ?_
  refine (spares_transpose fun identity _ => spares_convertUserIdentity identity).bind
    fun _ _ => ?_
  refine (spares_transpose fun professional isProfessional => spares_convertUserProfessional
    (answers.professional professional isProfessional)).bind fun _ _ => ?_
  exact (spares_parseI64Ids _ (by decide)).bind fun _ _ => spares_ok _

/-! ## Tweets -/

theorem spares_convertTweetCommunityNote {note : SubmitTweetCommunityNote}
    (subtitle : ∀ text ∈ note.subtitle, ids.AnswersText text)
    (footer : ∀ text ∈ note.footer, ids.AnswersText text) (tweetId : Int) :
    Spares Unresolved (convertTweetCommunityNote store (some ids) tweetId note) := by
  unfold convertTweetCommunityNote
  refine (spares_parseOptionalI64Id _ (by decide)).bind fun _ _ => ?_
  refine (spares_transpose fun text isText => spares_convertAnnotatedText
    (subtitle text isText)).bind fun _ _ => ?_
  exact (spares_transpose fun text isText => spares_convertAnnotatedText
    (footer text isText)).bind fun _ _ => spares_ok _

theorem spares_convertTweetEdit (tweetId : Int) (edit : SubmitTweetEdit) :
    Spares Unresolved (convertTweetEdit tweetId edit) := by
  refine (spares_parseI64Ids _ (by decide)).bind fun _ _ => ?_
  exact (spares_parseOptionalI32String _ (by decide)).bind fun _ _ => spares_ok _

theorem spares_convertTweetStats (tweetId : Int) (parentFetchedAt : Option OffsetDateTime)
    (stats : SubmitTweetStats) (now : OffsetDateTime) :
    Spares Unresolved (convertTweetStats tweetId parentFetchedAt stats now) := by
  refine (spares_ensureNonnegativeOptions _ (by decide)).bind fun _ _ => ?_
  exact (spares_parseOptionalI64String _ (by decide)).bind fun _ _ => spares_ok _

theorem spares_convertMediaRefs (tweetId : Int) (mediaIds : List String) :
    Spares Unresolved (convertMediaRefs tweetId mediaIds) := by
  refine spares_mapM fun entry _ => ?_
  refine (spares_parseI64Id entry.1 (by decide)).bind fun _ _ => ?_
  split
  · exact spares_ok _
  · exact spares_error (Named.not_unresolved (by decide))

/-- The ids have what the lookups of a tweet ask for. -/
structure SubmitLookupIds.AnswersTweet (ids : SubmitLookupIds) (tweet : SubmitTweet) : Prop where
  legacyText : ids.AnswersText tweet.content.legacyText
  note : ∀ note ∈ tweet.content.note, ids.AnswersText note.text
  subtitle : ∀ note ∈ tweet.communityNote, ∀ text ∈ note.subtitle, ids.AnswersText text
  footer : ∀ note ∈ tweet.communityNote, ∀ text ∈ note.footer, ids.AnswersText text

theorem spares_convertTweet {tweet : SubmitTweet} (answers : ids.AnswersTweet tweet)
    (tweetId authorId : Int) (placeId : Option String) (now : OffsetDateTime) :
    Spares Unresolved (convertTweet store (some ids) tweetId authorId placeId tweet now) := by
  unfold convertTweet
  refine (spares_convertAnnotatedText answers.legacyText).bind fun _ _ => ?_
  refine (spares_transpose fun note isNote => spares_convertAnnotatedText
    (answers.note note isNote)).bind fun _ _ => ?_
  refine (spares_parseI64Id _ (by decide)).bind fun _ _ => ?_
  refine (spares_parseOptionalI64Id _ (by decide)).bind fun _ _ => ?_
  refine (spares_parseOptionalI64Id _ (by decide)).bind fun _ _ => ?_
  refine (spares_parseOptionalI64Id _ (by decide)).bind fun _ _ => ?_
  refine (spares_parseOptionalI64Id _ (by decide)).bind fun _ _ => ?_
  refine (spares_transpose fun edit _ => spares_convertTweetEdit tweetId edit).bind fun _ _ => ?_
  refine (spares_transpose fun stats _ =>
    spares_convertTweetStats tweetId tweet.fetchedAt stats now).bind fun _ _ => ?_
  refine (spares_transpose fun note isNote => spares_convertTweetCommunityNote
    (answers.subtitle note isNote) (answers.footer note isNote) tweetId).bind fun _ _ => ?_
  exact (spares_convertMediaRefs tweetId _).bind fun _ _ => spares_ok _

/-! ## Requests -/

/-- There is an id for every key that was sent. -/
structure SubmitLookupIds.AnswersSent (ids : SubmitLookupIds) (payload : SubmitTweetRequest) :
    Prop where
  categories : ∀ category ∈ sentCategories payload,
    (ids.userCategories category.sourceCategoryCode).isSome = true
  hashtags : ∀ hashtag ∈ sentHashtags payload, (ids.hashtags hashtag.tag).isSome = true
  symbols : ∀ symbol ∈ sentSymbols payload, (ids.symbols symbol.symbol).isSome = true

variable {payload : SubmitTweetRequest}

theorem SubmitLookupIds.AnswersSent.text (answers : ids.AnswersSent payload)
    {text : SubmitAnnotatedText} (isText : text ∈ lookupTexts payload) : ids.AnswersText text where
  hashtags hashtag member := by
    have sent := tag_mem_sentHashtags (List.mem_flatMap.mpr ⟨text, isText, member⟩)
    obtain ⟨merged, isSent, same⟩ := List.mem_map.mp sent
    exact same ▸ answers.hashtags merged isSent
  symbols symbol member := by
    have sent := symbol_mem_sentSymbols (List.mem_flatMap.mpr ⟨text, isText, member⟩)
    obtain ⟨merged, isSent, same⟩ := List.mem_map.mp sent
    exact same ▸ answers.symbols merged isSent

theorem isI64_of_parse {value field : String} {id : Int} (isParsed : parseI64Id value field = .ok id) :
    isI64 value = true := by
  rw [isI64, parseInt_of_parseI64Id isParsed]
  rfl

/-- The texts of an item that are asked for. -/
def userTexts (user : SubmitUser) : List SubmitAnnotatedText :=
  (user.profile.bind SubmitUserProfile.bio).toList

def tweetTexts (tweet : SubmitTweet) : List SubmitAnnotatedText :=
  [tweet.content.legacyText] ++ (tweet.content.note.map SubmitTweetNote.text).toList ++
    (tweet.communityNote.bind SubmitTweetCommunityNote.subtitle).toList ++
    (tweet.communityNote.bind SubmitTweetCommunityNote.footer).toList

theorem bio_mem_userTexts {user : SubmitUser} {profile : SubmitUserProfile}
    {bio : SubmitAnnotatedText} (isProfile : user.profile = some profile)
    (isBio : profile.bio = some bio) : bio ∈ userTexts user :=
  Option.mem_toList.mpr (Option.mem_bind_iff.mpr ⟨profile, isProfile, isBio⟩)

theorem forall_tweetTexts {tweet : SubmitTweet} {holds : SubmitAnnotatedText → Prop}
    (each : ∀ text ∈ tweetTexts tweet, holds text) :
    holds tweet.content.legacyText ∧ (∀ note ∈ tweet.content.note, holds note.text) ∧
      ∀ note ∈ tweet.communityNote,
        (∀ text ∈ note.subtitle, holds text) ∧ ∀ text ∈ note.footer, holds text := by
  refine ⟨each _ (by simp [tweetTexts]), fun note isNote => each _ ?_,
    fun note isNote => ⟨fun text isText => each _ ?_, fun text isText => each _ ?_⟩⟩
  · simp_all [tweetTexts]
  · simp_all [tweetTexts]
  · simp_all [tweetTexts]

theorem text_mem_lookupTexts_user {user : SubmitUser} (given : user ∈ payload.users)
    (isUser : isI64 user.id = true) : ∀ text ∈ userTexts user, text ∈ lookupTexts payload :=
  fun _ member => List.mem_append_left _
    (List.mem_flatMap.mpr ⟨user, List.mem_filter.mpr ⟨given, isUser⟩, member⟩)

theorem text_mem_lookupTexts_tweet {tweet : SubmitTweet} (given : tweet ∈ payload.tweets)
    (isTweet : isI64 tweet.id = true) (isAuthor : isI64 tweet.authorId = true) :
    ∀ text ∈ tweetTexts tweet, text ∈ lookupTexts payload := by
  intro text member
  have taken : (isI64 tweet.id && isI64 tweet.authorId) = true :=
    Bool.and_eq_true_iff.mpr ⟨isTweet, isAuthor⟩
  exact List.mem_append_right _
    (List.mem_flatMap.mpr ⟨tweet, List.mem_filter.mpr ⟨given, taken⟩, member⟩)

theorem mem_lookupCategories {user : SubmitUser} {professional : SubmitUserProfessional}
    (given : user ∈ payload.users) (isUser : isI64 user.id = true)
    (isProfessional : user.professional = some professional) {category : SubmitUserCategory}
    (member : category ∈ professional.categories) {code : Int}
    (isCode : parseInt 32 category.id = some code) :
    ⟨code, category.name⟩ ∈ lookupCategories payload := by
  refine List.mem_flatMap.mpr ⟨user, List.mem_filter.mpr ⟨given, isUser⟩, ?_⟩
  rw [isProfessional]
  exact List.mem_filterMap.mpr ⟨category, member, by rw [isCode]; rfl⟩

theorem SubmitLookupIds.AnswersSent.user (answers : ids.AnswersSent payload) {user : SubmitUser}
    (given : user ∈ payload.users) (isUser : isI64 user.id = true) : ids.AnswersUser user where
  bio profile isProfile bio isBio :=
    answers.text (text_mem_lookupTexts_user given isUser bio (bio_mem_userTexts isProfile isBio))
  professional professional isProfessional category member code isCode := by
    have mentioned := mem_lookupCategories given isUser isProfessional member isCode
    obtain ⟨merged, isSent, same⟩ := List.mem_map.mp (code_mem_sentCategories mentioned)
    have answered := answers.categories merged isSent
    rwa [same] at answered

theorem SubmitLookupIds.AnswersSent.tweet (answers : ids.AnswersSent payload) {tweet : SubmitTweet}
    (given : tweet ∈ payload.tweets) (isTweet : isI64 tweet.id = true)
    (isAuthor : isI64 tweet.authorId = true) : ids.AnswersTweet tweet := by
  obtain ⟨legacyText, note, communityNote⟩ := forall_tweetTexts fun text isText =>
    answers.text (text_mem_lookupTexts_tweet given isTweet isAuthor text isText)
  exact ⟨legacyText, note, fun note isNote => (communityNote note isNote).1,
    fun note isNote => (communityNote note isNote).2⟩

/-- No operation of the result failed with an unresolved key. -/
def ObjectResult.Resolves (result : ObjectResult) : Prop :=
  ∀ operation ∈ result.operations, ¬ Unresolved operation.reason

theorem resolves_new (id : String) : (ObjectResult.new id).Resolves := by
  simp [ObjectResult.Resolves, ObjectResult.new]

theorem ObjectResult.Resolves.operation {result : ObjectResult} (resolves : result.Resolves)
    (name : String) (status : OperationStatus) {reason : String} (other : ¬ Unresolved reason) :
    (result.operation name status reason).Resolves := by
  intro operation member
  rcases List.mem_append.mp member with before | last
  · exact resolves operation before
  · rw [List.mem_singleton.mp last]
    exact other

theorem ObjectResult.Resolves.recordPart {α : Type} {result : ObjectResult}
    (resolves : result.Resolves) (name : String) {part : Option (Except String α)}
    (spares : ∀ converted ∈ part, Spares Unresolved converted) :
    (recordPart name part result).Resolves := by
  unfold Submit.recordPart
  split
  next error => exact resolves.operation name .failed (spares _ rfl error rfl)
  next => exact resolves

theorem resolves_shadowed {result : ObjectResult} (resolves : result.Resolves) :
    (shadowed result).Resolves :=
  resolves.operation "input" .skipped (Named.not_unresolved (by decide))

theorem spares_convertUserStats (userId : Int) (parentFetchedAt : Option OffsetDateTime)
    (stats : SubmitUserStats) (now : OffsetDateTime) :
    Spares Unresolved (convertUserStats userId parentFetchedAt stats now) :=
  (spares_ensureNonnegativeOptions _ (by decide)).bind fun _ _ => spares_ok _

theorem resolves_prepareUser (answers : ids.AnswersSent payload) {user : SubmitUser}
    (given : user ∈ payload.users) (parseUuid : String → Option Uuid) (now : OffsetDateTime)
    (lastIndex : Int → Option Nat) (index : Nat) :
    (prepareUser ⟨store, some ids, parseUuid⟩ now lastIndex index user).result.Resolves := by
  unfold prepareUser
  cases isId : parseI64Id user.id "user.id" with
  | error error => exact resolves_new user.id
  | ok userId =>
    dsimp only
    split
    next => exact resolves_shadowed (resolves_new user.id)
    next =>
      refine ((resolves_new user.id).recordPart "user_snapshot" ?_).recordPart "user_stats" ?_
      · intro converted isConverted
        obtain ⟨profile, isProfile, rfl⟩ := Option.map_eq_some_iff.mp isConverted
        exact spares_convertUserSnapshot (answers.user given (isI64_of_parse isId)) isProfile
          userId now
      · intro converted isConverted
        obtain ⟨stats, _, rfl⟩ := Option.map_eq_some_iff.mp isConverted
        exact spares_convertUserStats userId user.fetchedAt stats now

theorem resolves_prepareTweet (answers : ids.AnswersSent payload) {tweet : SubmitTweet}
    (given : tweet ∈ payload.tweets) (parseUuid : String → Option Uuid) (now : OffsetDateTime)
    (lastIndex : Int → Option Nat) (index : Nat) :
    (prepareTweet ⟨store, some ids, parseUuid⟩ now lastIndex index tweet).result.Resolves := by
  unfold prepareTweet
  cases isId : parseI64Id tweet.id "tweet.id" with
  | error error => exact resolves_new tweet.id
  | ok tweetId =>
    dsimp only
    split
    next => exact resolves_shadowed (resolves_new tweet.id)
    next =>
      cases isAuthor : parseI64Id tweet.authorId "tweet.authorId" with
      | error error => exact resolves_new tweet.id
      | ok authorId =>
        -- All parts of a tweet are converted as one part of its result.
        refine (resolves_new tweet.id).recordPart "tweet" ?_
        rintro _ ⟨⟩
        exact spares_convertTweet
          (answers.tweet given (isI64_of_parse isId) (isI64_of_parse isAuthor)) tweetId authorId
          _ now

/-- No conversion of an item with valid ids ends with an unresolved key. -/
structure ConversionsResolve (store : LookupStore) (ids : SubmitLookupIds)
    (payload : SubmitTweetRequest) : Prop where
  snapshots : ∀ user ∈ payload.users, ∀ userId, parseI64Id user.id "user.id" = .ok userId →
    ∀ profile ∈ user.profile, ∀ now,
      Spares Unresolved (convertUserSnapshot store (some ids) userId user profile now)
  tweets : ∀ tweet ∈ payload.tweets, ∀ tweetId, parseI64Id tweet.id "tweet.id" = .ok tweetId →
    ∀ authorId, parseI64Id tweet.authorId "tweet.authorId" = .ok authorId → ∀ placeId now,
      Spares Unresolved (convertTweet store (some ids) tweetId authorId placeId tweet now)

/-- Nor does the preparation of the request record one. -/
structure PreparationsResolve (store : LookupStore) (parseUuid : String → Option Uuid)
    (clocks : Clocks) (payload : SubmitTweetRequest) : Prop where
  users : ∀ result ∈ (prepareSubmitBatch store parseUuid clocks payload).userResults,
    result.Resolves
  tweets : ∀ result ∈ (prepareSubmitBatch store parseUuid clocks payload).tweetResults,
    result.Resolves

theorem conversions_resolve (store : LookupStore) (answers : ids.AnswersSent payload) :
    ConversionsResolve store ids payload where
  snapshots _ given userId isId _ isProfile now :=
    spares_convertUserSnapshot (answers.user given (isI64_of_parse isId)) isProfile userId now
  tweets _ given tweetId isId authorId isAuthor placeId now :=
    spares_convertTweet (answers.tweet given (isI64_of_parse isId) (isI64_of_parse isAuthor))
      tweetId authorId placeId now

theorem preparations_resolve (resolved : resolveSubmitLookupIds store payload = .ok ids)
    (answers : ids.AnswersSent payload) (parseUuid : String → Option Uuid) (clocks : Clocks) :
    PreparationsResolve store parseUuid clocks payload := by
  have context : (resolveSubmitLookupIds store payload).toOption = some ids := by
    rw [resolved]
    rfl
  constructor
  · intro result member
    obtain ⟨prepared, isPrepared, rfl⟩ := List.mem_map.mp member
    obtain ⟨⟨user, index⟩, isUser, rfl⟩ := List.mem_map.mp isPrepared
    rw [context]
    exact resolves_prepareUser answers (List.fst_mem_of_mem_zipIdx isUser) parseUuid _ _ index
  · intro result member
    obtain ⟨prepared, isPrepared, rfl⟩ := List.mem_map.mp member
    obtain ⟨⟨tweet, index⟩, isTweet, rfl⟩ := List.mem_map.mp isPrepared
    rw [context]
    exact resolves_prepareTweet answers (List.fst_mem_of_mem_zipIdx isTweet) parseUuid _ _ index

end Conversions

end TweetDb.Submit
