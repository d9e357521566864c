import TweetDb.Fallible
import TweetDb.Submit.Provenance
import TweetDb.Submit.Stored

/-! # Two conversions of an item

An item is converted alike in two calls that answer its lookups alike, whatever
else they are asked for.
-/

namespace TweetDb.Submit

open Fallible Relational TweetModel
open TweetDb.Tweet (TweetCommunityNote TweetEdit TweetStats UserProfessional UserStats)

/-! ## Lookups -/

/-- The same ids for the keys asked for, or the same error. -/
inductive AnswersAlike {κ : Type} (keys : List κ) :
    Except String (κ → Option Int) → Except String (κ → Option Int) → Prop
  | ok {ids ids' : κ → Option Int} (same : ∀ key ∈ keys, ids key = ids' key) :
    AnswersAlike keys (.ok ids) (.ok ids')
  | error (error : String) : AnswersAlike keys (.error error) (.error error)

theorem AnswersAlike.refl {κ : Type} (keys : List κ) (answer : Except String (κ → Option Int)) :
    AnswersAlike keys answer answer := by
  cases answer with
  | ok ids => exact .ok fun _ _ => rfl
  | error error => exact .error error

namespace PrepareContext

variable (context : PrepareContext)

def hashtagIds (value : SubmitAnnotatedText) : Except String (String → Option Int) :=
  textHashtagIds context.store context.lookupIds value

def symbolIds (value : SubmitAnnotatedText) : Except String (String → Option Int) :=
  textSymbolIds context.store context.lookupIds value

def categoryIds (categories : List UserCategory) : Except String (Int → Option Int) :=
  match context.lookupIds with
  | some ids => .ok ids.userCategories
  | none => context.store.upsertUserCategories categories

end PrepareContext

/-- Two calls answer the lookups of a text alike. -/
structure TextAlike (context context' : PrepareContext) (value : SubmitAnnotatedText) : Prop where
  hashtags : AnswersAlike (value.entities.hashtags.map SubmitHashtagEntity.text)
    (context.hashtagIds value) (context'.hashtagIds value)
  symbols : AnswersAlike (value.entities.symbols.map SubmitSymbolEntity.text)
    (context.symbolIds value) (context'.symbolIds value)

/-- The categories of a user, if their ids are valid. -/
def categoriesOf (professional : SubmitUserProfessional) : Except String (List UserCategory) :=
  professional.categories.mapM fun category => do
    let code ← parseI32Id category.id "user.professional.categories.id"
    return ⟨code, category.name⟩

/-- And those of the categories of a user. -/
def CategoriesAlike (context context' : PrepareContext) (professional : SubmitUserProfessional) :
    Prop :=
  ∀ categories, categoriesOf professional = .ok categories →
    AnswersAlike (categories.map UserCategory.sourceCategoryCode) (context.categoryIds categories)
      (context'.categoryIds categories)

structure UserLookupsAlike (context context' : PrepareContext) (user : SubmitUser) : Prop where
  bio : ∀ profile ∈ user.profile, ∀ bio ∈ profile.bio, TextAlike context context' bio
  professional : ∀ professional ∈ user.professional, CategoriesAlike context context' professional

structure TweetLookupsAlike (context context' : PrepareContext) (tweet : SubmitTweet) : Prop where
  legacyText : TextAlike context context' tweet.content.legacyText
  note : ∀ note ∈ tweet.content.note, TextAlike context context' note.text
  subtitle : ∀ note ∈ tweet.communityNote, ∀ text ∈ note.subtitle, TextAlike context context' text
  footer : ∀ note ∈ tweet.communityNote, ∀ text ∈ note.footer, TextAlike context context' text

/-! ## Conversions -/

section Conversions

variable {context context' : PrepareContext}

theorem resolved_congr {α : Type} {what : String} {ids ids' : α → Option Int} {key : α}
    (same : ids key = ids' key) : resolved what ids key = resolved what ids' key := by
  unfold resolved
  rw [same]

theorem bind_congr_ok {α β : Type} {first : Except String α} {rest rest' : α → Except String β}
    (same : ∀ value, first = .ok value → rest value = rest' value) :
    first >>= rest = first >>= rest' := by
  cases first with
  | ok value => exact same value rfl
  | error error => rfl

theorem transpose_congr {α β : Type} {convert convert' : α → Except String β} {value : Option α}
    (same : ∀ given ∈ value, convert given = convert' given) :
    transpose convert value = transpose convert' value := by
  cases value with
  | none => rfl
  | some given =>
    show (convert given).map some = (convert' given).map some
    rw [same given rfl]

theorem convertAnnotatedText_alike {value : SubmitAnnotatedText}
    (alike : TextAlike context context' value) :
    convertAnnotatedText context.store context.lookupIds value =
      convertAnnotatedText context'.store context'.lookupIds value := by
  obtain ⟨hashtags, symbols⟩ := alike
  unfold PrepareContext.hashtagIds at hashtags
  unfold PrepareContext.symbolIds at symbols
  unfold convertAnnotatedText
  generalize textHashtagIds context.store context.lookupIds value = hashtagIds at hashtags ⊢
  generalize textHashtagIds context'.store context'.lookupIds value = hashtagIds' at hashtags ⊢
  generalize textSymbolIds context.store context.lookupIds value = symbolIds at symbols ⊢
  generalize textSymbolIds context'.store context'.lookupIds value = symbolIds' at symbols ⊢
  cases hashtags with
  | error error => rfl
  | @ok hashtagIds hashtagIds' sameHashtags =>
    cases symbols with
    | error error => rfl
    | @ok symbolIds symbolIds' sameSymbols =>
      have hashtagsConvert : ∀ entity ∈ value.entities.hashtags,
          convertHashtag hashtagIds entity = convertHashtag hashtagIds' entity := by
        intro entity member
        unfold convertHashtag
        rw [resolved_congr (sameHashtags entity.text (List.mem_map_of_mem member))]
      have symbolsConvert : ∀ entry ∈ rangedSymbols value,
          convertSymbol symbolIds entry.1 entry.2 = convertSymbol symbolIds' entry.1 entry.2 := by
        intro entry member
        obtain ⟨entity, isEntity, ranged⟩ := List.mem_filterMap.mp member
        obtain ⟨range, _, rfl⟩ := Option.map_eq_some_iff.mp ranged
        unfold convertSymbol
        rw [resolved_congr (sameSymbols entity.text (List.mem_map_of_mem isEntity))]
      show value.entities.hashtags.mapM (convertHashtag hashtagIds) >>= _ =
        value.entities.hashtags.mapM (convertHashtag hashtagIds') >>= _
      rw [mapM_congr hashtagsConvert]
      refine bind_congr_ok fun _ _ => ?_
      rw [mapM_congr symbolsConvert]

theorem convertUserProfessional_eq (context : PrepareContext)
    (professional : SubmitUserProfessional) :
    convertUserProfessional context.store context.lookupIds professional = do
      let categories ← categoriesOf professional
      let ids ← context.categoryIds categories
      let categoryIds ← categories.mapM fun category =>
        resolved "user category" ids category.sourceCategoryCode
      let professionalId ← parseOptionalI64Id professional.id "user.professional.id"
      return ⟨professionalId, professional.professionalType, categoryIds⟩ := by
  unfold convertUserProfessional PrepareContext.categoryIds
  cases context.lookupIds <;> rfl

theorem convertUserProfessional_alike {professional : SubmitUserProfessional}
    (alike : CategoriesAlike context context' professional) :
    convertUserProfessional context.store context.lookupIds professional =
      convertUserProfessional context'.store context'.lookupIds professional := by
  rw [convertUserProfessional_eq, convertUserProfessional_eq]
  refine bind_congr_ok fun categories converted => ?_
  have answered := alike categories converted
  generalize context.categoryIds categories = ids at answered ⊢
  generalize context'.categoryIds categories = ids' at answered ⊢
  cases answered with
  | error error => rfl
  | @ok ids ids' same =>
    show categories.mapM (fun category => resolved "user category" ids category.sourceCategoryCode)
        >>= _ =
      categories.mapM (fun category => resolved "user category" ids' category.sourceCategoryCode)
        >>= _
    rw [mapM_congr fun category member => resolved_congr (same _ (List.mem_map_of_mem member))]

theorem getD_of_isSome {α : Type} {value : Option α} (given : value.isSome = true) (a b : α) :
    value.getD a = value.getD b := by
  obtain ⟨value, rfl⟩ := Option.isSome_iff_exists.mp given
  rfl

/-- The time of an observation is given by the payload. -/
def TimeGiven (own parent : Option OffsetDateTime) : Prop := (own.or parent).isSome = true

theorem convertUserSnapshot_alike {user : SubmitUser} {profile : SubmitUserProfile}
    (alike : UserLookupsAlike context context' user) (isProfile : user.profile = some profile)
    (given : TimeGiven profile.fetchedAt user.fetchedAt) (userId : Int)
    (now now' : OffsetDateTime) :
    convertUserSnapshot context.store context.lookupIds userId user profile now =
      convertUserSnapshot context'.store context'.lookupIds userId user profile now' := by
  unfold convertUserSnapshot
  rw [getD_of_isSome given now now', transpose_congr fun bio isBio =>
      convertAnnotatedText_alike (alike.bio profile isProfile bio isBio),
    transpose_congr fun professional isProfessional =>
      convertUserProfessional_alike (alike.professional professional isProfessional)]

theorem convertUserStats_alike {userId : Int} {parent : Option OffsetDateTime}
    {stats : SubmitUserStats} (given : TimeGiven stats.fetchedAt parent)
    (now now' : OffsetDateTime) :
    convertUserStats userId parent stats now = convertUserStats userId parent stats now' := by
  unfold convertUserStats
  rw [getD_of_isSome given now now']

theorem convertMediaResource_alike {mediaId : Int} {media : SubmitMedia}
    (given : TimeGiven (media.resource.bind SubmitMediaResource.fetchedAt) media.fetchedAt)
    (now now' : OffsetDateTime) :
    convertMediaResource mediaId media now = convertMediaResource mediaId media now' := by
  unfold convertMediaResource
  rw [getD_of_isSome given now now']

theorem convertTweetStats_alike {tweetId : Int} {parent : Option OffsetDateTime}
    {stats : SubmitTweetStats} (given : TimeGiven stats.fetchedAt parent)
    (now now' : OffsetDateTime) :
    convertTweetStats tweetId parent stats now = convertTweetStats tweetId parent stats now' := by
  unfold convertTweetStats
  rw [getD_of_isSome given now now']

theorem convertTweetCommunityNote_alike {tweetId : Int} {note : SubmitTweetCommunityNote}
    (subtitle : ∀ text ∈ note.subtitle, TextAlike context context' text)
    (footer : ∀ text ∈ note.footer, TextAlike context context' text) :
    convertTweetCommunityNote context.store context.lookupIds tweetId note =
      convertTweetCommunityNote context'.store context'.lookupIds tweetId note := by
  unfold convertTweetCommunityNote
  rw [transpose_congr fun text isText => convertAnnotatedText_alike (subtitle text isText),
    transpose_congr fun text isText => convertAnnotatedText_alike (footer text isText)]

theorem convertTweet_alike {tweet : SubmitTweet} (alike : TweetLookupsAlike context context' tweet)
    (given : ∀ stats ∈ tweet.stats, TimeGiven stats.fetchedAt tweet.fetchedAt)
    (tweetId authorId : Int) (placeId : Option String) (now now' : OffsetDateTime) :
    convertTweet context.store context.lookupIds tweetId authorId placeId tweet now =
      convertTweet context'.store context'.lookupIds tweetId authorId placeId tweet now' := by
  unfold convertTweet
  rw [convertAnnotatedText_alike alike.legacyText,
    transpose_congr fun note isNote => convertAnnotatedText_alike (alike.note note isNote),
    transpose_congr fun stats isStats => convertTweetStats_alike (given stats isStats) now now',
    transpose_congr fun note isNote => convertTweetCommunityNote_alike
      (alike.subtitle note isNote) (alike.footer note isNote)]

/-! ## Prepared items -/

/-- What an item says about its times. -/
structure UserTimesGiven (user : SubmitUser) : Prop where
  profile : ∀ profile ∈ user.profile, TimeGiven profile.fetchedAt user.fetchedAt
  stats : ∀ stats ∈ user.stats, TimeGiven stats.fetchedAt user.fetchedAt

variable {lastIndex lastIndex' : Int → Option Nat} {index : Nat}

theorem prepareUser_alike {user : SubmitUser}
    (last : ∀ id, parseI64Id user.id "user.id" = .ok id → lastIndex id = lastIndex' id)
    (alike : ∀ id, parseI64Id user.id "user.id" = .ok id → UserLookupsAlike context context' user)
    (given : UserTimesGiven user) (now now' : OffsetDateTime) :
    prepareUser context now lastIndex index user =
      prepareUser context' now' lastIndex' index user := by
  unfold prepareUser
  cases isId : parseI64Id user.id "user.id" with
  | error error => rfl
  | ok userId =>
    simp only [last userId isId]
    have snapshots : (user.profile.map fun profile =>
          convertUserSnapshot context.store context.lookupIds userId user profile now) =
        user.profile.map fun profile =>
          convertUserSnapshot context'.store context'.lookupIds userId user profile now' :=
      Option.map_congr fun profile isProfile =>
        convertUserSnapshot_alike (alike userId isId) isProfile (given.profile profile isProfile)
          userId now now'
    have stats : (user.stats.map fun stats => convertUserStats userId user.fetchedAt stats now) =
        user.stats.map fun stats => convertUserStats userId user.fetchedAt stats now' :=
      Option.map_congr fun stats isStats =>
        convertUserStats_alike (given.stats stats isStats) now now'
    rw [snapshots, stats]

theorem prepareMedia_alike {media : SubmitMedia}
    (last : ∀ id, parseI64Id media.id "media.id" = .ok id → lastIndex id = lastIndex' id)
    (sameUuids : context.parseUuid = context'.parseUuid)
    (given : TimeGiven (media.resource.bind SubmitMediaResource.fetchedAt) media.fetchedAt)
    (now now' : OffsetDateTime) :
    prepareMedia context now lastIndex index media =
      prepareMedia context' now' lastIndex' index media := by
  unfold prepareMedia
  cases isId : parseI64Id media.id "media.id" with
  | error error => rfl
  | ok mediaId =>
    simp only [last mediaId isId, sameUuids]
    rw [convertMediaResource_alike given now now']

theorem prepareTweet_alike {tweet : SubmitTweet}
    (last : ∀ id, parseI64Id tweet.id "tweet.id" = .ok id → lastIndex id = lastIndex' id)
    (alike : ∀ id authorId, parseI64Id tweet.id "tweet.id" = .ok id →
      parseI64Id tweet.authorId "tweet.authorId" = .ok authorId →
      TweetLookupsAlike context context' tweet)
    (given : ∀ stats ∈ tweet.stats, TimeGiven stats.fetchedAt tweet.fetchedAt)
    (now now' : OffsetDateTime) :
    prepareTweet context now lastIndex index tweet =
      prepareTweet context' now' lastIndex' index tweet := by
  unfold prepareTweet
  cases isId : parseI64Id tweet.id "tweet.id" with
  | error error => rfl
  | ok tweetId =>
    simp only [last tweetId isId]
    cases isAuthor : parseI64Id tweet.authorId "tweet.authorId" with
    | error error => rfl
    | ok authorId =>
      simp only
      rw [convertTweet_alike (alike tweetId authorId isId isAuthor) given tweetId authorId _ now
        now']

end Conversions

/-! ## The ids of converted objects -/

section Ids

theorem convertUserSnapshot_userId {store : LookupStore} {lookupIds : Option SubmitLookupIds}
    {userId : Int} {user : SubmitUser} {profile : SubmitUserProfile} {now : OffsetDateTime}
    {snapshot : UserSnapshot}
    (ran : convertUserSnapshot store lookupIds userId user profile now = .ok snapshot) :
    snapshot.userId = userId := by
  obtain ⟨_, _, ran⟩ := bind_eq_ok ran
  obtain ⟨_, _, ran⟩ := bind_eq_ok ran
  obtain ⟨_, _, ran⟩ := bind_eq_ok ran
  obtain ⟨_, _, ran⟩ := bind_eq_ok ran
  cases ran
  rfl

theorem convertUserStats_userId {userId : Int} {parent : Option OffsetDateTime}
    {stats : SubmitUserStats} {now : OffsetDateTime} {converted : UserStats}
    (ran : convertUserStats userId parent stats now = .ok converted) :
    converted.userId = userId := by
  obtain ⟨_, _, ran⟩ := bind_eq_ok ran
  cases ran
  rfl

theorem convertMedia_id {parseUuid : String → Option Uuid} {mediaId : Int} {media : SubmitMedia}
    {converted : Media} (ran : convertMedia parseUuid mediaId media = .ok converted) :
    converted.id = mediaId := by
  obtain ⟨_, _, ran⟩ := bind_eq_ok ran
  obtain ⟨_, _, ran⟩ := bind_eq_ok ran
  obtain ⟨_, _, ran⟩ := bind_eq_ok ran
  obtain ⟨_, _, ran⟩ := bind_eq_ok ran
  obtain ⟨_, _, ran⟩ := bind_eq_ok ran
  obtain ⟨_, _, ran⟩ := bind_eq_ok ran
  cases ran
  rfl

theorem convertMediaResource_mediaId {mediaId : Int} {media : SubmitMedia} {now : OffsetDateTime}
    {resource : MediaResource}
    (ran : convertMediaResource mediaId media now = some (.ok resource)) :
    resource.mediaId = mediaId := by
  unfold convertMediaResource at ran
  simp only at ran
  split at ran
  · cases ran
  · obtain ⟨_, _, rfl⟩ := map_eq_ok (Option.some.inj ran)
    rfl

theorem convertTweetEdit_tweetId {tweetId : Int} {edit : SubmitTweetEdit} {converted : TweetEdit}
    (ran : convertTweetEdit tweetId edit = .ok converted) : converted.tweetId = tweetId := by
  obtain ⟨_, _, ran⟩ := bind_eq_ok ran
  obtain ⟨_, _, ran⟩ := bind_eq_ok ran
  cases ran
  rfl

theorem convertTweetStats_tweetId {tweetId : Int} {parent : Option OffsetDateTime}
    {stats : SubmitTweetStats} {now : OffsetDateTime} {converted : TweetStats}
    (ran : convertTweetStats tweetId parent stats now = .ok converted) :
    converted.tweetId = tweetId := by
  obtain ⟨_, _, ran⟩ := bind_eq_ok ran
  obtain ⟨_, _, ran⟩ := bind_eq_ok ran
  cases ran
  rfl

theorem convertTweetCommunityNote_tweetId {store : LookupStore}
    {lookupIds : Option SubmitLookupIds} {tweetId : Int} {note : SubmitTweetCommunityNote}
    {converted : TweetCommunityNote}
    (ran : convertTweetCommunityNote store lookupIds tweetId note = .ok converted) :
    converted.tweetId = tweetId := by
  obtain ⟨_, _, ran⟩ := bind_eq_ok ran
  obtain ⟨_, _, ran⟩ := bind_eq_ok ran
  obtain ⟨_, _, ran⟩ := bind_eq_ok ran
  cases ran
  rfl

/-- The parts of a tweet have its id. -/
structure ConvertedTweet.OfTweet (converted : ConvertedTweet) (tweetId : Int) : Prop where
  tweet : converted.tweet.id = tweetId
  edit : ∀ edit ∈ converted.edit, edit.tweetId = tweetId
  policy : ∀ policy ∈ converted.policy, policy.tweetId = tweetId
  communityNote : ∀ note ∈ converted.communityNote, note.tweetId = tweetId
  stats : ∀ stats ∈ converted.stats, stats.tweetId = tweetId

theorem transpose_eq_some {α β : Type} {convert : α → Except String β} {value : Option α}
    {result : β} (ran : transpose convert value = .ok (some result)) :
    ∃ given ∈ value, convert given = .ok result := by
  cases transpose_eq_ok.mp ran with
  | some converted => exact ⟨_, rfl, converted⟩

theorem ofTweet_of_convertTweet {store : LookupStore} {lookupIds : Option SubmitLookupIds}
    {tweetId authorId : Int} {placeId : Option String} {value : SubmitTweet} {now : OffsetDateTime}
    {converted : ConvertedTweet}
    (ran : convertTweet store lookupIds tweetId authorId placeId value now = .ok converted) :
    converted.OfTweet tweetId := by
  obtain ⟨_, _, ran⟩ := bind_eq_ok ran
  obtain ⟨_, _, ran⟩ := bind_eq_ok ran
  obtain ⟨_, _, ran⟩ := bind_eq_ok ran
  obtain ⟨_, _, ran⟩ := bind_eq_ok ran
  obtain ⟨_, _, ran⟩ := bind_eq_ok ran
  obtain ⟨_, _, ran⟩ := bind_eq_ok ran
  obtain ⟨_, _, ran⟩ := bind_eq_ok ran
  obtain ⟨edit, isEdit, ran⟩ := bind_eq_ok ran
  obtain ⟨stats, areStats, ran⟩ := bind_eq_ok ran
  obtain ⟨note, isNote, ran⟩ := bind_eq_ok ran
  obtain ⟨_, _, ran⟩ := bind_eq_ok ran
  cases ran
  refine ⟨rfl, ?_, ?_, ?_, ?_⟩
  · rintro edit ⟨⟩
    obtain ⟨_, _, ran⟩ := transpose_eq_some isEdit
    exact convertTweetEdit_tweetId ran
  · intro policy isPolicy
    obtain ⟨_, _, rfl⟩ := Option.map_eq_some_iff.mp isPolicy
    rfl
  · rintro note ⟨⟩
    obtain ⟨_, _, ran⟩ := transpose_eq_some isNote
    exact convertTweetCommunityNote_tweetId ran
  · rintro stats ⟨⟩
    obtain ⟨_, _, ran⟩ := transpose_eq_some areStats
    exact convertTweetStats_tweetId ran

end Ids

end TweetDb.Submit
