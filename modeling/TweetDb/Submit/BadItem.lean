import TweetDb.Query.Resubmit
import TweetDb.Search.Backfill
import TweetDb.Submit.Coverage
import TweetDb.Submit.OneItem

/-! # One bad item

Two calls whose requests differ in one item.  Its lookups do not touch those of
the other items; the statements it shares with them do.
-/

namespace TweetDb.Submit

open Fallible Relational
open TweetDb.Query (plainEnvironment sentUser)
open TweetDb.Search (FreshIds targetId targetId_injective)
open TweetDb.Tweet (TwitterUser)

/-! ## Lookups -/

/-- The keys a store is asked for have the ids of one numbering, in whatever company. -/
structure LookupStore.Numbers (store : LookupStore) (ids : SubmitLookupIds) : Prop where
  userCategories : ∀ categories answer, store.upsertUserCategories categories = .ok answer →
    ∀ category ∈ categories,
      answer category.sourceCategoryCode = ids.userCategories category.sourceCategoryCode
  hashtags : ∀ hashtags answer, store.upsertHashtags hashtags = .ok answer →
    ∀ hashtag ∈ hashtags, answer hashtag.tag = ids.hashtags hashtag.tag
  symbols : ∀ symbols answer, store.upsertSymbols symbols = .ok answer →
    ∀ symbol ∈ symbols, answer symbol.symbol = ids.symbols symbol.symbol

/-- The store answers what a text asks for on its own. -/
structure LookupStore.AnswersText (store : LookupStore) (text : SubmitAnnotatedText) : Prop where
  hashtags : ∃ answer, store.upsertHashtags (hashtagModels text) = .ok answer
  symbols : ∃ answer, store.upsertSymbols (symbolModels text) = .ok answer

def LookupStore.AnswersProfessional (store : LookupStore)
    (professional : SubmitUserProfessional) : Prop :=
  ∀ categories, categoriesOf professional = .ok categories →
    ∃ answer, store.upsertUserCategories categories = .ok answer

/-- The store answers every other item on its own. -/
structure LookupStore.AnswersOthers (store : LookupStore) (item : ItemRef)
    (payload : SubmitTweetRequest) : Prop where
  users : ∀ index user, item ≠ .user index → payload.users[index]? = some user →
    (∀ text ∈ userTexts user, store.AnswersText text) ∧
      ∀ professional ∈ user.professional, store.AnswersProfessional professional
  tweets : ∀ index tweet, item ≠ .tweet index → payload.tweets[index]? = some tweet →
    ∀ text ∈ tweetTexts tweet, store.AnswersText text

/-- What a context answers a text with is what the numbering says. -/
structure PrepareContext.NumbersText (context : PrepareContext) (ids : SubmitLookupIds)
    (text : SubmitAnnotatedText) : Prop where
  hashtags : ∃ answer, context.hashtagIds text = .ok answer ∧
    ∀ hashtag ∈ hashtagModels text, answer hashtag.tag = ids.hashtags hashtag.tag
  symbols : ∃ answer, context.symbolIds text = .ok answer ∧
    ∀ symbol ∈ symbolModels text, answer symbol.symbol = ids.symbols symbol.symbol

def PrepareContext.NumbersProfessional (context : PrepareContext) (ids : SubmitLookupIds)
    (professional : SubmitUserProfessional) : Prop :=
  ∀ categories, categoriesOf professional = .ok categories →
    ∃ answer, context.categoryIds categories = .ok answer ∧
      ∀ category ∈ categories,
        answer category.sourceCategoryCode = ids.userCategories category.sourceCategoryCode

section Lookups

variable {store store' : LookupStore} {ids answered : SubmitLookupIds}
  {payload payload' : SubmitTweetRequest} {parseUuid : String → Option Uuid}
  {context context' : PrepareContext}

theorem TextAlike.of_numbers {text : SubmitAnnotatedText} (numbers : context.NumbersText ids text)
    (numbers' : context'.NumbersText ids text) : TextAlike context context' text := by
  obtain ⟨⟨hashtags, isHashtags, sameHashtags⟩, symbols, isSymbols, sameSymbols⟩ := numbers
  obtain ⟨⟨hashtags', isHashtags', sameHashtags'⟩, symbols', isSymbols', sameSymbols'⟩ := numbers'
  constructor
  · rw [isHashtags, isHashtags']
    refine .ok fun tag member => ?_
    obtain ⟨entity, isEntity, rfl⟩ := List.mem_map.mp member
    have isModel : ⟨entity.text⟩ ∈ hashtagModels text := List.mem_map_of_mem isEntity
    exact (sameHashtags _ isModel).trans (sameHashtags' _ isModel).symm
  · rw [isSymbols, isSymbols']
    refine .ok fun symbol member => ?_
    obtain ⟨entity, isEntity, rfl⟩ := List.mem_map.mp member
    have isModel : ⟨entity.text, entity.ticker, entity.name⟩ ∈ symbolModels text :=
      List.mem_map_of_mem isEntity
    exact (sameSymbols _ isModel).trans (sameSymbols' _ isModel).symm

theorem CategoriesAlike.of_numbers {professional : SubmitUserProfessional}
    (numbers : context.NumbersProfessional ids professional)
    (numbers' : context'.NumbersProfessional ids professional) :
    CategoriesAlike context context' professional := by
  intro categories converted
  obtain ⟨answer, isAnswer, same⟩ := numbers categories converted
  obtain ⟨answer', isAnswer', same'⟩ := numbers' categories converted
  rw [isAnswer, isAnswer']
  refine .ok fun code isCode => ?_
  obtain ⟨category, isCategory, rfl⟩ := List.mem_map.mp isCode
  exact (same category isCategory).trans (same' category isCategory).symm

/-- The ids of a request that are resolved together are those of the numbering. -/
theorem LookupStore.Numbers.resolved (numbers : store.Numbers ids)
    (resolved : resolveSubmitLookupIds store payload = .ok answered) :
    (∀ category ∈ lookupCategories payload,
        answered.userCategories category.sourceCategoryCode =
          ids.userCategories category.sourceCategoryCode) ∧
      ∀ text ∈ lookupTexts payload,
        (∀ hashtag ∈ hashtagModels text,
            answered.hashtags hashtag.tag = ids.hashtags hashtag.tag) ∧
          ∀ symbol ∈ symbolModels text,
            answered.symbols symbol.symbol = ids.symbols symbol.symbol := by
  obtain ⟨categories, areCategories, resolved⟩ := bind_eq_ok resolved
  obtain ⟨hashtags, areHashtags, resolved⟩ := bind_eq_ok resolved
  obtain ⟨symbols, areSymbols, resolved⟩ := bind_eq_ok resolved
  cases resolved
  refine ⟨fun category member => ?_, fun text isText => ⟨fun hashtag member => ?_,
    fun symbol member => ?_⟩⟩
  · obtain ⟨merged, isSent, same⟩ := List.mem_map.mp (code_mem_sentCategories member)
    exact same ▸ numbers.userCategories _ _ areCategories merged isSent
  · have sent := tag_mem_sentHashtags (List.mem_flatMap.mpr ⟨text, isText, member⟩)
    obtain ⟨merged, isSent, same⟩ := List.mem_map.mp sent
    exact same ▸ numbers.hashtags _ _ areHashtags merged isSent
  · have sent := symbol_mem_sentSymbols (List.mem_flatMap.mpr ⟨text, isText, member⟩)
    obtain ⟨merged, isSent, same⟩ := List.mem_map.mp sent
    exact same ▸ numbers.symbols _ _ areSymbols merged isSent

/-- Resolved together with the request or, after that failed, on its own. -/
theorem LookupStore.Numbers.text (numbers : store.Numbers ids) {text : SubmitAnnotatedText}
    (isText : text ∈ lookupTexts payload) (answers : store.AnswersText text) :
    (prepareContext store parseUuid payload).NumbersText ids text := by
  cases resolved : resolveSubmitLookupIds store payload with
  | ok answered =>
    have context : (prepareContext store parseUuid payload).lookupIds = some answered := by
      rw [prepareContext, resolved]
      rfl
    obtain ⟨sameHashtags, sameSymbols⟩ := (numbers.resolved resolved).2 text isText
    refine ⟨⟨answered.hashtags, ?_, sameHashtags⟩, answered.symbols, ?_, sameSymbols⟩
    · rw [PrepareContext.hashtagIds, context]
      rfl
    · rw [PrepareContext.symbolIds, context]
      rfl
  | error error =>
    have context : (prepareContext store parseUuid payload).lookupIds = none := by
      rw [prepareContext, resolved]
      rfl
    obtain ⟨⟨hashtags, areHashtags⟩, symbols, areSymbols⟩ := answers
    refine ⟨⟨hashtags, ?_, numbers.hashtags _ _ areHashtags⟩, symbols, ?_,
      numbers.symbols _ _ areSymbols⟩
    · rw [PrepareContext.hashtagIds, context]
      exact areHashtags
    · rw [PrepareContext.symbolIds, context]
      exact areSymbols

theorem LookupStore.Numbers.professional (numbers : store.Numbers ids) {user : SubmitUser}
    {professional : SubmitUserProfessional} (given : user ∈ payload.users)
    (isUser : isI64 user.id = true) (isProfessional : user.professional = some professional)
    (answers : store.AnswersProfessional professional) :
    (prepareContext store parseUuid payload).NumbersProfessional ids professional := by
  intro categories converted
  cases resolved : resolveSubmitLookupIds store payload with
  | ok answered =>
    have context : (prepareContext store parseUuid payload).lookupIds = some answered := by
      rw [prepareContext, resolved]
      rfl
    refine ⟨answered.userCategories, by rw [PrepareContext.categoryIds, context],
      fun category member => (numbers.resolved resolved).1 category ?_⟩
    obtain ⟨sent, isSent, isCategory⟩ := exists_of_forall₂ (mapM_eq_ok.mp converted) member
    obtain ⟨code, isCode, made⟩ := bind_eq_ok isCategory
    cases made
    exact mem_lookupCategories given isUser isProfessional isSent (parseInt_of_parseI32Id isCode)
  | error error =>
    have context : (prepareContext store parseUuid payload).lookupIds = none := by
      rw [prepareContext, resolved]
      rfl
    obtain ⟨answer, isAnswer⟩ := answers categories converted
    refine ⟨answer, ?_, numbers.userCategories _ _ isAnswer⟩
    rw [PrepareContext.categoryIds, context]
    exact isAnswer

/-- A store that keeps to one numbering answers the other items alike, whether or not it refuses
the lookups of the whole request for what the one item asks. -/
theorem lookupsAlike_of_numbers {item : ItemRef} (same : SameExcept item payload payload')
    (numbers : store.Numbers ids) (numbers' : store'.Numbers ids)
    (answers : store.AnswersOthers item payload) (answers' : store'.AnswersOthers item payload) :
    LookupsAlike item payload (prepareContext store parseUuid payload)
      (prepareContext store' parseUuid payload') := by
  constructor
  case users =>
    intro index user id other given isId
    have isUser := isI64_of_parse isId
    have member := List.mem_of_getElem? given
    have member' := List.mem_of_getElem? (same.users index other ▸ given)
    obtain ⟨texts, professionals⟩ := answers.users index user other given
    obtain ⟨texts', professionals'⟩ := answers'.users index user other given
    constructor
    · intro profile isProfile bio isBio
      have isText := bio_mem_userTexts isProfile isBio
      exact .of_numbers
        (numbers.text (text_mem_lookupTexts_user member isUser bio isText) (texts bio isText))
        (numbers'.text (text_mem_lookupTexts_user member' isUser bio isText) (texts' bio isText))
    · intro professional isProfessional
      exact .of_numbers
        (numbers.professional member isUser isProfessional
          (professionals professional isProfessional))
        (numbers'.professional member' isUser isProfessional
          (professionals' professional isProfessional))
  case tweets =>
    intro index tweet id authorId other given isId isAuthorId
    have isTweet := isI64_of_parse isId
    have isAuthor := isI64_of_parse isAuthorId
    have member := List.mem_of_getElem? given
    have member' := List.mem_of_getElem? (same.tweets index other ▸ given)
    obtain ⟨legacyText, note, communityNote⟩ := forall_tweetTexts fun text isText =>
      TextAlike.of_numbers
        (numbers.text (text_mem_lookupTexts_tweet member isTweet isAuthor text isText)
          (answers.tweets index tweet other given text isText))
        (numbers'.text (text_mem_lookupTexts_tweet member' isTweet isAuthor text isText)
          (answers'.tweets index tweet other given text isText))
    exact ⟨legacyText, note, fun note isNote => (communityNote note isNote).1,
      fun note isNote => (communityNote note isNote).2⟩

end Lookups

/-! ## Two submit calls -/

/-- A request sends everything about the other items alike, so they are treated alike exactly if
the statements that carry one of their objects end alike. -/
theorem others_unaffected_iff {item : ItemRef} {payload payload' : SubmitTweetRequest}
    {store store' : LookupStore} {parseUuid : String → Option Uuid} {clocks clocks' : Clocks}
    {env : Environment} {db : Database} (same : SameExcept item payload payload')
    (apart : NothingShared item payload) (apart' : NothingShared item payload')
    (times : TimesGiven item payload)
    (lookups : LookupsAlike item payload (prepareContext store parseUuid payload)
      (prepareContext store' parseUuid payload')) (fresh : FreshIds env.newId db.indexQueue) :
    let prepared := prepareSubmitBatch store parseUuid clocks payload
    let prepared' := prepareSubmitBatch store' parseUuid clocks' payload'
    let others := item.others payload payload'
    OthersSame others (executePreparedSubmit env prepared db)
        (executePreparedSubmit env prepared' db) ↔
      StatementsEndAlike env others prepared (outcomesOf prepared env db)
        (outcomesOf prepared' env db) := by
  intro prepared prepared' others
  refine executePreparedSubmit_alike
    (batchesAlike_prepareSubmitBatch same apart apart' times lookups)
    (keyed_prepareSubmitBatch same apart apart') ?_ fresh
  have keyed := @keyed_prepareSubmitBatch payload' clocks' item payload store' parseUuid same.symm
    apart' apart
  rw [others_symm] at keyed
  exact keyed

/-! ### A time in the year 0 -/

/-- The first second of the year 1. -/
def firstYear : Int := -62135596800

/-- A database that refuses times before the year 1. -/
def noYearZero (users : List TwitterUser) : Option String :=
  if users.any fun user => user.registeredAt.any (· < firstYear * 1000000) then
    some "date/time field value out of range"
  else none

def yearEnvironment : Environment :=
  { plainEnvironment with
    newId := targetId
    refusals := { Refusals.nothing with users := noYearZero } }

def yearZero : Option OffsetDateTime := some ((firstYear - 1) * 1000000000)

/-- Two users; the first one was registered at this time. -/
def twoUsers (registeredAt : Option OffsetDateTime) : SubmitTweetRequest :=
  ⟨[{ sentUser with id := "1", registeredAt := registeredAt }, { sentUser with id := "2" }], [], []⟩

def preparedUsersOf (registeredAt : Option OffsetDateTime) : PreparedSubmitBatch :=
  prepareSubmitBatch silentStore (fun _ => none) ⟨fun _ => 0, fun _ => 0, fun _ => 0⟩
    (twoUsers registeredAt)

theorem sameExcept_twoUsers (registeredAt registeredAt' : Option OffsetDateTime) :
    SameExcept (.user 0) (twoUsers registeredAt) (twoUsers registeredAt') where
  users index other := by
    cases index with
    | zero => exact absurd rfl other
    | succ index => rfl
  tweets _ _ := rfl
  media _ _ := rfl

section TwoUsers

variable {registeredAt : Option OffsetDateTime}

theorem id_of_twoUsers {index : Nat} {user : SubmitUser} {id : Int}
    (given : (twoUsers registeredAt).users[index]? = some user)
    (isId : parseI64Id user.id "user.id" = .ok id) : id = index + 1 := by
  match index with
  | 0 =>
    have isFirst : user.id = "1" := by cases given; rfl
    rw [isFirst, show parseI64Id "1" "user.id" = .ok 1 by decide] at isId
    exact (Except.ok.inj isId).symm
  | 1 =>
    have isSecond : user.id = "2" := by cases given; rfl
    rw [isSecond, show parseI64Id "2" "user.id" = .ok 2 by decide] at isId
    exact (Except.ok.inj isId).symm
  | _ + 2 => cases given

theorem nothingShared_twoUsers : NothingShared (.user 0) (twoUsers registeredAt) where
  userIds index index' user user' id given given' isId isId' := by
    have sameId := (id_of_twoUsers given isId).symm.trans (id_of_twoUsers given' isId')
    omega
  tweetIds _ _ _ _ _ given := by cases given
  mediaIds _ _ _ _ _ given := by cases given
  users index user id other given isId := by
    rintro ⟨own, isOwn, ownId⟩
    have sameId := (id_of_twoUsers given isId).symm.trans (id_of_twoUsers isOwn ownId)
    exact other (congrArg ItemRef.user (by omega))
  authors _ _ _ _ given := by cases given
  places _ _ _ _ given := by cases given
  mediaRefs _ _ _ given := by cases given

theorem timesGiven_twoUsers : TimesGiven (.user 0) (twoUsers registeredAt) where
  users index user _ given := by
    have bare : user.profile = none ∧ user.stats = none := by
      match index with
      | 0 => cases given; exact ⟨rfl, rfl⟩
      | 1 => cases given; exact ⟨rfl, rfl⟩
      | _ + 2 => cases given
    constructor
    · rw [bare.1]
      exact fun _ none => absurd none (Option.not_mem_none _)
    · rw [bare.2]
      exact fun _ none => absurd none (Option.not_mem_none _)
  tweets _ _ _ given := by cases given
  media _ _ _ given := by cases given

theorem silentStore_numbers :
    silentStore.Numbers ⟨fun _ => none, fun _ => none, fun _ => none⟩ := by
  refine ⟨?_, ?_, ?_⟩ <;> rintro _ _ ⟨⟩ _ _ <;> rfl

theorem silentStore_answers (item : ItemRef) (payload : SubmitTweetRequest) :
    silentStore.AnswersOthers item payload := by
  have text : ∀ text, silentStore.AnswersText text := fun _ => ⟨⟨_, rfl⟩, _, rfl⟩
  exact ⟨fun _ _ _ _ => ⟨fun _ _ => text _, fun _ _ _ _ => ⟨_, rfl⟩⟩, fun _ _ _ _ _ _ => text _⟩

theorem lookupsAlike_twoUsers (registeredAt registeredAt' : Option OffsetDateTime) :
    LookupsAlike (.user 0) (twoUsers registeredAt)
      (prepareContext silentStore (fun _ => none) (twoUsers registeredAt))
      (prepareContext silentStore (fun _ => none) (twoUsers registeredAt')) :=
  lookupsAlike_of_numbers (sameExcept_twoUsers registeredAt registeredAt') silentStore_numbers
    silentStore_numbers (silentStore_answers _ _) (silentStore_answers _ _)

theorem freshIds_yearEnvironment : FreshIds yearEnvironment.newId Database.empty.indexQueue :=
  ⟨targetId_injective, fun _ none => absurd none List.not_mem_nil⟩

end TwoUsers

/-- A time in the year 0 fails the users' statement for both of them. -/
theorem others_unaffected_iff_yearZero :
    ¬ StatementsEndAlike yearEnvironment
      (ItemRef.others (twoUsers none) (twoUsers yearZero) (.user 0)) (preparedUsersOf none)
      (outcomesOf (preparedUsersOf none) yearEnvironment .empty)
      (outcomesOf (preparedUsersOf yearZero) yearEnvironment .empty) := by
  intro ends
  have same := (others_unaffected_iff (sameExcept_twoUsers none yearZero) nothingShared_twoUsers
    nothingShared_twoUsers timesGiven_twoUsers (lookupsAlike_twoUsers none yearZero)
    freshIds_yearEnvironment).mpr ends
  exact absurd (same.users 1 rfl) (by decide)

end TweetDb.Submit
