import TweetDb.Submit.CallRuns
import TweetDb.Submit.ConversionRuns
import TweetDb.Submit.Duplicates

/-! # One item of a request

Two requests that differ in one item.  Their other items are prepared alike, so
what becomes of them depends on the statements they share with it.
-/

namespace TweetDb.Submit

open Relational TweetModel
open TweetDb.Tweet (TweetPlace TweetStats UserStats)

/-! ## Items of a request -/

inductive ItemRef where
  | user (index : Nat)
  | tweet (index : Nat)
  | media (index : Nat)
deriving DecidableEq, Repr

namespace ItemRef

variable (payload : SubmitTweetRequest)

/-- A user of the item, by its own id or as the author of a tweet. -/
def OwnsUser : ItemRef → Int → Prop
  | .user index, id =>
    ∃ user, payload.users[index]? = some user ∧ parseI64Id user.id "user.id" = .ok id
  | .tweet index, id =>
    ∃ tweet, payload.tweets[index]? = some tweet ∧
      parseI64Id tweet.authorId "tweet.authorId" = .ok id
  | .media _, _ => False

def OwnsTweet : ItemRef → Int → Prop
  | .tweet index, id =>
    ∃ tweet, payload.tweets[index]? = some tweet ∧ parseI64Id tweet.id "tweet.id" = .ok id
  | _, _ => False

def OwnsMedia : ItemRef → Int → Prop
  | .media index, id =>
    ∃ media, payload.media[index]? = some media ∧ parseI64Id media.id "media.id" = .ok id
  | _, _ => False

def OwnsPlace : ItemRef → String → Prop
  | .tweet index, id =>
    ∃ tweet, payload.tweets[index]? = some tweet ∧ tweet.place.bind SubmitTweetPlace.id = some id
  | _, _ => False

/-- The other items of two payloads, and everything that is not of the item in either. -/
def others (payload' : SubmitTweetRequest) (item : ItemRef) : Others where
  user id := ¬ item.OwnsUser payload id ∧ ¬ item.OwnsUser payload' id
  tweet id := ¬ item.OwnsTweet payload id ∧ ¬ item.OwnsTweet payload' id
  media id := ¬ item.OwnsMedia payload id ∧ ¬ item.OwnsMedia payload' id
  place id := ¬ item.OwnsPlace payload id ∧ ¬ item.OwnsPlace payload' id
  userItem index := decide (item ≠ .user index)
  tweetItem index := decide (item ≠ .tweet index)
  mediaItem index := decide (item ≠ .media index)

end ItemRef

/-- Two payloads that are the same but for the content of one item. -/
structure SameExcept (item : ItemRef) (payload payload' : SubmitTweetRequest) : Prop where
  users : ∀ index, item ≠ .user index → payload.users[index]? = payload'.users[index]?
  tweets : ∀ index, item ≠ .tweet index → payload.tweets[index]? = payload'.tweets[index]?
  media : ∀ index, item ≠ .media index → payload.media[index]? = payload'.media[index]?

/-- The ids of the items are valid ones of different numbers, as far as they are valid. -/
def DistinctIds {α : Type} (field : String) (id : α → String) (items : List α) : Prop :=
  ∀ (index index' : Nat) (item item' : α) (parsed : Int), items[index]? = some item →
    items[index']? = some item' → HasId field id parsed item → HasId field id parsed item' →
    index = index'

/-- The ids are pairwise distinct, and no other item has a user, an author, a place or media of
the item. -/
structure NothingShared (item : ItemRef) (payload : SubmitTweetRequest) : Prop where
  userIds : DistinctIds "user.id" SubmitUser.id payload.users
  tweetIds : DistinctIds "tweet.id" SubmitTweet.id payload.tweets
  mediaIds : DistinctIds "media.id" SubmitMedia.id payload.media
  users : ∀ index user id, item ≠ .user index → payload.users[index]? = some user →
    parseI64Id user.id "user.id" = .ok id → ¬ item.OwnsUser payload id
  authors : ∀ index tweet id, item ≠ .tweet index → payload.tweets[index]? = some tweet →
    parseI64Id tweet.authorId "tweet.authorId" = .ok id → ¬ item.OwnsUser payload id
  places : ∀ index tweet id, item ≠ .tweet index → payload.tweets[index]? = some tweet →
    tweet.place.bind SubmitTweetPlace.id = some id → ¬ item.OwnsPlace payload id
  mediaRefs : ∀ index tweet, item ≠ .tweet index → payload.tweets[index]? = some tweet →
    ∀ mediaId ∈ tweet.content.mediaIds, ∀ id,
      parseI64Id mediaId "tweet.content.mediaIds" = .ok id → ¬ item.OwnsMedia payload id

section Items

variable {item : ItemRef} {payload payload' : SubmitTweetRequest}

theorem SameExcept.symm (same : SameExcept item payload payload') :
    SameExcept item payload' payload :=
  ⟨fun index other => (same.users index other).symm,
    fun index other => (same.tweets index other).symm,
    fun index other => (same.media index other).symm⟩

theorem others_symm : item.others payload payload' = item.others payload' payload := by
  unfold ItemRef.others
  congr 2 <;> funext id <;> exact propext and_comm

/-- What belongs to a place in the request is of another item exactly if the item is at another
place: the item at the place has it, and an item anywhere else has not. -/
theorem others_iff {place : ItemRef} {owned owned' : Prop} (owns : item = place → owned)
    (apart : item ≠ place → ¬ owned) (apart' : item ≠ place → ¬ owned') :
    ¬ owned ∧ ¬ owned' ↔ decide (item ≠ place) = true := by
  rw [decide_eq_true_iff]
  constructor
  · rintro ⟨notOwned, _⟩ isPlace
    exact notOwned (owns isPlace)
  · exact fun other => ⟨apart other, apart' other⟩

/-- The item with the id is the only one with it. -/
theorem not_given {α : Type} {field : String} {id : α → String} {items : List α} {parsed : Int}
    {place : Nat → ItemRef} {index : Nat} {own : α} (distinct : DistinctIds field id items)
    (given : items[index]? = some own) (isId : parseI64Id (id own) field = .ok parsed)
    {index' : Nat} (other : place index' ≠ place index) :
    ¬ ∃ item, items[index']? = some item ∧ parseI64Id (id item) field = .ok parsed := by
  rintro ⟨item, isItem, itemId⟩
  exact other (congrArg place (distinct index' index item own parsed isItem given itemId isId))

theorem NothingShared.tweet (apart : NothingShared item payload) {index : Nat}
    {tweet : SubmitTweet} {id : Int} (given : payload.tweets[index]? = some tweet)
    (isId : parseI64Id tweet.id "tweet.id" = .ok id) (other : item ≠ .tweet index) :
    ¬ item.OwnsTweet payload id := by
  cases item with
  | tweet place => exact not_given apart.tweetIds given isId other
  | user _ => exact fun owned => owned
  | media _ => exact fun owned => owned

theorem NothingShared.medium (apart : NothingShared item payload) {index : Nat}
    {media : SubmitMedia} {id : Int} (given : payload.media[index]? = some media)
    (isId : parseI64Id media.id "media.id" = .ok id) (other : item ≠ .media index) :
    ¬ item.OwnsMedia payload id := by
  cases item with
  | media place => exact not_given apart.mediaIds given isId other
  | user _ => exact fun owned => owned
  | tweet _ => exact fun owned => owned

variable (same : SameExcept item payload payload') (apart : NothingShared item payload)
  (apart' : NothingShared item payload') {index : Nat}

include same apart apart'

/-- A user is of another item exactly if the item it was read from is another one. -/
theorem others_user_iff {user : SubmitUser} {id : Int}
    (given : payload.users[index]? = some user) (isId : parseI64Id user.id "user.id" = .ok id) :
    (item.others payload payload').user id ↔
      (item.others payload payload').userItem index = true := by
  refine others_iff ?_ (fun other => apart.users index user id other given isId) fun other =>
    apart'.users index user id other (same.users index other ▸ given) isId
  rintro rfl
  exact ⟨user, given, isId⟩

theorem others_author_iff {tweet : SubmitTweet} {id : Int}
    (given : payload.tweets[index]? = some tweet)
    (isId : parseI64Id tweet.authorId "tweet.authorId" = .ok id) :
    (item.others payload payload').user id ↔
      (item.others payload payload').tweetItem index = true := by
  refine others_iff ?_ (fun other => apart.authors index tweet id other given isId) fun other =>
    apart'.authors index tweet id other (same.tweets index other ▸ given) isId
  rintro rfl
  exact ⟨tweet, given, isId⟩

theorem others_place_iff {tweet : SubmitTweet} {id : String}
    (given : payload.tweets[index]? = some tweet)
    (isId : tweet.place.bind SubmitTweetPlace.id = some id) :
    (item.others payload payload').place id ↔
      (item.others payload payload').tweetItem index = true := by
  refine others_iff ?_ (fun other => apart.places index tweet id other given isId) fun other =>
    apart'.places index tweet id other (same.tweets index other ▸ given) isId
  rintro rfl
  exact ⟨tweet, given, isId⟩

theorem others_tweet_iff {tweet : SubmitTweet} {id : Int}
    (given : payload.tweets[index]? = some tweet) (isId : parseI64Id tweet.id "tweet.id" = .ok id) :
    (item.others payload payload').tweet id ↔
      (item.others payload payload').tweetItem index = true := by
  refine others_iff ?_ (apart.tweet given isId) fun other =>
    apart'.tweet (same.tweets index other ▸ given) isId other
  rintro rfl
  exact ⟨tweet, given, isId⟩

theorem others_media_iff {media : SubmitMedia} {id : Int}
    (given : payload.media[index]? = some media) (isId : parseI64Id media.id "media.id" = .ok id) :
    (item.others payload payload').media id ↔
      (item.others payload payload').mediaItem index = true := by
  refine others_iff ?_ (apart.medium given isId) fun other =>
    apart'.medium (same.media index other ▸ given) isId other
  rintro rfl
  exact ⟨media, given, isId⟩

end Items

/-! ## Prepared items of two calls -/

section Collect

variable {α β : Type} {other : Nat → Bool}

theorem filter_zipIdx_nil {items : List α} (start : Nat)
    (same : ∀ index, other (start + index) = true → items[index]? = none) :
    (items.zipIdx start).filter (fun entry => other entry.2) = [] := by
  rw [List.filter_eq_nil_iff]
  intro entry member isOther
  obtain ⟨item, index⟩ := entry
  obtain ⟨from_, isItem⟩ := List.mk_mem_zipIdx_iff_le_and_getElem?_sub.mp member
  have none := same (index - start) (by rw [Nat.add_sub_cancel' from_]; exact isOther)
  rw [isItem] at none
  cases none

/-- The entries at other places are the same. -/
theorem filter_zipIdx_alike {items items' : List α} (start : Nat)
    (same : ∀ index, other (start + index) = true → items[index]? = items'[index]?) :
    (items.zipIdx start).filter (fun entry => other entry.2) =
      (items'.zipIdx start).filter fun entry => other entry.2 := by
  induction items generalizing items' start with
  | nil => exact (filter_zipIdx_nil start fun index isOther => (same index isOther).symm).symm
  | cons item items inductionHypothesis =>
    cases items' with
    | nil => exact filter_zipIdx_nil start same
    | cons item' items' =>
      have rest := @inductionHypothesis items' (start + 1) fun index isOther => by
        have later := same (index + 1) (by rw [← Nat.add_assoc, Nat.add_right_comm]; exact isOther)
        rwa [List.getElem?_cons_succ, List.getElem?_cons_succ] at later
      rw [List.zipIdx_cons, List.zipIdx_cons, List.filter_cons, List.filter_cons, rest]
      split
      next isOther =>
        have first := same 0 isOther
        rw [List.getElem?_cons_zero, List.getElem?_cons_zero, Option.some.injEq] at first
        rw [first]
      next => rfl

theorem filter_collect (part : α → Option β) (items : List α) :
    (collect part items).filter (fun entry => other entry.index) =
      (items.zipIdx.filter fun entry => other entry.2).filterMap fun entry =>
        (part entry.1).map fun value => ⟨entry.2, value⟩ := by
  unfold collect
  rw [List.filter_filterMap, List.filterMap_filter]
  congr 1
  funext entry
  cases given : part entry.1 <;> cases isOther : other entry.2 <;> simp [given, isOther]

theorem filter_collect_alike {items items' : List α} (part : α → Option β)
    (same : ∀ index, other index = true → items[index]? = items'[index]?) :
    (collect part items).filter (fun entry => other entry.index) =
      (collect part items').filter fun entry => other entry.index := by
  rw [filter_collect, filter_collect]
  congr 1
  exact filter_zipIdx_alike 0 fun index isOther => by
    rw [Nat.zero_add] at isOther
    exact same index isOther

end Collect

/-- The objects of a batch with a key in the scope are those of the other items. -/
structure BatchInside (others : Others) (prepared : PreparedSubmitBatch) : Prop where
  users : ∀ entry ∈ prepared.users, others.user entry.value.id ↔ others.userItem entry.index = true
  tweetAuthors : ∀ entry ∈ prepared.tweetAuthors,
    others.user entry.value.id ↔ others.tweetItem entry.index = true
  userSnapshots : ∀ entry ∈ prepared.userSnapshots,
    others.user entry.value.userId ↔ others.userItem entry.index = true
  userStats : ∀ entry ∈ prepared.userStats,
    others.user entry.value.userId ↔ others.userItem entry.index = true
  media : ∀ entry ∈ prepared.media,
    others.media entry.value.id ↔ others.mediaItem entry.index = true
  mediaResources : ∀ entry ∈ prepared.mediaResources,
    others.media entry.value.mediaId ↔ others.mediaItem entry.index = true
  tweetPlaces : ∀ entry ∈ prepared.tweetPlaces,
    others.place entry.value.id ↔ others.tweetItem entry.index = true
  tweets : ∀ entry ∈ prepared.tweets,
    others.tweet entry.value.id ↔ others.tweetItem entry.index = true
  tweetEdits : ∀ entry ∈ prepared.tweetEdits,
    others.tweet entry.value.tweetId ↔ others.tweetItem entry.index = true
  tweetPolicies : ∀ entry ∈ prepared.tweetPolicies,
    others.tweet entry.value.tweetId ↔ others.tweetItem entry.index = true
  tweetCommunityNotes : ∀ entry ∈ prepared.tweetCommunityNotes,
    others.tweet entry.value.tweetId ↔ others.tweetItem entry.index = true
  tweetStats : ∀ entry ∈ prepared.tweetStats,
    others.tweet entry.value.tweetId ↔ others.tweetItem entry.index = true
  tweetRelations : ∀ entry ∈ prepared.tweetRelations,
    others.tweet entry.value.tweetId ↔ others.tweetItem entry.index = true

section Prepared

variable {item : ItemRef} {payload payload' : SubmitTweetRequest}
  {context context' : PrepareContext} {clocks clocks' : Clocks} {prepared : PreparedSubmitBatch}

theorem place_id {tweet : SubmitTweet} {place : TweetPlace}
    (isPlace : tweet.place.bind convertTweetPlace = some place) :
    tweet.place.bind SubmitTweetPlace.id = some place.id := by
  obtain ⟨sent, isSent, converted⟩ := Option.bind_eq_some_iff.mp isPlace
  obtain ⟨id, isId, rfl⟩ := Option.map_eq_some_iff.mp converted
  rw [isSent]
  exact isId

theorem batchInside_of_provenance (same : SameExcept item payload payload')
    (apart : NothingShared item payload) (apart' : NothingShared item payload')
    (provenance : Provenance context clocks payload prepared) :
    BatchInside (item.others payload payload') prepared := by
  have ofTweet : ∀ {index : Nat} {converted : ConvertedTweet},
      ConvertedFrom context clocks payload index converted →
      ∃ tweetId, converted.OfTweet tweetId ∧ ((item.others payload payload').tweet tweetId ↔
        (item.others payload payload').tweetItem index = true) := by
    intro index converted from_
    obtain ⟨tweet, tweetId, authorId, ⟨taken, _⟩, ran⟩ := from_
    exact ⟨tweetId, ofTweet_of_convertTweet ran,
      others_tweet_iff same apart apart' taken.isItem taken.isParsed⟩
  constructor
  case users =>
    intro entry member
    obtain ⟨user, userId, taken, isValue⟩ := (provenance.users _ _).mp member
    rw [isValue]
    exact others_user_iff same apart apart' taken.isItem taken.isParsed
  case tweetAuthors =>
    intro entry member
    obtain ⟨tweet, tweetId, authorId, ⟨taken, isAuthor⟩, isValue⟩ :=
      (provenance.tweetAuthors _ _).mp member
    rw [isValue]
    exact others_author_iff same apart apart' taken.isItem isAuthor
  case userSnapshots =>
    intro entry member
    obtain ⟨user, userId, taken, profile, _, ran⟩ := (provenance.userSnapshots _ _).mp member
    rw [convertUserSnapshot_userId ran]
    exact others_user_iff same apart apart' taken.isItem taken.isParsed
  case userStats =>
    intro entry member
    obtain ⟨user, userId, taken, stats, _, ran⟩ := (provenance.userStats _ _).mp member
    rw [convertUserStats_userId ran]
    exact others_user_iff same apart apart' taken.isItem taken.isParsed
  case media =>
    intro entry member
    obtain ⟨media, mediaId, taken, ran⟩ := (provenance.media _ _).mp member
    rw [convertMedia_id ran]
    exact others_media_iff same apart apart' taken.isItem taken.isParsed
  case mediaResources =>
    intro entry member
    obtain ⟨media, mediaId, taken, ran⟩ := (provenance.mediaResources _ _).mp member
    rw [convertMediaResource_mediaId ran]
    exact others_media_iff same apart apart' taken.isItem taken.isParsed
  case tweetPlaces =>
    intro entry member
    obtain ⟨tweet, tweetId, authorId, ⟨taken, _⟩, isPlace⟩ :=
      (provenance.tweetPlaces _ _).mp member
    exact others_place_iff same apart apart' taken.isItem (place_id isPlace)
  case tweets =>
    intro entry member
    obtain ⟨converted, from_, isValue⟩ := (provenance.tweets _ _).mp member
    obtain ⟨tweetId, isTweet, inside⟩ := ofTweet from_
    rw [← isValue, isTweet.tweet]
    exact inside
  case tweetEdits =>
    intro entry member
    obtain ⟨converted, from_, isValue⟩ := (provenance.tweetEdits _ _).mp member
    obtain ⟨tweetId, isTweet, inside⟩ := ofTweet from_
    rw [isTweet.edit _ isValue]
    exact inside
  case tweetPolicies =>
    intro entry member
    obtain ⟨converted, from_, isValue⟩ := (provenance.tweetPolicies _ _).mp member
    obtain ⟨tweetId, isTweet, inside⟩ := ofTweet from_
    rw [isTweet.policy _ isValue]
    exact inside
  case tweetCommunityNotes =>
    intro entry member
    obtain ⟨converted, from_, isValue⟩ := (provenance.tweetCommunityNotes _ _).mp member
    obtain ⟨tweetId, isTweet, inside⟩ := ofTweet from_
    rw [isTweet.communityNote _ isValue]
    exact inside
  case tweetStats =>
    intro entry member
    obtain ⟨converted, from_, isValue⟩ := (provenance.tweetStats _ _).mp member
    obtain ⟨tweetId, isTweet, inside⟩ := ofTweet from_
    rw [isTweet.stats _ isValue]
    exact inside
  case tweetRelations =>
    intro entry member
    obtain ⟨converted, from_, isValue⟩ := (provenance.tweetRelations _ _).mp member
    obtain ⟨tweetId, isTweet, inside⟩ := ofTweet from_
    have sameId : entry.value.tweetId = tweetId := by
      rw [← isValue]
      exact isTweet.tweet
    rw [sameId]
    exact inside

/-! ## Two preparations -/

/-- The lookups of the other items are answered alike, as far as they are made. -/
structure LookupsAlike (item : ItemRef) (payload : SubmitTweetRequest)
    (context context' : PrepareContext) : Prop where
  users : ∀ index user id, item ≠ .user index → payload.users[index]? = some user →
    parseI64Id user.id "user.id" = .ok id → UserLookupsAlike context context' user
  tweets : ∀ index tweet id authorId, item ≠ .tweet index → payload.tweets[index]? = some tweet →
    parseI64Id tweet.id "tweet.id" = .ok id →
    parseI64Id tweet.authorId "tweet.authorId" = .ok authorId →
    TweetLookupsAlike context context' tweet

/-- The request says when each of the other items was observed. -/
structure TimesGiven (item : ItemRef) (payload : SubmitTweetRequest) : Prop where
  users : ∀ index user, item ≠ .user index → payload.users[index]? = some user → UserTimesGiven user
  tweets : ∀ index tweet, item ≠ .tweet index → payload.tweets[index]? = some tweet →
    ∀ stats ∈ tweet.stats, TimeGiven stats.fetchedAt tweet.fetchedAt
  media : ∀ index media, item ≠ .media index → payload.media[index]? = some media →
    TimeGiven (media.resource.bind SubmitMediaResource.fetchedAt) media.fetchedAt

theorem lastValidIndex_of_distinct {α : Type} {field : String} {id : α → String} {items : List α}
    (distinct : DistinctIds field id items) {index : Nat} {given : α} {parsed : Int}
    (isItem : items[index]? = some given) (has : parseI64Id (id given) field = .ok parsed) :
    lastValidIndex field id items parsed = some index := by
  refine lastValidIndex_eq_some_iff.mpr ⟨given, isItem, has, ?_⟩
  intro later other isLater isOther otherHas
  exact absurd (distinct index later given other parsed isItem isOther has otherHas)
    (Nat.ne_of_lt isLater)

variable (same : SameExcept item payload payload') (apart : NothingShared item payload)
  (apart' : NothingShared item payload')

include same apart apart'

theorem preparedUsers_alike (times : TimesGiven item payload)
    (lookups : LookupsAlike item payload context context') (index : Nat)
    (other : item ≠ .user index) :
    (preparedUsers context clocks payload)[index]? =
      (preparedUsers context' clocks' payload')[index]? := by
  rw [preparedUsers_getElem?, preparedUsers_getElem?, ← same.users index other]
  refine Option.map_congr fun user given => ?_
  have given' : payload'.users[index]? = some user := same.users index other ▸ given
  exact prepareUser_alike (fun id isId =>
    (lastValidIndex_of_distinct apart.userIds given isId).trans
      (lastValidIndex_of_distinct apart'.userIds given' isId).symm)
    (fun id => lookups.users index user id other given) (times.users index user other given) _ _

theorem preparedMedia_alike (times : TimesGiven item payload)
    (sameUuids : context.parseUuid = context'.parseUuid) (index : Nat)
    (other : item ≠ .media index) :
    (preparedMedia context clocks payload)[index]? =
      (preparedMedia context' clocks' payload')[index]? := by
  rw [preparedMedia_getElem?, preparedMedia_getElem?, ← same.media index other]
  refine Option.map_congr fun media given => ?_
  have given' : payload'.media[index]? = some media := same.media index other ▸ given
  exact prepareMedia_alike (fun id isId =>
    (lastValidIndex_of_distinct apart.mediaIds given isId).trans
      (lastValidIndex_of_distinct apart'.mediaIds given' isId).symm)
    sameUuids (times.media index media other given) _ _

theorem preparedTweets_alike (times : TimesGiven item payload)
    (lookups : LookupsAlike item payload context context') (index : Nat)
    (other : item ≠ .tweet index) :
    (preparedTweets context clocks payload)[index]? =
      (preparedTweets context' clocks' payload')[index]? := by
  rw [preparedTweets_getElem?, preparedTweets_getElem?, ← same.tweets index other]
  refine Option.map_congr fun tweet given => ?_
  have given' : payload'.tweets[index]? = some tweet := same.tweets index other ▸ given
  exact prepareTweet_alike (fun id isId =>
    (lastValidIndex_of_distinct apart.tweetIds given isId).trans
      (lastValidIndex_of_distinct apart'.tweetIds given' isId).symm)
    (fun id authorId => lookups.tweets index tweet id authorId other given)
    (times.tweets index tweet other given) _ _

omit same apart apart' in
/-- Prepared items that are the same but for one make batches that are alike for the others. -/
theorem batchesAlike_collectBatch {others : Others} {users users' : List PreparedUser}
    {media media' : List PreparedMedia} {tweets tweets' : List PreparedTweet}
    (sameUsers : ∀ index, others.userItem index = true → users[index]? = users'[index]?)
    (sameMedia : ∀ index, others.mediaItem index = true → media[index]? = media'[index]?)
    (sameTweets : ∀ index, others.tweetItem index = true → tweets[index]? = tweets'[index]?)
    (inside : BatchInside others (collectBatch users media tweets))
    (inside' : BatchInside others (collectBatch users' media' tweets')) :
    BatchesAlike others (collectBatch users media tweets) (collectBatch users' media' tweets') where
  userResults index isOther := by
    simp only [collectBatch, List.getElem?_map, sameUsers index isOther]
  tweetResults index isOther := by
    simp only [collectBatch, List.getElem?_map, sameTweets index isOther]
  mediaResults index isOther := by
    simp only [collectBatch, List.getElem?_map, sameMedia index isOther]
  users :=
    ⟨filter_collect_alike PreparedUser.user sameUsers, inside.users,
      inside'.users⟩
  tweetAuthors :=
    ⟨filter_collect_alike PreparedTweet.author sameTweets, inside.tweetAuthors,
      inside'.tweetAuthors⟩
  userSnapshots :=
    ⟨filter_collect_alike PreparedUser.snapshot sameUsers, inside.userSnapshots,
      inside'.userSnapshots⟩
  userStats :=
    ⟨filter_collect_alike PreparedUser.stats sameUsers, inside.userStats,
      inside'.userStats⟩
  media :=
    ⟨filter_collect_alike PreparedMedia.media sameMedia, inside.media,
      inside'.media⟩
  mediaResources :=
    ⟨filter_collect_alike PreparedMedia.resource sameMedia, inside.mediaResources,
      inside'.mediaResources⟩
  tweetPlaces :=
    ⟨filter_collect_alike PreparedTweet.place sameTweets, inside.tweetPlaces,
      inside'.tweetPlaces⟩
  tweets :=
    ⟨filter_collect_alike (fun tweet => tweet.converted.map ConvertedTweet.tweet) sameTweets,
      inside.tweets, inside'.tweets⟩
  tweetEdits :=
    ⟨filter_collect_alike (fun tweet => tweet.converted.bind ConvertedTweet.edit) sameTweets,
      inside.tweetEdits, inside'.tweetEdits⟩
  tweetPolicies :=
    ⟨filter_collect_alike (fun tweet => tweet.converted.bind ConvertedTweet.policy) sameTweets,
      inside.tweetPolicies, inside'.tweetPolicies⟩
  tweetCommunityNotes :=
    ⟨filter_collect_alike (fun tweet => tweet.converted.bind ConvertedTweet.communityNote)
      sameTweets, inside.tweetCommunityNotes, inside'.tweetCommunityNotes⟩
  tweetStats :=
    ⟨filter_collect_alike (fun tweet => tweet.converted.bind ConvertedTweet.stats) sameTweets,
      inside.tweetStats, inside'.tweetStats⟩
  tweetRelations :=
    ⟨filter_collect_alike (fun tweet => tweet.converted.map ConvertedTweet.relations) sameTweets,
      inside.tweetRelations, inside'.tweetRelations⟩

omit same apart apart' in
/-- What a request is prepared with. -/
def prepareContext (store : LookupStore) (parseUuid : String → Option Uuid)
    (payload : SubmitTweetRequest) : PrepareContext :=
  ⟨store, (resolveSubmitLookupIds store payload).toOption, parseUuid⟩

theorem batchesAlike_prepareSubmitBatch {store store' : LookupStore}
    {parseUuid : String → Option Uuid} (times : TimesGiven item payload)
    (lookups : LookupsAlike item payload (prepareContext store parseUuid payload)
      (prepareContext store' parseUuid payload')) :
    BatchesAlike (item.others payload payload') (prepareSubmitBatch store parseUuid clocks payload)
      (prepareSubmitBatch store' parseUuid clocks' payload') := by
  have isOther : ∀ {other : ItemRef}, decide (item ≠ other) = true → item ≠ other :=
    of_decide_eq_true
  refine batchesAlike_collectBatch
    (fun index other => preparedUsers_alike same apart apart' times lookups index (isOther other))
    (fun index other => preparedMedia_alike same apart apart' times rfl index (isOther other))
    (fun index other => preparedTweets_alike same apart apart' times lookups index (isOther other))
    ?_ ?_
  · exact batchInside_of_provenance same apart apart'
      provenance_prepareSubmitBatch
  · rw [others_symm]
    exact batchInside_of_provenance same.symm apart' apart
      provenance_prepareSubmitBatch

end Prepared

/-! ## Keys -/

section Keyed

variable {payload : SubmitTweetRequest} {context : PrepareContext} {clocks : Clocks}
  {prepared : PreparedSubmitBatch}

/-- An item with an id stands at one index. -/
theorem Taken.unique {α : Type} {field : String} {id : α → String} {items : List α}
    {index index' : Nat} {item item' : α} {parsed : Int}
    (taken : Taken field id items index item parsed)
    (taken' : Taken field id items index' item' parsed) : index = index' ∧ item = item' := by
  have sameIndex := Option.some.inj (taken.isLast.symm.trans taken'.isLast)
  subst sameIndex
  exact ⟨rfl, Option.some.inj (taken.isItem.symm.trans taken'.isItem)⟩

/-- Objects with one id come from one item, so they are one object. -/
theorem distinctBy_taken {α β : Type} {field : String} {id : α → String} {items : List α}
    {objects : List (Indexed β)} {key : β → Int} {gives : Nat → α → Int → Except String β}
    (from_ : ∀ entry ∈ objects, ∃ item,
      Taken field id items entry.index item (key entry.value) ∧
        gives entry.index item (key entry.value) = .ok entry.value) :
    DistinctBy (fun entry : Indexed β => key entry.value) objects := by
  intro entry member entry' member' sameKey
  have sameId : key entry.value = key entry'.value := sameKey
  obtain ⟨item, taken, given⟩ := from_ entry member
  obtain ⟨item', taken', given'⟩ := from_ entry' member'
  rw [← sameId] at taken' given'
  obtain ⟨sameIndex, sameItem⟩ := taken.unique taken'
  subst sameItem
  rw [← sameIndex] at given'
  cases entry
  cases entry'
  rw [Indexed.mk.injEq]
  exact ⟨sameIndex, Except.ok.inj (given.symm.trans given')⟩

theorem distinctBy_converted {β : Type} {objects : List (Indexed β)} {key : β → Int}
    {part : ConvertedTweet → Option β}
    (from_ : ∀ index value, ⟨index, value⟩ ∈ objects → ∃ converted,
      ConvertedFrom context clocks payload index converted ∧ part converted = some value)
    (ofTweet : ∀ converted tweetId value, converted.OfTweet tweetId →
      part converted = some value → key value = tweetId) :
    DistinctBy key (objects.map Indexed.value) := by
  intro value member value' member' sameId
  obtain ⟨entry, isEntry, rfl⟩ := List.mem_map.mp member
  obtain ⟨entry', isEntry', rfl⟩ := List.mem_map.mp member'
  obtain ⟨converted, fromTweet, isPart⟩ := from_ entry.index entry.value isEntry
  obtain ⟨converted', fromTweet', isPart'⟩ := from_ entry'.index entry'.value isEntry'
  have keyed : ∀ {index : Nat} {converted : ConvertedTweet} {value : β},
      ConvertedFrom context clocks payload index converted → part converted = some value →
      key value = converted.tweet.id := by
    intro index converted value fromTweet isPart
    obtain ⟨_, tweetId, _, _, ran⟩ := fromTweet
    have isTweet := ofTweet_of_convertTweet ran
    rw [isTweet.tweet, ofTweet converted tweetId value isTweet isPart]
  rw [keyed fromTweet isPart, keyed fromTweet' isPart'] at sameId
  have same := eq_of_convertedFrom fromTweet fromTweet' sameId
  rw [same, isPart', Option.some.injEq] at isPart
  exact isPart.symm

/-- The ids of a converted tweet's refs. -/
structure ConvertedTweet.RefsOf (converted : ConvertedTweet) (tweetId : Int)
    (mediaIds : List String) : Prop where
  mediaRefs : ∀ ref ∈ converted.mediaRefs, ref.tweetId = tweetId ∧
    ∃ mediaId ∈ mediaIds, parseI64Id mediaId "tweet.content.mediaIds" = .ok ref.mediaId
  mentionRefs : ∀ ref ∈ converted.mentionRefs, ref.tweetId = tweetId
  hashtagRefs : ∀ ref ∈ converted.hashtagRefs, ref.tweetId = tweetId
  symbolRefs : ∀ ref ∈ converted.symbolRefs, ref.tweetId = tweetId

theorem refsOf_of_convertTweet {store : LookupStore} {lookupIds : Option SubmitLookupIds}
    {tweetId authorId : Int} {placeId : Option String} {value : SubmitTweet} {now : OffsetDateTime}
    {converted : ConvertedTweet}
    (ran : convertTweet store lookupIds tweetId authorId placeId value now = .ok converted) :
    converted.RefsOf tweetId value.content.mediaIds := by
  obtain ⟨_, mentions, hashtags, symbols, mediaRefs, areRefs, areDistinct⟩ := convertTweet_ok ran
  constructor
  · intro ref member
    refine ⟨(ordered_convertTweet ran).2 ref member, ?_⟩
    rw [areDistinct] at member
    obtain ⟨⟨mediaId, index⟩, isItem, made⟩ :=
      exists_of_forall₂ (mapM_eq_ok.mp areRefs) (mem_of_mem_distinctOn member)
    obtain ⟨parsed, isParsed, made⟩ := bind_eq_ok made
    refine ⟨mediaId, List.fst_mem_of_mem_zipIdx isItem, ?_⟩
    split at made
    next =>
      cases made
      exact isParsed
    next => cases made
  · intro ref member
    rw [mentions] at member
    rw [← ((mem_collectRefs fun _ => rfl).mp member).1]
  · intro ref member
    rw [hashtags] at member
    rw [← ((mem_collectRefs fun _ => rfl).mp member).1]
  · intro ref member
    rw [symbols] at member
    rw [← ((mem_collectRefs fun _ => rfl).mp member).1]

variable {item : ItemRef} {payload' : SubmitTweetRequest}

/-- The other tweets of a request name no media of the item. -/
theorem others_mediaRef (same : SameExcept item payload payload')
    (apart : NothingShared item payload) (apart' : NothingShared item payload') {index : Nat}
    {tweet : SubmitTweet}
    (given : payload.tweets[index]? = some tweet)
    (isOther : (item.others payload payload').tweetItem index = true) {mediaId : String} {id : Int}
    (member : mediaId ∈ tweet.content.mediaIds)
    (isId : parseI64Id mediaId "tweet.content.mediaIds" = .ok id) :
    (item.others payload payload').media id := by
  have other : item ≠ .tweet index := of_decide_eq_true isOther
  exact ⟨apart.mediaRefs index tweet other given mediaId member id isId,
    apart'.mediaRefs index tweet other (same.tweets index other ▸ given) mediaId member id isId⟩

theorem relationsApart_of_provenance (same : SameExcept item payload payload')
    (apart : NothingShared item payload) (apart' : NothingShared item payload')
    (provenance : Provenance context clocks payload prepared) :
    RelationsApart (item.others payload payload').toScope
      (prepared.tweetRelations.map Indexed.value) := by
  have refsOf : ∀ relations ∈ prepared.tweetRelations.map Indexed.value,
      ∃ index tweet converted, payload.tweets[index]? = some tweet ∧
        ConvertedTweet.relations converted = relations ∧
        converted.RefsOf relations.tweetId tweet.content.mediaIds ∧
        ((item.others payload payload').tweet relations.tweetId ↔
          (item.others payload payload').tweetItem index = true) := by
    intro relations member
    obtain ⟨entry, isEntry, rfl⟩ := List.mem_map.mp member
    obtain ⟨converted, from_, isValue⟩ :=
      (provenance.tweetRelations entry.index entry.value).mp isEntry
    obtain ⟨tweet, tweetId, authorId, ⟨taken, _⟩, ran⟩ := from_
    have sameId : entry.value.tweetId = tweetId := by
      rw [← isValue]
      exact (ofTweet_of_convertTweet ran).tweet
    rw [sameId]
    exact ⟨entry.index, tweet, converted, taken.isItem, isValue, refsOf_of_convertTweet ran,
      others_tweet_iff same apart apart' taken.isItem taken.isParsed⟩
  constructor
  · exact @distinctBy_converted payload context clocks _ _ _
      (fun converted => some converted.relations)
      (fun index value member => by
        obtain ⟨converted, from_, isValue⟩ := (provenance.tweetRelations index value).mp member
        exact ⟨converted, from_, congrArg some isValue⟩)
      fun converted tweetId value isTweet isValue => by
        rw [← Option.some.inj isValue]
        exact isTweet.tweet
  · intro relations member ref isRef
    obtain ⟨_, _, converted, _, rfl, refs, _⟩ := refsOf relations member
    exact (refs.mediaRefs ref isRef).1
  · intro relations member ref isRef
    obtain ⟨_, _, converted, _, rfl, refs, _⟩ := refsOf relations member
    exact refs.mentionRefs ref isRef
  · intro relations member ref isRef
    obtain ⟨_, _, converted, _, rfl, refs, _⟩ := refsOf relations member
    exact refs.hashtagRefs ref isRef
  · intro relations member ref isRef
    obtain ⟨_, _, converted, _, rfl, refs, _⟩ := refsOf relations member
    exact refs.symbolRefs ref isRef
  · intro relations member inside ref isRef
    obtain ⟨index, tweet, converted, given, rfl, refs, isOther⟩ := refsOf relations member
    obtain ⟨_, mediaId, isSent, isId⟩ := refs.mediaRefs ref isRef
    exact others_mediaRef same apart apart' given (isOther.mp inside) isSent isId

/-- The batch has one observation of each subject. -/
structure PreparedSubmitBatch.Single (prepared : PreparedSubmitBatch) : Prop where
  userSnapshots : DistinctBy UserSnapshot.userId (prepared.userSnapshots.map Indexed.value)
  userStats : DistinctBy UserStats.userId (prepared.userStats.map Indexed.value)
  mediaResources : DistinctBy (fun item : Indexed MediaResource => item.value.mediaId)
    prepared.mediaResources
  tweetStats : DistinctBy TweetStats.tweetId (prepared.tweetStats.map Indexed.value)

theorem single_prepareSubmitBatch {store : LookupStore} {parseUuid : String → Option Uuid} :
    (prepareSubmitBatch store parseUuid clocks payload).Single := by
  let context := prepareContext store parseUuid payload
  have provenance : Provenance context clocks payload
      (prepareSubmitBatch store parseUuid clocks payload) := provenance_prepareSubmitBatch
  constructor
  case userSnapshots =>
    apply DistinctBy.map
    refine @distinctBy_taken _ _ "user.id" SubmitUser.id payload.users _
      UserSnapshot.userId (fun index (user : SubmitUser) userId =>
      (user.profile.map fun profile => convertUserSnapshot context.store context.lookupIds userId
        user profile (clocks.user index)).getD (.error "")) fun entry member => ?_
    obtain ⟨user, userId, taken, profile, isProfile, ran⟩ :=
      (provenance.userSnapshots entry.index entry.value).mp member
    rw [convertUserSnapshot_userId ran]
    refine ⟨user, taken, ?_⟩
    rw [isProfile]
    exact ran
  case userStats =>
    apply DistinctBy.map
    refine @distinctBy_taken _ _ "user.id" SubmitUser.id payload.users _
      UserStats.userId (fun index (user : SubmitUser) userId =>
      (user.stats.map fun stats => convertUserStats userId user.fetchedAt stats
        (clocks.user index)).getD (.error "")) fun entry member => ?_
    obtain ⟨user, userId, taken, stats, isStats, ran⟩ :=
      (provenance.userStats entry.index entry.value).mp member
    rw [convertUserStats_userId ran]
    refine ⟨user, taken, ?_⟩
    rw [isStats]
    exact ran
  case mediaResources =>
    refine @distinctBy_taken _ _ "media.id" SubmitMedia.id payload.media _
      MediaResource.mediaId (fun index media mediaId =>
      (convertMediaResource mediaId media (clocks.media index)).getD (.error ""))
      fun entry member => ?_
    obtain ⟨media, mediaId, taken, ran⟩ :=
      (provenance.mediaResources entry.index entry.value).mp member
    rw [convertMediaResource_mediaId ran]
    refine ⟨media, taken, ?_⟩
    rw [ran]
    rfl
  case tweetStats =>
    exact distinctBy_converted (fun index value => (provenance.tweetStats index value).mp)
      fun _ _ value isTweet => isTweet.stats value

theorem keyed_prepareSubmitBatch {store : LookupStore} {parseUuid : String → Option Uuid}
    (same : SameExcept item payload payload') (apart : NothingShared item payload)
    (apart' : NothingShared item payload') :
    (prepareSubmitBatch store parseUuid clocks payload).Keyed
      (item.others payload payload').toScope := by
  let context := prepareContext store parseUuid payload
  have provenance : Provenance context clocks payload
      (prepareSubmitBatch store parseUuid clocks payload) := provenance_prepareSubmitBatch
  have single := @single_prepareSubmitBatch payload clocks store parseUuid
  have lengths : (prepareSubmitBatch store parseUuid clocks payload).userResults.length =
        payload.users.length ∧
      (prepareSubmitBatch store parseUuid clocks payload).tweetResults.length =
        payload.tweets.length ∧
      (prepareSubmitBatch store parseUuid clocks payload).mediaResults.length =
        payload.media.length := by
    simp [prepareSubmitBatch, collectBatch, preparedUsers, preparedTweets, preparedMedia]
  constructor
  case userSnapshots => exact single.userSnapshots
  case userStats => exact single.userStats
  case media =>
    apply DistinctBy.map
    refine @distinctBy_taken _ _ "media.id" SubmitMedia.id payload.media _ Media.id
      (fun _ media mediaId => convertMedia context.parseUuid mediaId media) fun entry member => ?_
    obtain ⟨media, mediaId, taken, ran⟩ := (provenance.media entry.index entry.value).mp member
    rw [convertMedia_id ran]
    exact ⟨media, taken, ran⟩
  case mediaResources => exact single.mediaResources
  case tweets =>
    refine @distinctBy_converted payload context clocks _ _ _
      (fun converted => some converted.tweet) (fun index value member => ?_) ?_
    · obtain ⟨converted, from_, isValue⟩ := (provenance.tweets index value).mp member
      exact ⟨converted, from_, congrArg some isValue⟩
    · intro converted tweetId value isTweet isValue
      rw [← Option.some.inj isValue]
      exact isTweet.tweet
  case tweetEdits =>
    exact distinctBy_converted (fun index value => (provenance.tweetEdits index value).mp)
      fun _ _ value isTweet => isTweet.edit value
  case tweetPolicies =>
    exact distinctBy_converted (fun index value => (provenance.tweetPolicies index value).mp)
      fun _ _ value isTweet => isTweet.policy value
  case tweetCommunityNotes =>
    exact distinctBy_converted (fun index value => (provenance.tweetCommunityNotes index value).mp)
      fun _ _ value isTweet => isTweet.communityNote value
  case tweetStats => exact single.tweetStats
  case tweetRelations => exact relationsApart_of_provenance same apart apart' provenance
  case userPlaces =>
    exact fun _ member => lengths.1 ▸ lt_of_mem_userIndices provenance member
  case tweetPlaces =>
    exact fun _ member => lengths.2.1 ▸ lt_of_mem_tweetIndices provenance member
  case mediaPlaces =>
    exact fun _ member => lengths.2.2 ▸ lt_of_mem_mediaIndices provenance member

end Keyed

end TweetDb.Submit
