import TweetDb.Submit.PrepareLoop

/-! # Where the prepared objects come from

Every object of the prepared batch was converted from the item at its index,
and every object that the conversion of an item gives is there.  Fatal and
shadowed items give none.
-/

namespace TweetDb.Submit

open TweetModel
open TweetDb.Tweet (TweetCommunityNote TweetEdit TweetPlace TweetPolicy TweetRow TweetStats
  TwitterUser UserStats)

/-! ## Items and objects -/

/-- The item at an index has a valid id and is the last one with it. -/
structure Taken {α : Type} (field : String) (id : α → String) (items : List α) (index : Nat)
    (item : α) (parsed : Int) : Prop where
  isItem : items[index]? = some item
  isParsed : parseI64Id (id item) field = .ok parsed
  isLast : lastValidIndex field id items parsed = some index

section Provenance

variable (context : PrepareContext) (clocks : Clocks) (payload : SubmitTweetRequest)

def TakenUser : Nat → SubmitUser → Int → Prop := Taken "user.id" SubmitUser.id payload.users

def TakenMedia : Nat → SubmitMedia → Int → Prop := Taken "media.id" SubmitMedia.id payload.media

/-- A tweet also needs an author with a valid id. -/
def TakenTweet (index : Nat) (tweet : SubmitTweet) (tweetId authorId : Int) : Prop :=
  Taken "tweet.id" SubmitTweet.id payload.tweets index tweet tweetId ∧
    parseI64Id tweet.authorId "tweet.authorId" = .ok authorId

/-- The tweet at an index converts to this. -/
def ConvertedFrom (index : Nat) (converted : ConvertedTweet) : Prop :=
  ∃ tweet tweetId authorId, TakenTweet payload index tweet tweetId authorId ∧
    convertTweet context.store context.lookupIds tweetId authorId
      ((tweet.place.bind convertTweetPlace).map TweetPlace.id) tweet (clocks.tweet index) =
        .ok converted

/-- The objects of a batch are those that the conversions of the items give. -/
structure Provenance (prepared : PreparedSubmitBatch) : Prop where
  users : ∀ index value, ⟨index, value⟩ ∈ prepared.users ↔
    ∃ user userId, TakenUser payload index user userId ∧
      value = ⟨userId, user.registeredAt.map roundedTimestamptz⟩
  userSnapshots : ∀ index value, ⟨index, value⟩ ∈ prepared.userSnapshots ↔
    ∃ user userId, TakenUser payload index user userId ∧ ∃ profile, user.profile = some profile ∧
      convertUserSnapshot context.store context.lookupIds userId user profile
        (clocks.user index) = .ok value
  userStats : ∀ index value, ⟨index, value⟩ ∈ prepared.userStats ↔
    ∃ user userId, TakenUser payload index user userId ∧ ∃ stats, user.stats = some stats ∧
      convertUserStats userId user.fetchedAt stats (clocks.user index) = .ok value
  media : ∀ index value, ⟨index, value⟩ ∈ prepared.media ↔
    ∃ media mediaId, TakenMedia payload index media mediaId ∧
      convertMedia context.parseUuid mediaId media = .ok value
  mediaResources : ∀ index value, ⟨index, value⟩ ∈ prepared.mediaResources ↔
    ∃ media mediaId, TakenMedia payload index media mediaId ∧
      convertMediaResource mediaId media (clocks.media index) = some (.ok value)
  tweetAuthors : ∀ index value, ⟨index, value⟩ ∈ prepared.tweetAuthors ↔
    ∃ tweet tweetId authorId, TakenTweet payload index tweet tweetId authorId ∧
      value = ⟨authorId, none⟩
  tweetPlaces : ∀ index value, ⟨index, value⟩ ∈ prepared.tweetPlaces ↔
    ∃ tweet tweetId authorId, TakenTweet payload index tweet tweetId authorId ∧
      tweet.place.bind convertTweetPlace = some value
  tweets : ∀ index value, ⟨index, value⟩ ∈ prepared.tweets ↔
    ∃ converted, ConvertedFrom context clocks payload index converted ∧
      converted.tweet = value
  tweetEdits : ∀ index value, ⟨index, value⟩ ∈ prepared.tweetEdits ↔
    ∃ converted, ConvertedFrom context clocks payload index converted ∧
      converted.edit = some value
  tweetPolicies : ∀ index value, ⟨index, value⟩ ∈ prepared.tweetPolicies ↔
    ∃ converted, ConvertedFrom context clocks payload index converted ∧
      converted.policy = some value
  tweetCommunityNotes : ∀ index value, ⟨index, value⟩ ∈ prepared.tweetCommunityNotes ↔
    ∃ converted, ConvertedFrom context clocks payload index converted ∧
      converted.communityNote = some value
  tweetStats : ∀ index value, ⟨index, value⟩ ∈ prepared.tweetStats ↔
    ∃ converted, ConvertedFrom context clocks payload index converted ∧
      converted.stats = some value
  tweetRelations : ∀ index value, ⟨index, value⟩ ∈ prepared.tweetRelations ↔
    ∃ converted, ConvertedFrom context clocks payload index converted ∧
      converted.relations = value

theorem mem_collect_map {α β γ : Type} (prepare : α → Nat → β) {part : β → Option γ}
    {items : List α} {index : Nat} {value : γ} :
    ⟨index, value⟩ ∈ collect part (items.zipIdx.map fun (item, index) => prepare item index) ↔
      ∃ item, items[index]? = some item ∧ part (prepare item index) = some value := by
  simp only [collect, List.mem_filterMap, Prod.exists, List.mem_zipIdx_iff_getElem?,
    Option.map_eq_some_iff, List.getElem?_map, List.getElem?_zipIdx, Indexed.mk.injEq,
    Nat.zero_add]
  constructor
  · intro ⟨_, position, ⟨_, _, ⟨item, isItem, same⟩, isPrepared⟩, _, given, isIndex, isValue⟩
    cases same
    subst isPrepared isIndex isValue
    exact ⟨_, isItem, given⟩
  · intro ⟨item, isItem, given⟩
    exact ⟨_, index, ⟨item, index, ⟨item, isItem, rfl⟩, rfl⟩, value, given, rfl, rfl⟩

/-! ## What an item gives -/

variable {context clocks payload} {now : OffsetDateTime} {lastIndex : Int → Option Nat}
  {index : Nat}

theorem preparedPart_eq_some {α : Type} {part : Option (Except String α)} {value : α} :
    preparedPart part = some value ↔ part = some (.ok value) := by
  cases part with
  | none => simp [preparedPart]
  | some part => cases part <;> simp [preparedPart, Except.toOption]

theorem prepareUser_user_eq_some {user : SubmitUser} {value : TwitterUser} :
    (prepareUser context now lastIndex index user).user = some value ↔
      ∃ userId, parseI64Id user.id "user.id" = .ok userId ∧ lastIndex userId = some index ∧
        value = ⟨userId, user.registeredAt.map roundedTimestamptz⟩ := by
  unfold prepareUser
  cases parseI64Id user.id "user.id" with
  | error error => simp [rejectedUser]
  | ok userId =>
    by_cases isLast : lastIndex userId = some index <;> simp [isLast, rejectedUser, eq_comm]

theorem prepareUser_snapshot_eq_some {user : SubmitUser} {value : UserSnapshot} :
    (prepareUser context now lastIndex index user).snapshot = some value ↔
      ∃ userId, parseI64Id user.id "user.id" = .ok userId ∧ lastIndex userId = some index ∧
        ∃ profile, user.profile = some profile ∧
          convertUserSnapshot context.store context.lookupIds userId user profile now =
            .ok value := by
  unfold prepareUser
  cases parseI64Id user.id "user.id" with
  | error error => simp [rejectedUser]
  | ok userId =>
    by_cases isLast : lastIndex userId = some index <;>
      simp [isLast, rejectedUser, preparedPart_eq_some]

theorem prepareUser_stats_eq_some {user : SubmitUser} {value : UserStats} :
    (prepareUser context now lastIndex index user).stats = some value ↔
      ∃ userId, parseI64Id user.id "user.id" = .ok userId ∧ lastIndex userId = some index ∧
        ∃ stats, user.stats = some stats ∧
          convertUserStats userId user.fetchedAt stats now = .ok value := by
  unfold prepareUser
  cases parseI64Id user.id "user.id" with
  | error error => simp [rejectedUser]
  | ok userId =>
    by_cases isLast : lastIndex userId = some index <;>
      simp [isLast, rejectedUser, preparedPart_eq_some]

theorem prepareMedia_media_eq_some {media : SubmitMedia} {value : Media} :
    (prepareMedia context now lastIndex index media).media = some value ↔
      ∃ mediaId, parseI64Id media.id "media.id" = .ok mediaId ∧ lastIndex mediaId = some index ∧
        convertMedia context.parseUuid mediaId media = .ok value := by
  unfold prepareMedia
  cases parseI64Id media.id "media.id" with
  | error error => simp
  | ok mediaId =>
    by_cases isLast : lastIndex mediaId = some index <;> simp [isLast, preparedPart_eq_some]

theorem prepareMedia_resource_eq_some {media : SubmitMedia} {value : MediaResource} :
    (prepareMedia context now lastIndex index media).resource = some value ↔
      ∃ mediaId, parseI64Id media.id "media.id" = .ok mediaId ∧ lastIndex mediaId = some index ∧
        convertMediaResource mediaId media now = some (.ok value) := by
  unfold prepareMedia
  cases parseI64Id media.id "media.id" with
  | error error => simp
  | ok mediaId =>
    by_cases isLast : lastIndex mediaId = some index <;> simp [isLast, preparedPart_eq_some]

/-- The ids of a tweet that is prepared. -/
def TweetIds (lastIndex : Int → Option Nat) (index : Nat) (tweet : SubmitTweet)
    (tweetId authorId : Int) : Prop :=
  parseI64Id tweet.id "tweet.id" = .ok tweetId ∧ lastIndex tweetId = some index ∧
    parseI64Id tweet.authorId "tweet.authorId" = .ok authorId

theorem prepareTweet_author_eq_some {tweet : SubmitTweet} {value : TwitterUser} :
    (prepareTweet context now lastIndex index tweet).author = some value ↔
      ∃ tweetId authorId, TweetIds lastIndex index tweet tweetId authorId ∧
        value = ⟨authorId, none⟩ := by
  unfold prepareTweet TweetIds
  cases parseI64Id tweet.id "tweet.id" with
  | error error => simp
  | ok tweetId =>
    by_cases isLast : lastIndex tweetId = some index
    · cases parseI64Id tweet.authorId "tweet.authorId" <;> simp [isLast, eq_comm]
    · simp [isLast]

theorem prepareTweet_place_eq_some {tweet : SubmitTweet} {value : TweetPlace} :
    (prepareTweet context now lastIndex index tweet).place = some value ↔
      ∃ tweetId authorId, TweetIds lastIndex index tweet tweetId authorId ∧
        tweet.place.bind convertTweetPlace = some value := by
  unfold prepareTweet TweetIds
  cases parseI64Id tweet.id "tweet.id" with
  | error error => simp
  | ok tweetId =>
    by_cases isLast : lastIndex tweetId = some index
    · cases parseI64Id tweet.authorId "tweet.authorId" <;> simp [isLast]
    · simp [isLast]

theorem prepareTweet_converted_eq_some {tweet : SubmitTweet} {value : ConvertedTweet} :
    (prepareTweet context now lastIndex index tweet).converted = some value ↔
      ∃ tweetId authorId, TweetIds lastIndex index tweet tweetId authorId ∧
        convertTweet context.store context.lookupIds tweetId authorId
          ((tweet.place.bind convertTweetPlace).map TweetPlace.id) tweet now = .ok value := by
  unfold prepareTweet TweetIds
  cases parseI64Id tweet.id "tweet.id" with
  | error error => simp
  | ok tweetId =>
    by_cases isLast : lastIndex tweetId = some index
    · cases parseI64Id tweet.authorId "tweet.authorId" <;> simp [isLast, preparedPart_eq_some]
    · simp [isLast]

/-! ## The lists of the batch -/

theorem takenUser_iff {user : SubmitUser} {userId : Int} :
    TakenUser payload index user userId ↔
      payload.users[index]? = some user ∧ parseI64Id user.id "user.id" = .ok userId ∧
        lastValidIndex "user.id" SubmitUser.id payload.users userId = some index :=
  ⟨fun taken => ⟨taken.isItem, taken.isParsed, taken.isLast⟩, fun ⟨a, b, c⟩ => ⟨a, b, c⟩⟩

theorem takenMedia_iff {media : SubmitMedia} {mediaId : Int} :
    TakenMedia payload index media mediaId ↔
      payload.media[index]? = some media ∧ parseI64Id media.id "media.id" = .ok mediaId ∧
        lastValidIndex "media.id" SubmitMedia.id payload.media mediaId = some index :=
  ⟨fun taken => ⟨taken.isItem, taken.isParsed, taken.isLast⟩, fun ⟨a, b, c⟩ => ⟨a, b, c⟩⟩

theorem takenTweet_iff {tweet : SubmitTweet} {tweetId authorId : Int} :
    TakenTweet payload index tweet tweetId authorId ↔
      payload.tweets[index]? = some tweet ∧
        TweetIds (lastValidIndex "tweet.id" SubmitTweet.id payload.tweets) index tweet tweetId
          authorId :=
  ⟨fun ⟨taken, author⟩ => ⟨taken.isItem, taken.isParsed, taken.isLast, author⟩,
    fun ⟨a, b, c, d⟩ => ⟨⟨a, b, c⟩, d⟩⟩

variable {γ : Type} {value : γ}

theorem mem_collect_users {part : PreparedUser → Option γ} :
    ⟨index, value⟩ ∈ collect part (preparedUsers context clocks payload) ↔
      ∃ user, payload.users[index]? = some user ∧
        part (prepareUser context (clocks.user index)
          (lastValidIndex "user.id" SubmitUser.id payload.users) index user) = some value :=
  mem_collect_map fun user index => prepareUser context (clocks.user index)
    (lastValidIndex "user.id" SubmitUser.id payload.users) index user

theorem mem_collect_media {part : PreparedMedia → Option γ} :
    ⟨index, value⟩ ∈ collect part (preparedMedia context clocks payload) ↔
      ∃ media, payload.media[index]? = some media ∧
        part (prepareMedia context (clocks.media index)
          (lastValidIndex "media.id" SubmitMedia.id payload.media) index media) = some value :=
  mem_collect_map fun media index => prepareMedia context (clocks.media index)
    (lastValidIndex "media.id" SubmitMedia.id payload.media) index media

theorem mem_collect_tweets {part : PreparedTweet → Option γ} :
    ⟨index, value⟩ ∈ collect part (preparedTweets context clocks payload) ↔
      ∃ tweet, payload.tweets[index]? = some tweet ∧
        part (prepareTweet context (clocks.tweet index)
          (lastValidIndex "tweet.id" SubmitTweet.id payload.tweets) index tweet) = some value :=
  mem_collect_map fun tweet index => prepareTweet context (clocks.tweet index)
    (lastValidIndex "tweet.id" SubmitTweet.id payload.tweets) index tweet

theorem mem_collect_converted {part : ConvertedTweet → Option γ} :
    ⟨index, value⟩ ∈ collect (fun tweet => tweet.converted.bind part)
        (preparedTweets context clocks payload) ↔
      ∃ converted, ConvertedFrom context clocks payload index converted ∧
        part converted = some value := by
  unfold ConvertedFrom
  rw [mem_collect_tweets]
  simp only [Option.bind_eq_some_iff, prepareTweet_converted_eq_some, takenTweet_iff]
  grind

theorem mem_collect_converted_map {part : ConvertedTweet → γ} :
    ⟨index, value⟩ ∈ collect (fun tweet => tweet.converted.map part)
        (preparedTweets context clocks payload) ↔
      ∃ converted, ConvertedFrom context clocks payload index converted ∧
        part converted = value := by
  have asBind : (fun tweet : PreparedTweet => tweet.converted.map part) =
      fun tweet => tweet.converted.bind fun converted => some (part converted) :=
    funext fun tweet => Option.map_eq_bind
  rw [asBind, mem_collect_converted]
  simp only [Option.some.injEq]

theorem provenance_collectBatch :
    Provenance context clocks payload
      (collectBatch (preparedUsers context clocks payload) (preparedMedia context clocks payload)
        (preparedTweets context clocks payload)) where
  users index value := by
    refine mem_collect_users.trans ?_
    simp only [prepareUser_user_eq_some, takenUser_iff]
    grind
  userSnapshots index value := by
    refine mem_collect_users.trans ?_
    simp only [prepareUser_snapshot_eq_some, takenUser_iff]
    grind
  userStats index value := by
    refine mem_collect_users.trans ?_
    simp only [prepareUser_stats_eq_some, takenUser_iff]
    grind
  media index value := by
    refine mem_collect_media.trans ?_
    simp only [prepareMedia_media_eq_some, takenMedia_iff]
    grind
  mediaResources index value := by
    refine mem_collect_media.trans ?_
    simp only [prepareMedia_resource_eq_some, takenMedia_iff]
    grind
  tweetAuthors index value := by
    refine mem_collect_tweets.trans ?_
    simp only [prepareTweet_author_eq_some, takenTweet_iff]
    grind
  tweetPlaces index value := by
    refine mem_collect_tweets.trans ?_
    simp only [prepareTweet_place_eq_some, takenTweet_iff]
    grind
  tweets index value := mem_collect_converted_map
  tweetEdits index value := mem_collect_converted
  tweetPolicies index value := mem_collect_converted
  tweetCommunityNotes index value := mem_collect_converted
  tweetStats index value := mem_collect_converted
  tweetRelations index value := mem_collect_converted_map

end Provenance

/-! ## Fatal and shadowed items -/

/-- Fatal, or shadowed by a later item with its id. -/
def ObjectResult.Excluded (result : ObjectResult) : Prop :=
  result.fatalError.isSome = true ∨
    ⟨"input", .skipped, "shadowed_by_duplicate_input"⟩ ∈ result.operations

section Excluded

variable {context : PrepareContext} {now : OffsetDateTime} {lastIndex : Int → Option Nat}
  {index : Nat}

@[simp] theorem not_excluded_new (id : String) : ¬ (ObjectResult.new id).Excluded := by
  simp [ObjectResult.Excluded, ObjectResult.new]

@[simp] theorem excluded_fatal (error : String) (result : ObjectResult) :
    (result.fatal error).Excluded := .inl rfl

@[simp] theorem excluded_shadowed (result : ObjectResult) : (shadowed result).Excluded := by
  simp [ObjectResult.Excluded, shadowed, ObjectResult.operation]

/-- An error of a part excludes nothing. -/
theorem excluded_recordPart {α : Type} {name : String} (different : name ≠ "input")
    (part : Option (Except String α)) (result : ObjectResult) :
    (recordPart name part result).Excluded ↔ result.Excluded := by
  cases part with
  | none => rfl
  | some part =>
    cases part with
    | ok value => rfl
    | error error =>
      simp [recordPart, ObjectResult.operation, ObjectResult.Excluded, Ne.symm different]

/-- A user is excluded exactly if it is not the last one with a valid id. -/
theorem prepareUser_excluded (user : SubmitUser) :
    (prepareUser context now lastIndex index user).result.Excluded ↔
      ¬ ∃ userId, parseI64Id user.id "user.id" = .ok userId ∧ lastIndex userId = some index := by
  unfold prepareUser
  cases parseI64Id user.id "user.id" with
  | error error => simp [rejectedUser]
  | ok userId =>
    by_cases isLast : lastIndex userId = some index <;>
      simp [isLast, rejectedUser, excluded_recordPart]

theorem prepareMedia_excluded (media : SubmitMedia) :
    (prepareMedia context now lastIndex index media).result.Excluded ↔
      ¬ ∃ mediaId, parseI64Id media.id "media.id" = .ok mediaId ∧
        lastIndex mediaId = some index := by
  unfold prepareMedia
  cases parseI64Id media.id "media.id" with
  | error error => simp
  | ok mediaId =>
    by_cases isLast : lastIndex mediaId = some index <;>
      simp [isLast, excluded_recordPart]

theorem prepareTweet_excluded (tweet : SubmitTweet) :
    (prepareTweet context now lastIndex index tweet).result.Excluded ↔
      ¬ ∃ tweetId authorId, TweetIds lastIndex index tweet tweetId authorId := by
  unfold prepareTweet TweetIds
  cases parseI64Id tweet.id "tweet.id" with
  | error error => simp
  | ok tweetId =>
    by_cases isLast : lastIndex tweetId = some index
    · cases parseI64Id tweet.authorId "tweet.authorId" <;> simp [isLast, excluded_recordPart]
    · simp [isLast]

end Excluded

/-! ## Ids -/

section Ids

variable {context : PrepareContext} {now : OffsetDateTime} {lastIndex : Int → Option Nat}
  {index : Nat}

theorem id_recordPart {α : Type} (name : String) (part : Option (Except String α))
    (result : ObjectResult) : (recordPart name part result).id = result.id := by
  cases part with
  | none => rfl
  | some part => cases part <;> rfl

theorem prepareUser_id (user : SubmitUser) :
    (prepareUser context now lastIndex index user).result.id = some user.id := by
  unfold prepareUser
  cases parseI64Id user.id "user.id" with
  | error error => rfl
  | ok userId =>
    by_cases isLast : lastIndex userId = some index
    · simp only [isLast, ne_eq, not_true_eq_false, if_false, id_recordPart]
      rfl
    · simp only [ne_eq, isLast, not_false_eq_true, if_true]
      rfl

theorem prepareMedia_id (media : SubmitMedia) :
    (prepareMedia context now lastIndex index media).result.id = some media.id := by
  unfold prepareMedia
  cases parseI64Id media.id "media.id" with
  | error error => rfl
  | ok mediaId =>
    by_cases isLast : lastIndex mediaId = some index
    · simp only [isLast, ne_eq, not_true_eq_false, if_false, id_recordPart]
      rfl
    · simp only [ne_eq, isLast, not_false_eq_true, if_true]
      rfl

theorem prepareTweet_id (tweet : SubmitTweet) :
    (prepareTweet context now lastIndex index tweet).result.id = some tweet.id := by
  unfold prepareTweet
  cases parseI64Id tweet.id "tweet.id" with
  | error error => rfl
  | ok tweetId =>
    by_cases isLast : lastIndex tweetId = some index
    · simp only [isLast, ne_eq, not_true_eq_false, if_false]
      cases parseI64Id tweet.authorId "tweet.authorId" with
      | error error => rfl
      | ok authorId => exact id_recordPart _ _ _
    · simp only [ne_eq, isLast, not_false_eq_true, if_true]
      rfl

theorem getElem?_map_zipIdx {α β : Type} (prepare : α → Nat → β) (items : List α) (index : Nat) :
    (items.zipIdx.map fun (item, index) => prepare item index)[index]? =
      items[index]?.map fun item => prepare item index := by
  simp only [List.getElem?_map, List.getElem?_zipIdx, Option.map_map, Nat.zero_add]
  rfl

variable (clocks : Clocks) (payload : SubmitTweetRequest)

theorem preparedUsers_getElem? (index : Nat) :
    (preparedUsers context clocks payload)[index]? =
      payload.users[index]?.map fun user => prepareUser context (clocks.user index)
        (lastValidIndex "user.id" SubmitUser.id payload.users) index user :=
  getElem?_map_zipIdx (fun user index => prepareUser context (clocks.user index)
    (lastValidIndex "user.id" SubmitUser.id payload.users) index user) _ _

theorem preparedMedia_getElem? (index : Nat) :
    (preparedMedia context clocks payload)[index]? =
      payload.media[index]?.map fun media => prepareMedia context (clocks.media index)
        (lastValidIndex "media.id" SubmitMedia.id payload.media) index media :=
  getElem?_map_zipIdx (fun media index => prepareMedia context (clocks.media index)
    (lastValidIndex "media.id" SubmitMedia.id payload.media) index media) _ _

theorem preparedTweets_getElem? (index : Nat) :
    (preparedTweets context clocks payload)[index]? =
      payload.tweets[index]?.map fun tweet => prepareTweet context (clocks.tweet index)
        (lastValidIndex "tweet.id" SubmitTweet.id payload.tweets) index tweet :=
  getElem?_map_zipIdx (fun tweet index => prepareTweet context (clocks.tweet index)
    (lastValidIndex "tweet.id" SubmitTweet.id payload.tweets) index tweet) _ _

theorem ids_preparedUsers :
    (preparedUsers context clocks payload).map (fun user => user.result.id) =
      payload.users.map fun user => some user.id := by
  apply List.ext_getElem?
  intro index
  simp [preparedUsers_getElem?, prepareUser_id, Function.comp_def]

theorem ids_preparedMedia :
    (preparedMedia context clocks payload).map (fun media => media.result.id) =
      payload.media.map fun media => some media.id := by
  apply List.ext_getElem?
  intro index
  simp [preparedMedia_getElem?, prepareMedia_id, Function.comp_def]

theorem ids_preparedTweets :
    (preparedTweets context clocks payload).map (fun tweet => tweet.result.id) =
      payload.tweets.map fun tweet => some tweet.id := by
  apply List.ext_getElem?
  intro index
  simp [preparedTweets_getElem?, prepareTweet_id, Function.comp_def]

end Ids

end TweetDb.Submit
