import TweetDb.Submit.Alignment

/-! # Duplicates in a payload

Of the items with one id the last is processed, the others are shadowed.  Which
item is the last depends on the ids of the items alone; whether it is processed
with success depends on more.
-/

namespace TweetDb.Submit

open TweetModel

/-! ## The last of a kind -/

section Last

variable {α : Type} (field : String) (id : α → String) (items : List α)

/-- The id of an item is valid and this number. -/
def HasId (parsed : Int) (item : α) : Prop := parseI64Id (id item) field = .ok parsed

/-- The item at an index has an id, and none that follows it has the same. -/
def IsLast (parsed : Int) (index : Nat) (item : α) : Prop :=
  items[index]? = some item ∧ HasId field id parsed item ∧
    ∀ later other, index < later → items[later]? = some other → ¬ HasId field id parsed other

variable {field id items} {parsed : Int}

theorem toOption_eq_iff (item : α) :
    ((parseI64Id (id item) field).toOption == some parsed) = true ↔ HasId field id parsed item := by
  unfold HasId
  cases parseI64Id (id item) field <;> simp [Except.toOption]

omit items in
theorem getElem?_concat_iff {items : List α} {item other : α} {index : Nat} :
    (items ++ [item])[index]? = some other ↔
      items[index]? = some other ∨ index = items.length ∧ other = item := by
  rcases Nat.lt_trichotomy index items.length with before | rfl | after
  · rw [List.getElem?_append_left before]
    exact ⟨.inl, fun given => given.resolve_right fun atEnd => by omega⟩
  · simp [eq_comm]
  · rw [List.getElem?_eq_none (by simp; omega), List.getElem?_eq_none (by omega)]
    simp
    omega

variable {item other : α} {index : Nat}

theorem isLast_concat_of_hasId (has : HasId field id parsed item) :
    IsLast field id (items ++ [item]) parsed index other ↔ index = items.length ∧ other = item := by
  simp only [IsLast, getElem?_concat_iff]
  constructor
  · rintro ⟨given | atEnd, -, none⟩
    · have before := (List.getElem?_eq_some_iff.mp given).1
      exact absurd has (none _ _ before (.inr ⟨rfl, rfl⟩))
    · exact atEnd
  · rintro ⟨rfl, rfl⟩
    refine ⟨.inr ⟨rfl, rfl⟩, has, fun later other isLater given => ?_⟩
    rcases given with given | ⟨atEnd, -⟩
    · have before := (List.getElem?_eq_some_iff.mp given).1
      omega
    · omega

theorem isLast_concat_of_not_hasId (hasNot : ¬ HasId field id parsed item) :
    IsLast field id (items ++ [item]) parsed index other ↔
      IsLast field id items parsed index other := by
  simp only [IsLast, getElem?_concat_iff]
  constructor
  · rintro ⟨given | ⟨rfl, rfl⟩, has, none⟩
    · exact ⟨given, has, fun later other isLater isOther => none later other isLater (.inl isOther)⟩
    · exact absurd has hasNot
  · rintro ⟨given, has, none⟩
    refine ⟨.inl given, has, fun later other isLater isOther => ?_⟩
    rcases isOther with isOther | ⟨-, rfl⟩
    · exact none later other isLater isOther
    · exact hasNot

theorem lastValidIndex_concat : lastValidIndex field id (items ++ [item]) parsed =
    if (parseI64Id (id item) field).toOption == some parsed then some items.length
    else lastValidIndex field id items parsed := by
  simp only [lastValidIndex, List.zipIdx_append, List.filter_append, List.zipIdx_singleton,
    Nat.zero_add, List.filter_cons, List.filter_nil]
  split <;> simp

/-- What `collect_last_valid_i64_indices` collects. -/
theorem lastValidIndex_eq_some_iff : ∀ {index : Nat},
    lastValidIndex field id items parsed = some index ↔
      ∃ item, IsLast field id items parsed index item := by
  induction items using List.reverseRecOn with
  | nil => simp [lastValidIndex, IsLast]
  | append_singleton items item ih =>
    intro index
    rw [lastValidIndex_concat]
    by_cases has : HasId field id parsed item
    · rw [if_pos ((toOption_eq_iff item).mpr has)]
      simp only [isLast_concat_of_hasId has, Option.some.injEq, exists_and_left, exists_eq, and_true]
      exact eq_comm
    · rw [if_neg fun isParsed => has ((toOption_eq_iff item).mp isParsed), ih]
      simp only [isLast_concat_of_not_hasId has]

/-- Items with an id have a last one. -/
theorem exists_isLast (given : item ∈ items) (has : HasId field id parsed item) :
    ∃ index last, IsLast field id items parsed index last := by
  induction items using List.reverseRecOn with
  | nil => cases given
  | append_singleton items other ih =>
    by_cases otherHas : HasId field id parsed other
    · exact ⟨_, _, (isLast_concat_of_hasId otherHas).mpr ⟨rfl, rfl⟩⟩
    · have earlier : item ∈ items := by
        rcases List.mem_append.mp given with earlier | isOther
        · exact earlier
        · rw [List.mem_singleton.mp isOther] at has
          exact absurd has otherHas
      simp only [isLast_concat_of_not_hasId otherHas]
      exact ih earlier

/-! ## The last valid one -/

variable (field id items) in
/-- The last valid of the items with an id is the one that is written, and an item is shadowed only
by one that is written. -/
def LastValidWins (alone : α → Prop) (written shadowed : Nat → Prop) : Prop :=
  (∀ parsed, (∃ item ∈ items, HasId field id parsed item ∧ alone item) →
    ∃ index item, items[index]? = some item ∧ HasId field id parsed item ∧ alone item ∧
      (∀ later other, index < later → items[later]? = some other → HasId field id parsed other →
        ¬ alone other) ∧
      written index ∧
      ∀ place other, items[place]? = some other → HasId field id parsed other → written place →
        place = index) ∧
  ∀ index item, items[index]? = some item → shadowed index →
    ∃ parsed later other, HasId field id parsed item ∧ index < later ∧
      items[later]? = some other ∧ HasId field id parsed other ∧ written later

variable (field id items) in
/-- The last of the items with an id passes, at least if one of them is valid or it shadows one. -/
def LastPasses (alone : α → Prop) (passes : Nat → α → Prop) : Prop :=
  ∀ parsed index item, IsLast field id items parsed index item →
    ((∃ other ∈ items, HasId field id parsed other ∧ alone other) → alone item ∧ passes index item) ∧
    ((∃ place other, place < index ∧ items[place]? = some other ∧ HasId field id parsed other) →
      passes index item)

theorem IsLast.unique {index place : Nat} {item other : α}
    (isLast : IsLast field id items parsed index item)
    (isLast' : IsLast field id items parsed place other) : place = index := by
  rcases Nat.lt_trichotomy place index with before | same | after
  · exact absurd isLast.2.1 (isLast'.2.2 index item before isLast.1)
  · exact same
  · exact absurd isLast'.2.1 (isLast.2.2 place other after isLast'.1)

theorem HasId.unique {parsed' : Int} {item : α} (has : HasId field id parsed item)
    (has' : HasId field id parsed' item) : parsed = parsed' :=
  Except.ok.inj (has.symm.trans has')

/-- Where the last item is processed and the others are shadowed. -/
theorem lastValidWins_iff {alone : α → Prop} {passes : Nat → α → Prop}
    {written shadowed : Nat → Prop}
    (writes : ∀ index, written index ↔
      ∃ item parsed, IsLast field id items parsed index item ∧ passes index item)
    (shadows : ∀ index, shadowed index ↔ ∃ item parsed, items[index]? = some item ∧
      HasId field id parsed item ∧ ¬ IsLast field id items parsed index item) :
    LastValidWins field id items alone written shadowed ↔
      LastPasses field id items alone passes := by
  -- What is written is the last with its id.
  have lastOfWritten : ∀ {index item parsed}, items[index]? = some item →
      HasId field id parsed item → written index →
      IsLast field id items parsed index item ∧ passes index item := by
    intro index item parsed isItem has isWritten
    obtain ⟨item', parsed', isLast, passes⟩ := (writes index).mp isWritten
    obtain rfl : item' = item := Option.some.inj (isLast.1.symm.trans isItem)
    obtain rfl := has.unique isLast.2.1
    exact ⟨isLast, passes⟩
  constructor
  · rintro ⟨wins, explains⟩ parsed index item isLast
    constructor
    · intro valid
      obtain ⟨place, other, isOther, has, accepted, -, isWritten, -⟩ := wins parsed valid
      obtain ⟨otherLast, passes⟩ := lastOfWritten isOther has isWritten
      obtain rfl := isLast.unique otherLast
      obtain rfl : other = item := Option.some.inj (isOther.symm.trans isLast.1)
      exact ⟨accepted, passes⟩
    · rintro ⟨place, other, before, isOther, has⟩
      have isShadowed : shadowed place := (shadows place).mpr ⟨other, parsed, isOther, has,
        fun otherLast => otherLast.2.2 index item before isLast.1 isLast.2.1⟩
      obtain ⟨parsed', later, last, has', -, isLater, laterHas, isWritten⟩ :=
        explains place other isOther isShadowed
      obtain rfl := has.unique has'
      obtain ⟨laterLast, passes⟩ := lastOfWritten isLater laterHas isWritten
      obtain rfl := isLast.unique laterLast
      obtain rfl : last = item := Option.some.inj (isLater.symm.trans isLast.1)
      exact passes
  · intro lastPasses
    constructor
    · rintro parsed ⟨item, given, has, accepted⟩
      obtain ⟨index, last, isLast⟩ := exists_isLast given has
      obtain ⟨lastAccepted, passes⟩ :=
        (lastPasses parsed index last isLast).1 ⟨item, given, has, accepted⟩
      refine ⟨index, last, isLast.1, isLast.2.1, lastAccepted,
        fun later other isLater isOther otherHas =>
          absurd otherHas (isLast.2.2 later other isLater isOther),
        (writes index).mpr ⟨last, parsed, isLast, passes⟩,
        fun place other isOther otherHas isWritten => ?_⟩
      exact isLast.unique (lastOfWritten isOther otherHas isWritten).1
    · intro index item isItem isShadowed
      obtain ⟨item', parsed, isItem', has, notLast⟩ := (shadows index).mp isShadowed
      obtain rfl : item' = item := Option.some.inj (isItem'.symm.trans isItem)
      obtain ⟨later, last, isLast⟩ := exists_isLast (List.mem_of_getElem? isItem) has
      have before : index < later := by
        rcases Nat.lt_trichotomy later index with after | same | before
        · exact absurd has (isLast.2.2 index item' after isItem)
        · subst same
          obtain rfl : last = item' := Option.some.inj (isLast.1.symm.trans isItem)
          exact absurd isLast notLast
        · exact before
      have passes := (lastPasses parsed later last isLast).2 ⟨index, item', before, isItem, has⟩
      exact ⟨parsed, later, last, has, before, isLast.1, isLast.2.1,
        (writes later).mpr ⟨last, parsed, isLast, passes⟩⟩

end Last

/-! ## The root lists of a payload -/

section Payload

variable (store : LookupStore) (parseUuid : String → Option Uuid) (clocks : Clocks)
  (payload : SubmitTweetRequest)

/-- The result at an index says that the item is shadowed. -/
def IsShadowed (results : List ObjectResult) (index : Nat) : Prop :=
  ∃ result, results[index]? = some result ∧
    ⟨"input", .skipped, "shadowed_by_duplicate_input"⟩ ∈ result.operations

def IsWritten {α : Type} (objects : List (Indexed α)) (index : Nat) : Prop :=
  ∃ value, ⟨index, value⟩ ∈ objects

/-- An item is accepted if it is the only one of a payload. -/
def UserAlone (user : SubmitUser) : Prop :=
  (prepareSubmitBatch store parseUuid clocks ⟨[user], [], []⟩).users ≠ []

def MediaAlone (media : SubmitMedia) : Prop :=
  (prepareSubmitBatch store parseUuid clocks ⟨[], [], [media]⟩).media ≠ []

def TweetAlone (tweet : SubmitTweet) : Prop :=
  (prepareSubmitBatch store parseUuid clocks ⟨[], [tweet], []⟩).tweets ≠ []

/-- In every root list the last valid duplicate wins. -/
def LastDuplicateWins : Prop :=
  let prepared := prepareSubmitBatch store parseUuid clocks payload
  LastValidWins "user.id" SubmitUser.id payload.users (UserAlone store parseUuid clocks)
    (IsWritten prepared.users) (IsShadowed prepared.userResults) ∧
  LastValidWins "media.id" SubmitMedia.id payload.media (MediaAlone store parseUuid clocks)
    (IsWritten prepared.media) (IsShadowed prepared.mediaResults) ∧
  LastValidWins "tweet.id" SubmitTweet.id payload.tweets (TweetAlone store parseUuid clocks)
    (IsWritten prepared.tweets) (IsShadowed prepared.tweetResults)

/-- A media object is one that the conversion accepts. -/
def MediaConverts (media : SubmitMedia) : Prop :=
  ∃ mediaId model, HasId "media.id" SubmitMedia.id mediaId media ∧
    convertMedia parseUuid mediaId media = .ok model

/-- The author of a tweet has a valid id, and the conversion accepts the tweet with the ids that are
looked up for the payload. -/
def TweetConverts (now : OffsetDateTime) (tweet : SubmitTweet) : Prop :=
  ∃ tweetId authorId converted, HasId "tweet.id" SubmitTweet.id tweetId tweet ∧
    parseI64Id tweet.authorId "tweet.authorId" = .ok authorId ∧
    convertTweet store (resolveSubmitLookupIds store payload).toOption tweetId authorId
      ((tweet.place.bind convertTweetPlace).map Tweet.TweetPlace.id) tweet now = .ok converted

variable {store parseUuid clocks payload}

theorem taken_iff {α : Type} {field : String} {id : α → String} {items : List α} {index : Nat}
    {item : α} {parsed : Int} :
    Taken field id items index item parsed ↔ IsLast field id items parsed index item := by
  constructor
  · intro taken
    obtain ⟨last, isLast⟩ := lastValidIndex_eq_some_iff.mp taken.isLast
    obtain rfl : last = item := Option.some.inj (isLast.1.symm.trans taken.isItem)
    exact isLast
  · intro isLast
    exact ⟨isLast.1, isLast.2.1, lastValidIndex_eq_some_iff.mpr ⟨item, isLast⟩⟩

theorem provenance_prepareSubmitBatch :
    Provenance ⟨store, (resolveSubmitLookupIds store payload).toOption, parseUuid⟩ clocks payload
      (prepareSubmitBatch store parseUuid clocks payload) := provenance_collectBatch

theorem isWritten_users (index : Nat) :
    IsWritten (prepareSubmitBatch store parseUuid clocks payload).users index ↔
      ∃ user userId, IsLast "user.id" SubmitUser.id payload.users userId index user ∧ True := by
  simp only [IsWritten, (provenance_prepareSubmitBatch).users, TakenUser, taken_iff, and_true]
  constructor
  · rintro ⟨value, user, userId, isLast, -⟩
    exact ⟨user, userId, isLast⟩
  · rintro ⟨user, userId, isLast⟩
    exact ⟨_, user, userId, isLast, rfl⟩

theorem isWritten_media (index : Nat) :
    IsWritten (prepareSubmitBatch store parseUuid clocks payload).media index ↔
      ∃ media mediaId, IsLast "media.id" SubmitMedia.id payload.media mediaId index media ∧
        MediaConverts parseUuid media := by
  simp only [IsWritten, (provenance_prepareSubmitBatch).media, TakenMedia, taken_iff]
  constructor
  · rintro ⟨value, media, mediaId, isLast, converted⟩
    exact ⟨media, mediaId, isLast, mediaId, value, isLast.2.1, converted⟩
  · rintro ⟨media, mediaId, isLast, mediaId', value, has, converted⟩
    obtain rfl := has.unique isLast.2.1
    exact ⟨value, media, _, isLast, converted⟩

theorem isWritten_tweets (index : Nat) :
    IsWritten (prepareSubmitBatch store parseUuid clocks payload).tweets index ↔
      ∃ tweet tweetId, IsLast "tweet.id" SubmitTweet.id payload.tweets tweetId index tweet ∧
        TweetConverts store payload (clocks.tweet index) tweet := by
  simp only [IsWritten, (provenance_prepareSubmitBatch).tweets, ConvertedFrom, TakenTweet,
    taken_iff]
  constructor
  · rintro ⟨value, converted, ⟨tweet, tweetId, authorId, ⟨isLast, author⟩, ran⟩, -⟩
    exact ⟨tweet, tweetId, isLast, tweetId, authorId, converted, isLast.2.1, author, ran⟩
  · rintro ⟨tweet, tweetId, isLast, tweetId', authorId, converted, has, author, ran⟩
    obtain rfl := has.unique isLast.2.1
    exact ⟨_, converted, ⟨tweet, _, authorId, ⟨isLast, author⟩, ran⟩, rfl⟩

/-! ## Items by themselves -/

theorem ne_nil_iff {α : Type} {objects : List (Indexed α)} :
    objects ≠ [] ↔ ∃ index, IsWritten objects index := by
  cases objects with
  | nil => simp [IsWritten]
  | cons object objects => exact ⟨fun _ => ⟨object.index, object.value, by simp⟩, by simp⟩

theorem isLast_single {α : Type} {field : String} {id : α → String} {item other : α} {parsed : Int}
    {index : Nat} :
    IsLast field id [item] parsed index other ↔
      index = 0 ∧ other = item ∧ HasId field id parsed item := by
  by_cases has : HasId field id parsed item
  · have single : IsLast field id ([] ++ [item]) parsed index other ↔ _ :=
      isLast_concat_of_hasId has
    simpa [has] using single
  · have none : IsLast field id ([] ++ [item]) parsed index other ↔ _ :=
      isLast_concat_of_not_hasId has
    rw [List.nil_append] at none
    rw [none]
    simp [has, IsLast]

theorem userAlone_iff (user : SubmitUser) :
    UserAlone store parseUuid clocks user ↔
      ∃ userId, HasId "user.id" SubmitUser.id userId user := by
  simp [UserAlone, ne_nil_iff, isWritten_users, isLast_single]

theorem mediaAlone_iff (media : SubmitMedia) :
    MediaAlone store parseUuid clocks media ↔ MediaConverts parseUuid media := by
  simp only [MediaAlone, ne_nil_iff, isWritten_media, isLast_single]
  constructor
  · rintro ⟨-, other, mediaId, ⟨-, rfl, -⟩, converts⟩
    exact converts
  · intro converts
    obtain ⟨mediaId, -, has, -⟩ := id converts
    exact ⟨0, media, mediaId, ⟨rfl, rfl, has⟩, converts⟩

theorem tweetAlone_iff (tweet : SubmitTweet) :
    TweetAlone store parseUuid clocks tweet ↔
      TweetConverts store ⟨[], [tweet], []⟩ (clocks.tweet 0) tweet := by
  simp only [TweetAlone, ne_nil_iff, isWritten_tweets, isLast_single]
  constructor
  · rintro ⟨-, other, tweetId, ⟨rfl, rfl, -⟩, converts⟩
    exact converts
  · intro converts
    obtain ⟨tweetId, -, -, has, -⟩ := id converts
    exact ⟨0, tweet, tweetId, ⟨rfl, rfl, has⟩, converts⟩

/-! ## Shadowed items -/

theorem shadowed_mem_recordPart {α : Type} {name : String} (different : name ≠ "input")
    (part : Option (Except String α)) (result : ObjectResult) :
    ⟨"input", .skipped, "shadowed_by_duplicate_input"⟩ ∈ (recordPart name part result).operations ↔
      ⟨"input", .skipped, "shadowed_by_duplicate_input"⟩ ∈ result.operations := by
  cases part with
  | none => rfl
  | some part =>
    cases part with
    | ok value => rfl
    | error error => simp [recordPart, ObjectResult.operation, Ne.symm different]

section Items

variable {context : PrepareContext} {now : OffsetDateTime} {lastIndex : Int → Option Nat}
  {index : Nat}

theorem prepareUser_shadowed (user : SubmitUser) :
    ⟨"input", .skipped, "shadowed_by_duplicate_input"⟩ ∈
        (prepareUser context now lastIndex index user).result.operations ↔
      ∃ userId, parseI64Id user.id "user.id" = .ok userId ∧ lastIndex userId ≠ some index := by
  unfold prepareUser
  cases parseI64Id user.id "user.id" with
  | error error => simp [rejectedUser, ObjectResult.new, ObjectResult.fatal]
  | ok userId =>
    by_cases isLast : lastIndex userId = some index
    · simp [isLast, shadowed_mem_recordPart, ObjectResult.new]
    · simp [isLast, rejectedUser, shadowed, ObjectResult.operation]

theorem prepareMedia_shadowed (media : SubmitMedia) :
    ⟨"input", .skipped, "shadowed_by_duplicate_input"⟩ ∈
        (prepareMedia context now lastIndex index media).result.operations ↔
      ∃ mediaId, parseI64Id media.id "media.id" = .ok mediaId ∧ lastIndex mediaId ≠ some index := by
  unfold prepareMedia
  cases parseI64Id media.id "media.id" with
  | error error => simp [ObjectResult.new, ObjectResult.fatal]
  | ok mediaId =>
    by_cases isLast : lastIndex mediaId = some index
    · simp [isLast, shadowed_mem_recordPart, ObjectResult.new]
    · simp [isLast, shadowed, ObjectResult.operation]

theorem prepareTweet_shadowed (tweet : SubmitTweet) :
    ⟨"input", .skipped, "shadowed_by_duplicate_input"⟩ ∈
        (prepareTweet context now lastIndex index tweet).result.operations ↔
      ∃ tweetId, parseI64Id tweet.id "tweet.id" = .ok tweetId ∧ lastIndex tweetId ≠ some index := by
  unfold prepareTweet
  cases parseI64Id tweet.id "tweet.id" with
  | error error => simp [ObjectResult.new, ObjectResult.fatal]
  | ok tweetId =>
    by_cases isLast : lastIndex tweetId = some index
    · cases parseI64Id tweet.authorId "tweet.authorId" <;>
        simp [isLast, shadowed_mem_recordPart, ObjectResult.new, ObjectResult.fatal]
    · simp [isLast, shadowed, ObjectResult.operation]

end Items

/-- The items that are shadowed are those with a valid id that are not the last with it. -/
theorem not_isLast_iff {α : Type} {field : String} {id : α → String} {items : List α}
    {item : α} {index : Nat} (isItem : items[index]? = some item) :
    (∃ parsed, parseI64Id (id item) field = .ok parsed ∧
        lastValidIndex field id items parsed ≠ some index) ↔
      ∃ parsed, HasId field id parsed item ∧ ¬ IsLast field id items parsed index item := by
  have isLast : ∀ parsed, lastValidIndex field id items parsed = some index ↔
      IsLast field id items parsed index item := by
    intro parsed
    rw [lastValidIndex_eq_some_iff]
    constructor
    · rintro ⟨last, isLast⟩
      obtain rfl : last = item := Option.some.inj (isLast.1.symm.trans isItem)
      exact isLast
    · exact fun isLast => ⟨item, isLast⟩
  simp only [HasId, ne_eq, isLast]

theorem isShadowed_iff {α β : Type} {field : String} {id : α → String} {items : List α}
    {prepared : List β} {prepare : Nat → α → β} {result : β → ObjectResult}
    (isPrepared : ∀ index, prepared[index]? = items[index]?.map (prepare index))
    (shadowed : ∀ index item,
      ⟨"input", .skipped, "shadowed_by_duplicate_input"⟩ ∈
          (result (prepare index item)).operations ↔
        ∃ parsed, parseI64Id (id item) field = .ok parsed ∧
          lastValidIndex field id items parsed ≠ some index) (index : Nat) :
    IsShadowed (prepared.map result) index ↔ ∃ item parsed, items[index]? = some item ∧
      HasId field id parsed item ∧ ¬ IsLast field id items parsed index item := by
  simp only [IsShadowed, List.getElem?_map, isPrepared, Option.map_map, Option.map_eq_some_iff,
    Function.comp_apply]
  constructor
  · rintro ⟨_, ⟨item, isItem, rfl⟩, given⟩
    obtain ⟨parsed, has, notLast⟩ := (not_isLast_iff isItem).mp ((shadowed index item).mp given)
    exact ⟨item, parsed, isItem, has, notLast⟩
  · rintro ⟨item, parsed, isItem, has, notLast⟩
    exact ⟨_, ⟨item, isItem, rfl⟩,
      (shadowed index item).mpr ((not_isLast_iff isItem).mpr ⟨parsed, has, notLast⟩)⟩

theorem isShadowed_users (index : Nat) :
    IsShadowed (prepareSubmitBatch store parseUuid clocks payload).userResults index ↔
      ∃ user userId, payload.users[index]? = some user ∧
        HasId "user.id" SubmitUser.id userId user ∧
        ¬ IsLast "user.id" SubmitUser.id payload.users userId index user :=
  isShadowed_iff (preparedUsers_getElem? clocks payload) (fun _ user => prepareUser_shadowed user)
    index

theorem isShadowed_media (index : Nat) :
    IsShadowed (prepareSubmitBatch store parseUuid clocks payload).mediaResults index ↔
      ∃ media mediaId, payload.media[index]? = some media ∧
        HasId "media.id" SubmitMedia.id mediaId media ∧
        ¬ IsLast "media.id" SubmitMedia.id payload.media mediaId index media :=
  isShadowed_iff (preparedMedia_getElem? clocks payload)
    (fun _ media => prepareMedia_shadowed media) index

theorem isShadowed_tweets (index : Nat) :
    IsShadowed (prepareSubmitBatch store parseUuid clocks payload).tweetResults index ↔
      ∃ tweet tweetId, payload.tweets[index]? = some tweet ∧
        HasId "tweet.id" SubmitTweet.id tweetId tweet ∧
        ¬ IsLast "tweet.id" SubmitTweet.id payload.tweets tweetId index tweet :=
  isShadowed_iff (preparedTweets_getElem? clocks payload)
    (fun _ tweet => prepareTweet_shadowed tweet) index

/-! ## The last duplicates -/

variable (store parseUuid clocks payload) in
/-- The last media object and the last tweet with an id pass the conversion, at least if an item with
this id is accepted by itself or is in front of it. -/
def LastItemsPass : Prop :=
  LastPasses "media.id" SubmitMedia.id payload.media (MediaConverts parseUuid)
    (fun _ => MediaConverts parseUuid) ∧
  LastPasses "tweet.id" SubmitTweet.id payload.tweets
    (fun tweet => TweetConverts store ⟨[], [tweet], []⟩ (clocks.tweet 0) tweet)
    (fun index => TweetConverts store payload (clocks.tweet index))

/-- Users are never rejected for more than their id. -/
theorem last_duplicate_wins_iff :
    LastDuplicateWins store parseUuid clocks payload ↔
      LastItemsPass store parseUuid clocks payload := by
  have users : LastValidWins "user.id" SubmitUser.id payload.users
      (UserAlone store parseUuid clocks)
      (IsWritten (prepareSubmitBatch store parseUuid clocks payload).users)
      (IsShadowed (prepareSubmitBatch store parseUuid clocks payload).userResults) := by
    rw [lastValidWins_iff isWritten_users isShadowed_users]
    intro userId index user isLast
    exact ⟨fun _ => ⟨(userAlone_iff user).mpr ⟨userId, isLast.2.1⟩, trivial⟩, fun _ => trivial⟩
  have media : MediaAlone store parseUuid clocks = MediaConverts parseUuid :=
    funext fun item => propext (mediaAlone_iff item)
  have tweets : TweetAlone store parseUuid clocks =
      fun tweet => TweetConverts store ⟨[], [tweet], []⟩ (clocks.tweet 0) tweet :=
    funext fun item => propext (tweetAlone_iff item)
  rw [LastDuplicateWins, media, tweets, lastValidWins_iff isWritten_media isShadowed_media,
    lastValidWins_iff isWritten_tweets isShadowed_tweets, LastItemsPass]
  exact and_iff_right users

end Payload

/-! ## A duplicate without an author -/

def shortTweet (authorId : String) : SubmitTweet :=
  ⟨"1", none, 0, none, authorId, none,
    ⟨⟨"hello", none, ⟨[], [], [], [], []⟩, []⟩, none, [], none⟩, ⟨"1", none, none, none⟩,
    none, none, none, none⟩

def silentStore : LookupStore :=
  ⟨fun _ => .ok fun _ => none, fun _ => .ok fun _ => none, fun _ => .ok fun _ => none⟩

/-- The second tweet with the id is rejected for its author, and the first one is not written. -/
theorem not_last_duplicate_wins :
    ¬ LastDuplicateWins silentStore (fun _ => none) ⟨fun _ => 0, fun _ => 0, fun _ => 0⟩
      ⟨[], [shortTweet "7", shortTweet "x"], []⟩ := by
  rintro ⟨-, -, wins, -⟩
  have alone : TweetAlone silentStore (fun _ => none) ⟨fun _ => 0, fun _ => 0, fun _ => 0⟩
      (shortTweet "7") := by
    rw [TweetAlone]
    decide
  obtain ⟨index, -, -, -, -, -, ⟨value, written⟩, -⟩ :=
    wins 1 ⟨shortTweet "7", by simp, by rw [HasId]; decide, alone⟩
  have none : (prepareSubmitBatch silentStore (fun _ => none)
      ⟨fun _ => 0, fun _ => 0, fun _ => 0⟩
      ⟨[], [shortTweet "7", shortTweet "x"], []⟩).tweets = [] := by decide
  rw [none] at written
  cases written

end TweetDb.Submit
