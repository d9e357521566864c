import TweetDb.Submit.Execute

/-! # Indices in the maps of the write stages

`write_combined_user_batch` and `write_tweet_places_batch` regroup the objects
by id.  Their maps have one entry for each id, which carries the indices of all
objects with that id and no others.
-/

namespace TweetDb.Submit

open TweetDb.Tweet (TweetPlace TwitterUser)

/-! ## Entries of a map -/

section Entries

variable {α κ τ : Type} [DecidableEq κ] {key : α → κ} {merge : α → α → α} {tags : α → List τ}

/-- What the values of a key carry, in order. -/
def tagsOf (key : α → κ) (tags : α → List τ) (values : List α) (target : κ) : List τ :=
  (values.filter fun value => key value = target).flatMap tags

theorem keys_addEntry (keeps : ∀ entry value, key (merge entry value) = key entry)
    (entries : List α) (value : α) :
    (addEntry key merge entries value).map key =
      if key value ∈ entries.map key then entries.map key else entries.map key ++ [key value] := by
  induction entries with
  | nil => rfl
  | cons entry entries inductionHypothesis =>
    by_cases same : key entry = key value
    · simp [addEntry, same, keeps]
    · have different : key value ≠ key entry := Ne.symm same
      rw [addEntry, if_neg same, List.map_cons, inductionHypothesis]
      by_cases named : key value ∈ entries.map key
      · rw [if_pos named, List.map_cons, if_pos (List.mem_cons_of_mem _ named)]
      · rw [if_neg named, List.map_cons, if_neg (by simpa [different] using named)]
        rfl

theorem nodup_foldl_addEntry (keeps : ∀ entry value, key (merge entry value) = key entry)
    (values : List α) {entries : List α} (nodup : (entries.map key).Nodup) :
    ((values.foldl (addEntry key merge) entries).map key).Nodup := by
  induction values generalizing entries with
  | nil => exact nodup
  | cons value values inductionHypothesis =>
    apply inductionHypothesis
    rw [keys_addEntry keeps]
    by_cases named : key value ∈ entries.map key
    · rwa [if_pos named]
    · rw [if_neg named]
      exact List.nodup_append.mpr ⟨nodup, List.nodup_singleton _, by
        intro left isLeft right isRight same
        rw [List.mem_singleton.mp isRight] at same
        exact named (same ▸ isLeft)⟩

theorem mem_keys_foldl_addEntry (keeps : ∀ entry value, key (merge entry value) = key entry)
    (values entries : List α) (target : κ) :
    target ∈ (values.foldl (addEntry key merge) entries).map key ↔
      target ∈ entries.map key ∨ target ∈ values.map key := by
  induction values generalizing entries with
  | nil => simp
  | cons value values inductionHypothesis =>
    rw [List.foldl_cons, inductionHypothesis, keys_addEntry keeps]
    by_cases named : key value ∈ entries.map key
    · rw [if_pos named, List.map_cons, List.mem_cons]
      constructor
      · rintro (before | later)
        · exact .inl before
        · exact .inr (.inr later)
      · rintro (before | same | later)
        · exact .inl before
        · exact .inl (same ▸ named)
        · exact .inr later
    · rw [if_neg named]
      simp [or_assoc]

/-- What holds of all entries and values, and of an entry merged with a value of its key, holds
afterwards. -/
theorem forall_foldl_addEntry {holds : α → Prop}
    (merged : ∀ entry value, key entry = key value → holds entry → holds value →
      holds (merge entry value)) (values : List α) {entries : List α}
    (initially : ∀ entry ∈ entries, holds entry) (added : ∀ value ∈ values, holds value) :
    ∀ entry ∈ values.foldl (addEntry key merge) entries, holds entry := by
  have step : ∀ (entries : List α) (value : α), (∀ entry ∈ entries, holds entry) → holds value →
      ∀ entry ∈ addEntry key merge entries value, holds entry := by
    intro entries value
    induction entries with
    | nil =>
      intro _ isAdded entry member
      rw [List.mem_singleton.mp member]
      exact isAdded
    | cons first entries inductionHypothesis =>
      intro initially isAdded entry member
      rw [List.forall_mem_cons] at initially
      unfold addEntry at member
      split at member
      next same =>
        rcases List.mem_cons.mp member with rfl | later
        · exact merged first value same initially.1 isAdded
        · exact initially.2 entry later
      next =>
        rcases List.mem_cons.mp member with rfl | later
        · exact initially.1
        · exact inductionHypothesis initially.2 isAdded entry later
  induction values generalizing entries with
  | nil => exact initially
  | cons value values inductionHypothesis =>
    rw [List.forall_mem_cons] at added
    exact inductionHypothesis (step entries value initially added.1) added.2

/-- Where keys differ, an entry carries what there is of its key. -/
theorem tagsOf_of_mem {entries : List α} (nodup : (entries.map key).Nodup) {entry : α}
    (member : entry ∈ entries) : tagsOf key tags entries (key entry) = tags entry := by
  induction entries with
  | nil => cases member
  | cons first entries inductionHypothesis =>
    rw [List.map_cons, List.nodup_cons] at nodup
    have none_left : first = entry →
        (entries.filter fun value => key value = key entry) = [] := by
      intro same
      subst same
      apply List.filter_eq_nil_iff.mpr
      intro other isOther sameKey
      exact nodup.1 (List.mem_map.mpr ⟨other, isOther, by simpa using sameKey⟩)
    rcases List.mem_cons.mp member with same | later
    · subst same
      simp [tagsOf, none_left rfl]
    · have different : key first ≠ key entry := fun same =>
        nodup.1 (same ▸ List.mem_map_of_mem later)
      have rest := inductionHypothesis nodup.2 later
      simpa [tagsOf, different] using rest

theorem tagsOf_append (left right : List α) (target : κ) :
    tagsOf key tags (left ++ right) target = tagsOf key tags left target ++ tagsOf key tags right target := by
  simp [tagsOf]

theorem tagsOf_addEntry (keeps : ∀ entry value, key (merge entry value) = key entry)
    {value : α} (law : ∀ entry, tags (merge entry value) = tags entry ++ tags value)
    {entries : List α} (nodup : (entries.map key).Nodup) (target : κ) :
    tagsOf key tags (addEntry key merge entries value) target =
      tagsOf key tags (entries ++ [value]) target := by
  induction entries with
  | nil => rfl
  | cons entry entries inductionHypothesis =>
    rw [List.map_cons, List.nodup_cons] at nodup
    by_cases same : key entry = key value
    · have elsewhere : key value = target → (entries.filter fun other => key other = target) = [] := by
        intro isKey
        apply List.filter_eq_nil_iff.mpr
        intro other isOther sameKey
        have otherKey : key other = target := by simpa using sameKey
        exact nodup.1 (List.mem_map.mpr ⟨other, isOther, by rw [otherKey, same, isKey]⟩)
      rw [addEntry, if_pos same]
      by_cases isKey : key value = target
      · simp [tagsOf, keeps, same, isKey, law, elsewhere isKey]
      · simp [tagsOf, keeps, same, isKey]
    · rw [addEntry, if_neg same, List.cons_append]
      have rest := inductionHypothesis nodup.2
      have split : ∀ others : List α, tagsOf key tags (entry :: others) target =
          tagsOf key tags [entry] target ++ tagsOf key tags others target :=
        fun others => tagsOf_append [entry] others target
      rw [split (addEntry key merge entries value), split (entries ++ [value]), rest]

/-- An entry of the map carries what the values of its key carry, in order. -/
theorem tagsOf_foldl_addEntry (keeps : ∀ entry value, key (merge entry value) = key entry)
    {values : List α}
    (law : ∀ entry, ∀ value ∈ values, tags (merge entry value) = tags entry ++ tags value)
    {entries : List α} (nodup : (entries.map key).Nodup) (target : κ) :
    tagsOf key tags (values.foldl (addEntry key merge) entries) target =
      tagsOf key tags (entries ++ values) target := by
  induction values generalizing entries with
  | nil => simp
  | cons value values inductionHypothesis =>
    have nodup' : ((addEntry key merge entries value).map key).Nodup :=
      nodup_foldl_addEntry keeps [value] nodup
    rw [List.foldl_cons,
      inductionHypothesis (fun entry other later => law entry other (List.mem_cons_of_mem _ later))
        nodup',
      tagsOf_append, tagsOf_addEntry keeps (fun entry => law entry value List.mem_cons_self) nodup,
      ← tagsOf_append]
    simp

end Entries

/-! ## The maps of the write stages -/

section Maps

/-- The indices of the objects with a key. -/
def indicesOf {α κ : Type} [DecidableEq κ] (key : α → κ) (items : List (Indexed α))
    (target : κ) : List Nat :=
  (items.filter fun item => key item.value = target).map Indexed.index

theorem tagsOf_map {α β κ : Type} [DecidableEq κ] (ofItem : Indexed α → β) (key : β → κ)
    (tags : β → List Nat) (id : α → κ) (keyed : ∀ item, key (ofItem item) = id item.value)
    (tagged : ∀ item, tags (ofItem item) = [item.index]) (items : List (Indexed α))
    (target : κ) : tagsOf key tags (items.map ofItem) target = indicesOf id items target := by
  induction items with
  | nil => rfl
  | cons item items inductionHypothesis =>
    simp only [tagsOf, indicesOf] at inductionHypothesis ⊢
    by_cases same : id item.value = target <;>
      simp [keyed, tagged, same, inductionHypothesis]

theorem tagsOf_map_nil {α β κ : Type} [DecidableEq κ] {ofItem : Indexed α → β} {key : β → κ}
    {tags : β → List Nat} (untagged : ∀ item, tags (ofItem item) = []) (items : List (Indexed α))
    (target : κ) : tagsOf key tags (items.map ofItem) target = [] := by
  simp [tagsOf, List.flatMap_eq_nil_iff, untagged]

theorem addUser_userId (entry user : CombinedUserWrite) :
    (entry.addUser user).userId = entry.userId := rfl

theorem addAuthor_userId (entry author : CombinedUserWrite) :
    (entry.addAuthor author).userId = entry.userId := rfl

theorem add_placeId (entry place : DedupedPlace) : (entry.add place).placeId = entry.placeId := rfl

variable (users tweetAuthors : List (Indexed TwitterUser))

/-- The map after the first loop. -/
theorem nodup_foldl_addUser :
    (((users.map CombinedUserWrite.ofUser).foldl
      (addEntry CombinedUserWrite.userId CombinedUserWrite.addUser) []).map
        CombinedUserWrite.userId).Nodup := by
  apply nodup_foldl_addEntry addUser_userId
  simp

theorem nodup_combineUsers :
    ((combineUsers users tweetAuthors).map CombinedUserWrite.userId).Nodup :=
  nodup_foldl_addEntry addAuthor_userId _ (nodup_foldl_addUser users)

theorem mem_ids_combineUsers (userId : Int) :
    userId ∈ (combineUsers users tweetAuthors).map CombinedUserWrite.userId ↔
      userId ∈ (users ++ tweetAuthors).map fun item => item.value.id := by
  unfold combineUsers
  rw [mem_keys_foldl_addEntry addAuthor_userId, mem_keys_foldl_addEntry addUser_userId]
  simp only [List.map_map, List.map_nil, List.not_mem_nil, false_or, List.map_append,
    List.mem_append]
  rfl

theorem forall_combineUsers {holds : TwitterUser → Prop}
    (merged : ∀ user other : TwitterUser, user.id = other.id → holds user → holds other →
      holds { user with registeredAt := user.registeredAt.or other.registeredAt })
    (ofUsers : ∀ item ∈ users, holds item.value)
    (ofAuthors : ∀ item ∈ tweetAuthors, holds item.value) :
    ∀ entry ∈ combineUsers users tweetAuthors, holds entry.value := by
  let holdsEntry (entry : CombinedUserWrite) : Prop := holds entry.value
  have afterUsers : ∀ entry ∈ (users.map CombinedUserWrite.ofUser).foldl
      (addEntry CombinedUserWrite.userId CombinedUserWrite.addUser) [], holdsEntry entry := by
    apply forall_foldl_addEntry
    · exact fun entry user same isEntry isUser =>
        merged entry.value user.value same isEntry isUser
    · simp
    · intro entry member
      obtain ⟨item, isItem, rfl⟩ := List.mem_map.mp member
      exact ofUsers item isItem
  have afterAuthors : ∀ entry ∈ combineUsers users tweetAuthors, holdsEntry entry := by
    apply forall_foldl_addEntry _ _ afterUsers
    · intro entry member
      obtain ⟨item, isItem, rfl⟩ := List.mem_map.mp member
      exact ofAuthors item isItem
    · exact fun entry author _ isEntry _ => isEntry
  exact afterAuthors

/-- A merged user carries the indices of all users with its id. -/
theorem userIndices_of_mem {entry : CombinedUserWrite}
    (member : entry ∈ combineUsers users tweetAuthors) :
    entry.userIndices = indicesOf TwitterUser.id users entry.userId := by
  have authorsCarryNone : ∀ entry : CombinedUserWrite,
      ∀ author ∈ tweetAuthors.map CombinedUserWrite.ofAuthor,
        (entry.addAuthor author).userIndices = entry.userIndices ++ author.userIndices := by
    intro entry author member
    obtain ⟨item, _, isItem⟩ := List.mem_map.mp member
    subst isItem
    exact (List.append_nil _).symm
  calc entry.userIndices
    _ = tagsOf CombinedUserWrite.userId CombinedUserWrite.userIndices
          (combineUsers users tweetAuthors) entry.userId :=
      (tagsOf_of_mem (nodup_combineUsers users tweetAuthors) member).symm
    _ = tagsOf CombinedUserWrite.userId CombinedUserWrite.userIndices
          ((users.map CombinedUserWrite.ofUser).foldl
            (addEntry CombinedUserWrite.userId CombinedUserWrite.addUser) []) entry.userId := by
      rw [combineUsers, tagsOf_foldl_addEntry addAuthor_userId authorsCarryNone
        (nodup_foldl_addUser users), tagsOf_append, tagsOf_map_nil fun _ => rfl, List.append_nil]
    _ = tagsOf CombinedUserWrite.userId CombinedUserWrite.userIndices
          (users.map CombinedUserWrite.ofUser) entry.userId := by
      rw [tagsOf_foldl_addEntry addUser_userId (fun _ _ _ => rfl) (by simp), List.nil_append]
    _ = indicesOf TwitterUser.id users entry.userId :=
      tagsOf_map CombinedUserWrite.ofUser _ _ _ (fun _ => rfl) (fun _ => rfl) users _

/-- And those of all tweets whose author has it. -/
theorem tweetIndices_of_mem {entry : CombinedUserWrite}
    (member : entry ∈ combineUsers users tweetAuthors) :
    entry.tweetIndices = indicesOf TwitterUser.id tweetAuthors entry.userId := by
  have usersCarryNone : ∀ entry : CombinedUserWrite,
      ∀ user ∈ users.map CombinedUserWrite.ofUser,
        (entry.addUser user).tweetIndices = entry.tweetIndices ++ user.tweetIndices := by
    intro entry user member
    obtain ⟨item, _, isItem⟩ := List.mem_map.mp member
    subst isItem
    exact (List.append_nil _).symm
  calc entry.tweetIndices
    _ = tagsOf CombinedUserWrite.userId CombinedUserWrite.tweetIndices
          (combineUsers users tweetAuthors) entry.userId :=
      (tagsOf_of_mem (nodup_combineUsers users tweetAuthors) member).symm
    _ = tagsOf CombinedUserWrite.userId CombinedUserWrite.tweetIndices
            ((users.map CombinedUserWrite.ofUser).foldl
              (addEntry CombinedUserWrite.userId CombinedUserWrite.addUser) []) entry.userId ++
          tagsOf CombinedUserWrite.userId CombinedUserWrite.tweetIndices
            (tweetAuthors.map CombinedUserWrite.ofAuthor) entry.userId := by
      rw [combineUsers, tagsOf_foldl_addEntry addAuthor_userId (fun _ _ _ => rfl)
        (nodup_foldl_addUser users), tagsOf_append]
    _ = tagsOf CombinedUserWrite.userId CombinedUserWrite.tweetIndices
          (tweetAuthors.map CombinedUserWrite.ofAuthor) entry.userId := by
      rw [tagsOf_foldl_addEntry addUser_userId usersCarryNone (by simp), List.nil_append,
        tagsOf_map_nil fun _ => rfl, List.nil_append]
    _ = indicesOf TwitterUser.id tweetAuthors entry.userId :=
      tagsOf_map CombinedUserWrite.ofAuthor _ _ _ (fun _ => rfl) (fun _ => rfl) tweetAuthors _

variable (places : List (Indexed TweetPlace))

theorem nodup_dedupePlaces : ((dedupePlaces places).map DedupedPlace.placeId).Nodup := by
  apply nodup_foldl_addEntry add_placeId
  simp

theorem mem_ids_dedupePlaces (placeId : String) :
    placeId ∈ (dedupePlaces places).map DedupedPlace.placeId ↔
      placeId ∈ places.map fun item => item.value.id := by
  unfold dedupePlaces
  rw [mem_keys_foldl_addEntry add_placeId]
  simp only [List.map_map, List.map_nil, List.not_mem_nil, false_or]
  rfl

theorem indices_of_mem_dedupePlaces {entry : DedupedPlace}
    (member : entry ∈ dedupePlaces places) :
    entry.indices = indicesOf TweetPlace.id places entry.placeId := by
  rw [← @tagsOf_of_mem _ _ _ _ _ DedupedPlace.indices _ (nodup_dedupePlaces places) _ member,
    dedupePlaces, tagsOf_foldl_addEntry add_placeId (fun _ _ _ => rfl) (by simp),
    List.nil_append]
  exact tagsOf_map DedupedPlace.ofItem _ _ _ (fun _ => rfl) (fun _ => rfl) places _

end Maps

end TweetDb.Submit
