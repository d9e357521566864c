import TweetDb.Submit.Alignment
import TweetDb.Submit.Regroup
import TweetDb.Submit.StageRuns

/-! # Two batches and their user stages

Two batches that are alike for all items but one, and what their user stages do
for these.
-/

namespace TweetDb.Submit

open Relational ObjectResult TweetModel
open TweetDb.Search (FreshIds)
open TweetDb.Tweet (TweetCommunityNote TweetEdit TweetPlace TweetPolicy TweetRow TweetStats
  TwitterUser UserStats UserStatsColumns UserTables Version)

/-! ## Two calls -/

/-- The items of a call other than one: their places in its lists, and what belongs to them. -/
structure Others extends Scope where
  userItem : Nat → Bool
  tweetItem : Nat → Bool
  mediaItem : Nat → Bool

/-- The batches of two calls with the same other items. -/
structure BatchesAlike (others : Others) (prepared prepared' : PreparedSubmitBatch) : Prop where
  userResults : ∀ index, others.userItem index = true →
    prepared.userResults[index]? = prepared'.userResults[index]?
  tweetResults : ∀ index, others.tweetItem index = true →
    prepared.tweetResults[index]? = prepared'.tweetResults[index]?
  mediaResults : ∀ index, others.mediaItem index = true →
    prepared.mediaResults[index]? = prepared'.mediaResults[index]?
  users : ItemsAlike others.userItem others.user TwitterUser.id prepared.users prepared'.users
  tweetAuthors : ItemsAlike others.tweetItem others.user TwitterUser.id prepared.tweetAuthors
    prepared'.tweetAuthors
  userSnapshots : ItemsAlike others.userItem others.user UserSnapshot.userId prepared.userSnapshots
    prepared'.userSnapshots
  userStats : ItemsAlike others.userItem others.user UserStats.userId prepared.userStats
    prepared'.userStats
  media : ItemsAlike others.mediaItem others.media Media.id prepared.media prepared'.media
  mediaResources : ItemsAlike others.mediaItem others.media MediaResource.mediaId
    prepared.mediaResources prepared'.mediaResources
  tweetPlaces : ItemsAlike others.tweetItem others.place TweetPlace.id prepared.tweetPlaces
    prepared'.tweetPlaces
  tweets : ItemsAlike others.tweetItem others.tweet TweetRow.id prepared.tweets prepared'.tweets
  tweetEdits : ItemsAlike others.tweetItem others.tweet TweetEdit.tweetId prepared.tweetEdits
    prepared'.tweetEdits
  tweetPolicies : ItemsAlike others.tweetItem others.tweet TweetPolicy.tweetId
    prepared.tweetPolicies prepared'.tweetPolicies
  tweetCommunityNotes : ItemsAlike others.tweetItem others.tweet TweetCommunityNote.tweetId
    prepared.tweetCommunityNotes prepared'.tweetCommunityNotes
  tweetStats : ItemsAlike others.tweetItem others.tweet TweetStats.tweetId prepared.tweetStats
    prepared'.tweetStats
  tweetRelations : ItemsAlike others.tweetItem others.tweet TweetRelations.tweetId
    prepared.tweetRelations prepared'.tweetRelations

/-- The objects of a batch have keys of their own, and the results have a place for each. -/
structure PreparedSubmitBatch.Keyed (scope : Scope) (prepared : PreparedSubmitBatch) : Prop where
  userSnapshots : DistinctBy UserSnapshot.userId (prepared.userSnapshots.map Indexed.value)
  userStats : DistinctBy UserStats.userId (prepared.userStats.map Indexed.value)
  media : DistinctBy Media.id (prepared.media.map Indexed.value)
  mediaResources : DistinctBy (fun item : Indexed MediaResource => item.value.mediaId)
    prepared.mediaResources
  tweets : DistinctBy TweetRow.id (prepared.tweets.map Indexed.value)
  tweetEdits : DistinctBy TweetEdit.tweetId (prepared.tweetEdits.map Indexed.value)
  tweetPolicies : DistinctBy TweetPolicy.tweetId (prepared.tweetPolicies.map Indexed.value)
  tweetCommunityNotes :
    DistinctBy TweetCommunityNote.tweetId (prepared.tweetCommunityNotes.map Indexed.value)
  tweetStats : DistinctBy TweetStats.tweetId (prepared.tweetStats.map Indexed.value)
  tweetRelations : RelationsApart scope (prepared.tweetRelations.map Indexed.value)
  userPlaces : ∀ index ∈ userIndices prepared, index < prepared.userResults.length
  tweetPlaces : ∀ index ∈ tweetIndices prepared, index < prepared.tweetResults.length
  mediaPlaces : ∀ index ∈ mediaIndices prepared, index < prepared.mediaResults.length

theorem distinctBy_pair {α κ τ : Type} {key : α → κ} {time : α → τ} {rows : List α}
    (distinct : DistinctBy key rows) : DistinctBy (fun row => (key row, time row)) rows :=
  fun a inA b inB same => distinct a inA b inB (congrArg Prod.fst same)

/-! ### Merged users -/

section Users

variable {others : Others} {users users' authors authors' : List (Indexed TwitterUser)}

theorem filter_combineUsers
    (usersAlike : ItemsAlike others.userItem others.user TwitterUser.id users users')
    (authorsAlike : ItemsAlike others.tweetItem others.user TwitterUser.id authors authors')
    [DecidablePred others.user] :
    (combineUsers users authors).filter (fun entry => decide (others.user entry.userId)) =
      (combineUsers users' authors').filter fun entry => decide (others.user entry.userId) := by
  have sameUsers : (users.filter fun item => decide (others.user item.value.id)) =
      users'.filter fun item => decide (others.user item.value.id) :=
    usersAlike.filter_eq (fun item member kept => (usersAlike.inside item member).mp
      (of_decide_eq_true kept)) fun item member kept => (usersAlike.inside' item member).mp
        (of_decide_eq_true kept)
  have sameAuthors : (authors.filter fun item => decide (others.user item.value.id)) =
      authors'.filter fun item => decide (others.user item.value.id) :=
    authorsAlike.filter_eq (fun item member kept => (authorsAlike.inside item member).mp
      (of_decide_eq_true kept)) fun item member kept => (authorsAlike.inside' item member).mp
        (of_decide_eq_true kept)
  have merged : ∀ users authors : List (Indexed TwitterUser),
      (combineUsers users authors).filter (fun entry => decide (others.user entry.userId)) =
        combineUsers (users.filter fun item => decide (others.user item.value.id))
          (authors.filter fun item => decide (others.user item.value.id)) := by
    intro users authors
    unfold combineUsers
    rw [filter_foldl_addEntry addAuthor_userId fun id => decide (others.user id),
      filter_foldl_addEntry addUser_userId fun id => decide (others.user id), List.filter_map,
      List.filter_map]
    rfl
  rw [merged, merged, sameUsers, sameAuthors]

theorem inside_of_userIndices
    (alike : ItemsAlike others.userItem others.user TwitterUser.id users users') :
    ∀ entry ∈ combineUsers users authors, ∀ index ∈ entry.userIndices,
      others.userItem index = true → others.user entry.userId := by
  intro entry member index named isOther
  rw [userIndices_of_mem users authors member] at named
  obtain ⟨item, isItem, rfl⟩ := List.mem_map.mp named
  obtain ⟨inUsers, sameId⟩ := List.mem_filter.mp isItem
  rw [← of_decide_eq_true sameId]
  exact (alike.inside item inUsers).mpr isOther

theorem inside_of_tweetIndices
    (alike : ItemsAlike others.tweetItem others.user TwitterUser.id authors authors') :
    ∀ entry ∈ combineUsers users authors, ∀ index ∈ entry.tweetIndices,
      others.tweetItem index = true → others.user entry.userId := by
  intro entry member index named isOther
  rw [tweetIndices_of_mem users authors member] at named
  obtain ⟨item, isItem, rfl⟩ := List.mem_map.mp named
  obtain ⟨inAuthors, sameId⟩ := List.mem_filter.mp isItem
  rw [← of_decide_eq_true sameId]
  exact (alike.inside item inAuthors).mpr isOther

variable (usersAlike : ItemsAlike others.userItem others.user TwitterUser.id users users')
  (authorsAlike : ItemsAlike others.tweetItem others.user TwitterUser.id authors authors')

include usersAlike authorsAlike

theorem entriesAlike_users :
    EntriesAlike others.userItem CombinedUserWrite.userIndices CombinedUserWrite.value
      (fun user => others.user user.id) (combineUsers users authors)
      (combineUsers users' authors') := by
  classical
  refine .of_filter (filter_combineUsers usersAlike authorsAlike) (fun _ _ => decide_eq_true_iff)
    (fun _ _ => decide_eq_true_iff) (inside_of_userIndices usersAlike)
    (inside_of_userIndices usersAlike.symm)

theorem entriesAlike_authors :
    EntriesAlike others.tweetItem CombinedUserWrite.tweetIndices CombinedUserWrite.value
      (fun user => others.user user.id) (combineUsers users authors)
      (combineUsers users' authors') := by
  classical
  exact .of_filter (filter_combineUsers usersAlike authorsAlike) (fun _ _ => decide_eq_true_iff)
    (fun _ _ => decide_eq_true_iff) (inside_of_tweetIndices authorsAlike)
    (inside_of_tweetIndices authorsAlike.symm)

theorem carriesRow_combineUsers :
    CarriesRow CombinedUserWrite.value (fun user => others.user user.id)
        (combineUsers users authors) →
      Carries others.userItem users ∨ Carries others.tweetItem authors := by
  intro ⟨entry, member, inside⟩
  have named := (mem_ids_combineUsers users authors entry.userId).mp (List.mem_map_of_mem member)
  obtain ⟨item, isItem, sameId⟩ := List.mem_map.mp named
  have itemInside : others.user item.value.id := sameId ▸ inside
  rcases List.mem_append.mp isItem with inUsers | inAuthors
  · exact .inl ⟨item, inUsers, (usersAlike.inside item inUsers).mp itemInside⟩
  · exact .inr ⟨item, inAuthors, (authorsAlike.inside item inAuthors).mp itemInside⟩

omit usersAlike authorsAlike

variable (authors) in
/-- The entry of a user is recorded at the user. -/
theorem exists_userIndices {item : Indexed TwitterUser} (member : item ∈ users) :
    ∃ entry ∈ combineUsers users authors, item.index ∈ entry.userIndices := by
  have named := (mem_ids_combineUsers users authors item.value.id).mpr
    (List.mem_map_of_mem (f := fun item : Indexed TwitterUser => item.value.id)
      (List.mem_append_left authors member))
  obtain ⟨entry, isEntry, sameId⟩ := List.mem_map.mp named
  refine ⟨entry, isEntry, ?_⟩
  rw [userIndices_of_mem users authors isEntry, sameId]
  exact List.mem_map.mpr ⟨item, List.mem_filter.mpr ⟨member, decide_eq_true rfl⟩, rfl⟩

variable (users) in
theorem exists_tweetIndices {item : Indexed TwitterUser} (member : item ∈ authors) :
    ∃ entry ∈ combineUsers users authors, item.index ∈ entry.tweetIndices := by
  have named := (mem_ids_combineUsers users authors item.value.id).mpr
    (List.mem_map_of_mem (f := fun item : Indexed TwitterUser => item.value.id)
      (List.mem_append_right users member))
  obtain ⟨entry, isEntry, sameId⟩ := List.mem_map.mp named
  refine ⟨entry, isEntry, ?_⟩
  rw [tweetIndices_of_mem users authors isEntry, sameId]
  exact List.mem_map.mpr ⟨item, List.mem_filter.mpr ⟨member, decide_eq_true rfl⟩, rfl⟩

end Users

/-! ### Deduplicated places -/

section Places

variable {others : Others} {places places' : List (Indexed TweetPlace)}

theorem filter_dedupePlaces
    (alike : ItemsAlike others.tweetItem others.place TweetPlace.id places places')
    [DecidablePred others.place] :
    (dedupePlaces places).filter (fun entry => decide (others.place entry.placeId)) =
      (dedupePlaces places').filter fun entry => decide (others.place entry.placeId) := by
  have samePlaces : (places.filter fun item => decide (others.place item.value.id)) =
      places'.filter fun item => decide (others.place item.value.id) :=
    alike.filter_eq (fun item member kept => (alike.inside item member).mp
      (of_decide_eq_true kept)) fun item member kept => (alike.inside' item member).mp
        (of_decide_eq_true kept)
  have deduped : ∀ places : List (Indexed TweetPlace),
      (dedupePlaces places).filter (fun entry => decide (others.place entry.placeId)) =
        dedupePlaces (places.filter fun item => decide (others.place item.value.id)) := by
    intro places
    unfold dedupePlaces
    rw [filter_foldl_addEntry add_placeId fun id => decide (others.place id), List.filter_map]
    rfl
  rw [deduped, deduped, samePlaces]

theorem inside_of_placeIndices
    (alike : ItemsAlike others.tweetItem others.place TweetPlace.id places places') :
    ∀ entry ∈ dedupePlaces places, ∀ index ∈ entry.indices, others.tweetItem index = true →
      others.place entry.placeId := by
  intro entry member index named isOther
  rw [indices_of_mem_dedupePlaces places member] at named
  obtain ⟨item, isItem, rfl⟩ := List.mem_map.mp named
  obtain ⟨inPlaces, sameId⟩ := List.mem_filter.mp isItem
  rw [← of_decide_eq_true sameId]
  exact (alike.inside item inPlaces).mpr isOther

variable (alike : ItemsAlike others.tweetItem others.place TweetPlace.id places places')

include alike

theorem entriesAlike_places :
    EntriesAlike others.tweetItem DedupedPlace.indices DedupedPlace.value
      (fun place => others.place place.id) (dedupePlaces places) (dedupePlaces places') := by
  classical
  exact .of_filter (filter_dedupePlaces alike) (fun _ _ => decide_eq_true_iff)
    (fun _ _ => decide_eq_true_iff) (inside_of_placeIndices alike)
    (inside_of_placeIndices alike.symm)

theorem carriesRow_dedupePlaces :
    CarriesRow DedupedPlace.value (fun place => others.place place.id) (dedupePlaces places) →
      Carries others.tweetItem places := by
  intro ⟨entry, member, inside⟩
  have named := (mem_ids_dedupePlaces places entry.placeId).mp (List.mem_map_of_mem member)
  obtain ⟨item, isItem, sameId⟩ := List.mem_map.mp named
  have itemInside : others.place item.value.id := sameId ▸ inside
  exact ⟨item, isItem, (alike.inside item isItem).mp itemInside⟩

omit alike

theorem exists_placeIndices {item : Indexed TweetPlace} (member : item ∈ places) :
    ∃ entry ∈ dedupePlaces places, item.index ∈ entry.indices := by
  have named := (mem_ids_dedupePlaces places item.value.id).mpr
    (List.mem_map_of_mem (f := fun item : Indexed TweetPlace => item.value.id) member)
  obtain ⟨entry, isEntry, sameId⟩ := List.mem_map.mp named
  refine ⟨entry, isEntry, ?_⟩
  rw [indices_of_mem_dedupePlaces places isEntry, sameId]
  exact List.mem_map.mpr ⟨item, List.mem_filter.mpr ⟨member, decide_eq_true rfl⟩, rfl⟩

end Places

/-! ## The user stages -/

theorem failure_map {α β : Type} (statement : Except String α) (f : α → β) :
    failure (statement.map f) = failure statement := by
  cases statement <;> rfl

section Ends

variable {α β : Type} {carried : Prop} {statement statement' : Except String α} {f f' : α → β}

theorem ends_map (ends : carried → failure statement = failure statement') :
    carried → failure (statement.map f) = failure (statement'.map f') := by
  intro carries
  rw [failure_map, failure_map, ends carries]

theorem ends_of_map (ends : carried → failure (statement.map f) = failure (statement'.map f')) :
    carried → failure statement = failure statement' := by
  intro carries
  rw [← failure_map statement f, ends carries, failure_map]

end Ends

theorem exists_getElem?_of_extended {start results : List ObjectResult} {index : Nat}
    (extended : Extended start results) (inRange : index < start.length) :
    ∃ result, results[index]? = some result := by
  obtain ⟨result, _, present, _⟩ := extended index _ (List.getElem?_eq_getElem inRange)
  exact ⟨result, present⟩

/-- The user statements end alike, if they carry an object of another item. -/
structure UsersEndAlike (others : Others) (prepared : PreparedSubmitBatch)
    (outcomes outcomes' : Outcomes) : Prop where
  users : Carries others.userItem prepared.users ∨ Carries others.tweetItem prepared.tweetAuthors →
    failure outcomes.users = failure outcomes'.users
  userSnapshots : Carries others.userItem prepared.userSnapshots →
    failure outcomes.userSnapshots = failure outcomes'.userSnapshots
  userStats : Carries others.userItem prepared.userStats →
    failure outcomes.userStats = failure outcomes'.userStats

/-- What two runs of the user stages leave. -/
structure UserPhasesAlike (env : Environment) (others : Others) (phase phase' : UserPhase) :
    Prop where
  fresh : FreshIds env.newId phase.tables.indexQueue
  fresh' : FreshIds env.newId phase'.tables.indexQueue
  tables : UsersAgree others.toScope phase.tables phase'.tables
  userStats : AgreeOn (fun row : Version UserStatsColumns => others.user row.subjectId)
    phase.userStats.rows phase'.userStats.rows
  userResults : ∀ index, others.userItem index = true →
    phase.userResults[index]? = phase'.userResults[index]?
  tweetResults : ∀ index, others.tweetItem index = true →
    phase.tweetResults[index]? = phase'.tweetResults[index]?

/-- `recordAuthor`, of the answer for an author. -/
def authorRecorded (changed : Bool) : ObjectResult → ObjectResult :=
  if changed then accepted "tweet_author" "inserted_minimal" else skipped "tweet_author" "existing"

section Users

variable {env : Environment} {others : Others} {prepared prepared' : PreparedSubmitBatch}

/-- The indices of the user objects are places of results. -/
theorem PreparedSubmitBatch.Keyed.userPlace {scope : Scope} (keyed : prepared.Keyed scope)
    {index : Nat}
    (named : index ∈ prepared.users.map Indexed.index ∨
      index ∈ prepared.userSnapshots.map Indexed.index ∨
      index ∈ prepared.userStats.map Indexed.index) :
    index < prepared.userResults.length := by
  apply keyed.userPlaces
  simp only [userIndices, List.mem_dedup, List.mem_append, or_assoc]
  exact named

/-- And those of the tweet objects. -/
theorem PreparedSubmitBatch.Keyed.tweetPlace {scope : Scope} (keyed : prepared.Keyed scope)
    {index : Nat}
    (named : index ∈ prepared.tweetAuthors.map Indexed.index ∨
      index ∈ prepared.tweetPlaces.map Indexed.index ∨
      index ∈ prepared.tweets.map Indexed.index ∨ index ∈ prepared.tweetEdits.map Indexed.index ∨
      index ∈ prepared.tweetPolicies.map Indexed.index ∨
      index ∈ prepared.tweetCommunityNotes.map Indexed.index ∨
      index ∈ prepared.tweetStats.map Indexed.index ∨
      index ∈ prepared.tweetRelations.map Indexed.index) :
    index < prepared.tweetResults.length := by
  apply keyed.tweetPlaces
  simp only [tweetIndices, List.mem_dedup, List.mem_append, or_assoc]
  exact named

variable (alike : BatchesAlike others prepared prepared')
  (keyed : prepared.Keyed others.toScope) (keyed' : prepared'.Keyed others.toScope)
  {tables tables' : UserTables} (fresh : FreshIds env.newId tables.indexQueue)
  (fresh' : FreshIds env.newId tables'.indexQueue)
  (agree : UsersAgree others.toScope tables tables')

include alike fresh fresh' agree

theorem combined_alike
    (ends : Carries others.userItem prepared.users ∨
        Carries others.tweetItem prepared.tweetAuthors →
      failure (env.insertUsersChanged ((combineUsers prepared.users prepared.tweetAuthors).map
          CombinedUserWrite.value) tables) =
        failure (env.insertUsersChanged ((combineUsers prepared'.users prepared'.tweetAuthors).map
          CombinedUserWrite.value) tables')) :
    let written := writeCombinedUserBatch env prepared.users prepared.tweetAuthors tables
      prepared.userResults prepared.tweetResults
    let written' := writeCombinedUserBatch env prepared'.users prepared'.tweetAuthors tables'
      prepared'.userResults prepared'.tweetResults
    (FreshIds env.newId written.1.indexQueue ∧ FreshIds env.newId written'.1.indexQueue) ∧
      UsersAgree others.toScope written.1 written'.1 ∧
      (∀ index, others.userItem index = true → written.2.1[index]? = written'.2.1[index]?) ∧
      ∀ index, others.tweetItem index = true → written.2.2[index]? = written'.2.2[index]? := by
  have distinct : ∀ users authors : List (Indexed TwitterUser),
      DistinctBy TwitterUser.id ((combineUsers users authors).map CombinedUserWrite.value) := by
    intro users authors
    exact DistinctBy.map (DistinctBy.of_nodup (nodup_combineUsers users authors))
  have endsRow := fun carries =>
    ends (carriesRow_combineUsers alike.users alike.tweetAuthors carries)
  have users : StageAlike others.userItem _ _
      (writeBatch CombinedUserWrite.userIndices recordUser (failed "twitter_user") _ _ _ _)
      (writeBatch CombinedUserWrite.userIndices recordUser (failed "twitter_user") _ _ _ _) :=
    writeBatch_alike (independent_users env others.toScope)
      (entriesAlike_users alike.users alike.tweetAuthors)
      (fun _ _ _ same => congrArg (recordChanged "twitter_user") same) (env.refusals.users _)
      (env.refusals.users _) () () rfl (distinct _ _) (distinct _ _) fresh fresh' agree
      alike.userResults endsRow
  have authors : StageAlike others.tweetItem _ _
      (writeBatch CombinedUserWrite.tweetIndices recordAuthor (failed "tweet_author") _ _ _ _)
      (writeBatch CombinedUserWrite.tweetIndices recordAuthor (failed "tweet_author") _ _ _ _) :=
    writeBatch_alike (independent_users env others.toScope)
      (entriesAlike_authors alike.users alike.tweetAuthors)
      (fun _ _ _ same => congrArg authorRecorded same) (env.refusals.users _)
      (env.refusals.users _) () () rfl (distinct _ _) (distinct _ _) fresh fresh' agree
      alike.tweetResults endsRow
  exact ⟨users.sound, users.states, users.results, authors.results⟩

omit fresh fresh' agree in
/-- What has become of the merged users is told to every other item that has one. -/
theorem combined_told (keyed : prepared.Keyed others.toScope)
    (usersAtEnd : EndSame others.userItem
      (writeCombinedUserBatch env prepared.users prepared.tweetAuthors tables prepared.userResults
        prepared.tweetResults).2.1
      (writeCombinedUserBatch env prepared'.users prepared'.tweetAuthors tables'
        prepared'.userResults prepared'.tweetResults).2.1)
    (tweetsAtEnd : EndSame others.tweetItem
      (writeCombinedUserBatch env prepared.users prepared.tweetAuthors tables prepared.userResults
        prepared.tweetResults).2.2
      (writeCombinedUserBatch env prepared'.users prepared'.tweetAuthors tables'
        prepared'.userResults prepared'.tweetResults).2.2)
    (carried : Carries others.userItem prepared.users ∨
      Carries others.tweetItem prepared.tweetAuthors) :
    failure (env.insertUsersChanged ((combineUsers prepared.users prepared.tweetAuthors).map
        CombinedUserWrite.value) tables) =
      failure (env.insertUsersChanged ((combineUsers prepared'.users prepared'.tweetAuthors).map
        CombinedUserWrite.value) tables') := by
  have presentUser : ∀ entry ∈ combineUsers prepared.users prepared.tweetAuthors,
      ∀ index ∈ entry.userIndices, ∃ result : ObjectResult,
        prepared.userResults[index]? = some result := by
    intro entry member index named
    rw [userIndices_of_mem _ _ member] at named
    exact ⟨_, List.getElem?_eq_getElem (keyed.userPlace (.inl (mem_indicesOf named)))⟩
  have presentTweet : ∀ entry ∈ combineUsers prepared.users prepared.tweetAuthors,
      ∀ index ∈ entry.tweetIndices, ∃ result : ObjectResult,
        prepared.tweetResults[index]? = some result := by
    intro entry member index named
    rw [tweetIndices_of_mem _ _ member] at named
    exact ⟨_, List.getElem?_eq_getElem (keyed.tweetPlace (by simp [mem_indicesOf named]))⟩
  rcases carried with ⟨item, member, isOther⟩ | ⟨item, member, isOther⟩
  · obtain ⟨entry, isEntry, named⟩ := exists_userIndices prepared.tweetAuthors member
    exact failure_eq_of_ends (entriesAlike_users alike.users alike.tweetAuthors)
      (tells_changed (by decide)) alike.userResults presentUser usersAtEnd
      ⟨entry, isEntry, item.index, named, isOther⟩
  · obtain ⟨entry, isEntry, named⟩ := exists_tweetIndices prepared.users member
    exact failure_eq_of_ends (entriesAlike_authors alike.users alike.tweetAuthors)
      tells_author alike.tweetResults presentTweet tweetsAtEnd
      ⟨entry, isEntry, item.index, named, isOther⟩

include keyed keyed'

theorem snapshots_runs {results results' : List ObjectResult}
    (before : ∀ index, others.userItem index = true → results[index]? = results'[index]?)
    (present : ∀ item ∈ prepared.userSnapshots, ∃ result : ObjectResult,
      results[item.index]? = some result) :
    StageRuns others.userItem (fun tables => FreshIds env.newId tables.indexQueue)
      (UsersAgree others.toScope) (Carries others.userItem prepared.userSnapshots)
      (failure (env.appendUserSnapshotsIfChangedMany (prepared.userSnapshots.map Indexed.value)
        tables))
      (failure (env.appendUserSnapshotsIfChangedMany (prepared'.userSnapshots.map Indexed.value)
        tables'))
      (writeUserSnapshotsBatch env prepared.userSnapshots tables results)
      (writeUserSnapshotsBatch env prepared'.userSnapshots tables' results') :=
  stageRuns_items (independent_snapshots env others.toScope) (tells_conditionalWrite (by decide))
    (fun _ _ _ same => congrArg (recordConditionalWrite "user_snapshot") same)
    (env.refusals.userSnapshots _) (env.refusals.userSnapshots _) () () alike.userSnapshots rfl
    (distinctBy_pair keyed.userSnapshots) (distinctBy_pair keyed'.userSnapshots) fresh fresh' agree
    before present

variable (env) in
omit fresh fresh' in
theorem userStats_runs {table table' : Table (Version UserStatsColumns)}
    {results results' : List ObjectResult}
    (agreeStats : AgreeOn (fun row : Version UserStatsColumns => others.user row.subjectId)
      table.rows table'.rows)
    (before : ∀ index, others.userItem index = true → results[index]? = results'[index]?)
    (present : ∀ item ∈ prepared.userStats, ∃ result : ObjectResult,
      results[item.index]? = some result) :
    StageRuns others.userItem (fun _ => True)
      (fun table table' => AgreeOn (fun row : Version UserStatsColumns => others.user row.subjectId)
        table.rows table'.rows)
      (Carries others.userItem prepared.userStats)
      (failure (env.appendUserStatsIfChangedMany tables.hasUser
        (prepared.userStats.map Indexed.value) table))
      (failure (env.appendUserStatsIfChangedMany tables'.hasUser
        (prepared'.userStats.map Indexed.value) table'))
      (writeUserStatsBatch env prepared.userStats tables.hasUser table results)
      (writeUserStatsBatch env prepared'.userStats tables'.hasUser table' results') :=
  stageRuns_items (independent_stats env others.user UserStats.toVersion fun _ => rfl)
    (tells_conditionalWrite (by decide))
    (fun _ _ _ same => congrArg (recordConditionalWrite "user_stats") same)
    (env.refusals.userStats _) (env.refusals.userStats _) tables.hasUser tables'.hasUser
    alike.userStats (fun _ inside => hasUser_congr agree inside) (distinctBy_pair keyed.userStats)
    (distinctBy_pair keyed'.userStats) trivial trivial agreeStats before present

end Users

section Execute

variable {env : Environment} {others : Others} {prepared prepared' : PreparedSubmitBatch}
  {db : Database} (alike : BatchesAlike others prepared prepared')
  (keyed : prepared.Keyed others.toScope) (keyed' : prepared'.Keyed others.toScope)
  (fresh : FreshIds env.newId db.indexQueue)

theorem extended_combined (env : Environment) (prepared : PreparedSubmitBatch)
    (tables : UserTables) :
    let written := writeCombinedUserBatch env prepared.users prepared.tweetAuthors tables
      prepared.userResults prepared.tweetResults
    Extended prepared.userResults written.2.1 ∧ Extended prepared.tweetResults written.2.2 := by
  constructor
  · exact extended_writeBatch (tells_changed (by decide))
  · exact @extended_writeBatch _ _ _ CombinedUserWrite.tweetIndices recordAuthor
      (failed "tweet_author") (combineUsers prepared.users prepared.tweetAuthors)
      (env.insertUsersChanged ((combineUsers prepared.users prepared.tweetAuthors).map
        CombinedUserWrite.value) tables) tables prepared.tweetResults tells_author

theorem extended_userSnapshots {env : Environment} {items : List (Indexed UserSnapshot)}
    {tables : UserTables} {results : List ObjectResult} :
    Extended results (writeUserSnapshotsBatch env items tables results).2 :=
  extended_writeBatch (tells_conditionalWrite (by decide))

theorem extended_userStats {env : Environment} {items : List (Indexed UserStats)}
    {hasUser : Int → Bool} {table : Table (Version UserStatsColumns)}
    {results : List ObjectResult} :
    Extended results (writeUserStatsBatch env items hasUser table results).2 :=
  extended_writeBatch (tells_conditionalWrite (by decide))

/-- The tables the user stages start with. -/
def Database.userTables (db : Database) : UserTables := ⟨db.users, db.userSnapshots, db.indexQueue⟩

include alike keyed keyed' fresh

/-- The user stages of two runs whose statements end alike, or that end the same. -/
theorem executeUsers_runs
    (known : UsersEndAlike others prepared (outcomesOf prepared env db)
        (outcomesOf prepared' env db) ∨
      EndSame others.userItem (executeUsers env prepared db.userTables db.userStats).userResults
          (executeUsers env prepared' db.userTables db.userStats).userResults ∧
        EndSame others.tweetItem (executeUsers env prepared db.userTables db.userStats).tweetResults
          (executeUsers env prepared' db.userTables db.userStats).tweetResults) :
    UsersEndAlike others prepared (outcomesOf prepared env db) (outcomesOf prepared' env db) ∧
      UserPhasesAlike env others (executeUsers env prepared db.userTables db.userStats)
        (executeUsers env prepared' db.userTables db.userStats) := by
  have endsUsers : Carries others.userItem prepared.users ∨
      Carries others.tweetItem prepared.tweetAuthors →
      failure (env.insertUsersChanged ((combineUsers prepared.users prepared.tweetAuthors).map
          CombinedUserWrite.value) db.userTables) =
        failure (env.insertUsersChanged ((combineUsers prepared'.users prepared'.tweetAuthors).map
          CombinedUserWrite.value) db.userTables) := by
    rcases known with ends | atEnd
    · exact ends_of_map ends.users
    · exact combined_told alike keyed (atEnd.1.before
        (extended_userSnapshots.trans extended_userStats)
        (extended_userSnapshots.trans extended_userStats)) atEnd.2
  obtain ⟨⟨freshAfter, freshAfter'⟩, agree, users, tweets⟩ := combined_alike alike fresh fresh
    ((equivalence_usersAgree _).refl db.userTables) endsUsers
  have startExtended := (extended_combined env prepared db.userTables).1
  have snapshots := snapshots_runs alike keyed keyed' freshAfter freshAfter' agree users
    fun item member => exists_getElem?_of_extended startExtended
      (keyed.userPlace (.inr (.inl (List.mem_map_of_mem member))))
  have endsSnapshots := known.elim
    (fun ends => ends_of_map ends.userSnapshots)
    fun atEnd => snapshots.told (atEnd.1.before extended_userStats extended_userStats)
  have stats := userStats_runs env alike keyed keyed' agree (.refl _ db.userStats.rows)
    (snapshots.alike endsSnapshots).results fun item member => exists_getElem?_of_extended
      (startExtended.trans extended_userSnapshots)
      (keyed.userPlace (.inr (.inr (List.mem_map_of_mem member))))
  have endsStats := known.elim
    (fun ends => ends_of_map ends.userStats)
    fun atEnd => stats.told atEnd.1
  have alikeSnapshots := snapshots.alike endsSnapshots
  have alikeStats := stats.alike endsStats
  exact ⟨⟨ends_map endsUsers, ends_map endsSnapshots, ends_map endsStats⟩, alikeSnapshots.sound.1,
    alikeSnapshots.sound.2, alikeSnapshots.states, alikeStats.states, alikeStats.results, tweets⟩

end Execute

end TweetDb.Submit
