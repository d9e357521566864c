import TweetDb.Submit.TweetRuns

/-! # Two calls

`execute_prepared_submit` of two batches that are alike for all items but one.
The other items fare alike exactly if the statements that carry them end alike.
-/

namespace TweetDb.Submit

open Relational ObjectResult TweetModel
open TweetDb.Search (FreshIds IndexTask)
open TweetDb.Transfer (TransferTask)
open TweetDb.Tweet (TweetCommunityNote TweetEdit TweetPlace TweetPolicy TweetRow TweetStatsColumns
  TwitterUser UserStatsColumns Version)

/-! ## The dictionary preload -/

section Preload

variable {other : Nat → Bool} {indices indices' : List Nat} {index : Nat}
  {record record' : ObjectResult → ObjectResult} {results results' : List ObjectResult}

theorem recordAt_getElem?_of_mem (nodup : indices.Nodup) (named : index ∈ indices) :
    (recordAt indices record results)[index]? = results[index]?.map record := by
  have once : indices.filter (· == index) = [index] := by
    rw [List.filter_beq, List.count_eq_one_of_mem nodup named]
    rfl
  refine (@recordAt_getElem? Unit (fun _ => record) indices () results index).trans ?_
  rw [once]
  rfl

theorem recordAt_getElem?_of_not_mem (unnamed : index ∉ indices) :
    (recordAt indices record results)[index]? = results[index]? := by
  have never : indices.filter (· == index) = [] := by
    rw [List.filter_beq, List.count_eq_zero_of_not_mem unnamed]
    rfl
  refine (@recordAt_getElem? Unit (fun _ => record) indices () results index).trans ?_
  rw [never]
  exact Option.map_id'

/-- What is recorded at the same indices for the other items. -/
theorem recordAt_alike (nodup : indices.Nodup) (nodup' : indices'.Nodup)
    (before : ∀ index, other index = true → results[index]? = results'[index]?)
    (named : ∀ index, other index = true → (index ∈ indices ↔ index ∈ indices'))
    (same : (∃ index ∈ indices, other index = true) → record = record') :
    ∀ index, other index = true →
      (recordAt indices record results)[index]? = (recordAt indices' record' results')[index]? := by
  intro index isOther
  by_cases isNamed : index ∈ indices
  · rw [recordAt_getElem?_of_mem nodup isNamed,
      recordAt_getElem?_of_mem nodup' ((named index isOther).mp isNamed), before index isOther,
      same ⟨index, isNamed, isOther⟩]
  · rw [recordAt_getElem?_of_not_mem isNamed,
      recordAt_getElem?_of_not_mem (mt (named index isOther).mpr isNamed), before index isOther]

/-- An item that is told the error of the preload knows which one it is. -/
theorem error_eq_of_recordAt {error error' : String} (nodup : indices.Nodup)
    (nodup' : indices'.Nodup) (isNamed : index ∈ indices) (isNamed' : index ∈ indices')
    (inRange : index < results.length) (before : results[index]? = results'[index]?)
    (same : (recordAt indices (failed "dict_preload" (databaseError error)) results)[index]? =
      (recordAt indices' (failed "dict_preload" (databaseError error')) results')[index]?) :
    error = error' := by
  rw [recordAt_getElem?_of_mem nodup isNamed, recordAt_getElem?_of_mem nodup' isNamed', ← before,
    List.getElem?_eq_getElem inRange, Option.map_some, Option.map_some, Option.some.injEq] at same
  have operations := congrArg ObjectResult.operations same
  simp only [failed, operation, List.append_cancel_left_eq, List.cons.injEq,
    OperationResult.mk.injEq, true_and, and_true] at operations
  exact databaseError_inj operations

/-- No item is told of the preload by the stages. -/
theorem not_extended_preload {error : String} {last : List ObjectResult} (nodup : indices.Nodup)
    (isNamed : index ∈ indices) (inRange : index < results.length)
    (before : results[index]? = results'[index]?) (extended : Extended results last)
    (same : last[index]? = (recordAt indices (failed "dict_preload" error) results')[index]?) :
    False := by
  obtain ⟨result, added, present, isAdded, named⟩ :=
    extended index _ (List.getElem?_eq_getElem inRange)
  rw [recordAt_getElem?_of_mem nodup isNamed, present, ← before, List.getElem?_eq_getElem inRange,
    Option.map_some, Option.some.injEq] at same
  have operations := congrArg ObjectResult.operations same
  rw [isAdded] at operations
  simp only [failed, operation, List.append_cancel_left_eq] at operations
  exact named ⟨"dict_preload", .failed, error⟩ (by rw [operations]; exact List.mem_cons_self) rfl

end Preload

/-! ## What the other items have of two runs -/

/-- The same rows of the scope, in every table a call writes. -/
structure DatabasesAgree (scope : Scope) (db db' : Database) : Prop where
  users : AgreeOn (fun row : TwitterUser => scope.user row.id) db.users.rows db'.users.rows
  userSnapshots : AgreeOn (fun row : Tweet.UserSnapshot => scope.user row.subjectId)
    db.userSnapshots.rows db'.userSnapshots.rows
  userStats : AgreeOn (fun row : Version UserStatsColumns => scope.user row.subjectId)
    db.userStats.rows db'.userStats.rows
  media : AgreeOn (fun row : Tweet.Media => scope.media row.id) db.media.rows db'.media.rows
  mediaResources : AgreeOn (fun row : Tweet.MediaResource => scope.media row.subjectId)
    db.mediaResources.rows db'.mediaResources.rows
  transferTasks : AgreeOn (fun row : TransferTask => scope.media row.mediaId) db.transferTasks.rows
    db'.transferTasks.rows
  tweetPlaces : AgreeOn (fun row : TweetPlace => scope.place row.id) db.tweetPlaces.rows
    db'.tweetPlaces.rows
  tweets : AgreeOn (fun row : TweetRow => scope.tweet row.id) db.tweets.rows db'.tweets.rows
  tweetEdits : AgreeOn (fun row : TweetEdit => scope.tweet row.tweetId) db.tweetEdits.rows
    db'.tweetEdits.rows
  tweetPolicies : AgreeOn (fun row : TweetPolicy => scope.tweet row.tweetId) db.tweetPolicies.rows
    db'.tweetPolicies.rows
  tweetCommunityNotes : AgreeOn (fun row : TweetCommunityNote => scope.tweet row.tweetId)
    db.tweetCommunityNotes.rows db'.tweetCommunityNotes.rows
  tweetStats : AgreeOn (fun row : Version TweetStatsColumns => scope.tweet row.subjectId)
    db.tweetStats.rows db'.tweetStats.rows
  refs : RefsAgree scope db.refs db'.refs
  indexQueue : AgreeOn (fun row : IndexTask => scope.target row.target) db.indexQueue.rows
    db'.indexQueue.rows

theorem DatabasesAgree.refl (scope : Scope) (db : Database) : DatabasesAgree scope db db :=
  ⟨.refl _ _, .refl _ _, .refl _ _, .refl _ _, .refl _ _, .refl _ _, .refl _ _, .refl _ _,
    .refl _ _, .refl _ _, .refl _ _, .refl _ _, (equivalence_refsAgree scope).refl _, .refl _ _⟩

theorem DatabasesAgree.symm {scope : Scope} {db db' : Database}
    (agree : DatabasesAgree scope db db') : DatabasesAgree scope db' db :=
  ⟨agree.users.symm, agree.userSnapshots.symm, agree.userStats.symm, agree.media.symm,
    agree.mediaResources.symm, agree.transferTasks.symm, agree.tweetPlaces.symm, agree.tweets.symm,
    agree.tweetEdits.symm, agree.tweetPolicies.symm, agree.tweetCommunityNotes.symm,
    agree.tweetStats.symm, (equivalence_refsAgree scope).symm agree.refs, agree.indexQueue.symm⟩

/-- Two runs report the same for the other items and leave the same rows for them. -/
structure OthersSame (others : Others) (left right : Database × SubmitResults) : Prop where
  database : DatabasesAgree others.toScope left.1 right.1
  users : ∀ index, others.userItem index = true → left.2.users[index]? = right.2.users[index]?
  tweets : ∀ index, others.tweetItem index = true → left.2.tweets[index]? = right.2.tweets[index]?
  media : ∀ index, others.mediaItem index = true → left.2.media[index]? = right.2.media[index]?

/-- Some object of the batch belongs to another item. -/
def PreparedSubmitBatch.CarriesOther (others : Others) (prepared : PreparedSubmitBatch) : Prop :=
  (∃ index ∈ userIndices prepared, others.userItem index = true) ∨
    (∃ index ∈ tweetIndices prepared, others.tweetItem index = true) ∨
      ∃ index ∈ mediaIndices prepared, others.mediaItem index = true

/-- The statements after the preload end alike, as far as they carry an object of another item. -/
structure StagesEndAlike (env : Environment) (others : Others) (prepared : PreparedSubmitBatch)
    (outcomes outcomes' : Outcomes) : Prop where
  users : UsersEndAlike others prepared outcomes outcomes'
  media : MediaEndAlike env others prepared outcomes outcomes'
  tweets : TweetsEndAlike others prepared outcomes outcomes'

/-- So do all that are sent; after a preload that fails there are none. -/
structure StatementsEndAlike (env : Environment) (others : Others) (prepared : PreparedSubmitBatch)
    (outcomes outcomes' : Outcomes) : Prop where
  preload : prepared.CarriesOther others → failure outcomes.preload = failure outcomes'.preload
  stages : failure outcomes.preload = none → failure outcomes'.preload = none →
    StagesEndAlike env others prepared outcomes outcomes'

/-! ## The stages -/

/-- `execute_prepared_submit` after the preload. -/
def executeStages (env : Environment) (prepared : PreparedSubmitBatch) (db : Database) :
    Database × SubmitResults :=
  let users := executeUsers env prepared db.userTables db.userStats
  let media := executeMedia env prepared db.mediaTables db.transferTasks
  let tweets := executeTweets env prepared users.tables.hasUser media.tables.hasMedia
    (db.tweetStart users)
  ({ users := users.tables.users
     userSnapshots := users.tables.snapshots
     userStats := users.userStats
     media := media.tables.media
     mediaResources := media.tables.resources
     transferTasks := media.transferTasks
     tweetPlaces := tweets.places
     tweets := tweets.tables.tweets
     tweetEdits := tweets.edits
     tweetPolicies := tweets.policies
     tweetCommunityNotes := tweets.notes
     tweetStats := tweets.stats
     refs := tweets.refs
     indexQueue := tweets.tables.indexQueue },
    ⟨users.userResults, tweets.results, media.mediaResults⟩)

theorem executePreparedSubmit_eq (env : Environment) (prepared : PreparedSubmitBatch)
    (db : Database) : executePreparedSubmit env prepared db =
      match env.preloadSubmitBatchDicts prepared with
      | .error error => (db, failDictPreload prepared error)
      | .ok () => executeStages env prepared db := rfl

theorem extended_executeTweets (env : Environment) (prepared : PreparedSubmitBatch)
    (hasUser hasMedia : Int → Bool) (start : TweetPhase) :
    Extended start.results (executeTweets env prepared hasUser hasMedia start).results :=
  (extended_tweetPlaces _ _ _ _).trans <| (extended_tweets _ _ _ _ _ _).trans <|
    (extended_children _ _ _ _ _ (by decide)).trans <|
      (extended_children _ _ _ _ _ (by decide)).trans <|
        (extended_children _ _ _ _ _ (by decide)).trans <|
          (extended_tweetStats _ _ _ _ _).trans (extended_relations _ _ _ _ _ _)

section Stages

variable {env : Environment} {others : Others} {prepared prepared' : PreparedSubmitBatch}
  {db : Database}

theorem extended_executeStages :
    Extended prepared.userResults (executeStages env prepared db).2.users ∧
      Extended prepared.tweetResults (executeStages env prepared db).2.tweets ∧
        Extended prepared.mediaResults (executeStages env prepared db).2.media := by
  refine ⟨?_, ?_, ?_⟩
  · exact (extended_combined env prepared db.userTables).1.trans
      (extended_userSnapshots.trans extended_userStats)
  · exact (extended_executeUsers env prepared db.userTables db.userStats).trans
      (extended_executeTweets env prepared _ _
        (db.tweetStart (executeUsers env prepared db.userTables db.userStats)))
  · exact extended_media.trans (extended_mediaResources.trans extended_transfers)

variable (alike : BatchesAlike others prepared prepared')
  (keyed : prepared.Keyed others.toScope) (keyed' : prepared'.Keyed others.toScope)
  (fresh : FreshIds env.newId db.indexQueue)

include alike keyed keyed' fresh

/-- Two runs of the stages treat the other items alike exactly if their statements end alike. -/
theorem executeStages_alike :
    OthersSame others (executeStages env prepared db) (executeStages env prepared' db) ↔
      StagesEndAlike env others prepared (outcomesOf prepared env db)
        (outcomesOf prepared' env db) := by
  constructor
  · intro same
    have usersEnd : EndSame others.userItem
        (executeUsers env prepared db.userTables db.userStats).userResults
        (executeUsers env prepared' db.userTables db.userStats).userResults :=
      ⟨_, _, .refl _, .refl _, same.users⟩
    have tweetsEnd : EndSame others.tweetItem
        (executeUsers env prepared db.userTables db.userStats).tweetResults
        (executeUsers env prepared' db.userTables db.userStats).tweetResults :=
      ⟨_, _, extended_executeTweets env prepared _ _
          (db.tweetStart (executeUsers env prepared db.userTables db.userStats)),
        extended_executeTweets env prepared' _ _
          (db.tweetStart (executeUsers env prepared' db.userTables db.userStats)), same.tweets⟩
    obtain ⟨users, usersAlike⟩ :=
      executeUsers_runs alike keyed keyed' fresh (.inr ⟨usersEnd, tweetsEnd⟩)
    obtain ⟨media, mediaAlike⟩ :=
      executeMedia_runs alike keyed keyed' (.inr ⟨_, _, .refl _, .refl _, same.media⟩)
    exact ⟨users, media, (executeTweets_runs alike keyed keyed' usersAlike mediaAlike
      (.inr ⟨_, _, .refl _, .refl _, same.tweets⟩)).1⟩
  · intro ends
    obtain ⟨_, users⟩ := executeUsers_runs alike keyed keyed' fresh (.inl ends.users)
    obtain ⟨_, media⟩ := executeMedia_runs alike keyed keyed' (.inl ends.media)
    obtain ⟨_, tweets⟩ := executeTweets_runs alike keyed keyed' users media (.inl ends.tweets)
    exact
      { database :=
          { users := users.tables.users
            userSnapshots := users.tables.snapshots
            userStats := users.userStats
            media := media.tables.media
            mediaResources := media.tables.resources
            transferTasks := media.transferTasks
            tweetPlaces := tweets.places
            tweets := tweets.tables.tweets
            tweetEdits := tweets.edits
            tweetPolicies := tweets.policies
            tweetCommunityNotes := tweets.notes
            tweetStats := tweets.stats
            refs := tweets.refs
            indexQueue := tweets.tables.queue }
        users := users.userResults
        tweets := tweets.results
        media := media.mediaResults }

end Stages

/-! ## The items of a batch -/

section Items

variable {α κ : Type} {other : Nat → Bool} {scope : κ → Prop} {key : α → κ}
  {items items' : List (Indexed α)}

theorem ItemsAlike.index_iff (alike : ItemsAlike other scope key items items') {index : Nat}
    (isOther : other index = true) :
    index ∈ items.map Indexed.index ↔ index ∈ items'.map Indexed.index := by
  simp only [List.mem_map]
  constructor
  · rintro ⟨item, member, rfl⟩
    exact ⟨item, (alike.mem_iff isOther).mp member, rfl⟩
  · rintro ⟨item, member, rfl⟩
    exact ⟨item, (alike.mem_iff isOther).mpr member, rfl⟩

/-- A list without objects of other items is like the empty list. -/
theorem ItemsAlike.nil (alike : ItemsAlike other scope key items items')
    (alone : ¬ Carries other items) : ItemsAlike other scope key items [] where
  same := by
    rw [List.filter_nil, List.filter_eq_nil_iff]
    exact fun item member isOther => alone ⟨item, member, isOther⟩
  inside := alike.inside
  inside' _ none := absurd none List.not_mem_nil

end Items

section Carried

variable {others : Others} {prepared prepared' : PreparedSubmitBatch}

theorem carriesOther_of_user {index : Nat} (isOther : others.userItem index = true)
    (named : index ∈ prepared.users.map Indexed.index ∨
      index ∈ prepared.userSnapshots.map Indexed.index ∨
      index ∈ prepared.userStats.map Indexed.index) : prepared.CarriesOther others := by
  refine .inl ⟨index, ?_, isOther⟩
  simp only [userIndices, List.mem_dedup, List.mem_append, or_assoc]
  exact named

theorem carriesOther_of_tweet {index : Nat} (isOther : others.tweetItem index = true)
    (named : index ∈ prepared.tweetAuthors.map Indexed.index ∨
      index ∈ prepared.tweetPlaces.map Indexed.index ∨
      index ∈ prepared.tweets.map Indexed.index ∨ index ∈ prepared.tweetEdits.map Indexed.index ∨
      index ∈ prepared.tweetPolicies.map Indexed.index ∨
      index ∈ prepared.tweetCommunityNotes.map Indexed.index ∨
      index ∈ prepared.tweetStats.map Indexed.index ∨
      index ∈ prepared.tweetRelations.map Indexed.index) : prepared.CarriesOther others := by
  refine .inr (.inl ⟨index, ?_, isOther⟩)
  simp only [tweetIndices, List.mem_dedup, List.mem_append, or_assoc]
  exact named

theorem carriesOther_of_media {index : Nat} (isOther : others.mediaItem index = true)
    (named : index ∈ prepared.media.map Indexed.index ∨
      index ∈ prepared.mediaResources.map Indexed.index) : prepared.CarriesOther others := by
  refine .inr (.inr ⟨index, ?_, isOther⟩)
  simp only [mediaIndices, List.mem_dedup, List.mem_append]
  exact named

variable (alike : BatchesAlike others prepared prepared')

include alike

theorem userIndices_iff {index : Nat} (isOther : others.userItem index = true) :
    index ∈ userIndices prepared ↔ index ∈ userIndices prepared' := by
  simp only [userIndices, List.mem_dedup, List.mem_append]
  rw [alike.users.index_iff isOther, alike.userSnapshots.index_iff isOther,
    alike.userStats.index_iff isOther]

theorem tweetIndices_iff {index : Nat} (isOther : others.tweetItem index = true) :
    index ∈ tweetIndices prepared ↔ index ∈ tweetIndices prepared' := by
  simp only [tweetIndices, List.mem_dedup, List.mem_append]
  rw [alike.tweetAuthors.index_iff isOther, alike.tweetPlaces.index_iff isOther,
    alike.tweets.index_iff isOther, alike.tweetEdits.index_iff isOther,
    alike.tweetPolicies.index_iff isOther, alike.tweetCommunityNotes.index_iff isOther,
    alike.tweetStats.index_iff isOther, alike.tweetRelations.index_iff isOther]

theorem mediaIndices_iff {index : Nat} (isOther : others.mediaItem index = true) :
    index ∈ mediaIndices prepared ↔ index ∈ mediaIndices prepared' := by
  simp only [mediaIndices, List.mem_dedup, List.mem_append]
  rw [alike.media.index_iff isOther, alike.mediaResources.index_iff isOther]

/-- Both batches carry an object of another item or neither does. -/
theorem carriesOther_iff : prepared.CarriesOther others ↔ prepared'.CarriesOther others := by
  have users := fun index (isOther : others.userItem index = true) => userIndices_iff alike isOther
  have tweets := fun index (isOther : others.tweetItem index = true) =>
    tweetIndices_iff alike isOther
  have media := fun index (isOther : others.mediaItem index = true) =>
    mediaIndices_iff alike isOther
  refine or_congr ?_ (or_congr ?_ ?_) <;> apply exists_congr <;> intro index <;>
    apply and_congr_left <;> intro isOther
  · exact users index isOther
  · exact tweets index isOther
  · exact media index isOther

end Carried

/-! ## The whole call -/

/-- The results of a batch, without its objects. -/
def PreparedSubmitBatch.emptied (prepared : PreparedSubmitBatch) : PreparedSubmitBatch :=
  ⟨prepared.userResults, prepared.tweetResults, prepared.mediaResults, [], [], [], [], [], [], [],
    [], [], [], [], [], []⟩

theorem keyed_emptied (scope : Scope) (prepared : PreparedSubmitBatch) :
    prepared.emptied.Keyed scope where
  userSnapshots _ none := absurd none List.not_mem_nil
  userStats _ none := absurd none List.not_mem_nil
  media _ none := absurd none List.not_mem_nil
  mediaResources _ none := absurd none List.not_mem_nil
  tweets _ none := absurd none List.not_mem_nil
  tweetEdits _ none := absurd none List.not_mem_nil
  tweetPolicies _ none := absurd none List.not_mem_nil
  tweetCommunityNotes _ none := absurd none List.not_mem_nil
  tweetStats _ none := absurd none List.not_mem_nil
  tweetRelations :=
    { distinct := fun _ none => absurd none List.not_mem_nil
      mediaRefs := fun _ none => absurd none List.not_mem_nil
      mentionRefs := fun _ none => absurd none List.not_mem_nil
      hashtagRefs := fun _ none => absurd none List.not_mem_nil
      symbolRefs := fun _ none => absurd none List.not_mem_nil
      media := fun _ none => absurd none List.not_mem_nil }
  userPlaces _ none := absurd none List.not_mem_nil
  tweetPlaces _ none := absurd none List.not_mem_nil
  mediaPlaces _ none := absurd none List.not_mem_nil

section Call

variable {env : Environment} {others : Others} {prepared prepared' : PreparedSubmitBatch}
  {db : Database}

/-! Without an object of another item no statement carries one. -/

section Alone

variable (alone : ¬ prepared.CarriesOther others)

include alone

theorem batchesAlike_emptied (alike : BatchesAlike others prepared prepared') :
    BatchesAlike others prepared prepared.emptied where
  userResults _ _ := rfl
  tweetResults _ _ := rfl
  mediaResults _ _ := rfl
  users := alike.users.nil fun ⟨_, member, isOther⟩ =>
    alone (carriesOther_of_user isOther (.inl (List.mem_map_of_mem member)))
  tweetAuthors := alike.tweetAuthors.nil fun ⟨_, member, isOther⟩ =>
    alone (carriesOther_of_tweet isOther (.inl (List.mem_map_of_mem member)))
  userSnapshots := alike.userSnapshots.nil fun ⟨_, member, isOther⟩ =>
    alone (carriesOther_of_user isOther (.inr (.inl (List.mem_map_of_mem member))))
  userStats := alike.userStats.nil fun ⟨_, member, isOther⟩ =>
    alone (carriesOther_of_user isOther (.inr (.inr (List.mem_map_of_mem member))))
  media := alike.media.nil fun ⟨_, member, isOther⟩ =>
    alone (carriesOther_of_media isOther (.inl (List.mem_map_of_mem member)))
  mediaResources := alike.mediaResources.nil fun ⟨_, member, isOther⟩ =>
    alone (carriesOther_of_media isOther (.inr (List.mem_map_of_mem member)))
  tweetPlaces := alike.tweetPlaces.nil fun ⟨_, member, isOther⟩ =>
    alone (carriesOther_of_tweet isOther (.inr (.inl (List.mem_map_of_mem member))))
  tweets := alike.tweets.nil fun ⟨_, member, isOther⟩ =>
    alone (carriesOther_of_tweet isOther (by simp [List.mem_map_of_mem member]))
  tweetEdits := alike.tweetEdits.nil fun ⟨_, member, isOther⟩ =>
    alone (carriesOther_of_tweet isOther (by simp [List.mem_map_of_mem member]))
  tweetPolicies := alike.tweetPolicies.nil fun ⟨_, member, isOther⟩ =>
    alone (carriesOther_of_tweet isOther (by simp [List.mem_map_of_mem member]))
  tweetCommunityNotes := alike.tweetCommunityNotes.nil fun ⟨_, member, isOther⟩ =>
    alone (carriesOther_of_tweet isOther (by simp [List.mem_map_of_mem member]))
  tweetStats := alike.tweetStats.nil fun ⟨_, member, isOther⟩ =>
    alone (carriesOther_of_tweet isOther (by simp [List.mem_map_of_mem member]))
  tweetRelations := alike.tweetRelations.nil fun ⟨_, member, isOther⟩ =>
    alone (carriesOther_of_tweet isOther (by simp [List.mem_map_of_mem member]))

theorem stagesEndAlike_of_alone (outcomes outcomes' : Outcomes) :
    StagesEndAlike env others prepared outcomes outcomes' where
  users :=
    { users := fun carried => absurd (carried.elim
        (fun ⟨_, member, isOther⟩ =>
          carriesOther_of_user isOther (.inl (List.mem_map_of_mem member)))
        fun ⟨_, member, isOther⟩ =>
          carriesOther_of_tweet isOther (.inl (List.mem_map_of_mem member))) alone
      userSnapshots := fun ⟨_, member, isOther⟩ =>
        absurd (carriesOther_of_user isOther (.inr (.inl (List.mem_map_of_mem member)))) alone
      userStats := fun ⟨_, member, isOther⟩ =>
        absurd (carriesOther_of_user isOther (.inr (.inr (List.mem_map_of_mem member)))) alone }
  media :=
    { media := fun ⟨_, member, isOther⟩ =>
        absurd (carriesOther_of_media isOther (.inl (List.mem_map_of_mem member))) alone
      mediaResources := fun ⟨_, member, isOther⟩ =>
        absurd (carriesOther_of_media isOther (.inr (List.mem_map_of_mem member))) alone
      transferTasks := fun ⟨_, member, isOther⟩ =>
        absurd (carriesOther_of_media isOther (.inr (index_of_mem_mediaTransferTasks member)))
          alone }
  tweets :=
    { tweetPlaces := fun ⟨_, member, isOther⟩ => absurd
        (carriesOther_of_tweet isOther (.inr (.inl (List.mem_map_of_mem member)))) alone
      tweets := fun ⟨_, member, isOther⟩ => absurd
        (carriesOther_of_tweet isOther (by simp [List.mem_map_of_mem member])) alone
      tweetEdits := fun ⟨_, member, isOther⟩ => absurd
        (carriesOther_of_tweet isOther (by simp [List.mem_map_of_mem member])) alone
      tweetPolicies := fun ⟨_, member, isOther⟩ => absurd
        (carriesOther_of_tweet isOther (by simp [List.mem_map_of_mem member])) alone
      tweetCommunityNotes := fun ⟨_, member, isOther⟩ => absurd
        (carriesOther_of_tweet isOther (by simp [List.mem_map_of_mem member])) alone
      tweetStats := fun ⟨_, member, isOther⟩ => absurd
        (carriesOther_of_tweet isOther (by simp [List.mem_map_of_mem member])) alone
      relations := fun ⟨_, member, isOther⟩ => absurd
        (carriesOther_of_tweet isOther (by simp [List.mem_map_of_mem member])) alone }

/-- The stages of such a batch leave what the other items have. -/
theorem executeStages_of_alone (alike : BatchesAlike others prepared prepared')
    (keyed : prepared.Keyed others.toScope) (fresh : FreshIds env.newId db.indexQueue) :
    OthersSame others (executeStages env prepared db)
      (db, ⟨prepared.userResults, prepared.tweetResults, prepared.mediaResults⟩) :=
  (executeStages_alike (batchesAlike_emptied alone alike) keyed
    (keyed_emptied others.toScope prepared) fresh).mpr (stagesEndAlike_of_alone alone _ _)

end Alone

/-- Two calls whose preload fails. -/
theorem failDictPreload_alike (alike : BatchesAlike others prepared prepared')
    (keyed : prepared.Keyed others.toScope) {error error' : String} :
    OthersSame others (db, failDictPreload prepared error) (db, failDictPreload prepared' error') ↔
      (prepared.CarriesOther others → error = error') := by
  constructor
  · intro same carried
    rcases carried with ⟨index, named, isOther⟩ | ⟨index, named, isOther⟩ | ⟨index, named, isOther⟩
    · exact error_eq_of_recordAt (List.nodup_dedup _) (List.nodup_dedup _) named
        ((userIndices_iff alike isOther).mp named) (keyed.userPlaces index named)
        (alike.userResults index isOther) (same.users index isOther)
    · exact error_eq_of_recordAt (List.nodup_dedup _) (List.nodup_dedup _) named
        ((tweetIndices_iff alike isOther).mp named) (keyed.tweetPlaces index named)
        (alike.tweetResults index isOther) (same.tweets index isOther)
    · exact error_eq_of_recordAt (List.nodup_dedup _) (List.nodup_dedup _) named
        ((mediaIndices_iff alike isOther).mp named) (keyed.mediaPlaces index named)
        (alike.mediaResults index isOther) (same.media index isOther)
  · intro same
    refine ⟨.refl _ _, ?_, ?_, ?_⟩
    · exact recordAt_alike (List.nodup_dedup _) (List.nodup_dedup _) alike.userResults
        (fun index isOther => userIndices_iff alike isOther) fun carried => by
          rw [same (.inl carried)]
    · exact recordAt_alike (List.nodup_dedup _) (List.nodup_dedup _) alike.tweetResults
        (fun index isOther => tweetIndices_iff alike isOther)
        fun carried => by rw [same (.inr (.inl carried))]
    · exact recordAt_alike (List.nodup_dedup _) (List.nodup_dedup _) alike.mediaResults
        (fun index isOther => mediaIndices_iff alike isOther)
        fun carried => by rw [same (.inr (.inr carried))]

/-- A call whose preload fails and one whose preload does not. -/
theorem failDictPreload_executeStages (alike : BatchesAlike others prepared prepared')
    (keyed : prepared.Keyed others.toScope) (fresh : FreshIds env.newId db.indexQueue)
    {error : String} :
    OthersSame others (executeStages env prepared db) (db, failDictPreload prepared' error) ↔
      ¬ prepared.CarriesOther others := by
  constructor
  · intro same carried
    have extended := @extended_executeStages env prepared db
    rcases carried with ⟨index, named, isOther⟩ | ⟨index, named, isOther⟩ | ⟨index, named, isOther⟩
    · exact not_extended_preload (List.nodup_dedup _) ((userIndices_iff alike isOther).mp named)
        (keyed.userPlaces index named) (alike.userResults index isOther) extended.1
        (same.users index isOther)
    · exact not_extended_preload (List.nodup_dedup _) ((tweetIndices_iff alike isOther).mp named)
        (keyed.tweetPlaces index named) (alike.tweetResults index isOther) extended.2.1
        (same.tweets index isOther)
    · exact not_extended_preload (List.nodup_dedup _) ((mediaIndices_iff alike isOther).mp named)
        (keyed.mediaPlaces index named) (alike.mediaResults index isOther) extended.2.2
        (same.media index isOther)
  · intro alone
    have left := @executeStages_of_alone env _ _ _ db alone alike keyed fresh
    have unnamed := mt (carriesOther_iff alike).mpr alone
    refine ⟨left.database, ?_, ?_, ?_⟩
    · intro index isOther
      refine (left.users index isOther).trans ((alike.userResults index isOther).trans ?_)
      exact (recordAt_getElem?_of_not_mem fun named => unnamed (.inl ⟨index, named, isOther⟩)).symm
    · intro index isOther
      refine (left.tweets index isOther).trans ((alike.tweetResults index isOther).trans ?_)
      exact (recordAt_getElem?_of_not_mem fun named =>
        unnamed (.inr (.inl ⟨index, named, isOther⟩))).symm
    · intro index isOther
      refine (left.media index isOther).trans ((alike.mediaResults index isOther).trans ?_)
      exact (recordAt_getElem?_of_not_mem fun named =>
        unnamed (.inr (.inr ⟨index, named, isOther⟩))).symm

theorem BatchesAlike.symm (alike : BatchesAlike others prepared prepared') :
    BatchesAlike others prepared' prepared where
  userResults index isOther := (alike.userResults index isOther).symm
  tweetResults index isOther := (alike.tweetResults index isOther).symm
  mediaResults index isOther := (alike.mediaResults index isOther).symm
  users := alike.users.symm
  tweetAuthors := alike.tweetAuthors.symm
  userSnapshots := alike.userSnapshots.symm
  userStats := alike.userStats.symm
  media := alike.media.symm
  mediaResources := alike.mediaResources.symm
  tweetPlaces := alike.tweetPlaces.symm
  tweets := alike.tweets.symm
  tweetEdits := alike.tweetEdits.symm
  tweetPolicies := alike.tweetPolicies.symm
  tweetCommunityNotes := alike.tweetCommunityNotes.symm
  tweetStats := alike.tweetStats.symm
  tweetRelations := alike.tweetRelations.symm

theorem OthersSame.symm {left right : Database × SubmitResults}
    (same : OthersSame others left right) : OthersSame others right left where
  database := same.database.symm
  users index isOther := (same.users index isOther).symm
  tweets index isOther := (same.tweets index isOther).symm
  media index isOther := (same.media index isOther).symm

/-- Two calls treat the other items alike exactly if the statements that carry an object of
another item end alike. -/
theorem executePreparedSubmit_alike (alike : BatchesAlike others prepared prepared')
    (keyed : prepared.Keyed others.toScope) (keyed' : prepared'.Keyed others.toScope)
    (fresh : FreshIds env.newId db.indexQueue) :
    OthersSame others (executePreparedSubmit env prepared db)
        (executePreparedSubmit env prepared' db) ↔
      StatementsEndAlike env others prepared (outcomesOf prepared env db)
        (outcomesOf prepared' env db) := by
  have isPreload : ∀ prepared : PreparedSubmitBatch,
      (outcomesOf prepared env db).preload = env.preloadSubmitBatchDicts prepared := fun _ => rfl
  have split : StatementsEndAlike env others prepared (outcomesOf prepared env db)
        (outcomesOf prepared' env db) ↔
      (prepared.CarriesOther others → failure (env.preloadSubmitBatchDicts prepared) =
          failure (env.preloadSubmitBatchDicts prepared')) ∧
        (failure (env.preloadSubmitBatchDicts prepared) = none →
          failure (env.preloadSubmitBatchDicts prepared') = none →
          StagesEndAlike env others prepared (outcomesOf prepared env db)
            (outcomesOf prepared' env db)) :=
    ⟨fun ends => ⟨ends.preload, ends.stages⟩, fun ends => ⟨ends.1, ends.2⟩⟩
  rw [split, executePreparedSubmit_eq, executePreparedSubmit_eq]
  cases env.preloadSubmitBatchDicts prepared with
  | ok done =>
    cases env.preloadSubmitBatchDicts prepared' with
    | ok done' =>
      refine (executeStages_alike alike keyed keyed' fresh).trans ?_
      exact ⟨fun ends => ⟨fun _ => rfl, fun _ _ => ends⟩, fun ends => ends.2 rfl rfl⟩
    | error error' =>
      refine (failDictPreload_executeStages alike keyed fresh).trans ?_
      exact ⟨fun alone => ⟨fun carried => absurd carried alone, fun _ none => nomatch none⟩,
        fun ends carried => nomatch ends.1 carried⟩
  | error error =>
    cases env.preloadSubmitBatchDicts prepared' with
    | ok done' =>
      have turned : OthersSame others (db, failDictPreload prepared error)
          (executeStages env prepared' db) ↔
          OthersSame others (executeStages env prepared' db) (db, failDictPreload prepared error) :=
        ⟨.symm, .symm⟩
      refine turned.trans ((failDictPreload_executeStages alike.symm keyed' fresh).trans ?_)
      rw [← carriesOther_iff alike]
      exact ⟨fun alone => ⟨fun carried => absurd carried alone, fun none => nomatch none⟩,
        fun ends carried => nomatch ends.1 carried⟩
    | error error' =>
      refine (failDictPreload_alike alike keyed).trans ?_
      constructor
      · exact fun same => ⟨fun carried => congrArg some (same carried), fun none => nomatch none⟩
      · exact fun ends carried => Option.some.inj (ends.1 carried)

end Call

end TweetDb.Submit
