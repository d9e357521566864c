import TweetDb.Submit.Provenance
import TweetDb.Submit.Regroup
import TweetDb.Submit.Results

/-! # Results line up with the input

Whatever the statements of a call answer, its results are one for each item, in
the order of the input, and what is recorded in one of them was for an object
of its item.
-/

namespace TweetDb.Submit

open TweetDb.Transfer (EnqueueTransferTask selectSource)
open TweetDb.Tweet (TweetPlace TwitterUser)
open ObjectResult TweetModel

/-! ## The indices of a batch -/

section Indices

variable {context : PrepareContext} {clocks : Clocks} {payload : SubmitTweetRequest}
  {prepared : PreparedSubmitBatch} {index : Nat}

theorem mem_indices {α : Type} {items : List (Indexed α)} :
    index ∈ items.map Indexed.index ↔ ∃ value, ⟨index, value⟩ ∈ items := by
  simp only [List.mem_map]
  constructor
  · intro ⟨item, member, same⟩
    subst same
    exact ⟨item.value, member⟩
  · intro ⟨value, member⟩
    exact ⟨⟨index, value⟩, member, rfl⟩

theorem mem_userIndices (provenance : Provenance context clocks payload prepared) :
    index ∈ userIndices prepared ↔ ∃ user userId, TakenUser payload index user userId := by
  simp only [userIndices, List.mem_dedup, List.mem_append, mem_indices, provenance.users,
    provenance.userSnapshots, provenance.userStats]
  constructor
  · rintro ((⟨_, user, userId, taken, _⟩ | ⟨_, user, userId, taken, _⟩) |
      ⟨_, user, userId, taken, _⟩) <;> exact ⟨user, userId, taken⟩
  · intro ⟨user, userId, taken⟩
    exact .inl (.inl ⟨_, user, userId, taken, rfl⟩)

theorem taken_of_mem_mediaIndices (provenance : Provenance context clocks payload prepared)
    (member : index ∈ mediaIndices prepared) :
    ∃ media mediaId, TakenMedia payload index media mediaId := by
  simp only [mediaIndices, List.mem_dedup, List.mem_append, mem_indices, provenance.media,
    provenance.mediaResources] at member
  rcases member with ⟨_, media, mediaId, taken, _⟩ | ⟨_, media, mediaId, taken, _⟩ <;>
    exact ⟨media, mediaId, taken⟩

theorem mem_tweetIndices (provenance : Provenance context clocks payload prepared) :
    index ∈ tweetIndices prepared ↔
      ∃ tweet tweetId authorId, TakenTweet payload index tweet tweetId authorId := by
  have ofConverted : ∀ {converted : ConvertedTweet},
      ConvertedFrom context clocks payload index converted →
      ∃ tweet tweetId authorId, TakenTweet payload index tweet tweetId authorId :=
    fun ⟨tweet, tweetId, authorId, taken, _⟩ => ⟨tweet, tweetId, authorId, taken⟩
  simp only [tweetIndices, List.mem_dedup, List.mem_append, mem_indices, provenance.tweetAuthors,
    provenance.tweetPlaces, provenance.tweets, provenance.tweetEdits, provenance.tweetPolicies,
    provenance.tweetCommunityNotes, provenance.tweetStats, provenance.tweetRelations]
  constructor
  · rintro (((((((⟨_, tweet, tweetId, authorId, taken, _⟩ | ⟨_, tweet, tweetId, authorId, taken, _⟩) |
      ⟨_, _, converted, _⟩) | ⟨_, _, converted, _⟩) | ⟨_, _, converted, _⟩) |
      ⟨_, _, converted, _⟩) | ⟨_, _, converted, _⟩) | ⟨_, _, converted, _⟩)
    · exact ⟨tweet, tweetId, authorId, taken⟩
    · exact ⟨tweet, tweetId, authorId, taken⟩
    all_goals exact ofConverted converted
  · intro ⟨tweet, tweetId, authorId, taken⟩
    exact .inl (.inl (.inl (.inl (.inl (.inl (.inl ⟨_, tweet, tweetId, authorId, taken, rfl⟩))))))

theorem lt_of_getElem?_eq_some {α : Type} {items : List α} {item : α}
    (isItem : items[index]? = some item) : index < items.length :=
  (List.getElem?_eq_some_iff.mp isItem).1

theorem lt_of_mem_userIndices (provenance : Provenance context clocks payload prepared)
    (member : index ∈ userIndices prepared) : index < payload.users.length := by
  obtain ⟨user, userId, taken⟩ := (mem_userIndices provenance).mp member
  exact lt_of_getElem?_eq_some taken.isItem

theorem lt_of_mem_mediaIndices (provenance : Provenance context clocks payload prepared)
    (member : index ∈ mediaIndices prepared) : index < payload.media.length := by
  obtain ⟨media, mediaId, taken⟩ := taken_of_mem_mediaIndices provenance member
  exact lt_of_getElem?_eq_some taken.isItem

theorem lt_of_mem_tweetIndices (provenance : Provenance context clocks payload prepared)
    (member : index ∈ tweetIndices prepared) : index < payload.tweets.length := by
  obtain ⟨tweet, tweetId, authorId, taken⟩ := (mem_tweetIndices provenance).mp member
  exact lt_of_getElem?_eq_some taken.1.isItem

end Indices

/-! ## The recordings of a call -/

section Recorded

variable (prepared : PreparedSubmitBatch) (outcomes : Outcomes) (env : Environment)

/-- What a call records, the early return included. -/
def recorded (indices : List Nat) (recordings : List Recording) : List Recording :=
  match outcomes.preload with
  | .error error => [⟨indices, failed "dict_preload" (databaseError error)⟩]
  | .ok () => recordings

def userRecorded : List Recording :=
  recorded outcomes (userIndices prepared) (userRecordings prepared outcomes)

def tweetRecorded : List Recording :=
  recorded outcomes (tweetIndices prepared) (tweetRecordings prepared outcomes)

def mediaRecorded : List Recording :=
  recorded outcomes (mediaIndices prepared) (mediaRecordings prepared outcomes env)

theorem recordOutcomes_eq :
    recordOutcomes prepared outcomes env = do
      let users ← applyRecordings (userRecorded prepared outcomes) prepared.userResults
      let tweets ← applyRecordings (tweetRecorded prepared outcomes) prepared.tweetResults
      let media ← applyRecordings (mediaRecorded prepared outcomes env) prepared.mediaResults
      return ⟨users, tweets, media⟩ := by
  have single : ∀ recording results,
      applyRecordings [recording] results = applyRecording results recording := by
    intro recording results
    simp [applyRecordings]
  unfold recordOutcomes userRecorded tweetRecorded mediaRecorded recorded
  cases outcomes.preload with
  | error error => simp only [single]
  | ok done => rfl

end Recorded

/-! ## In range -/

section InRange

variable {prepared : PreparedSubmitBatch} {outcomes : Outcomes} {env : Environment}
  {length : Nat}

theorem inRange_items {α : Type} {items : List (Indexed α)}
    (inRange : ∀ index ∈ items.map Indexed.index, index < length) :
    ∀ item ∈ items, ∀ index ∈ indexOf item, index < length := by
  intro item member index named
  rw [List.mem_singleton.mp named]
  exact inRange item.index (List.mem_map_of_mem member)

theorem mem_indicesOf {α κ : Type} [DecidableEq κ] {key : α → κ} {items : List (Indexed α)}
    {target : κ} {index : Nat} (member : index ∈ indicesOf key items target) :
    index ∈ items.map Indexed.index := by
  obtain ⟨item, isItem, same⟩ := List.mem_map.mp member
  exact List.mem_map.mpr ⟨item, (List.mem_filter.mp isItem).1, same⟩

theorem inRange_recorded {indices : List Nat} {recordings : List Recording}
    (early : ∀ index ∈ indices, index < length) (inRange : InRange recordings length) :
    InRange (recorded outcomes indices recordings) length := by
  unfold recorded
  cases outcomes.preload with
  | error error =>
    intro recording member
    rw [List.mem_singleton.mp member]
    exact early
  | ok done => exact inRange

theorem inRange_userRecordings (inRange : ∀ index ∈ userIndices prepared, index < length) :
    InRange (userRecordings prepared outcomes) length := by
  simp only [userIndices, List.mem_dedup, List.mem_append, or_imp, forall_and] at inRange
  obtain ⟨⟨users, snapshots⟩, stats⟩ := inRange
  unfold userRecordings
  simp only [inRange_append]
  refine ⟨⟨inRange_stage _ ?_, inRange_stage _ (inRange_items snapshots)⟩,
    inRange_stage _ (inRange_items stats)⟩
  intro entry member index named
  rw [userIndices_of_mem _ _ member] at named
  exact users index (mem_indicesOf named)

theorem inRange_tweetRecordings (inRange : ∀ index ∈ tweetIndices prepared, index < length) :
    InRange (tweetRecordings prepared outcomes) length := by
  simp only [tweetIndices, List.mem_dedup, List.mem_append, or_imp, forall_and] at inRange
  obtain ⟨⟨⟨⟨⟨⟨⟨authors, places⟩, tweets⟩, edits⟩, policies⟩, notes⟩, stats⟩, relations⟩ := inRange
  unfold tweetRecordings childStage
  simp only [inRange_append]
  refine ⟨⟨⟨⟨⟨⟨⟨inRange_stage _ ?_, inRange_stage _ ?_⟩, inRange_stage _ (inRange_items tweets)⟩,
    inRange_stage _ (inRange_items edits)⟩, inRange_stage _ (inRange_items policies)⟩,
    inRange_stage _ (inRange_items notes)⟩, inRange_stage _ (inRange_items stats)⟩,
    inRange_stage _ (inRange_items relations)⟩
  · intro entry member index named
    rw [tweetIndices_of_mem _ _ member] at named
    exact authors index (mem_indicesOf named)
  · intro entry member index named
    rw [indices_of_mem_dedupePlaces _ member] at named
    exact places index (mem_indicesOf named)

/-- A task is enqueued under the index of its resource. -/
theorem index_of_mem_mediaTransferTasks {media : List (Indexed Media)}
    {resources : List (Indexed MediaResource)}
    {statuses : List ((Int × Timestamp) × ConditionalWrite)}
    {task : Indexed EnqueueTransferTask}
    (member : task ∈ mediaTransferTasks env media resources statuses) :
    task.index ∈ resources.map Indexed.index := by
  obtain ⟨resource, isResource, planned⟩ := List.mem_filterMap.mp member
  obtain ⟨_, _, same⟩ := Option.map_eq_some_iff.mp planned
  rw [← same]
  exact List.mem_map_of_mem isResource

theorem inRange_mediaRecordings (inRange : ∀ index ∈ mediaIndices prepared, index < length) :
    InRange (mediaRecordings prepared outcomes env) length := by
  simp only [mediaIndices, List.mem_dedup, List.mem_append, or_imp, forall_and] at inRange
  obtain ⟨media, resources⟩ := inRange
  unfold mediaRecordings
  simp only [inRange_append]
  refine ⟨⟨⟨inRange_stage _ (inRange_items media), inRange_stage _ (inRange_items resources)⟩, ?_⟩,
    inRange_stage _ ?_⟩
  · intro recording member index named
    obtain ⟨item, isItem, same⟩ := List.mem_map.mp member
    subst same
    exact inRange_items resources item isItem index named
  · intro task member index named
    rw [List.mem_singleton.mp named]
    exact resources _ (index_of_mem_mediaTransferTasks member)

end InRange

/-! ## Ids -/

section Ids

variable (prepared : PreparedSubmitBatch) (outcomes : Outcomes) (env : Environment)

theorem keepsId_failRelations (error : String) : KeepsId (failRelations error) := fun _ => rfl

theorem keepsId_recorded_list {indices : List Nat} {recordings : List Recording}
    (keeps : ∀ recording ∈ recordings, KeepsId recording.record) :
    ∀ recording ∈ recorded outcomes indices recordings, KeepsId recording.record := by
  unfold recorded
  cases outcomes.preload with
  | error error =>
    intro recording member
    rw [List.mem_singleton.mp member]
    exact keepsId_failed _ _
  | ok done => exact keeps

theorem keepsId_userRecorded :
    ∀ recording ∈ userRecorded prepared outcomes, KeepsId recording.record := by
  apply keepsId_recorded_list
  simp only [userRecordings, List.mem_append, or_imp, forall_and]
  refine ⟨⟨?_, ?_⟩, ?_⟩
  · exact keepsId_stage _ _ (fun _ _ => keepsId_recordChanged _ _) (keepsId_failed _)
  · exact keepsId_stage _ _ (fun _ _ => keepsId_recordConditionalWrite _ _) (keepsId_failed _)
  · exact keepsId_stage _ _ (fun _ _ => keepsId_recordConditionalWrite _ _) (keepsId_failed _)

theorem keepsId_tweetRecorded :
    ∀ recording ∈ tweetRecorded prepared outcomes, KeepsId recording.record := by
  apply keepsId_recorded_list
  simp only [tweetRecordings, childStage, List.mem_append, or_imp, forall_and]
  refine ⟨⟨⟨⟨⟨⟨⟨?_, ?_⟩, ?_⟩, ?_⟩, ?_⟩, ?_⟩, ?_⟩, ?_⟩
  · exact keepsId_stage _ _ keepsId_recordAuthor (keepsId_failed _)
  · exact keepsId_stage _ _ (fun _ _ => keepsId_recordChanged _ _) (keepsId_failed _)
  · exact keepsId_stage _ _ (fun _ _ => keepsId_recordChanged _ _) (keepsId_failed _)
  · exact keepsId_stage _ _ (fun _ _ => keepsId_recordConditionalWrite _ _) (keepsId_failed _)
  · exact keepsId_stage _ _ (fun _ _ => keepsId_recordConditionalWrite _ _) (keepsId_failed _)
  · exact keepsId_stage _ _ (fun _ _ => keepsId_recordConditionalWrite _ _) (keepsId_failed _)
  · exact keepsId_stage _ _ (fun _ _ => keepsId_recordConditionalWrite _ _) (keepsId_failed _)
  · exact keepsId_stage _ _ keepsId_recordRelations keepsId_failRelations

theorem keepsId_mediaRecorded :
    ∀ recording ∈ mediaRecorded prepared outcomes env, KeepsId recording.record := by
  apply keepsId_recorded_list
  simp only [mediaRecordings, List.mem_append, or_imp, forall_and]
  refine ⟨⟨⟨?_, ?_⟩, ?_⟩, ?_⟩
  · exact keepsId_stage _ _ (fun _ _ => keepsId_recordChanged _ _) (keepsId_failed _)
  · exact keepsId_stage _ _ (fun _ _ => keepsId_recordConditionalWrite _ _) (keepsId_failed _)
  · intro recording member
    obtain ⟨item, _, same⟩ := List.mem_map.mp member
    subst same
    exact keepsId_recorded _
  · exact keepsId_stage _ _ keepsId_recordTransfer (keepsId_failed _)

end Ids

/-! ## Results line up -/

section LineUp

variable (prepared : PreparedSubmitBatch) (outcomes : Outcomes) (env : Environment)

/-- The maps and the tasks keep every object under the index of its item. -/
structure Regrouped : Prop where
  oneEntry : ((combineUsers prepared.users prepared.tweetAuthors).map
    CombinedUserWrite.userId).Nodup
  users : ∀ userId, userId ∈ (combineUsers prepared.users prepared.tweetAuthors).map
      CombinedUserWrite.userId ↔
    userId ∈ (prepared.users ++ prepared.tweetAuthors).map fun item => item.value.id
  userIndices : ∀ entry ∈ combineUsers prepared.users prepared.tweetAuthors,
    entry.userIndices = indicesOf TwitterUser.id prepared.users entry.userId
  tweetIndices : ∀ entry ∈ combineUsers prepared.users prepared.tweetAuthors,
    entry.tweetIndices = indicesOf TwitterUser.id prepared.tweetAuthors entry.userId
  onePlace : ((dedupePlaces prepared.tweetPlaces).map DedupedPlace.placeId).Nodup
  places : ∀ placeId, placeId ∈ (dedupePlaces prepared.tweetPlaces).map DedupedPlace.placeId ↔
    placeId ∈ prepared.tweetPlaces.map fun item => item.value.id
  placeIndices : ∀ entry ∈ dedupePlaces prepared.tweetPlaces,
    entry.indices = indicesOf TweetPlace.id prepared.tweetPlaces entry.placeId
  transfers : ∀ task ∈ mediaTransferTasks env prepared.media prepared.mediaResources
      (resourceStatuses prepared outcomes),
    ∃ media resource source, ⟨task.index, media⟩ ∈ prepared.media ∧
      ⟨task.index, resource⟩ ∈ prepared.mediaResources ∧
      selectSource env.urlPath media.mediaType resource = some source ∧
      task.value = source.task (env.newTaskId resource.mediaId resource.recordedAt) resource

/-- A resource is pushed with the media and the source of its own item. -/
theorem source_of_push {media : List (Indexed Media)}
    {statuses : List ((Int × Timestamp) × ConditionalWrite)} {item : Indexed MediaResource}
    {task : EnqueueTransferTask} (pushed : planMediaTransfer env media statuses item = .push task) :
    ∃ model source, ⟨item.index, model⟩ ∈ media ∧
      selectSource env.urlPath model.mediaType item.value = some source ∧
      task = source.task (env.newTaskId item.value.mediaId item.value.recordedAt) item.value := by
  unfold planMediaTransfer at pushed
  by_cases active : env.transferActive = true
  · cases found : (media.filter fun other => other.index == item.index).getLast? with
    | none =>
      simp only [active, found] at pushed
      split at pushed <;> cases pushed
    | some model =>
      have isModel := List.mem_filter.mp (List.mem_of_getLast? found)
      have sameIndex : model.index = item.index := by simpa using isModel.2
      cases selected : selectSource env.urlPath model.value.mediaType item.value with
      | none =>
        simp only [active, found, selected] at pushed
        split at pushed <;> cases pushed
      | some source =>
        refine ⟨model.value, source, sameIndex ▸ isModel.1, selected, ?_⟩
        simp only [active, found, selected] at pushed
        split at pushed <;> cases pushed <;> rfl
  · simp only [active] at pushed
    split at pushed <;> cases pushed

theorem source_of_mem_mediaTransferTasks {media : List (Indexed Media)}
    {resources : List (Indexed MediaResource)}
    {statuses : List ((Int × Timestamp) × ConditionalWrite)}
    {task : Indexed EnqueueTransferTask}
    (member : task ∈ mediaTransferTasks env media resources statuses) :
    ∃ model resource source, ⟨task.index, model⟩ ∈ media ∧ ⟨task.index, resource⟩ ∈ resources ∧
      selectSource env.urlPath model.mediaType resource = some source ∧
      task.value = source.task (env.newTaskId resource.mediaId resource.recordedAt) resource := by
  obtain ⟨item, isItem, planned⟩ := List.mem_filterMap.mp member
  obtain ⟨value, isTask, same⟩ := Option.map_eq_some_iff.mp planned
  subst same
  cases plan : planMediaTransfer env media statuses item with
  | pass => simp [plan, TransferPlan.task] at isTask
  | record status reason => simp [plan, TransferPlan.task] at isTask
  | push task =>
    simp only [plan, TransferPlan.task, Option.some.injEq] at isTask
    obtain ⟨model, source, isModel, selected, isSource⟩ := source_of_push env plan
    exact ⟨model, item.value, source, isModel, isItem, selected, isTask ▸ isSource⟩

theorem regrouped : Regrouped prepared outcomes env where
  oneEntry := nodup_combineUsers _ _
  users := mem_ids_combineUsers _ _
  userIndices _ := userIndices_of_mem _ _
  tweetIndices _ := tweetIndices_of_mem _ _
  onePlace := nodup_dedupePlaces _
  places := mem_ids_dedupePlaces _
  placeIndices _ := indices_of_mem_dedupePlaces _
  transfers _ := source_of_mem_mediaTransferTasks env

/-- Fatal and shadowed items have no object in the batch. -/
structure ExcludedGiveNone : Prop where
  users : ∀ index result, prepared.userResults[index]? = some result → result.Excluded →
    index ∉ userIndices prepared
  tweets : ∀ index result, prepared.tweetResults[index]? = some result → result.Excluded →
    index ∉ tweetIndices prepared
  media : ∀ index result, prepared.mediaResults[index]? = some result → result.Excluded →
    index ∉ mediaIndices prepared

/-- An item's result is what was prepared for it and what was recorded under its index. -/
structure Recorded (results : SubmitResults) : Prop where
  users : ∀ index, results.users[index]? = prepared.userResults[index]?.map
    (recordAll Recording.record
      (touching Recording.indices index (userRecorded prepared outcomes)))
  tweets : ∀ index, results.tweets[index]? = prepared.tweetResults[index]?.map
    (recordAll Recording.record
      (touching Recording.indices index (tweetRecorded prepared outcomes)))
  media : ∀ index, results.media[index]? = prepared.mediaResults[index]?.map
    (recordAll Recording.record
      (touching Recording.indices index (mediaRecorded prepared outcomes env)))

variable (context : PrepareContext) (clocks : Clocks) (payload : SubmitTweetRequest)

theorem excludedGiveNone :
    ExcludedGiveNone (collectBatch (preparedUsers context clocks payload)
      (preparedMedia context clocks payload) (preparedTweets context clocks payload)) where
  users index result atIndex excluded member := by
    obtain ⟨user, userId, taken⟩ := (mem_userIndices provenance_collectBatch).mp member
    obtain ⟨isItem, isParsed, isLast⟩ := takenUser_iff.mp taken
    simp only [collectBatch, List.getElem?_map, preparedUsers_getElem?, isItem, Option.map_some,
      Option.some.injEq] at atIndex
    subst atIndex
    exact (prepareUser_excluded user).mp excluded ⟨userId, isParsed, isLast⟩
  tweets index result atIndex excluded member := by
    obtain ⟨tweet, tweetId, authorId, taken⟩ :=
      (mem_tweetIndices provenance_collectBatch).mp member
    obtain ⟨isItem, ids⟩ := takenTweet_iff.mp taken
    simp only [collectBatch, List.getElem?_map, preparedTweets_getElem?, isItem, Option.map_some,
      Option.some.injEq] at atIndex
    subst atIndex
    exact (prepareTweet_excluded tweet).mp excluded ⟨tweetId, authorId, ids⟩
  media index result atIndex excluded member := by
    obtain ⟨media, mediaId, taken⟩ := taken_of_mem_mediaIndices provenance_collectBatch member
    obtain ⟨isItem, isParsed, isLast⟩ := takenMedia_iff.mp taken
    simp only [collectBatch, List.getElem?_map, preparedMedia_getElem?, isItem, Option.map_some,
      Option.some.injEq] at atIndex
    subst atIndex
    exact (prepareMedia_excluded media).mp excluded ⟨mediaId, isParsed, isLast⟩

/-- With every index in range the call answers, and every operation is where it belongs. -/
theorem recordOutcomes_of_inRange
    (users : ∀ index ∈ userIndices prepared, index < prepared.userResults.length)
    (tweets : ∀ index ∈ tweetIndices prepared, index < prepared.tweetResults.length)
    (media : ∀ index ∈ mediaIndices prepared, index < prepared.mediaResults.length) :
    ∃ results, recordOutcomes prepared outcomes env = some results ∧
      Recorded prepared outcomes env results ∧
      results.users.map ObjectResult.id = prepared.userResults.map ObjectResult.id ∧
      results.tweets.map ObjectResult.id = prepared.tweetResults.map ObjectResult.id ∧
      results.media.map ObjectResult.id = prepared.mediaResults.map ObjectResult.id := by
  have usersInRange : InRange (userRecorded prepared outcomes) prepared.userResults.length :=
    inRange_recorded users (inRange_userRecordings users)
  have tweetsInRange : InRange (tweetRecorded prepared outcomes) prepared.tweetResults.length :=
    inRange_recorded tweets (inRange_tweetRecordings tweets)
  have mediaInRange : InRange (mediaRecorded prepared outcomes env) prepared.mediaResults.length :=
    inRange_recorded media (inRange_mediaRecordings media)
  let record := recordEach Recording.indices Recording.record
  refine ⟨⟨record (userRecorded prepared outcomes) prepared.userResults,
    record (tweetRecorded prepared outcomes) prepared.tweetResults,
    record (mediaRecorded prepared outcomes env) prepared.mediaResults⟩, ?_,
    ⟨fun _ => recordEach_getElem? _ _ _, fun _ => recordEach_getElem? _ _ _,
    fun _ => recordEach_getElem? _ _ _⟩, map_id_recordEach (keepsId_userRecorded _ _) _,
    map_id_recordEach (keepsId_tweetRecorded _ _) _,
    map_id_recordEach (keepsId_mediaRecorded _ _ _) _⟩
  rw [recordOutcomes_eq, applyRecordings_of_inRange usersInRange,
    applyRecordings_of_inRange tweetsInRange, applyRecordings_of_inRange mediaInRange]
  rfl

end LineUp

/-! ## The statements of a call -/

section Statements

variable (prepared : PreparedSubmitBatch) (env : Environment)

theorem recordEach_append (left right : List Recording) (results : List ObjectResult) :
    recordEach Recording.indices Recording.record (left ++ right) results =
      recordEach Recording.indices Recording.record right
        (recordEach Recording.indices Recording.record left results) :=
  List.foldl_append

theorem recordEach_map {α : Type} (indices : α → List Nat)
    (record : α → ObjectResult → ObjectResult) (entries : List α) (results : List ObjectResult) :
    recordEach Recording.indices Recording.record
        (entries.map fun entry => ⟨indices entry, record entry⟩) results =
      recordEach indices record entries results :=
  List.foldl_map

/-- A stage records what `stage` lists for the answers of its statement. -/
theorem recordEach_stage {α β σ : Type} {indices : α → List Nat}
    {record : β → α → ObjectResult → ObjectResult} {fail : String → ObjectResult → ObjectResult}
    {entries : List α} {statement : Except String (β × σ)} {results : List ObjectResult}
    (state : σ) :
    recordEach Recording.indices Recording.record
        (stage indices record fail entries (statement.map Prod.fst)) results =
      (writeBatch indices record fail entries statement state results).2 := by
  unfold stage writeBatch
  by_cases empty : entries.isEmpty = true
  · simp only [empty, if_true]
    rfl
  · simp only [empty]
    cases statement with
    | ok answered => exact recordEach_map indices _ entries results
    | error error => exact recordEach_map indices _ entries results

/-- What the statements of a call answer, each run on the tables the earlier ones left. -/
def outcomesOf (db : Database) : Outcomes :=
  let userTables : Tweet.UserTables := ⟨db.users, db.userSnapshots, db.indexQueue⟩
  let written := writeCombinedUserBatch env prepared.users prepared.tweetAuthors userTables
    prepared.userResults prepared.tweetResults
  let users := executeUsers env prepared userTables db.userStats
  let stored := (writeMediaBatch env prepared.media db.media prepared.mediaResults).1
  let media := executeMedia env prepared ⟨db.media, db.mediaResources⟩ db.transferTasks
  let places := writeTweetPlacesBatch env prepared.tweetPlaces db.tweetPlaces users.tweetResults
  let tweetTables : Tweet.TweetTables := ⟨db.tweets, users.tables.indexQueue⟩
  let tweets := (writeTweetsBatch env prepared.tweets users.tables.hasUser (hasPlace places.1)
    tweetTables places.2).1
  { preload := env.preloadSubmitBatchDicts prepared
    users := (env.insertUsersChanged
      ((combineUsers prepared.users prepared.tweetAuthors).map CombinedUserWrite.value)
      userTables).map Prod.fst
    userSnapshots := (env.appendUserSnapshotsIfChangedMany
      (prepared.userSnapshots.map Indexed.value) written.1).map Prod.fst
    userStats := (env.appendUserStatsIfChangedMany written.1.hasUser
      (prepared.userStats.map Indexed.value) db.userStats).map Prod.fst
    media := (env.upsertMediaChanged (prepared.media.map Indexed.value) db.media).map Prod.fst
    mediaResources := (env.appendMediaResourcesIfChangedMany
      (prepared.mediaResources.map Indexed.value) ⟨stored, db.mediaResources⟩).map Prod.fst
    transferTasks := (env.enqueueTasks ((mediaTransferTasks env prepared.media
      prepared.mediaResources (mediaResourceStatuses env prepared.mediaResources
        ⟨stored, db.mediaResources⟩)).map Indexed.value) media.tables.resources
      db.transferTasks).map Prod.fst
    tweetPlaces := (env.upsertTweetPlacesChanged
      ((dedupePlaces prepared.tweetPlaces).map DedupedPlace.value) db.tweetPlaces).map Prod.fst
    tweets := (env.insertTweetsChanged users.tables.hasUser (hasPlace places.1)
      (prepared.tweets.map Indexed.value) tweetTables).map Prod.fst
    tweetEdits := (env.upsertTweetEditsWriteStatuses (hasTweet tweets)
      (prepared.tweetEdits.map Indexed.value) db.tweetEdits).map Prod.fst
    tweetPolicies := (env.upsertTweetPoliciesWriteStatuses (hasTweet tweets)
      (prepared.tweetPolicies.map Indexed.value) db.tweetPolicies).map Prod.fst
    tweetCommunityNotes := (env.upsertTweetCommunityNotesWriteStatuses (hasTweet tweets)
      (prepared.tweetCommunityNotes.map Indexed.value) db.tweetCommunityNotes).map Prod.fst
    tweetStats := (env.appendTweetStatsIfChangedMany (hasTweet tweets)
      (prepared.tweetStats.map Indexed.value) db.tweetStats).map Prod.fst
    relations := (env.syncTweetRelations (hasTweet tweets) media.tables.hasMedia
      (prepared.tweetRelations.map Indexed.value) db.refs).map Prod.fst }

variable (db : Database)

theorem recordEach_userRecordings :
    recordEach Recording.indices Recording.record
        (userRecordings prepared (outcomesOf prepared env db)) prepared.userResults =
      (executeUsers env prepared ⟨db.users, db.userSnapshots, db.indexQueue⟩
        db.userStats).userResults := by
  let tables : Tweet.UserTables := ⟨db.users, db.userSnapshots, db.indexQueue⟩
  let written := writeCombinedUserBatch env prepared.users prepared.tweetAuthors tables
    prepared.userResults prepared.tweetResults
  dsimp only [userRecordings, outcomesOf]
  rw [recordEach_append, recordEach_append, recordEach_stage written.1, recordEach_stage tables,
    recordEach_stage db.userStats]
  rfl

theorem resourceStatuses_outcomesOf :
    resourceStatuses prepared (outcomesOf prepared env db) =
      mediaResourceStatuses env prepared.mediaResources
        ⟨(writeMediaBatch env prepared.media db.media prepared.mediaResults).1,
          db.mediaResources⟩ := by
  dsimp only [resourceStatuses, outcomesOf, mediaResourceStatuses]
  cases env.appendMediaResourcesIfChangedMany (prepared.mediaResources.map Indexed.value)
    ⟨(writeMediaBatch env prepared.media db.media prepared.mediaResults).1,
      db.mediaResources⟩ <;> rfl

theorem recordEach_mediaRecordings :
    recordEach Recording.indices Recording.record
        (mediaRecordings prepared (outcomesOf prepared env db) env) prepared.mediaResults =
      (executeMedia env prepared ⟨db.media, db.mediaResources⟩
        db.transferTasks).mediaResults := by
  let stored := (writeMediaBatch env prepared.media db.media prepared.mediaResults).1
  dsimp only [mediaRecordings]
  rw [resourceStatuses_outcomesOf]
  dsimp only [outcomesOf]
  rw [recordEach_append, recordEach_append, recordEach_append, recordEach_stage db.media,
    recordEach_stage (⟨stored, db.mediaResources⟩ : Tweet.MediaTables),
    recordEach_stage db.transferTasks]
  exact congrArg (fun planned => (writeBatch _ _ _ _ _ _ planned).2) (recordEach_map _ _ _ _)

theorem recordEach_tweetRecordings :
    let users := executeUsers env prepared ⟨db.users, db.userSnapshots, db.indexQueue⟩ db.userStats
    let media := executeMedia env prepared ⟨db.media, db.mediaResources⟩ db.transferTasks
    recordEach Recording.indices Recording.record
        (tweetRecordings prepared (outcomesOf prepared env db)) prepared.tweetResults =
      (executeTweets env prepared users.tables.hasUser media.tables.hasMedia
        { places := db.tweetPlaces
          tables := ⟨db.tweets, users.tables.indexQueue⟩
          edits := db.tweetEdits
          policies := db.tweetPolicies
          notes := db.tweetCommunityNotes
          stats := db.tweetStats
          refs := db.refs
          results := users.tweetResults }).results := by
  intro users media
  let tables : Tweet.UserTables := ⟨db.users, db.userSnapshots, db.indexQueue⟩
  dsimp only [tweetRecordings, childStage, outcomesOf]
  simp only [recordEach_append]
  rw [recordEach_stage tables, recordEach_stage db.tweetPlaces,
    recordEach_stage (⟨db.tweets, users.tables.indexQueue⟩ : Tweet.TweetTables),
    recordEach_stage db.tweetEdits, recordEach_stage db.tweetPolicies,
    recordEach_stage db.tweetCommunityNotes, recordEach_stage db.tweetStats,
    recordEach_stage db.refs]
  rfl

/-- A call of `execute_prepared_submit` records what its statements answer. -/
theorem recordOutcomes_outcomesOf
    (users : ∀ index ∈ userIndices prepared, index < prepared.userResults.length)
    (tweets : ∀ index ∈ tweetIndices prepared, index < prepared.tweetResults.length)
    (media : ∀ index ∈ mediaIndices prepared, index < prepared.mediaResults.length) :
    recordOutcomes prepared (outcomesOf prepared env db) env =
      some (executePreparedSubmit env prepared db).2 := by
  unfold executePreparedSubmit recordOutcomes
  have preload : (outcomesOf prepared env db).preload = env.preloadSubmitBatchDicts prepared := rfl
  rw [preload]
  cases env.preloadSubmitBatchDicts prepared with
  | error error =>
    simp only
    rw [applyRecording_of_inRange users, applyRecording_of_inRange tweets,
      applyRecording_of_inRange media]
    rfl
  | ok done =>
    simp only
    rw [applyRecordings_of_inRange (inRange_userRecordings users),
      applyRecordings_of_inRange (inRange_tweetRecordings tweets),
      applyRecordings_of_inRange (inRange_mediaRecordings media), recordEach_userRecordings,
      recordEach_mediaRecordings, recordEach_tweetRecordings]
    rfl

end Statements

section Response

variable (outcomes : Outcomes) (env : Environment) (clocks : Clocks)
  (payload : SubmitTweetRequest)

/-- The response has one result for each item, in order and with its id. -/
structure OneEach (response : SubmitTweetResponse) : Prop where
  users : response.users.map SubmitObjectResult.id = payload.users.map fun user => some user.id
  tweets :
    response.tweets.map SubmitObjectResult.id = payload.tweets.map fun tweet => some tweet.id
  media : response.media.map SubmitObjectResult.id = payload.media.map fun media => some media.id

/-- The results of a list show the operations and the error of their builders. -/
def ShowsBuilders (builders : List ObjectResult) (shown : List SubmitObjectResult) : Prop :=
  shown.map (fun result => (result.operations, result.error)) =
    builders.map fun builder => (builder.operations, builder.fatalError)

/-- What was recorded for an item is what the response says of it. -/
structure KeepsBuilders (results : SubmitResults) : Prop where
  users : ShowsBuilders results.users results.response.users
  tweets : ShowsBuilders results.tweets results.response.tweets
  media : ShowsBuilders results.media results.response.media

theorem showsBuilders_finish (builders : List ObjectResult) :
    ShowsBuilders builders (builders.map ObjectResult.finish) := by
  unfold ShowsBuilders
  rw [List.map_map]
  rfl

theorem keepsBuilders (results : SubmitResults) : KeepsBuilders results where
  users := showsBuilders_finish results.users
  tweets := showsBuilders_finish results.tweets
  media := showsBuilders_finish results.media

/-- For any payload and any outcome of the statements: every object of the batch is under the
index of the item it was converted from, nothing is indexed out of range, every item has its own
result with what was recorded for it, and the summary counts them.  The outcomes include those of
the statements themselves. -/
theorem submit_results_line_up (store : LookupStore) (parseUuid : String → Option Uuid) :
    let context : PrepareContext :=
      ⟨store, (resolveSubmitLookupIds store payload).toOption, parseUuid⟩
    let prepared := prepareLoop store parseUuid clocks payload
    Provenance context clocks payload prepared ∧ Regrouped prepared outcomes env ∧
      ExcludedGiveNone prepared ∧
      ∃ results, recordOutcomes prepared outcomes env = some results ∧
        Recorded prepared outcomes env results ∧
        OneEach payload results.response ∧ KeepsBuilders results ∧
        let summary := results.response.summary
        summary.total = summary.accepted + summary.skipped + summary.partly + summary.failed ∧
          summary.total = results.response.users.length + results.response.tweets.length +
            results.response.media.length ∧
        ∀ db, recordOutcomes prepared (outcomesOf prepared env db) env =
          some (executePreparedSubmit env prepared db).2 := by
  intro context prepared
  have isBatch : prepared = collectBatch (preparedUsers context clocks payload)
      (preparedMedia context clocks payload) (preparedTweets context clocks payload) :=
    prepareLoop_eq store parseUuid clocks payload
  have provenance : Provenance context clocks payload prepared := isBatch ▸ provenance_collectBatch
  have userIds : prepared.userResults.map ObjectResult.id =
      payload.users.map fun user => some user.id := by
    rw [isBatch, ← ids_preparedUsers clocks payload]
    exact List.map_map
  have tweetIds : prepared.tweetResults.map ObjectResult.id =
      payload.tweets.map fun tweet => some tweet.id := by
    rw [isBatch, ← ids_preparedTweets clocks payload]
    exact List.map_map
  have mediaIds : prepared.mediaResults.map ObjectResult.id =
      payload.media.map fun media => some media.id := by
    rw [isBatch, ← ids_preparedMedia clocks payload]
    exact List.map_map
  have userLength : prepared.userResults.length = payload.users.length := by
    simpa using congrArg List.length userIds
  have tweetLength : prepared.tweetResults.length = payload.tweets.length := by
    simpa using congrArg List.length tweetIds
  have mediaLength : prepared.mediaResults.length = payload.media.length := by
    simpa using congrArg List.length mediaIds
  have usersInRange : ∀ index ∈ userIndices prepared, index < prepared.userResults.length :=
    fun _ member => userLength ▸ lt_of_mem_userIndices provenance member
  have tweetsInRange : ∀ index ∈ tweetIndices prepared, index < prepared.tweetResults.length :=
    fun _ member => tweetLength ▸ lt_of_mem_tweetIndices provenance member
  have mediaInRange : ∀ index ∈ mediaIndices prepared, index < prepared.mediaResults.length :=
    fun _ member => mediaLength ▸ lt_of_mem_mediaIndices provenance member
  obtain ⟨results, run, recorded, users, tweets, media⟩ :=
    recordOutcomes_of_inRange prepared outcomes env usersInRange tweetsInRange mediaInRange
  -- The ids of the response are those of the results, which are those of the items.
  have finishIds : ∀ list : List ObjectResult,
      (list.map ObjectResult.finish).map SubmitObjectResult.id = list.map ObjectResult.id :=
    fun list => List.map_map
  obtain ⟨total, balanced⟩ := summarizeResults_total (results.users.map ObjectResult.finish)
    (results.tweets.map ObjectResult.finish) (results.media.map ObjectResult.finish)
  refine ⟨provenance, regrouped prepared outcomes env, isBatch ▸ excludedGiveNone context clocks
    payload, results, run, recorded, ⟨?_, ?_, ?_⟩, keepsBuilders results, balanced, total, fun db =>
    recordOutcomes_outcomesOf prepared env db usersInRange tweetsInRange mediaInRange⟩
  · exact (finishIds _).trans (users.trans userIds)
  · exact (finishIds _).trans (tweets.trans tweetIds)
  · exact (finishIds _).trans (media.trans mediaIds)

end Response

end TweetDb.Submit
