import TweetDb.Submit.BatchRuns

/-! # The media stages of two batches

The transfers are planned from the statuses of the resources, so they are alike
only where these are.
-/

namespace TweetDb.Submit

open Relational ObjectResult TweetModel
open TweetDb.Transfer (EnqueueTransferTask TransferEnqueueStatus TransferTask)
open TweetDb.Tweet (MediaTables)

/-! ## The media stages -/

structure MediaEndAlike (env : Environment) (others : Others) (prepared : PreparedSubmitBatch)
    (outcomes outcomes' : Outcomes) : Prop where
  media : Carries others.mediaItem prepared.media → failure outcomes.media = failure outcomes'.media
  mediaResources : Carries others.mediaItem prepared.mediaResources →
    failure outcomes.mediaResources = failure outcomes'.mediaResources
  transferTasks : Carries others.mediaItem (mediaTransferTasks env prepared.media
      prepared.mediaResources (resourceStatuses prepared outcomes)) →
    failure outcomes.transferTasks = failure outcomes'.transferTasks

structure MediaPhasesAlike (others : Others) (phase phase' : MediaPhase) : Prop where
  tables : MediaAgree others.toScope phase.tables phase'.tables
  transferTasks : AgreeOn (fun row : TransferTask => others.media row.mediaId)
    phase.transferTasks.rows phase'.transferTasks.rows
  mediaResults : ∀ index, others.mediaItem index = true →
    phase.mediaResults[index]? = phase'.mediaResults[index]?

section Media

variable {env : Environment} {others : Others} {prepared prepared' : PreparedSubmitBatch}

theorem PreparedSubmitBatch.Keyed.mediaPlace {scope : Scope} (keyed : prepared.Keyed scope)
    {index : Nat}
    (named : index ∈ prepared.media.map Indexed.index ∨
      index ∈ prepared.mediaResources.map Indexed.index) :
    index < prepared.mediaResults.length := by
  apply keyed.mediaPlaces
  simp only [mediaIndices, List.mem_dedup, List.mem_append]
  exact named

variable (alike : BatchesAlike others prepared prepared')
  (keyed : prepared.Keyed others.toScope) (keyed' : prepared'.Keyed others.toScope)

include alike keyed keyed'

theorem media_runs (env : Environment) {table table' : Table Tweet.Media}
    (agree : AgreeOn (fun item : Tweet.Media => others.media item.id) table.rows table'.rows) :
    StageRuns others.mediaItem (fun _ => True)
      (fun table table' => AgreeOn (fun item : Tweet.Media => others.media item.id) table.rows
        table'.rows)
      (Carries others.mediaItem prepared.media)
      (failure (env.upsertMediaChanged (prepared.media.map Indexed.value) table))
      (failure (env.upsertMediaChanged (prepared'.media.map Indexed.value) table'))
      (writeMediaBatch env prepared.media table prepared.mediaResults)
      (writeMediaBatch env prepared'.media table' prepared'.mediaResults) :=
  stageRuns_items (independent_media env others.toScope) (tells_changed (by decide))
    (fun _ _ _ same => congrArg (recordChanged "media") same) (env.refusals.media _)
    (env.refusals.media _) () () alike.media rfl keyed.media keyed'.media trivial trivial agree
    alike.mediaResults fun item member => ⟨_, List.getElem?_eq_getElem
      (keyed.mediaPlace (.inl (List.mem_map_of_mem member)))⟩

theorem mediaResources_runs (env : Environment) {tables tables' : MediaTables}
    {results results' : List ObjectResult} (agree : MediaAgree others.toScope tables tables')
    (before : ∀ index, others.mediaItem index = true → results[index]? = results'[index]?)
    (present : ∀ item ∈ prepared.mediaResources, ∃ result : ObjectResult,
      results[item.index]? = some result) :
    StageRuns others.mediaItem (fun _ => True) (MediaAgree others.toScope)
      (Carries others.mediaItem prepared.mediaResources)
      (failure (env.appendMediaResourcesIfChangedMany (prepared.mediaResources.map Indexed.value)
        tables))
      (failure (env.appendMediaResourcesIfChangedMany (prepared'.mediaResources.map Indexed.value)
        tables'))
      (writeMediaResourcesBatch env prepared.mediaResources tables results)
      (writeMediaResourcesBatch env prepared'.mediaResources tables' results') :=
  stageRuns_items (independent_mediaResources env others.toScope)
    (tells_conditionalWrite (by decide))
    (fun _ _ _ same => congrArg (recordConditionalWrite "media_resource") same)
    (env.refusals.mediaResources _) (env.refusals.mediaResources _) () () alike.mediaResources
    rfl (distinctBy_pair (DistinctBy.map keyed.mediaResources))
    (distinctBy_pair (DistinctBy.map keyed'.mediaResources)) trivial trivial agree before present

/-- The statuses of the resources of other items. -/
theorem mediaResourceStatuses_alike {tables tables' : MediaTables}
    (agree : MediaAgree others.toScope tables tables')
    (ends : Carries others.mediaItem prepared.mediaResources →
      failure (env.appendMediaResourcesIfChangedMany (prepared.mediaResources.map Indexed.value)
          tables) =
        failure (env.appendMediaResourcesIfChangedMany (prepared'.mediaResources.map Indexed.value)
          tables')) {item : Indexed MediaResource} (member : item ∈ prepared.mediaResources)
    (isOther : others.mediaItem item.index = true) :
    (mediaResourceStatuses env prepared.mediaResources tables).lookup
        (item.value.mediaId, item.value.recordedAt) =
      (mediaResourceStatuses env prepared'.mediaResources tables').lookup
        (item.value.mediaId, item.value.recordedAt) := by
  have member' := (alike.mediaResources.mem_iff isOther).mp member
  have same := ends ⟨item, member, isOther⟩
  have isSent : ∀ {items : List (Indexed MediaResource)} {tables : MediaTables},
      item ∈ items → mediaResourceStatuses env items tables =
        ((env.appendMediaResourcesIfChangedMany (items.map Indexed.value) tables).toOption.map
          Prod.fst).getD [] := by
    intro items tables member
    unfold mediaResourceStatuses
    rw [if_neg (by simpa using List.ne_nil_of_mem member)]
    cases env.appendMediaResourcesIfChangedMany (items.map Indexed.value) tables <;> rfl
  rw [isSent member, isSent member']
  cases ran : env.appendMediaResourcesIfChangedMany (prepared.mediaResources.map Indexed.value)
    tables with
  | ok answered =>
    cases ran' : env.appendMediaResourcesIfChangedMany
      (prepared'.mediaResources.map Indexed.value) tables' with
    | ok answered' =>
      have accepted : env.accepting.appendMediaResourcesIfChangedMany
          (prepared.mediaResources.map Indexed.value) tables = .ok answered := send_eq_ok ran
      have accepted' : env.accepting.appendMediaResourcesIfChangedMany
          (prepared'.mediaResources.map Indexed.value) tables' = .ok answered' := send_eq_ok ran'
      exact ((independent_mediaResources env others.toScope).both (rfl : () = ())
        (distinctBy_pair (DistinctBy.map keyed.mediaResources))
        (distinctBy_pair (DistinctBy.map keyed'.mediaResources))
        alike.mediaResources.values_agreeOn trivial trivial agree accepted accepted').2.2 item.value
        (List.mem_map_of_mem member) ((alike.mediaResources.inside item member).mpr isOther)
    | error error =>
      rw [ran, ran'] at same
      cases same
  | error error =>
    cases ran' : env.appendMediaResourcesIfChangedMany
      (prepared'.mediaResources.map Indexed.value) tables' with
    | ok answered' =>
      rw [ran, ran'] at same
      cases same
    | error error' => rfl

omit keyed keyed'

/-- A resource of another item is planned alike. -/
theorem planMediaTransfer_alike {item : Indexed MediaResource}
    {statuses statuses' : List ((Int × Timestamp) × ConditionalWrite)}
    (isOther : others.mediaItem item.index = true)
    (same : statuses.lookup (item.value.mediaId, item.value.recordedAt) =
      statuses'.lookup (item.value.mediaId, item.value.recordedAt)) :
    planMediaTransfer env prepared.media statuses item =
      planMediaTransfer env prepared'.media statuses' item := by
  have sameMedia : (prepared.media.filter fun other => other.index == item.index) =
      prepared'.media.filter fun other => other.index == item.index := by
    have ofItem : ∀ other : Indexed Media, (other.index == item.index) = true →
        others.mediaItem other.index = true := by
      intro other sameIndex
      rw [beq_iff_eq.mp sameIndex]
      exact isOther
    exact alike.media.filter_eq (fun other _ => ofItem other) fun other _ => ofItem other
  unfold planMediaTransfer
  rw [same, sameMedia]

omit alike

theorem addsOperations_recorded (plan : TransferPlan) : AddsOperations plan.recorded := by
  cases plan with
  | record status reason => exact addsOperations_operation (by decide)
  | pass => exact addsOperations_id
  | push task => exact addsOperations_id

theorem filter_filterMap_index {α β : Type} {f : Indexed α → Option β} {keep : Nat → Bool}
    {items : List (Indexed α)} :
    (items.filterMap fun item => (f item).map fun value => (⟨item.index, value⟩ : Indexed β)).filter
        (fun item => keep item.index) =
      (items.filter fun item => keep item.index).filterMap fun item =>
        (f item).map fun value => ⟨item.index, value⟩ := by
  rw [List.filter_filterMap, List.filterMap_filter]
  congr 1
  funext item
  cases f item <;> cases kept : keep item.index <;> simp [kept]

theorem mediaId_of_task {media : List (Indexed Media)}
    {statuses : List ((Int × Timestamp) × ConditionalWrite)} {item : Indexed MediaResource}
    {task : EnqueueTransferTask}
    (planned : (planMediaTransfer env media statuses item).task = some task) :
    task.mediaId = item.value.mediaId := by
  cases plan : planMediaTransfer env media statuses item with
  | pass => simp [plan, TransferPlan.task] at planned
  | record status reason => simp [plan, TransferPlan.task] at planned
  | push pushed =>
    simp only [plan, TransferPlan.task, Option.some.injEq] at planned
    subst planned
    obtain ⟨_, _, _, _, rfl⟩ := source_of_push env plan
    rfl

include alike

theorem tasks_alike {statuses statuses' : List ((Int × Timestamp) × ConditionalWrite)}
    (same : ∀ item ∈ prepared.mediaResources, others.mediaItem item.index = true →
      statuses.lookup (item.value.mediaId, item.value.recordedAt) =
        statuses'.lookup (item.value.mediaId, item.value.recordedAt)) :
    ItemsAlike others.mediaItem others.media EnqueueTransferTask.mediaId
      (mediaTransferTasks env prepared.media prepared.mediaResources statuses)
      (mediaTransferTasks env prepared'.media prepared'.mediaResources statuses') where
  same := by
    unfold mediaTransferTasks
    rw [filter_filterMap_index, filter_filterMap_index, ← alike.mediaResources.same]
    apply List.filterMap_congr
    intro item member
    obtain ⟨isItem, isOther⟩ := List.mem_filter.mp member
    rw [planMediaTransfer_alike alike isOther (same item isItem isOther)]
  inside := by
    intro task member
    obtain ⟨item, isItem, planned⟩ := List.mem_filterMap.mp member
    obtain ⟨value, isTask, rfl⟩ := Option.map_eq_some_iff.mp planned
    rw [mediaId_of_task isTask]
    exact alike.mediaResources.inside item isItem
  inside' := by
    intro task member
    obtain ⟨item, isItem, planned⟩ := List.mem_filterMap.mp member
    obtain ⟨value, isTask, rfl⟩ := Option.map_eq_some_iff.mp planned
    rw [mediaId_of_task isTask]
    exact alike.mediaResources.inside' item isItem

omit alike

theorem distinct_tasks {media : List (Indexed Media)} {items : List (Indexed MediaResource)}
    (distinct : DistinctBy (fun item : Indexed MediaResource => item.value.mediaId) items)
    (statuses : List ((Int × Timestamp) × ConditionalWrite)) :
    DistinctBy EnqueueTransferTask.mediaId
      ((mediaTransferTasks env media items statuses).map Indexed.value) := by
  apply DistinctBy.map
  intro first isFirst second isSecond sameMedia
  obtain ⟨item, isItem, planned⟩ := List.mem_filterMap.mp isFirst
  obtain ⟨item', isItem', planned'⟩ := List.mem_filterMap.mp isSecond
  obtain ⟨value, isTask, rfl⟩ := Option.map_eq_some_iff.mp planned
  obtain ⟨value', isTask', rfl⟩ := Option.map_eq_some_iff.mp planned'
  have sameId : item.value.mediaId = item'.value.mediaId :=
    (mediaId_of_task isTask).symm.trans (sameMedia.trans (mediaId_of_task isTask'))
  cases distinct item isItem item' isItem' sameId
  rw [isTask, Option.some.injEq] at isTask'
  rw [isTask']

include alike in
/-- What the loop over the resources records for the other items. -/
theorem planned_alike {statuses statuses' : List ((Int × Timestamp) × ConditionalWrite)}
    {results results' : List ObjectResult}
    (same : ∀ item ∈ prepared.mediaResources, others.mediaItem item.index = true →
      statuses.lookup (item.value.mediaId, item.value.recordedAt) =
        statuses'.lookup (item.value.mediaId, item.value.recordedAt))
    (before : ∀ index, others.mediaItem index = true → results[index]? = results'[index]?) :
    ∀ index, others.mediaItem index = true →
      (recordEach indexOf
          (fun item => (planMediaTransfer env prepared.media statuses item).recorded)
          prepared.mediaResources results)[index]? =
        (recordEach indexOf
          (fun item => (planMediaTransfer env prepared'.media statuses' item).recorded)
          prepared'.mediaResources results')[index]? := by
  intro index isOther
  rw [recordEach_getElem?, recordEach_getElem?, before index isOther,
    ← alike.mediaResources.touching_eq isOther]
  congr 1
  apply recordAll_congr
  intro item touched
  obtain ⟨isItem, named⟩ := mem_touching.mp touched
  have itemOther : others.mediaItem item.index = true := List.mem_singleton.mp named ▸ isOther
  rw [planMediaTransfer_alike alike itemOther (same item isItem itemOther)]

variable (env) in
include alike keyed keyed' in
theorem transfers_runs {statuses statuses' : List ((Int × Timestamp) × ConditionalWrite)}
    {resources resources' : Table Tweet.MediaResource} {table table' : Table TransferTask}
    {results results' : List ObjectResult}
    (same : ∀ item ∈ prepared.mediaResources, others.mediaItem item.index = true →
      statuses.lookup (item.value.mediaId, item.value.recordedAt) =
        statuses'.lookup (item.value.mediaId, item.value.recordedAt))
    (agreeResources : AgreeOn (fun row : Tweet.MediaResource => others.media row.subjectId)
      resources.rows resources'.rows)
    (agree : AgreeOn (fun row : TransferTask => others.media row.mediaId) table.rows table'.rows)
    (before : ∀ index, others.mediaItem index = true → results[index]? = results'[index]?)
    (present : ∀ item ∈ prepared.mediaResources, ∃ result : ObjectResult,
      results[item.index]? = some result) :
    let tasks := mediaTransferTasks env prepared.media prepared.mediaResources statuses
    let tasks' := mediaTransferTasks env prepared'.media prepared'.mediaResources statuses'
    StageRuns others.mediaItem (fun _ => True)
      (fun table table' => AgreeOn (fun row : TransferTask => others.media row.mediaId) table.rows
        table'.rows)
      (Carries others.mediaItem tasks)
      (failure (env.enqueueTasks (tasks.map Indexed.value) resources table))
      (failure (env.enqueueTasks (tasks'.map Indexed.value) resources' table'))
      (enqueuePreparedMediaTransfers env prepared.media prepared.mediaResources statuses resources
        table results)
      (enqueuePreparedMediaTransfers env prepared'.media prepared'.mediaResources statuses'
        resources' table' results') := by
  have recorded : ∀ (answers answers' : List ((Int × Timestamp) × TransferEnqueueStatus))
      (item : Indexed EnqueueTransferTask),
      answers.lookup (item.value.mediaId, item.value.sourceRecordedAt) =
        answers'.lookup (item.value.mediaId, item.value.sourceRecordedAt) →
      recordTransfer answers item = recordTransfer answers' item := by
    intro answers answers' item same
    unfold recordTransfer
    rw [same]
  refine stageRuns_items (independent_tasks env others.toScope) tells_transfer recorded
    (env.refusals.transferTasks _) (env.refusals.transferTasks _) resources resources'
    (tasks_alike alike same) agreeResources (distinct_tasks keyed.mediaResources _)
    (distinct_tasks keyed'.mediaResources _)
    trivial trivial agree (planned_alike alike same before) ?_
  intro task member
  obtain ⟨item, isItem, sameIndex⟩ := List.mem_map.mp (index_of_mem_mediaTransferTasks member)
  obtain ⟨result, isPresent⟩ := present item isItem
  obtain ⟨after, _, isAfter, _⟩ := @extended_recordEach _ indexOf
    (fun item => (planMediaTransfer env prepared.media statuses item).recorded)
    (fun _ => addsOperations_recorded _) prepared.mediaResources results item.index result isPresent
  rw [sameIndex] at isAfter
  exact ⟨after, isAfter⟩

theorem extended_mediaResources {items : List (Indexed MediaResource)} {tables : MediaTables}
    {results : List ObjectResult} :
    Extended results (writeMediaResourcesBatch env items tables results).2 :=
  extended_writeBatch (tells_conditionalWrite (by decide))

theorem extended_media {items : List (Indexed Media)} {table : Table Tweet.Media}
    {results : List ObjectResult} : Extended results (writeMediaBatch env items table results).2 :=
  extended_writeBatch (tells_changed (by decide))

theorem extended_transfers {media : List (Indexed Media)} {items : List (Indexed MediaResource)}
    {statuses : List ((Int × Timestamp) × ConditionalWrite)}
    {resources : Table Tweet.MediaResource} {table : Table TransferTask}
    {results : List ObjectResult} :
    Extended results
      (enqueuePreparedMediaTransfers env media items statuses resources table results).2 :=
  (extended_recordEach (fun _ => addsOperations_recorded _) items results).trans
    (extended_writeBatch tells_transfer)

end Media

section Execute

variable {env : Environment} {others : Others} {prepared prepared' : PreparedSubmitBatch}
  {db : Database} (alike : BatchesAlike others prepared prepared')
  (keyed : prepared.Keyed others.toScope) (keyed' : prepared'.Keyed others.toScope)

def Database.mediaTables (db : Database) : MediaTables := ⟨db.media, db.mediaResources⟩

include alike keyed keyed'

/-- The media stages of two runs whose statements end alike, or that end the same. -/
theorem executeMedia_runs
    (known : MediaEndAlike env others prepared (outcomesOf prepared env db)
        (outcomesOf prepared' env db) ∨
      EndSame others.mediaItem
        (executeMedia env prepared db.mediaTables db.transferTasks).mediaResults
        (executeMedia env prepared' db.mediaTables db.transferTasks).mediaResults) :
    MediaEndAlike env others prepared (outcomesOf prepared env db) (outcomesOf prepared' env db) ∧
      MediaPhasesAlike others (executeMedia env prepared db.mediaTables db.transferTasks)
        (executeMedia env prepared' db.mediaTables db.transferTasks) := by
  have media := media_runs alike keyed keyed' env (.refl _ db.media.rows)
  have endsMedia := known.elim
    (fun ends => ends_of_map ends.media)
    fun atEnd => media.told (atEnd.before (extended_mediaResources.trans extended_transfers)
      (extended_mediaResources.trans extended_transfers))
  have stored : MediaAgree others.toScope
      ⟨(writeMediaBatch env prepared.media db.media prepared.mediaResults).1, db.mediaResources⟩
      ⟨(writeMediaBatch env prepared'.media db.media prepared'.mediaResults).1,
        db.mediaResources⟩ :=
    ⟨(media.alike endsMedia).states, .refl _ _⟩
  have inRange : ∀ item ∈ prepared.mediaResources, item.index < prepared.mediaResults.length :=
    fun item member => keyed.mediaPlace (.inr (List.mem_map_of_mem member))
  have resources := mediaResources_runs alike keyed keyed' env stored
    (media.alike endsMedia).results
    fun item member => exists_getElem?_of_extended extended_media (inRange item member)
  have endsResources := known.elim
    (fun ends => ends_of_map ends.mediaResources)
    fun atEnd => resources.told (atEnd.before extended_transfers extended_transfers)
  have alikeResources := resources.alike endsResources
  have transfers := transfers_runs env alike keyed keyed'
    (fun item member => mediaResourceStatuses_alike alike keyed keyed' stored endsResources member)
    alikeResources.states.resources (.refl _ db.transferTasks.rows) alikeResources.results
    fun item member => exists_getElem?_of_extended (extended_media.trans extended_mediaResources)
      (inRange item member)
  have endsTransfers := known.elim
    (fun ends => ends_of_map (resourceStatuses_outcomesOf prepared env db ▸ ends.transferTasks))
    fun atEnd => transfers.told atEnd
  have alikeTransfers := transfers.alike endsTransfers
  refine ⟨⟨ends_map endsMedia, ends_map endsResources, ?_⟩, alikeResources.states,
    alikeTransfers.states, alikeTransfers.results⟩
  rw [resourceStatuses_outcomesOf]
  exact ends_map endsTransfers

end Execute

end TweetDb.Submit
