import TweetDb.Transfer.Source
import TweetDb.Tweet.VersionHistory

/-! # Queueing a selected source

The resource of a submission is found by its time when it is stored at it, and
by its URL when it was dropped as unchanged.  In the second case the URL that
SQL computes from the stored content has to be the one `select_source` chose.
-/

namespace TweetDb.Transfer

open Relational Tweet Versions

/-! ## The resolved source -/

section Resolve

variable {choice : VariantChoice} {resources : Table MediaResource} {task : EnqueueTransferTask}
  {source : MediaResource}

/-- The resources the lateral query looks at. -/
def Candidate (choice : VariantChoice) (resources : Table MediaResource)
    (task : EnqueueTransferTask) (resource : MediaResource) : Prop :=
  resource ∈ resources.rows ∧ resource.subjectId = task.mediaId ∧
    resource.recordedAt ≤ task.sourceRecordedAt ∧
      (resource.recordedAt = task.sourceRecordedAt ∨
        choice.sourceUrl resource.content = some task.sourceUrl)

private theorem mem_candidates {resource : MediaResource} :
    resource ∈ (resources.rows.filter fun resource =>
      decide (resource.subjectId = task.mediaId) &&
        decide (resource.recordedAt ≤ task.sourceRecordedAt) &&
        (decide (resource.recordedAt = task.sourceRecordedAt) ||
          decide (choice.sourceUrl resource.content = some task.sourceUrl))) ↔
      Candidate choice resources task resource := by
  simp only [List.mem_filter, Bool.and_eq_true, Bool.or_eq_true, decide_eq_true_eq, Candidate]
  tauto

theorem resolveSource_isSome {resource : MediaResource}
    (candidate : Candidate choice resources task resource) :
    ∃ source, resolveSource choice resources task = some source :=
  head?_orderBy_isSome (mem_candidates.mpr candidate)

/-- The source is the resource stored at the requested time, else the newest candidate. -/
theorem resolveSource_spec (found : resolveSource choice resources task = some source) :
    Candidate choice resources task source ∧
      ∀ other, Candidate choice resources task other →
        (other.recordedAt = task.sourceRecordedAt → source.recordedAt = task.sourceRecordedAt) ∧
          (source.recordedAt ≠ task.sourceRecordedAt → other.recordedAt ≤ source.recordedAt) := by
  obtain ⟨member, least⟩ := head?_orderBy found
  refine ⟨mem_candidates.mp member, fun other candidate => ?_⟩
  have le := least other (mem_candidates.mpr candidate)
  rw [columnsLe_pair] at le
  constructor
  · intro exact'
    rw [if_pos exact'] at le
    by_contra notExact
    rw [if_neg notExact] at le
    omega
  · intro notExact
    rw [if_neg notExact] at le
    rcases le with before | ⟨_, newer⟩
    · split at before <;> omega
    · exact Int.le_of_neg_le_neg newer

end Resolve

/-! ## The queue afterwards -/

theorem insertTask_keeps {tasks tasks' : Table TransferTask} {task : TransferTask}
    (inserted : insertTask tasks task = some tasks') :
    (∀ stored ∈ tasks.rows, stored ∈ tasks'.rows) ∧ ∃ row ∈ tasks'.rows, row.sameSource task := by
  unfold insertTask at inserted
  split at inserted
  next queued =>
    cases inserted
    exact ⟨fun _ present => present, queued⟩
  next =>
    rw [Table.insert_rows inserted]
    exact ⟨fun _ present => List.mem_append_left _ present,
      task, List.mem_append_right _ (List.mem_singleton_self _), rfl, rfl⟩

/-- Every item of a completed insert has a task, its own or the one it ran into. -/
theorem insertTasks_queued {now : Timestamp} {items : List NewTransferTask}
    {tasks tasks' : Table TransferTask} (inserted : insertTasks now items tasks = some tasks') :
    (∀ stored ∈ tasks.rows, stored ∈ tasks'.rows) ∧
      ∀ item ∈ items, ∃ row ∈ tasks'.rows, row.sameSource (item.row now) := by
  induction items generalizing tasks with
  | nil =>
    cases inserted
    exact ⟨fun _ present => present, fun _ none => absurd none List.not_mem_nil⟩
  | cons item items inductionHypothesis =>
    simp only [insertTasks, List.foldlM_cons, Option.bind_eq_bind,
      Option.bind_eq_some_iff] at inserted
    obtain ⟨middle, first, rest⟩ := inserted
    obtain ⟨kept, queued⟩ := inductionHypothesis rest
    obtain ⟨keptFirst, row, present, same⟩ := insertTask_keeps first
    refine ⟨fun stored inTasks => kept stored (keptFirst stored inTasks), fun other member => ?_⟩
    rcases List.mem_cons.mp member with rfl | later
    · exact ⟨row, kept row present, same⟩
    · exact queued other later

/-- The answer and the task of a request whose source is resolved. -/
theorem enqueueTasks_resolved {choice : VariantChoice} {now : Timestamp}
    {tasks : List EnqueueTransferTask} {resources : Table MediaResource}
    {queue queue' : Table TransferTask}
    {answers : List ((Int × Timestamp) × TransferEnqueueStatus)} {task : EnqueueTransferTask}
    {source : MediaResource}
    (answered : enqueueTasks choice now tasks resources queue = some (answers, queue'))
    (kept : task ∈ distinctTasks tasks)
    (resolved : resolveSource choice resources task = some source) :
    (∃ status, ((task.mediaId, task.sourceRecordedAt), status) ∈ answers ∧
      status ≠ .missingSourceRecord) ∧
    ∃ queued ∈ queue'.rows, queued.mediaId = task.mediaId ∧
      queued.sourceRecordedAt = source.recordedAt := by
  unfold enqueueTasks at answered
  obtain ⟨queue'', inserted, result⟩ := Option.map_eq_some_iff.mp answered
  cases result
  constructor
  · refine ⟨if hasTaskFor queue task.mediaId source.recordedAt then .alreadyQueued else .enqueued,
      List.mem_map.mpr ⟨task, kept, by rw [resolved]⟩, ?_⟩
    split <;> nofun
  · have requested : task.insertAt source ∈ (distinctTasks tasks).filterMap fun task =>
        (resolveSource choice resources task).map task.insertAt :=
      List.mem_filterMap.mpr ⟨task, kept, by rw [resolved]; rfl⟩
    obtain ⟨row, present, sameMedia, sameTime⟩ := (insertTasks_queued inserted).2 _ requested
    exact ⟨row, present, sameMedia, sameTime⟩

/-! ## What the append reports -/

section Appended

variable {hasMedia : Int → Bool} {resources : Table MediaResource} {input : List MediaResource}
  {submitted : MediaResource} {status : AppendStatus}

/-- The status of a row is that of the one input row with its key. -/
theorem status_of_reported (kept : submitted ∈ distinctInput input)
    (reported : (submitted.subjectId, submitted.recordedAt, status) ∈
      (appendIfChanged hasMedia input resources).statuses) :
    status = (classify hasMedia resources submitted).status
      (appendIfChanged hasMedia input resources).inserted := by
  obtain ⟨classified, member, columns⟩ := List.mem_map.mp reported
  obtain ⟨row, inInput, rfl⟩ := List.mem_map.mp member
  simp only [Prod.mk.injEq] at columns
  obtain ⟨sameSubject, sameTime, rfl⟩ := columns
  rw [distinctInput_eq inInput kept (Version.clash_iff.mpr ⟨sameSubject, sameTime⟩)]
  rfl

/-- A row reported as inserted or unchanged has its content stored at its time or earlier,
and nothing else is stored at its time. -/
theorem reported_stored (kept : submitted ∈ distinctInput input)
    (reported : (submitted.subjectId, submitted.recordedAt, status) ∈
      (appendIfChanged hasMedia input resources).statuses)
    (stored : status = .inserted ∨ status = .unchanged) :
    (∃ row ∈ (appendIfChanged hasMedia input resources).table.rows,
      row.subjectId = submitted.subjectId ∧ row.recordedAt ≤ submitted.recordedAt ∧
        row.content = submitted.content) ∧
    ∀ row ∈ (appendIfChanged hasMedia input resources).table.rows,
      row.subjectId = submitted.subjectId → row.recordedAt = submitted.recordedAt →
        row.content = submitted.content := by
  have status_eq := status_of_reported kept reported
  unfold ClassifiedVersion.status at status_eq
  split at status_eq
  next =>
    rw [status_eq] at stored
    cases stored <;> contradiction
  next parent =>
    split at status_eq
    next inserted =>
      obtain ⟨new, isNew, clashes⟩ := List.any_eq_true.mp inserted
      have newRow : new = submitted :=
        distinctInput_eq (mem_inserted.mp isNew).1 kept (of_decide_eq_true clashes)
      subst newRow
      have present : new ∈ (appendIfChanged hasMedia input resources).table.rows := by
        rw [appended_rows]
        exact List.mem_append_right _ isNew
      refine ⟨⟨new, present, rfl, le_refl _, rfl⟩, fun row member sameSubject sameTime => ?_⟩
      rw [versionsOf_apart _ new.subjectId row (mem_versionsOf.mpr ⟨member, sameSubject⟩) new
        (mem_versionsOf.mpr ⟨present, rfl⟩) sameTime]
    next notInserted =>
      split at status_eq
      next unchanged =>
        have repeated := (classify_unchanged.mp unchanged).2
        unfold Repeats at repeated
        obtain ⟨latest, found, sameContent⟩ := Option.map_eq_some_iff.mp repeated
        obtain ⟨isVersion, early, greatest⟩ := newest_spec found
        have storedLatest := mem_versionsOf.mp isVersion
        refine ⟨⟨latest, ?_, storedLatest.2, early, sameContent⟩,
          fun row member sameSubject sameTime => ?_⟩
        · rw [appended_rows]
          exact List.mem_append_left _ storedLatest.1
        · rw [appended_rows] at member
          rcases List.mem_append.mp member with old | new
          · have rowVersion : row ∈ versionsOf resources submitted.subjectId :=
              mem_versionsOf.mpr ⟨old, sameSubject⟩
            have notLater := greatest row rowVersion (le_of_eq sameTime)
            rw [versionsOf_apart _ _ row rowVersion latest isVersion
              (le_antisymm notLater (sameTime ▸ early)), sameContent]
          · have clashes : Row.clash row submitted :=
              Version.clash_iff.mpr ⟨sameSubject, sameTime⟩
            exact absurd (List.any_eq_true.mpr ⟨row, new, decide_eq_true clashes⟩) notInserted
      next =>
        rw [status_eq] at stored
        cases stored <;> contradiction

end Appended

/-! ## Selected, appended, queued -/

/-- The request is answered with a task, and the task is for a resource with this content. -/
def SourceQueued (choice : VariantChoice) (resources : Table MediaResource)
    (content : MediaResourceColumns) (task : EnqueueTransferTask)
    (answers : List ((Int × Timestamp) × TransferEnqueueStatus)) (queue : Table TransferTask) :
    Prop :=
  ∃ source ∈ resources.rows, resolveSource choice resources task = some source ∧
    source.content = content ∧
    (∃ status, ((task.mediaId, task.sourceRecordedAt), status) ∈ answers ∧
      status ≠ .missingSourceRecord) ∧
    ∃ queued ∈ queue.rows, queued.mediaId = task.mediaId ∧
      queued.sourceRecordedAt = source.recordedAt

def StoredAt (resources : Table MediaResource) (task : EnqueueTransferTask) : Prop :=
  ∃ row ∈ resources.rows, row.subjectId = task.mediaId ∧ row.recordedAt = task.sourceRecordedAt

/-- SQL computes the requested URL from this content, and no newer resource with other
content has the same URL. -/
def RecognisedByUrl (choice : VariantChoice) (resources : Table MediaResource)
    (content : MediaResourceColumns) (task : EnqueueTransferTask) : Prop :=
  choice.sourceUrl content = some task.sourceUrl ∧
    ∀ other ∈ resources.rows, other.subjectId = task.mediaId →
      other.recordedAt ≤ task.sourceRecordedAt →
      choice.sourceUrl other.content = some task.sourceUrl → other.content ≠ content →
        ∃ same ∈ resources.rows, same.subjectId = task.mediaId ∧
          same.recordedAt ≤ task.sourceRecordedAt ∧ same.content = content ∧
          other.recordedAt < same.recordedAt

/-- Which resource is found for a content that is stored at the requested time or earlier. -/
theorem resolved_content_iff {choice : VariantChoice} {resources : Table MediaResource}
    {content : MediaResourceColumns} {task : EnqueueTransferTask}
    (earlier : ∃ row ∈ resources.rows, row.subjectId = task.mediaId ∧
      row.recordedAt ≤ task.sourceRecordedAt ∧ row.content = content)
    (atTime : ∀ row ∈ resources.rows, row.subjectId = task.mediaId →
      row.recordedAt = task.sourceRecordedAt → row.content = content) :
    (∃ source, resolveSource choice resources task = some source ∧ source.content = content) ↔
      StoredAt resources task ∨ RecognisedByUrl choice resources content task := by
  constructor
  · rintro ⟨source, resolved, sameContent⟩
    obtain ⟨⟨present, media, early, exactOrUrl⟩, first⟩ := resolveSource_spec resolved
    rcases exactOrUrl with atRequested | url
    · exact .inl ⟨source, present, media, atRequested⟩
    · by_cases atRequested : source.recordedAt = task.sourceRecordedAt
      · exact .inl ⟨source, present, media, atRequested⟩
      · rw [sameContent] at url
        refine .inr ⟨url, fun other otherPresent otherMedia otherEarly otherUrl different => ?_⟩
        refine ⟨source, present, media, early, sameContent, ?_⟩
        have notLater :=
          (first other ⟨otherPresent, otherMedia, otherEarly, .inr otherUrl⟩).2 atRequested
        apply lt_of_le_of_ne notLater
        intro sameTime
        -- Two resources of one media at one time are the same row.
        have sameRow : other = source :=
          versionsOf_apart resources task.mediaId other
            (mem_versionsOf.mpr ⟨otherPresent, otherMedia⟩) source
            (mem_versionsOf.mpr ⟨present, media⟩) sameTime
        exact different (sameRow ▸ sameContent)
  · rintro (⟨row, present, media, atRequested⟩ | ⟨url, newest⟩)
    · have candidate : Candidate choice resources task row :=
        ⟨present, media, le_of_eq atRequested, .inl atRequested⟩
      obtain ⟨source, resolved⟩ := resolveSource_isSome candidate
      obtain ⟨⟨sourcePresent, sourceMedia, _, _⟩, first⟩ := resolveSource_spec resolved
      exact ⟨source, resolved, atTime source sourcePresent sourceMedia
        ((first row candidate).1 atRequested)⟩
    · obtain ⟨row, present, media, early, sameContent⟩ := earlier
      have candidate : Candidate choice resources task row :=
        ⟨present, media, early, .inr (sameContent ▸ url)⟩
      obtain ⟨source, resolved⟩ := resolveSource_isSome candidate
      obtain ⟨⟨sourcePresent, sourceMedia, sourceEarly, exactOrUrl⟩, first⟩ :=
        resolveSource_spec resolved
      refine ⟨source, resolved, ?_⟩
      by_cases atRequested : source.recordedAt = task.sourceRecordedAt
      · exact atTime source sourcePresent sourceMedia atRequested
      · by_contra different
        obtain ⟨same, samePresent, sameMedia, sameEarly, content_eq, newer⟩ :=
          newest source sourcePresent sourceMedia sourceEarly
            (exactOrUrl.resolve_left atRequested) different
        have notLater := (first same ⟨samePresent, sameMedia, sameEarly,
          .inr (content_eq ▸ url)⟩).2 atRequested
        exact absurd newer (not_lt_of_ge notLater)

/-- A selected source of a resource that was stored, or dropped as unchanged, is queued for
the submitted content exactly when the resource is stored at its time or SQL recognises it. -/
theorem selected_source_queued_iff (choice : VariantChoice) (urlPath : String → Option String)
    (mediaType : MediaType) (submitted : TweetModel.MediaResource)
    (source : SelectedTransferSource)
    (_selected : selectSource urlPath mediaType submitted = some source)
    (resources : List MediaResource) (tables tables' : MediaTables)
    (statuses : List (Int × Timestamp × AppendStatus)) (status : AppendStatus)
    (appended : appendMediaResourcesIfChanged resources tables = (statuses, tables'))
    (kept : submitted.payload ∈ distinctInput resources)
    (reported : (submitted.mediaId, submitted.recordedAt, status) ∈ statuses)
    (stored : status = .inserted ∨ status = .unchanged)
    (id : Uuid) (now : Timestamp) (tasks : List EnqueueTransferTask)
    (queue queue' : Table TransferTask)
    (answers : List ((Int × Timestamp) × TransferEnqueueStatus))
    (requested : source.task id submitted ∈ distinctTasks tasks)
    (answered : enqueueTasks choice now tasks tables'.resources queue = some (answers, queue')) :
    SourceQueued choice tables'.resources submitted.payload.content (source.task id submitted)
        answers queue' ↔
      StoredAt tables'.resources (source.task id submitted) ∨
        RecognisedByUrl choice tables'.resources submitted.payload.content
          (source.task id submitted) := by
  cases appended
  obtain ⟨earlier, atTime⟩ := reported_stored kept reported stored
  rw [← resolved_content_iff earlier atTime]
  constructor
  · rintro ⟨found, _, resolved, sameContent, _⟩
    exact ⟨found, resolved, sameContent⟩
  · rintro ⟨found, resolved, sameContent⟩
    obtain ⟨answer, queued⟩ := enqueueTasks_resolved answered requested resolved
    exact ⟨found, (resolveSource_spec resolved).1.1, resolved, sameContent, answer, queued⟩

/-- Media 5 with one resource, recorded at time 1. -/
def storedAtOne (content : MediaResourceColumns) : MediaTables where
  media := freshMedia.media
  resources := ⟨[⟨5, 1, content⟩], List.pairwise_singleton _ _⟩

/-- An unchanged photo is queued for the resource of time 1. -/
theorem selected_source_queued_photo :
    ∃ source answers queue,
      selectSource (fun _ => none) .photo ⟨5, 2, some "p.jpg", none, none⟩ = some source ∧
      SourceQueued .sorted (storedAtOne ⟨some "p.jpg", none, none⟩).resources
        ⟨some "p.jpg", none, none⟩ (source.task 7 ⟨5, 2, some "p.jpg", none, none⟩) answers
        queue := by
  refine ⟨_, _, _, rfl, (selected_source_queued_iff .sorted (fun _ => none) .photo
    ⟨5, 2, some "p.jpg", none, none⟩ _ rfl [⟨5, 2, ⟨some "p.jpg", none, none⟩⟩]
    (storedAtOne ⟨some "p.jpg", none, none⟩) _ _ _ rfl (by decide) List.mem_cons_self (.inr rfl)
    7 0 [_] .empty _ _ List.mem_cons_self rfl).mpr (.inr ⟨rfl, ?_⟩)⟩
  intro other present _ _ _ different
  obtain rfl := List.mem_singleton.mp present
  exact absurd rfl different

/-- A photo that also has a video variant is unchanged since time 1; SQL computes the URL of the
variant for it and finds no source for the URL of the photo. -/
theorem photo_with_variant_not_queued :
    ∃ source tables queue,
      selectSource (fun _ => none) .photo
        ⟨5, 2, some "p.jpg", none, some ⟨none, none, none, [⟨"video/mp4", none, "v.mp4"⟩]⟩⟩ =
          some source ∧
      appendMediaResourcesIfChanged
        [TweetModel.MediaResource.payload
          ⟨5, 2, some "p.jpg", none, some ⟨none, none, none, [⟨"video/mp4", none, "v.mp4"⟩]⟩⟩]
        (storedAtOne ⟨some "p.jpg", none,
          some ⟨none, none, none, [⟨some "video/mp4", none, "v.mp4"⟩]⟩⟩) =
            ([(5, 2, .unchanged)], tables) ∧
      enqueueTasks .sorted 0 [source.task 7
        ⟨5, 2, some "p.jpg", none, some ⟨none, none, none, [⟨"video/mp4", none, "v.mp4"⟩]⟩⟩]
        tables.resources .empty = some ([((5, 2), .missingSourceRecord)], queue) :=
  ⟨_, _, _, rfl, rfl, rfl⟩

end TweetDb.Transfer
