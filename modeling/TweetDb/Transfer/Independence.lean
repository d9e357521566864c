import TweetDb.Relational.Agree
import TweetDb.Transfer.Enqueue

/-! # Tasks of different media

The source an enqueue finds, the task it inserts and the status it answers are
decided by the resources and the tasks of one media.
-/

namespace TweetDb.Transfer

open Relational Tweet

variable {scope : Int → Prop} {choice : VariantChoice} {now : Timestamp}

/-! ## Sources -/

theorem resolveSource_congr {resources resources' : Table MediaResource}
    {task : EnqueueTransferTask} (inside : scope task.mediaId)
    (agree : AgreeOn (fun row : MediaResource => scope row.subjectId) resources.rows
      resources'.rows) :
    resolveSource choice resources task = resolveSource choice resources' task := by
  have nodup : ∀ table : Table MediaResource, table.rows.Nodup :=
    fun table => table.unique.imp fun apart same => apart (Row.clash_of_key (congrArg Row.key same))
  unfold resolveSource
  apply congrArg List.head?
  rw [orderBy_eq_iff _ ((nodup _).filter _) ((nodup _).filter _)]
  · intro row
    simp only [List.mem_filter, Bool.and_eq_true, decide_eq_true_eq]
    constructor
    · intro ⟨present, ⟨media, early⟩, found⟩
      have rowInside : scope row.subjectId := by
        rw [media]
        exact inside
      exact ⟨(agree row rowInside).mp present, ⟨media, early⟩, found⟩
    · intro ⟨present, ⟨media, early⟩, found⟩
      have rowInside : scope row.subjectId := by
        rw [media]
        exact inside
      exact ⟨(agree row rowInside).mpr present, ⟨media, early⟩, found⟩
  · intro a inA b inB same
    simp only [List.mem_filter, Bool.and_eq_true, decide_eq_true_eq] at inA inB
    simp only [List.cons.injEq, neg_inj, and_true] at same
    -- Both candidates are resources of the task's media, so equal times make them one row.
    have mediaA := inA.2.1.1
    have mediaB := inB.2.1.1
    have inA' : a ∈ resources'.rows := by
      apply (agree a _).mp inA.1
      rw [mediaA]
      exact inside
    exact versionsOf_apart resources' task.mediaId a (mem_versionsOf.mpr ⟨inA', mediaA⟩) b
      (mem_versionsOf.mpr ⟨inB.1, mediaB⟩) same.2

theorem hasTaskFor_congr {queue queue' : Table TransferTask} {mediaId : Int}
    (inside : scope mediaId) (recordedAt : Timestamp)
    (agree : AgreeOn (fun row : TransferTask => scope row.mediaId) queue.rows queue'.rows) :
    hasTaskFor queue mediaId recordedAt = hasTaskFor queue' mediaId recordedAt := by
  rw [Bool.eq_iff_iff]
  simp only [hasTaskFor, List.any_eq_true, Bool.and_eq_true, decide_eq_true_eq]
  constructor
  · intro ⟨row, present, media, time⟩
    subst media
    exact ⟨row, (agree row inside).mp present, rfl, time⟩
  · intro ⟨row, present, media, time⟩
    subst media
    exact ⟨row, (agree row inside).mpr present, rfl, time⟩

/-! ## Inserting -/

theorem mem_insertTasks {items : List NewTransferTask} {tasks tasks' : Table TransferTask}
    (apart : items.Pairwise fun a b => a.mediaId ≠ b.mediaId)
    (inserted : insertTasks now items tasks = some tasks') {row : TransferTask} :
    row ∈ tasks'.rows ↔ row ∈ tasks.rows ∨ ∃ item ∈ items, item.row now = row ∧
      ∀ stored ∈ tasks.rows, ¬ stored.sameSource row := by
  induction items generalizing tasks with
  | nil =>
    cases inserted
    simp
  | cons item items inductionHypothesis =>
    rw [List.pairwise_cons] at apart
    simp only [insertTasks, List.foldlM_cons, Option.bind_eq_bind,
      Option.bind_eq_some_iff] at inserted
    obtain ⟨middle, first, rest⟩ := inserted
    rw [inductionHypothesis apart.2 rest, List.exists_mem_cons_iff]
    have ofOthers : ∀ later ∈ items, ¬ (item.row now).sameSource (later.row now) :=
      fun later member same => apart.1 later member same.1
    unfold insertTask at first
    split at first
    next queued =>
      cases first
      have notFree : ¬ (item.row now = row ∧ ∀ stored ∈ tasks.rows, ¬ stored.sameSource row) := by
        rintro ⟨isRow, free⟩
        obtain ⟨stored, present, same⟩ := queued
        exact free stored present (isRow ▸ same)
      simp only [notFree, false_or]
    next notQueued =>
      rw [not_exists] at notQueued
      have rows := Table.insert_rows first
      have free : ∀ stored ∈ tasks.rows, ¬ stored.sameSource (item.row now) :=
        fun stored present same => notQueued stored ⟨present, same⟩
      simp only [rows, List.mem_append, List.mem_singleton, or_assoc]
      apply or_congr_right
      constructor
      · intro member
        rcases member with rfl | ⟨later, isLater, rfl, laterFree⟩
        · exact .inl ⟨rfl, free⟩
        · exact .inr ⟨later, isLater, rfl, fun stored present => laterFree stored (.inl present)⟩
      · intro member
        rcases member with ⟨rfl, _⟩ | ⟨later, isLater, rfl, laterFree⟩
        · exact .inl rfl
        · refine .inr ⟨later, isLater, rfl, fun stored present => ?_⟩
          rcases present with old | rfl
          · exact laterFree stored old
          · exact ofOthers later isLater

/-! ## Enqueueing -/

/-- What a call answers for a task. -/
def enqueueStatus (choice : VariantChoice) (resources : Table MediaResource)
    (queue : Table TransferTask) (task : EnqueueTransferTask) : TransferEnqueueStatus :=
  match resolveSource choice resources task with
  | none => .missingSourceRecord
  | some source =>
    if hasTaskFor queue task.mediaId source.recordedAt then .alreadyQueued else .enqueued

theorem enqueueStatus_congr {resources resources' : Table MediaResource}
    {queue queue' : Table TransferTask} {task : EnqueueTransferTask} (inside : scope task.mediaId)
    (agreeResources : AgreeOn (fun row : MediaResource => scope row.subjectId) resources.rows
      resources'.rows)
    (agree : AgreeOn (fun row : TransferTask => scope row.mediaId) queue.rows queue'.rows) :
    enqueueStatus choice resources queue task = enqueueStatus choice resources' queue' task := by
  unfold enqueueStatus
  rw [resolveSource_congr inside agreeResources]
  cases resolveSource choice resources' task with
  | none => rfl
  | some source => simp only [hasTaskFor_congr inside source.recordedAt agree]

section Enqueue

variable {tasks tasks' : List EnqueueTransferTask} {resources resources' : Table MediaResource}
  {queue queue' after after' : Table TransferTask}
  {answers answers' : List ((Int × Timestamp) × TransferEnqueueStatus)}

/-- With one task for each media nothing is dropped as a duplicate. -/
theorem mem_distinctTasks (distinct : DistinctBy EnqueueTransferTask.mediaId tasks)
    {task : EnqueueTransferTask} : task ∈ distinctTasks tasks ↔ task ∈ tasks := by
  rw [distinctTasks, mem_distinctOn_of_injective, mem_orderBy]
  intro a inA b inB same
  exact distinct a (mem_orderBy.mp inA) b (mem_orderBy.mp inB) (congrArg Prod.fst same)

/-- The rows a call tries to insert. -/
def newTasks (choice : VariantChoice) (resources : Table MediaResource)
    (tasks : List EnqueueTransferTask) : List NewTransferTask :=
  (distinctTasks tasks).filterMap fun task =>
    (resolveSource choice resources task).map task.insertAt

theorem mem_newTasks (distinct : DistinctBy EnqueueTransferTask.mediaId tasks)
    {item : NewTransferTask} :
    item ∈ newTasks choice resources tasks ↔ ∃ task ∈ tasks, ∃ source,
      resolveSource choice resources task = some source ∧ task.insertAt source = item := by
  simp only [newTasks, List.mem_filterMap, mem_distinctTasks distinct, Option.map_eq_some_iff]

theorem newTasks_apart (distinct : DistinctBy EnqueueTransferTask.mediaId tasks) :
    (newTasks choice resources tasks).Pairwise fun a b => a.mediaId ≠ b.mediaId := by
  have keysApart : (distinctTasks tasks).Pairwise fun a b =>
      (a.mediaId, a.sourceRecordedAt) ≠ (b.mediaId, b.sourceRecordedAt) := distinctOn_pairwise _ _
  unfold newTasks
  rw [List.pairwise_filterMap]
  apply keysApart.imp_of_mem
  intro a b inA inB different first madeFirst second madeSecond same
  obtain ⟨sourceA, _, rfl⟩ := Option.map_eq_some_iff.mp madeFirst
  obtain ⟨sourceB, _, rfl⟩ := Option.map_eq_some_iff.mp madeSecond
  have sameTask := distinct a ((mem_distinctTasks distinct).mp inA) b
    ((mem_distinctTasks distinct).mp inB) same
  exact different (by rw [sameTask])

theorem enqueueTasks_ok
    (enqueued : enqueueTasks choice now tasks resources queue = some (answers, after)) :
    insertTasks now (newTasks choice resources tasks) queue = some after ∧
      answers = (distinctTasks tasks).map fun task =>
        ((task.mediaId, task.sourceRecordedAt), enqueueStatus choice resources queue task) := by
  unfold enqueueTasks at enqueued
  obtain ⟨queue', inserted, same⟩ := Option.map_eq_some_iff.mp enqueued
  cases same
  exact ⟨inserted, rfl⟩

theorem enqueueTasks_agreeOn (distinct : DistinctBy EnqueueTransferTask.mediaId tasks)
    (distinct' : DistinctBy EnqueueTransferTask.mediaId tasks')
    (agreeTasks : AgreeOn (fun task : EnqueueTransferTask => scope task.mediaId) tasks tasks')
    (agreeResources : AgreeOn (fun row : MediaResource => scope row.subjectId) resources.rows
      resources'.rows)
    (agree : AgreeOn (fun row : TransferTask => scope row.mediaId) queue.rows queue'.rows)
    (enqueued : enqueueTasks choice now tasks resources queue = some (answers, after))
    (enqueued' : enqueueTasks choice now tasks' resources' queue' = some (answers', after')) :
    AgreeOn (fun row : TransferTask => scope row.mediaId) after.rows after'.rows ∧
      ∀ task ∈ tasks, scope task.mediaId → ∃ status,
        answers.lookup (task.mediaId, task.sourceRecordedAt) = some status ∧
          answers'.lookup (task.mediaId, task.sourceRecordedAt) = some status := by
  obtain ⟨inserted, rfl⟩ := enqueueTasks_ok enqueued
  obtain ⟨inserted', rfl⟩ := enqueueTasks_ok enqueued'
  constructor
  · intro row inside
    rw [mem_insertTasks (newTasks_apart distinct) inserted,
      mem_insertTasks (newTasks_apart distinct') inserted', agree row inside]
    apply or_congr_right
    have free : (∀ stored ∈ queue.rows, ¬ stored.sameSource row) ↔
        ∀ stored ∈ queue'.rows, ¬ stored.sameSource row := by
      constructor
      · intro free stored present same
        have storedInside : scope stored.mediaId := by
          rw [same.1]
          exact inside
        exact free stored ((agree stored storedInside).mpr present) same
      · intro free stored present same
        have storedInside : scope stored.mediaId := by
          rw [same.1]
          exact inside
        exact free stored ((agree stored storedInside).mp present) same
    simp only [mem_newTasks distinct, mem_newTasks distinct', free]
    constructor
    · intro ⟨item, ⟨task, member, source, resolved, isItem⟩, isRow, isFree⟩
      subst isItem
      subst isRow
      rw [resolveSource_congr inside agreeResources] at resolved
      exact ⟨_, ⟨task, (agreeTasks task inside).mp member, source, resolved, rfl⟩, rfl, isFree⟩
    · intro ⟨item, ⟨task, member, source, resolved, isItem⟩, isRow, isFree⟩
      subst isItem
      subst isRow
      rw [← resolveSource_congr inside agreeResources] at resolved
      exact ⟨_, ⟨task, (agreeTasks task inside).mpr member, source, resolved, rfl⟩, rfl, isFree⟩
  · intro task member inside
    have keys : ∀ tasks, DistinctBy EnqueueTransferTask.mediaId tasks → DistinctBy
        (fun task : EnqueueTransferTask => (task.mediaId, task.sourceRecordedAt))
          (distinctTasks tasks) := by
      intro tasks distinct a inA b inB same
      exact distinct a ((mem_distinctTasks distinct).mp inA) b ((mem_distinctTasks distinct).mp inB)
        (congrArg Prod.fst same)
    refine ⟨enqueueStatus choice resources queue task, ?_, ?_⟩
    · exact DistinctBy.lookup_answers (enqueueStatus choice resources queue) (keys _ distinct)
        ((mem_distinctTasks distinct).mpr member)
    · rw [enqueueStatus_congr inside agreeResources agree]
      exact DistinctBy.lookup_answers (enqueueStatus choice resources' queue') (keys _ distinct')
        ((mem_distinctTasks distinct').mpr ((agreeTasks task inside).mp member))

end Enqueue

end TweetDb.Transfer
