import TweetDb.Relational.Agree
import TweetDb.Search.Queue

/-! # Queue rows by target

What `enqueue_targets` leaves for a target depends on the stored row of that
target and on whether the target is named.
-/

namespace TweetDb.Search

open Leasing Relational

variable {queue queue' : Table IndexTask} {targets : List IndexTarget} {forceRefresh : Bool}
  {newId : IndexTarget → Uuid} {now : Timestamp}

theorem refreshRow_target (row : IndexTask) :
    (refreshRow targets forceRefresh now row).target = row.target := by
  unfold refreshRow
  split <;> rfl

theorem hasTarget_iff {target : IndexTarget} :
    hasTarget queue target = true ↔ ∃ row ∈ queue.rows, row.target = target := by
  simp [hasTarget]

/-! ## Generated ids -/

/-- `gen_random_uuid`: one id for each target, none of them in use by another. -/
structure FreshIds (newId : IndexTarget → Uuid) (queue : Table IndexTask) : Prop where
  injective : Function.Injective newId
  unused : ∀ row ∈ queue.rows, ∀ target, newId target = row.id → row.target = target

/-! ## One target -/

theorem mem_enqueueTarget {target : IndexTarget} {status : EnqueueStatus} {row : IndexTask}
    (upserted : enqueueTarget forceRefresh newId now queue target = some (status, queue')) :
    row ∈ queue'.rows ↔
      (∃ old ∈ queue.rows, refreshRow [target] forceRefresh now old = row) ∨
        (∀ old ∈ queue.rows, old.target ≠ target) ∧ row = ⟨newId target, target, .created now⟩ := by
  unfold enqueueTarget at upserted
  split at upserted
  next present =>
    cases upserted
    obtain ⟨stored, inQueue, isTarget⟩ := hasTarget_iff.mp present
    have notAbsent : ¬ ∀ old ∈ queue.rows, old.target ≠ target :=
      fun absent => absent stored inQueue isTarget
    have sameRow : ∀ old : IndexTask, Table.setWhere (fun row => decide (row.target = target))
        (LeasedRow.setLease fun lease => if forceRefresh then refreshLease now lease else lease)
        old = refreshRow [target] forceRefresh now old := by
      intro old
      cases forceRefresh <;>
        simp [Table.setWhere, refreshRow, LeasedRow.setLease, IndexTask.setLease]
    simp only [updateLease, Table.mem_update, sameRow, notAbsent, false_and, or_false]
  next absent =>
    obtain ⟨inserted, result, same⟩ := Option.map_eq_some_iff.mp upserted
    cases same
    have noTarget : ∀ old ∈ queue.rows, old.target ≠ target := by
      simpa [hasTarget] using absent
    have untouched : ∀ old ∈ queue.rows, refreshRow [target] forceRefresh now old = old :=
      fun old present =>
        refreshRow_of_not_mem fun named => noTarget old present (List.mem_singleton.mp named)
    rw [Table.insert_rows result, List.mem_append, List.mem_singleton]
    constructor
    · intro member
      apply member.imp
      · exact fun old => ⟨row, old, untouched row old⟩
      · exact fun new => ⟨noTarget, new⟩
    · intro member
      apply member.imp
      · rintro ⟨old, present, same⟩
        rwa [← same, untouched old present]
      · exact And.right

theorem enqueueTarget_fresh (fresh : FreshIds newId queue) (target : IndexTarget) :
    ∃ status queue', enqueueTarget forceRefresh newId now queue target = some (status, queue') ∧
      FreshIds newId queue' := by
  have upserts : ∃ status queue',
      enqueueTarget forceRefresh newId now queue target = some (status, queue') := by
    unfold enqueueTarget
    split
    next => exact ⟨_, _, rfl⟩
    next absent =>
      have noTarget : ∀ old ∈ queue.rows, old.target ≠ target := by
        simpa [hasTarget] using absent
      cases inserted : queue.insert ⟨newId target, target, .created now⟩ with
      | some table => exact ⟨_, _, rfl⟩
      | none =>
        obtain ⟨stored, present, clashes⟩ := Table.insert_eq_none.mp inserted
        -- The id of another row would have to be the one generated for this target.
        have sameTarget : stored.target = target :=
          clashes.elim (fun sameId => fresh.unused stored present target sameId.symm) id
        exact absurd sameTarget (noTarget stored present)
  obtain ⟨status, queue', upserted⟩ := upserts
  refine ⟨status, queue', upserted, fresh.injective, fun row present target' sameId => ?_⟩
  rcases (mem_enqueueTarget upserted).mp present with ⟨old, oldPresent, rfl⟩ | ⟨_, rfl⟩
  · rw [refreshRow_target]
    apply fresh.unused old oldPresent target'
    rw [sameId]
    unfold refreshRow
    split <;> rfl
  · exact (fresh.injective sameId).symm

/-! ## All targets -/

/-- The rows after a refresh: the stored ones, and one for each target that had none. -/
def RowsEnqueued (targets : List IndexTarget) (forceRefresh : Bool) (newId : IndexTarget → Uuid)
    (now : Timestamp) (queue queue' : Table IndexTask) : Prop :=
  ∀ row, row ∈ queue'.rows ↔
    (∃ old ∈ queue.rows, refreshRow targets forceRefresh now old = row) ∨
      ∃ target ∈ targets, (∀ old ∈ queue.rows, old.target ≠ target) ∧
        row = ⟨newId target, target, .created now⟩

theorem RowsEnqueued.cons {target : IndexTarget} {status : EnqueueStatus}
    {middle : Table IndexTask}
    (first : enqueueTarget forceRefresh newId now queue target = some (status, middle))
    (rest : RowsEnqueued targets forceRefresh newId now middle queue') :
    RowsEnqueued (target :: targets) forceRefresh newId now queue queue' := by
  intro row
  rw [rest row]
  constructor
  · intro member
    rcases member with ⟨old, present, rfl⟩ | ⟨named, isNamed, absent, rfl⟩
    · rcases (mem_enqueueTarget first).mp present with ⟨older, olderPresent, rfl⟩ | ⟨none, rfl⟩
      · exact .inl ⟨older, olderPresent, (refreshRow_cons target older).symm⟩
      · rw [refreshRow_created]
        exact .inr ⟨target, List.mem_cons_self, none, rfl⟩
    · refine .inr ⟨named, List.mem_cons_of_mem _ isNamed, fun old present same => ?_, rfl⟩
      apply absent _ ((mem_enqueueTarget first).mpr (.inl ⟨old, present, rfl⟩))
      rw [refreshRow_target, same]
  · intro member
    rcases member with ⟨old, present, rfl⟩ | ⟨named, isNamed, absent, rfl⟩
    · rw [← refreshRow_cons]
      exact .inl ⟨_, (mem_enqueueTarget first).mpr (.inl ⟨old, present, rfl⟩), rfl⟩
    · by_cases isFirst : named = target
      · subst isFirst
        refine .inl ⟨_, (mem_enqueueTarget first).mpr (.inr ⟨absent, rfl⟩), ?_⟩
        rw [refreshRow_created]
      · have later : named ∈ targets := (List.mem_cons.mp isNamed).resolve_left isFirst
        refine .inr ⟨named, later, fun old present same => ?_, rfl⟩
        rcases (mem_enqueueTarget first).mp present with ⟨older, olderPresent, rfl⟩ | ⟨_, rfl⟩
        · rw [refreshRow_target] at same
          exact absent older olderPresent same
        · exact isFirst same.symm

theorem enqueueTargets_fold (list : List IndexTarget) (before : List (IndexTarget × EnqueueStatus))
    (fresh : FreshIds newId queue) :
    ∃ after queue', list.foldlM (fun (statuses, queue) target =>
        (enqueueTarget forceRefresh newId now queue target).map fun (status, queue) =>
          (statuses ++ [(target, status)], queue)) (before, queue) = some (after, queue') ∧
      FreshIds newId queue' ∧ RowsEnqueued list forceRefresh newId now queue queue' := by
  induction list generalizing before queue with
  | nil =>
    refine ⟨before, queue, rfl, fresh, fun row => ?_⟩
    have untouched : ∀ old, refreshRow [] forceRefresh now old = old :=
      fun old => refreshRow_of_not_mem List.not_mem_nil
    simp [untouched]
  | cons target list inductionHypothesis =>
    obtain ⟨status, middle, first, freshMiddle⟩ := enqueueTarget_fresh fresh target
    obtain ⟨after, queue', rest, freshAfter, rows⟩ :=
      inductionHypothesis (before ++ [(target, status)]) freshMiddle
    refine ⟨after, queue', ?_, freshAfter, rows.cons first⟩
    simp only [List.foldlM_cons, first, Option.map_some]
    exact rest

theorem rowsEnqueued_fold (list : List IndexTarget) (before : List (IndexTarget × EnqueueStatus))
    {after : List (IndexTarget × EnqueueStatus)}
    (upserted : list.foldlM (fun (statuses, queue) target =>
      (enqueueTarget forceRefresh newId now queue target).map fun (status, queue) =>
        (statuses ++ [(target, status)], queue)) (before, queue) = some (after, queue')) :
    RowsEnqueued list forceRefresh newId now queue queue' := by
  induction list generalizing before queue with
  | nil =>
    cases upserted
    have untouched : ∀ old, refreshRow [] forceRefresh now old = old :=
      fun old => refreshRow_of_not_mem List.not_mem_nil
    intro row
    simp [untouched]
  | cons target list inductionHypothesis =>
    simp only [List.foldlM_cons, Option.bind_eq_bind, Option.bind_eq_some_iff,
      Option.map_eq_some_iff] at upserted
    obtain ⟨_, ⟨⟨status, middle⟩, first, rfl⟩, rest⟩ := upserted
    exact (inductionHypothesis _ rest).cons first

/-- What a refresh that succeeds leaves, whatever the ids are. -/
theorem rowsEnqueued_of_enqueueTargets {statuses : List (IndexTarget × EnqueueStatus)}
    (upserted : enqueueTargets targets forceRefresh newId now queue = some (statuses, queue')) :
    RowsEnqueued targets forceRefresh newId now queue queue' := by
  have rows := rowsEnqueued_fold targets.dedup [] upserted
  intro row
  rw [rows row]
  simp only [refreshRow, List.mem_dedup]

/-- With fresh ids a refresh never fails. -/
theorem enqueueTargets_fresh (fresh : FreshIds newId queue) :
    ∃ statuses queue',
      enqueueTargets targets forceRefresh newId now queue = some (statuses, queue') ∧
        FreshIds newId queue' ∧ RowsEnqueued targets forceRefresh newId now queue queue' := by
  obtain ⟨statuses, queue', upserted, freshAfter, rows⟩ :=
    enqueueTargets_fold targets.dedup [] fresh
  refine ⟨statuses, queue', upserted, freshAfter, fun row => ?_⟩
  rw [rows row]
  simp only [refreshRow, List.mem_dedup]

/-- Targets outside the scope decide nothing inside it. -/
theorem RowsEnqueued.agreeOn {scope : IndexTarget → Prop} {targets' : List IndexTarget}
    {after after' : Table IndexTask}
    (agreeTargets : AgreeOn scope targets targets')
    (agree : AgreeOn (fun row => scope row.target) queue.rows queue'.rows)
    (rows : RowsEnqueued targets forceRefresh newId now queue after)
    (rows' : RowsEnqueued targets' forceRefresh newId now queue' after') :
    AgreeOn (fun row => scope row.target) after.rows after'.rows := by
  have half : ∀ {targets targets' : List IndexTarget} {queue queue' after after' : Table IndexTask},
      AgreeOn scope targets targets' →
      AgreeOn (fun row : IndexTask => scope row.target) queue.rows queue'.rows →
      RowsEnqueued targets forceRefresh newId now queue after →
      RowsEnqueued targets' forceRefresh newId now queue' after' →
      ∀ row : IndexTask, scope row.target → row ∈ after.rows → row ∈ after'.rows := by
    intro targets targets' queue queue' after after' agreeTargets agree rows rows' row inside member
    rw [rows' row]
    rcases (rows row).mp member with ⟨old, present, rfl⟩ | ⟨target, named, absent, rfl⟩
    · rw [refreshRow_target] at inside
      refine .inl ⟨old, (agree old inside).mp present, ?_⟩
      simp only [refreshRow, agreeTargets _ inside]
    · refine .inr ⟨target, (agreeTargets target inside).mp named, fun old present same => ?_, rfl⟩
      have oldInside : scope old.target := same.symm ▸ inside
      exact absent old ((agree old oldInside).mpr present) same
  exact fun row inside => ⟨half agreeTargets agree rows rows' row inside,
    half agreeTargets.symm agree.symm rows' rows row inside⟩

end TweetDb.Search
