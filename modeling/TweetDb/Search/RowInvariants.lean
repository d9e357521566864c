import TweetDb.Leasing.WellFormed
import TweetDb.Search.Fencing

/-! # Invariants of the index tasks

What holds of every row of `search.index_queue` in every interleaving, for
refreshes during processing and for claims reported late.
-/

namespace TweetDb.Search

open Leasing Relational Transition

def IndexTaskStatus.terminal (status : IndexTaskStatus) : Prop :=
  status = .completed ∨ status = .failed

theorem indexTerminal : Terminal IndexTaskStatus.terminal := by
  constructor <;> simp [IndexTaskStatus.terminal]

/-- The lease of an index task, for the attempts the workers are allowed. -/
structure TaskWellFormed (maxAttempts : Int) (row : IndexTask) : Prop where
  lease : row.lease.WellFormed IndexTaskStatus.terminal
  attempts : 0 < maxAttempts → row.lease.AttemptsWithin maxAttempts

section Rows

variable {maxAttempts : Int} {s t : QueueSystem} {action : QueueAction}

theorem taskWellFormed_created (id : Uuid) (target : IndexTarget) (now : Timestamp) :
    TaskWellFormed maxAttempts ⟨id, target, .created now⟩ where
  lease := Lease.wellFormed_created indexTerminal _
  attempts positive := Lease.attemptsWithin_created positive _

/-- A refresh writes every column that depends on the status, and the attempts start again. -/
theorem taskWellFormed_refresh (now : Timestamp) (row : IndexTask) :
    TaskWellFormed maxAttempts (row.setLease (refreshLease now)) where
  lease := .waiting indexTerminal rfl rfl rfl rfl
  attempts positive := ⟨le_of_lt positive, fun _ => positive⟩

theorem RowChange.wellFormed {row row' : IndexTask} {event : Event}
    (change : RowChange maxAttempts s action row row' event)
    (wellFormed : TaskWellFormed maxAttempts row) : TaskWellFormed maxAttempts row' := by
  have atLeast : maxAttempts ≤ maxAttempts := le_refl _
  cases change with
  | refreshed => exact taskWellFormed_refresh _ _
  | claimed claimable =>
    constructor
    · exact wellFormed.lease.claim indexTerminal claimable _ _
    · intro positive
      exact (wellFormed.attempts positive).claim indexTerminal atLeast claimable _ _
  | completed =>
    constructor
    · exact Lease.wellFormed_complete indexTerminal _
    · intro positive
      exact (wellFormed.attempts positive).of_done rfl nofun
  | failed =>
    constructor
    · exact Lease.wellFormed_fail indexTerminal _ _ _
    · intro positive
      exact (wellFormed.attempts positive).fail indexTerminal atLeast _ _
  | expired =>
    constructor
    · exact Lease.wellFormed_expire indexTerminal _ _
    · intro positive
      exact (wellFormed.attempts positive).of_done rfl nofun

def QueueWellFormed (maxAttempts : Int) (s : QueueSystem) : Prop :=
  ∀ id row, s.queue.find id = some row → TaskWellFormed maxAttempts row

theorem QueueWellFormed.step (wellFormed : QueueWellFormed maxAttempts s)
    (taken : QueueStep maxAttempts s action t) : QueueWellFormed maxAttempts t := by
  intro id row' found
  cases queueStep_row taken id with
  | kept same => exact wellFormed id row' (same ▸ found)
  | added _ _ isNew =>
    rw [isNew, Option.some.injEq] at found
    subst found
    exact taskWellFormed_created _ _ _
  | changed before after change =>
    rw [after, Option.some.injEq] at found
    subst found
    exact change.wellFormed (wellFormed id _ before)

theorem run_queueWellFormed {actions : List QueueAction}
    (run : Run (QueueStep maxAttempts) .start actions s) : QueueWellFormed maxAttempts s := by
  refine run.invariant (fun _ _ _ wellFormed taken => wellFormed.step taken) ?_
  intro id row found
  cases found

end Rows

end TweetDb.Search
