import TweetDb.Leasing.Lease

/-! # Well-formed leases

The claim columns of a task are set exactly while it is processed, and its
completion time exactly when it is done.  Each assignment that moves a task
keeps this, whatever state the task was in, since it sets all of the columns.
-/

namespace Leasing

variable {σ : Type} [TaskStatus σ]

/-- The states in which a task is done; a queue may have more of them than a worker can bring
about. -/
structure Terminal (terminal : σ → Prop) : Prop where
  completed : terminal TaskStatus.completed
  failed : terminal TaskStatus.failed
  notPending : ¬ terminal TaskStatus.pending
  notProcessing : ¬ terminal TaskStatus.processing
  pendingNotProcessing : (TaskStatus.pending : σ) ≠ TaskStatus.processing

theorem Terminal.ne_processing {terminal : σ → Prop} (states : Terminal terminal) {status : σ}
    (isTerminal : terminal status) : status ≠ TaskStatus.processing := by
  intro processing
  rw [processing] at isTerminal
  exact states.notProcessing isTerminal

namespace Lease

structure WellFormed (terminal : σ → Prop) (lease : Lease σ) : Prop where
  claimedBy : lease.claimedBy ≠ none ↔ lease.status = TaskStatus.processing
  claimedAt : lease.claimedAt ≠ none ↔ lease.status = TaskStatus.processing
  completedAt : lease.completedAt ≠ none ↔ terminal lease.status

variable {terminal : σ → Prop} {lease : Lease σ}

theorem WellFormed.processing_iff (wellFormed : lease.WellFormed terminal) :
    lease.status = TaskStatus.processing ↔ lease.claimedBy ≠ none ∧ lease.claimedAt ≠ none := by
  rw [wellFormed.claimedBy, wellFormed.claimedAt, and_self]

/-- The lease of a task that is done. -/
theorem WellFormed.done (states : Terminal terminal) (unclaimedBy : lease.claimedBy = none)
    (unclaimedAt : lease.claimedAt = none) (isDone : lease.completedAt ≠ none)
    (isTerminal : terminal lease.status) : lease.WellFormed terminal := by
  have notProcessing := states.ne_processing isTerminal
  constructor
  · simp [unclaimedBy, notProcessing]
  · simp [unclaimedAt, notProcessing]
  · simp [isDone, isTerminal]

/-- The lease of a task that waits. -/
theorem WellFormed.waiting (states : Terminal terminal) (unclaimedBy : lease.claimedBy = none)
    (unclaimedAt : lease.claimedAt = none) (notDone : lease.completedAt = none)
    (pending : lease.status = TaskStatus.pending) : lease.WellFormed terminal := by
  have notProcessing := states.pendingNotProcessing
  constructor
  · simp [unclaimedBy, pending, notProcessing]
  · simp [unclaimedAt, pending, notProcessing]
  · simp [notDone, pending, states.notPending]

theorem wellFormed_created (states : Terminal terminal) (now : Int) :
    (Lease.created now : Lease σ).WellFormed terminal :=
  .waiting states rfl rfl rfl rfl

theorem not_terminal_of_claimable [DecidableEq σ] (states : Terminal terminal)
    {cutoff maxAttempts : Int} (claimable : lease.claimable cutoff maxAttempts = true) :
    ¬ terminal lease.status := by
  rcases claimable_status claimable with pending | processing
  · rw [pending]
    exact states.notPending
  · rw [processing]
    exact states.notProcessing

/-- A claim leaves the completion time alone, so it must not meet a task that is done. -/
theorem WellFormed.claim [DecidableEq σ] (states : Terminal terminal)
    (wellFormed : lease.WellFormed terminal) {cutoff maxAttempts : Int}
    (claimable : lease.claimable cutoff maxAttempts = true) (worker : String) (now : Int) :
    (lease.claim worker now).WellFormed terminal := by
  have notDone := not_terminal_of_claimable states claimable
  have uncompleted := mt wellFormed.completedAt.mp notDone
  constructor
  · simp
  · simp
  · rw [claim_status]
    exact ⟨fun set => absurd set uncompleted, fun isDone => absurd isDone states.notProcessing⟩

theorem wellFormed_complete (states : Terminal terminal) (now : Int) :
    (lease.complete now).WellFormed terminal :=
  .done states rfl rfl nofun states.completed

theorem wellFormed_expire (states : Terminal terminal) (reason : String) (now : Int) :
    (lease.expire reason now).WellFormed terminal :=
  .done states rfl rfl nofun states.failed

theorem wellFormed_requeue (states : Terminal terminal) (reason : Option String) (now : Int) :
    (lease.requeue reason now).WellFormed terminal :=
  .waiting states rfl rfl rfl rfl

theorem wellFormed_fail (states : Terminal terminal) (message : String) (maxAttempts now : Int) :
    (lease.fail message maxAttempts now).WellFormed terminal := by
  by_cases exhausted : maxAttempts ≤ lease.attemptCount
  · apply WellFormed.done states
    · rfl
    · rfl
    · simp [Lease.fail, exhausted]
    · simp [Lease.fail, exhausted, states.failed]
  · apply WellFormed.waiting states
    · rfl
    · rfl
    · simp [Lease.fail, exhausted]
    · simp [Lease.fail, exhausted]

/-! ## Attempts -/

/-- The attempts are within a bound, and a task that waits has one left. -/
structure AttemptsWithin (bound : Int) (lease : Lease σ) : Prop where
  le : lease.attemptCount ≤ bound
  waiting : lease.status = TaskStatus.pending → lease.attemptCount < bound

theorem AttemptsWithin.mono {bound bound' : Int} (within : lease.AttemptsWithin bound)
    (larger : bound ≤ bound') : lease.AttemptsWithin bound' :=
  ⟨le_trans within.le larger, fun pending => lt_of_lt_of_le (within.waiting pending) larger⟩

theorem attemptsWithin_created {bound : Int} (positive : 0 < bound) (now : Int) :
    (Lease.created now : Lease σ).AttemptsWithin bound :=
  ⟨le_of_lt positive, fun _ => positive⟩

/-- Only an attempt that is left is taken. -/
theorem AttemptsWithin.claim [DecidableEq σ] (states : Terminal terminal)
    {cutoff maxAttempts bound : Int} (within : lease.AttemptsWithin bound)
    (atLeast : maxAttempts ≤ bound) (claimable : lease.claimable cutoff maxAttempts = true)
    (worker : String) (now : Int) : (lease.claim worker now).AttemptsWithin bound := by
  have oneLeft : lease.attemptCount < bound := by
    simp only [Lease.claimable, Bool.or_eq_true, Bool.and_eq_true, decide_eq_true_eq] at claimable
    rcases claimable with pending | ⟨_, fewer⟩
    · exact within.waiting pending
    · omega
  constructor
  · rw [claim_attemptCount]
    omega
  · intro pending
    rw [claim_status] at pending
    exact absurd pending.symm states.pendingNotProcessing

/-- A task that does not wait needs no attempt. -/
theorem AttemptsWithin.of_done {bound : Int} {lease' : Lease σ} (within : lease.AttemptsWithin bound)
    (same : lease'.attemptCount = lease.attemptCount)
    (notPending : lease'.status ≠ TaskStatus.pending) : lease'.AttemptsWithin bound := by
  constructor
  · rw [same]
    exact within.le
  · intro pending
    exact absurd pending notPending

/-- Who reports a failure does not matter: the attempts are compared again. -/
theorem AttemptsWithin.fail {maxAttempts bound : Int} (states : Terminal terminal)
    (within : lease.AttemptsWithin bound) (atLeast : maxAttempts ≤ bound) (message : String)
    (now : Int) : (lease.fail message maxAttempts now).AttemptsWithin bound := by
  constructor
  · rw [fail_attemptCount]
    exact within.le
  · intro pending
    rw [fail_attemptCount]
    by_cases exhausted : maxAttempts ≤ lease.attemptCount
    · have isFailed : (lease.fail message maxAttempts now).status = TaskStatus.failed := by
        simp [Lease.fail, exhausted]
      rw [pending] at isFailed
      have terminalPending := states.failed
      rw [← isFailed] at terminalPending
      exact absurd terminalPending states.notPending
    · omega

/-- Going back to the queue takes one more attempt than were allowed so far. -/
theorem AttemptsWithin.requeue {bound : Int} (within : lease.AttemptsWithin bound)
    (reason : Option String) (now : Int) :
    (lease.requeue reason now).AttemptsWithin (bound + 1) := by
  have le := within.le
  constructor
  · rw [requeue_attemptCount]
    omega
  · intro _
    rw [requeue_attemptCount]
    omega

/-- A claim that is stale can be taken over or will be expired, never both; a newer claim
neither. -/
theorem WellFormed.claim_fate [DecidableEq σ] (states : Terminal terminal)
    (wellFormed : lease.WellFormed terminal) (processing : lease.status = TaskStatus.processing)
    (maxAttempts : Int) :
    ∃ claimedAt, lease.claimedAt = some claimedAt ∧ ∀ cutoff,
      (claimedAt ≤ cutoff → (lease.claimable cutoff maxAttempts = true ↔
        ¬ lease.expirable cutoff maxAttempts = true)) ∧
      (cutoff < claimedAt → lease.claimable cutoff maxAttempts = false ∧
        lease.expirable cutoff maxAttempts = false) := by
  have notPending := states.pendingNotProcessing.symm
  obtain ⟨claimedAt, claimed⟩ := Option.ne_none_iff_exists'.mp (wellFormed.claimedAt.mpr processing)
  refine ⟨claimedAt, claimed, fun cutoff => ⟨fun older => ?_, fun newer => ?_⟩⟩
  · have stale : lease.claimStale cutoff = true := by
      simp [claimStale, claimed, older]
    simp [claimable, expirable, notPending, processing, stale]
  · have fresh : lease.claimStale cutoff = false := by
      simp [claimStale, claimed, newer]
    simp [claimable, expirable, notPending, processing, fresh]

end Lease

end Leasing
