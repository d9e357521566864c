import Mathlib.Data.List.Sort

/-! # Leased tasks

The columns a work queue keeps for each task, and the `SET` clauses that move a
task through its life: workers take a lease on a task (`claim`), report on it
(`complete`, `fail`), and a lease that is too old is taken over or `expire`d.
Nothing here checks who reports; a queue does that, or fails to, in the `WHERE`
clause it puts around these assignments.
-/

namespace Leasing

/-- The task states every leased queue has. -/
class TaskStatus (σ : Type) where
  pending : σ
  processing : σ
  completed : σ
  failed : σ

structure Lease (σ : Type) where
  status : σ
  attemptCount : Int
  lastError : Option String
  claimedBy : Option String
  claimedAt : Option Int
  completedAt : Option Int
  createdAt : Int
  updatedAt : Int
deriving DecidableEq, Repr

namespace Lease

variable {σ : Type} [TaskStatus σ]

/-- A new task. -/
def created (now : Int) : Lease σ where
  status := TaskStatus.pending
  attemptCount := 0
  lastError := none
  claimedBy := none
  claimedAt := none
  completedAt := none
  createdAt := now
  updatedAt := now

/-- `claimed_at IS NULL OR claimed_at <= cutoff`. -/
def claimStale (lease : Lease σ) (cutoff : Int) : Bool :=
  match lease.claimedAt with
  | none => true
  | some claimedAt => decide (claimedAt ≤ cutoff)

def claimable [DecidableEq σ] (lease : Lease σ) (cutoff maxAttempts : Int) : Bool :=
  decide (lease.status = TaskStatus.pending) ||
    (decide (lease.status = TaskStatus.processing) && lease.claimStale cutoff &&
      decide (lease.attemptCount < maxAttempts))

def expirable [DecidableEq σ] (lease : Lease σ) (cutoff maxAttempts : Int) : Bool :=
  decide (lease.status = TaskStatus.processing) && lease.claimStale cutoff &&
    decide (maxAttempts ≤ lease.attemptCount)

/-- `status = 'processing' AND claimed_by = … AND claimed_at = …`. -/
def heldUnder [DecidableEq σ] (lease : Lease σ) (worker : String) (claimedAt : Int) : Bool :=
  decide (lease.status = TaskStatus.processing) && decide (lease.claimedBy = some worker) &&
    decide (lease.claimedAt = some claimedAt)

def claim (lease : Lease σ) (worker : String) (now : Int) : Lease σ :=
  { lease with
    status := TaskStatus.processing
    attemptCount := lease.attemptCount + 1
    claimedBy := some worker
    claimedAt := some now
    updatedAt := now }

def complete (lease : Lease σ) (now : Int) : Lease σ :=
  { lease with
    status := TaskStatus.completed
    lastError := none
    claimedBy := none
    claimedAt := none
    completedAt := some now
    updatedAt := now }

def fail (lease : Lease σ) (message : String) (maxAttempts now : Int) : Lease σ :=
  { lease with
    status := if maxAttempts ≤ lease.attemptCount then TaskStatus.failed else TaskStatus.pending
    lastError := some message
    claimedBy := none
    claimedAt := none
    completedAt := if maxAttempts ≤ lease.attemptCount then some now else none
    updatedAt := now }

def expire (lease : Lease σ) (reason : String) (now : Int) : Lease σ :=
  { lease with
    status := TaskStatus.failed
    lastError := some (lease.lastError.getD reason)
    claimedBy := none
    claimedAt := none
    completedAt := some now
    updatedAt := now }

/-- Back to the queue, with the attempts made so far. -/
def requeue (lease : Lease σ) (reason : Option String) (now : Int) : Lease σ :=
  { lease with
    status := TaskStatus.pending
    lastError := reason
    claimedBy := none
    claimedAt := none
    completedAt := none
    updatedAt := now }

/-- `ORDER BY CASE WHEN status = 'pending' THEN 0 ELSE 1 END, created_at, id`. -/
def claimBefore [DecidableEq σ] (a : Lease σ) (aId : Nat) (b : Lease σ) (bId : Nat) : Bool :=
  let rank (lease : Lease σ) : Nat := if lease.status = TaskStatus.pending then 0 else 1
  decide (rank a < rank b) ||
    (decide (rank a = rank b) &&
      (decide (a.createdAt < b.createdAt) ||
        (decide (a.createdAt = b.createdAt) && decide (aId ≤ bId))))

@[simp] theorem claim_status (lease : Lease σ) (worker : String) (now : Int) :
    (lease.claim worker now).status = TaskStatus.processing := rfl

@[simp] theorem claim_attemptCount (lease : Lease σ) (worker : String) (now : Int) :
    (lease.claim worker now).attemptCount = lease.attemptCount + 1 := rfl

@[simp] theorem claim_claimedBy (lease : Lease σ) (worker : String) (now : Int) :
    (lease.claim worker now).claimedBy = some worker := rfl

@[simp] theorem claim_claimedAt (lease : Lease σ) (worker : String) (now : Int) :
    (lease.claim worker now).claimedAt = some now := rfl

@[simp] theorem complete_status (lease : Lease σ) (now : Int) :
    (lease.complete now).status = TaskStatus.completed := rfl

@[simp] theorem complete_attemptCount (lease : Lease σ) (now : Int) :
    (lease.complete now).attemptCount = lease.attemptCount := rfl

@[simp] theorem fail_attemptCount (lease : Lease σ) (message : String) (maxAttempts now : Int) :
    (lease.fail message maxAttempts now).attemptCount = lease.attemptCount := rfl

@[simp] theorem expire_status (lease : Lease σ) (reason : String) (now : Int) :
    (lease.expire reason now).status = TaskStatus.failed := rfl

@[simp] theorem expire_attemptCount (lease : Lease σ) (reason : String) (now : Int) :
    (lease.expire reason now).attemptCount = lease.attemptCount := rfl

@[simp] theorem requeue_status (lease : Lease σ) (reason : Option String) (now : Int) :
    (lease.requeue reason now).status = TaskStatus.pending := rfl

@[simp] theorem requeue_attemptCount (lease : Lease σ) (reason : Option String) (now : Int) :
    (lease.requeue reason now).attemptCount = lease.attemptCount := rfl

/-- A reported failure ends the task or queues it again; it never completes it. -/
theorem fail_status (lease : Lease σ) (message : String) (maxAttempts now : Int) :
    (lease.fail message maxAttempts now).status = TaskStatus.failed ∨
      (lease.fail message maxAttempts now).status = TaskStatus.pending := by
  simp only [fail]
  split
  · exact .inl rfl
  · exact .inr rfl

theorem claimable_status [DecidableEq σ] {lease : Lease σ} {cutoff maxAttempts : Int}
    (claimable : lease.claimable cutoff maxAttempts = true) :
    lease.status = TaskStatus.pending ∨ lease.status = TaskStatus.processing := by
  simp only [Lease.claimable, Bool.or_eq_true, Bool.and_eq_true, decide_eq_true_eq] at claimable
  rcases claimable with pending | ⟨⟨processing, _⟩, _⟩
  · exact .inl pending
  · exact .inr processing

theorem expirable_status [DecidableEq σ] {lease : Lease σ} {cutoff maxAttempts : Int}
    (expirable : lease.expirable cutoff maxAttempts = true) :
    lease.status = TaskStatus.processing := by
  simp only [Lease.expirable, Bool.and_eq_true, decide_eq_true_eq] at expirable
  exact expirable.1.1

theorem heldUnder_iff [DecidableEq σ] {lease : Lease σ} {worker : String} {claimedAt : Int} :
    lease.heldUnder worker claimedAt = true ↔
      lease.status = TaskStatus.processing ∧ lease.claimedBy = some worker ∧
        lease.claimedAt = some claimedAt := by
  simp [heldUnder, and_assoc]

end Lease

end Leasing
