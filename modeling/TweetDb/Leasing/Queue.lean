import TweetDb.Leasing.Lease
import TweetDb.Relational.Table

/-! # Tables of leased tasks

The statements every leased queue runs on its table: expiring leases, choosing
the rows a worker may claim, claiming them.  A queue is any table whose rows
carry a `Lease` and whose unique constraints do not look at it.
-/

namespace Leasing

open Relational

class LeasedRow (α : Type) (σ : outParam Type) [Row α Nat] where
  lease : α → Lease σ
  setLease : (Lease σ → Lease σ) → α → α
  setLease_keeps : ∀ set, KeepsKeys (setLease set)
  lease_setLease : ∀ set row, lease (setLease set row) = set (lease row)

variable {α σ : Type} [Row α Nat] [LeasedRow α σ]

/-- `UPDATE … SET` lease columns `WHERE condition`. -/
def updateLease (table : Table α) (condition : α → Bool) (set : Lease σ → Lease σ) : Table α :=
  table.update condition (LeasedRow.setLease set) (LeasedRow.setLease_keeps set)

theorem find_updateLease (table : Table α) (condition : α → Bool) (set : Lease σ → Lease σ)
    (id : Nat) :
    (updateLease table condition set).find id =
      (table.find id).map fun row => if condition row then LeasedRow.setLease set row else row :=
  Table.find_update _ _ _ _ _

theorem find_updateLease_id (table : Table α) (target : Nat) (set : Lease σ → Lease σ) (id : Nat) :
    (updateLease table (fun row => decide (Row.key row = target)) set).find id =
      if id = target then (table.find id).map (LeasedRow.setLease set) else table.find id := by
  rw [find_updateLease]
  cases found : table.find id with
  | none => simp
  | some row =>
    have same : Row.key row = id := Table.find_key found
    by_cases hit : id = target <;> simp [same, hit]

variable [TaskStatus σ]

def expireStale [DecidableEq σ] (cutoff maxAttempts : Int) (reason : String) (now : Int) (table : Table α) :
    Table α :=
  updateLease table (fun row => (LeasedRow.lease row).expirable cutoff maxAttempts)
    fun lease => lease.expire reason now

/-- The order of the candidate query. -/
def claimBefore [DecidableEq σ] (a b : α) : Prop :=
  (LeasedRow.lease a).claimBefore (Row.key a) (LeasedRow.lease b) (Row.key b) = true

instance [DecidableEq σ] : DecidableRel (claimBefore (α := α)) := fun _ _ => inferInstanceAs (Decidable (_ = true))

/-- The rows the candidate query returns; `locked` are the rows other
transactions hold, which `SKIP LOCKED` passes over. -/
def claimCandidates [DecidableEq σ] (cutoff maxAttempts : Int) (locked : List Nat) (limit : Nat)
    (table : Table α) : List α :=
  ((table.rows.filter fun row => (LeasedRow.lease row).claimable cutoff maxAttempts &&
    decide (Row.key row ∉ locked)).insertionSort claimBefore).take limit

theorem mem_claimCandidates [DecidableEq σ] {cutoff maxAttempts : Int} {locked : List Nat} {limit : Nat}
    {table : Table α} {row : α}
    (candidate : row ∈ claimCandidates cutoff maxAttempts locked limit table) :
    table.find (Row.key row) = some row ∧
      (LeasedRow.lease row).claimable cutoff maxAttempts = true ∧ Row.key row ∉ locked := by
  have chosen := List.mem_of_mem_take candidate
  rw [List.mem_insertionSort, List.mem_filter, Bool.and_eq_true, decide_eq_true_eq] at chosen
  exact ⟨Table.find_of_mem chosen.1, chosen.2.1, chosen.2.2⟩

/-- The `UPDATE … FROM candidate … RETURNING` of a claim: the claimed rows as
they are afterwards, and the table. -/
def claimRows (candidates : List α) (worker : String) (now : Int) (table : Table α) :
    List α × Table α :=
  (candidates.map (LeasedRow.setLease fun lease => lease.claim worker now),
    updateLease table (fun row => decide (Row.key row ∈ candidates.map Row.key))
      fun lease => lease.claim worker now)

theorem find_claimRows {candidates : List α} {worker : String} {now : Int} {table : Table α}
    {id : Nat} :
    (claimRows candidates worker now table).2.find id =
      if id ∈ candidates.map Row.key
      then (table.find id).map (LeasedRow.setLease fun lease => lease.claim worker now)
      else table.find id := by
  rw [claimRows, find_updateLease]
  cases found : table.find id with
  | none => simp
  | some row =>
    have same : Row.key row = id := Table.find_key found
    simp only [Option.map_some, same, decide_eq_true_eq]
    split <;> rfl

end Leasing
