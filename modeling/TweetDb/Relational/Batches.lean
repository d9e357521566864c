import TweetDb.Relational.Select
import TweetDb.Relational.Upsert

/-! # Upserting in batches

What a key is after its rows were proposed, in one statement or one by one.
-/

namespace Relational

universe u v

variable {α : Type u} {κ : Type v}

theorem find?_distinctOn [DecidableEq κ] (key : α → κ) (rows : List α) (target : κ) :
    (distinctOn key rows).find? (fun row => key row = target) =
      rows.find? fun row => key row = target := by
  induction rows with
  | nil => rfl
  | cons row rows inductionHypothesis =>
    by_cases same : key row = target
    · simp [distinctOn, same]
    · rw [distinctOn, List.find?_cons_of_neg (by simpa using same),
        List.find?_cons_of_neg (by simpa using same), List.find?_filter, ← inductionHypothesis]
      congr 1
      funext other
      by_cases isTarget : key other = target
      · simp [isTarget, Ne.symm same]
      · simp [isTarget]

namespace OnConflict

variable [Row α κ] (conflict : OnConflict α)

/-- The row of a key once another one is proposed. -/
def propose (stored : Option α) (row : α) : α :=
  stored.elim row fun stored => conflict.merge stored row

variable {conflict} {constraints : Constraints α} {table table' : Table α} {returned : List κ}

theorem find_upsert_of_find? {rows : List α}
    (distinct : rows.Pairwise fun a b => Row.key a ≠ Row.key b)
    (upserted : conflict.upsert constraints table rows = some (returned, table')) (key : κ) :
    table'.find key =
      (rows.find? fun row => Row.key row = key).elim (table.find key) fun row =>
        some (conflict.propose (table.find key) row) := by
  obtain ⟨touched, untouched⟩ := find_upsert distinct upserted
  cases found : rows.find? fun row => Row.key row = key with
  | none =>
    rw [List.find?_eq_none] at found
    exact untouched key fun row member => by simpa using found row member
  | some row =>
    have isKey : Row.key row = key := by simpa using List.find?_some found
    subst isKey
    exact touched row (List.mem_of_find?_eq_some found)

end OnConflict

end Relational
