import TweetDb.Tweet.Independence
import TweetDb.Versions.Spacing

/-! # The sampling rule of statistics

Neighbouring rows of a tweet or a user differ and are the minimum interval
apart.  A call looks at the stored row before a new one; whether the rule
survives is decided by what comes after it.
-/

namespace TweetDb.Tweet

open Relational Versions

section Rule

variable {κ : Type} [VersionColumns κ]

/-- A call of one of the two functions, with the parents that exist then. -/
structure StatsCall (ι : Type) where
  hasParent : Int → Bool
  stats : List ι

/-- The rows of a subject that a call finds worth storing. -/
def candidates (minIntervalSeconds : Int) (hasParent : Int → Bool) (input : List (Version κ))
    (table : Table (Version κ)) (subjectId : Int) : List (Version κ) :=
  (distinctInput input).filter fun row =>
    decide (row.subjectId = subjectId) &&
      decide (decideStats minIntervalSeconds hasParent table row = .candidate) &&
      !(table.rows.any fun stored => decide (Row.clash stored row))

end Rule

section Call

variable {κ : Type} [VersionColumns κ] {minIntervalSeconds : Int} {hasParent : Int → Bool}
  {input : List (Version κ)} {table : Table (Version κ)} {subjectId : Int} {row : Version κ}

theorem mem_candidates :
    row ∈ candidates minIntervalSeconds hasParent input table subjectId ↔
      row ∈ distinctInput input ∧ row.subjectId = subjectId ∧
        decideStats minIntervalSeconds hasParent table row = .candidate ∧
        ∀ stored ∈ table.rows, ¬ Row.clash stored row := by
  simp [candidates, and_assoc]

end Call

/-! ## Runs -/

section Run

variable {ι κ : Type} [VersionColumns κ] {minIntervalSeconds : Int} {toVersion : ι → Version κ}
  {calls : List (StatsCall ι)} {subjectId : Int}

/-- The calls one after the other, on an empty table. -/
def runStats (minIntervalSeconds : Int) (toVersion : ι → Version κ) (calls : List (StatsCall ι)) :
    Table (Version κ) :=
  calls.foldl (fun table call => (appendStatsIfChanged minIntervalSeconds call.hasParent
    (call.stats.map toVersion) table).2) .empty

end Run

end TweetDb.Tweet
