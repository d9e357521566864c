import Mathlib.Logic.Basic

/-! # Loops that leave

A loop repeats a turn, which ends with the state of the next turn or with a
result.  `Leaves turn s r` says that from `s` the loop leaves with `r` after
finitely many turns, so a loop that never leaves has no result at all.  The rule
for total correctness asks for an invariant and for a number that every turn
makes smaller.
-/

namespace Transition

universe u v

variable {σ : Type u} {ρ : Type v}

inductive Turn (σ : Type u) (ρ : Type v) where
  | next (state : σ)
  | leave (result : ρ)

inductive Leaves (turn : σ → Turn σ ρ) : σ → ρ → Prop where
  | last {s : σ} {r : ρ} : turn s = .leave r → Leaves turn s r
  | next {s t : σ} {r : ρ} : turn s = .next t → Leaves turn t r → Leaves turn s r

section Rules

variable {turn : σ → Turn σ ρ} {s : σ} {r r' : ρ}

theorem Leaves.unique (first : Leaves turn s r) (second : Leaves turn s r') : r = r' := by
  induction first with
  | last left =>
    cases second with
    | last left' =>
      rw [left] at left'
      exact Turn.leave.inj left'
    | next went' _ =>
      rw [left] at went'
      cases went'
  | next went _ inductionHypothesis =>
    cases second with
    | last left' =>
      rw [went] at left'
      cases left'
    | next went' rest' =>
      rw [went] at went'
      cases went'
      exact inductionHypothesis rest'

/-- A loop that leaves has one result. -/
theorem Leaves.iff_eq (leaves : Leaves turn s r) : Leaves turn s r' ↔ r' = r :=
  ⟨fun other => other.unique leaves, fun same => same ▸ leaves⟩

/-- Total correctness: the invariant holds at every turn, the variant falls. -/
theorem leaves_of_variant {Invariant : σ → Prop} {Result : ρ → Prop} (variant : σ → Nat)
    (next : ∀ s t, Invariant s → turn s = .next t → Invariant t ∧ variant t < variant s)
    (leave : ∀ s r, Invariant s → turn s = .leave r → Result r) (initially : Invariant s) :
    ∃ r, Leaves turn s r ∧ Result r := by
  induction measured : variant s using Nat.strongRecOn generalizing s with
  | ind n inductionHypothesis =>
    cases taken : turn s with
    | leave r => exact ⟨r, .last taken, leave s r initially taken⟩
    | next t =>
      obtain ⟨kept, smaller⟩ := next s t initially taken
      obtain ⟨r, rest, isResult⟩ := inductionHypothesis (variant t) (measured ▸ smaller) kept rfl
      exact ⟨r, .next taken rest, isResult⟩

end Rules

end Transition
