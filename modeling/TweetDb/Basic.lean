import Mathlib.Data.Int.Notation

/-! # Scalars of the database model -/

namespace TweetDb

/-- `UUID`; only its identity is used. -/
abbrev Uuid := Nat

/-- `TIMESTAMPTZ`, in microseconds since the epoch. -/
abbrev Timestamp := Int

/-! ## Fallible steps -/

section Steps

variable {ε α β : Type} {first : Except ε α}

theorem bind_eq_ok {rest : α → Except ε β} {result : β} (ran : first.bind rest = .ok result) :
    ∃ value, first = .ok value ∧ rest value = .ok result := by
  cases first with
  | error error => cases ran
  | ok value => exact ⟨value, rfl, ran⟩

theorem map_eq_ok {convert : α → β} {result : β} (ran : first.map convert = .ok result) :
    ∃ value, first = .ok value ∧ convert value = result := by
  cases first with
  | error error => cases ran
  | ok value => exact ⟨value, rfl, Except.ok.inj ran⟩

theorem toOption_eq_some {value : α} (given : first.toOption = some value) :
    first = .ok value := by
  cases first with
  | error error => cases given
  | ok value' =>
    cases given
    rfl

end Steps

end TweetDb
