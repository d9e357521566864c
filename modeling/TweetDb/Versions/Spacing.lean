import TweetDb.Versions.History

/-! # Neighbours in a history

A relation that should hold between each row and the next one in time.  A
writer that compares a new row with the newest stored row not later than it
keeps the relation on one side only.
-/

namespace Versions

universe u v

variable {α : Type u} {τ : Type v} [LinearOrder τ]

/-- `later` is the next of the rows after `row`. -/
def Next (time : α → τ) (rows : List α) (row later : α) : Prop :=
  later ∈ rows ∧ time row < time later ∧ ∀ other ∈ rows, time row < time other →
    time later ≤ time other

instance (time : α → τ) (rows : List α) (row later : α) [DecidableEq α] :
    Decidable (Next time rows row later) :=
  inferInstanceAs (Decidable (_ ∧ _))

/-- Neighbours in time are related. -/
def Spaced (time : α → τ) (related : α → α → Prop) (rows : List α) : Prop :=
  ∀ row ∈ rows, ∀ later ∈ rows, Next time rows row later → related row later

variable {time : α → τ} {related : α → α → Prop} {rows rows' stored new : List α} {row later : α}

theorem Next.congr (same : ∀ row, row ∈ rows ↔ row ∈ rows') :
    Next time rows row later ↔ Next time rows' row later := by
  simp only [Next, same]

theorem Spaced.congr (same : ∀ row, row ∈ rows ↔ row ∈ rows') :
    Spaced time related rows ↔ Spaced time related rows' := by
  have next : ∀ row later, Next time rows row later ↔ Next time rows' row later :=
    fun _ _ => Next.congr same
  simp only [Spaced, same, next]

end Versions
