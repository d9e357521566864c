import Mathlib.Data.List.Forall2

/-! # Computations that may fail

A computation spares an error if it never ends with one.  Each operation spares
what its parts spare, whatever else they fail with.
-/

namespace Fallible

universe u v w

variable {ε : Type u} {α : Type v} {β : Type v} {bad : ε → Prop}

/-- None of these errors is the result. -/
def Spares (bad : ε → Prop) (result : Except ε α) : Prop :=
  ∀ error, result = .error error → ¬ bad error

theorem spares_ok (value : α) : Spares bad (.ok value : Except ε α) := nofun

theorem spares_error {error : ε} (other : ¬ bad error) :
    Spares bad (.error error : Except ε α) := by
  rintro _ ⟨⟩
  exact other

/-- A computation that spares every error has a value. -/
theorem Spares.exists_ok {result : Except ε α} (spares : Spares (fun _ => True) result) :
    ∃ value, result = .ok value := by
  cases result with
  | error error => exact absurd trivial (spares error rfl)
  | ok value => exact ⟨value, rfl⟩

theorem Spares.bind {first : Except ε α} {rest : α → Except ε β} (spares : Spares bad first)
    (others : ∀ value, first = .ok value → Spares bad (rest value)) :
    Spares bad (first.bind rest) := by
  cases first with
  | error error => exact spares_error (spares error rfl)
  | ok value => exact others value rfl

theorem Spares.map {first : Except ε α} {convert : α → β} (spares : Spares bad first) :
    Spares bad (first.map convert) := by
  cases first with
  | error error => exact spares_error (spares error rfl)
  | ok value => exact spares_ok _

theorem spares_mapM {γ : Type w} {convert : γ → Except ε α} {values : List γ}
    (each : ∀ value ∈ values, Spares bad (convert value)) :
    Spares bad (values.mapM convert) := by
  induction values with
  | nil => exact spares_ok _
  | cons value values inductionHypothesis =>
    rw [List.mapM_cons]
    refine (each value List.mem_cons_self).bind fun _ _ => ?_
    exact (inductionHypothesis fun other later => each other (List.mem_cons_of_mem _ later)).bind
      fun _ _ => spares_ok _

/-- Steps that do the same on the values they meet make the same of two lists. -/
theorem mapM_congr_forall₂ {γ δ : Type w} {convert : γ → Except ε α} {convert' : δ → Except ε α}
    {values : List γ} {values' : List δ}
    (same : List.Forall₂ (fun value value' => convert value = convert' value') values values') :
    values.mapM convert = values'.mapM convert' := by
  induction same with
  | nil => rfl
  | cons first _ inductionHypothesis =>
    rw [List.mapM_cons, List.mapM_cons, first, inductionHypothesis]

theorem mapM_congr {γ : Type w} {convert convert' : γ → Except ε α} {values : List γ}
    (same : ∀ value ∈ values, convert value = convert' value) :
    values.mapM convert = values.mapM convert' :=
  mapM_congr_forall₂ (List.forall₂_same.mpr same)

/-- Steps that all succeed. -/
theorem exists_mapM_eq_ok {γ : Type w} {convert : γ → Except ε α} {values : List γ}
    (each : ∀ value ∈ values, ∃ result, convert value = .ok result) :
    ∃ results, values.mapM convert = .ok results := by
  induction values with
  | nil => exact ⟨[], rfl⟩
  | cons value values inductionHypothesis =>
    obtain ⟨result, isResult⟩ := each value List.mem_cons_self
    obtain ⟨results, areResults⟩ :=
      inductionHypothesis fun other later => each other (List.mem_cons_of_mem _ later)
    refine ⟨result :: results, ?_⟩
    rw [List.mapM_cons, isResult, areResults]
    rfl

theorem mapM_eq_some {α : Type u} {β : Type v} {convert : α → Option β} {values : List α}
    {results : List β} :
    values.mapM convert = some results ↔
      List.Forall₂ (fun value result => convert value = some result) values results := by
  induction values generalizing results with
  | nil =>
    rw [List.mapM_nil, List.forall₂_nil_left_iff]
    exact ⟨fun same => (Option.some.inj same).symm, fun same => same ▸ rfl⟩
  | cons value values inductionHypothesis =>
    rw [List.mapM_cons]
    constructor
    · intro ran
      obtain ⟨first, isFirst, ran⟩ := Option.bind_eq_some_iff.mp ran
      obtain ⟨others, areOthers, ran⟩ := Option.bind_eq_some_iff.mp ran
      cases ran
      exact .cons isFirst (inductionHypothesis.mp areOthers)
    · intro each
      cases each with
      | cons first others =>
        rw [first, inductionHypothesis.mpr others]
        rfl

end Fallible
