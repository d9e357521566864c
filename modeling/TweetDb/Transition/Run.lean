import Mathlib.Logic.Relation

/-! # Labelled runs

A system is given by a labelled step relation.  `Run step s labels t` says that
the labels, taken in order, lead from `s` to `t`; `exec` is the executable
counterpart for systems whose step is a partial function.  The rules below are
the ones by which an invariant of one step becomes an invariant of a run.
-/

namespace Transition

universe u v

variable {σ : Type u} {ℓ : Type v}

inductive Run (step : σ → ℓ → σ → Prop) : σ → List ℓ → σ → Prop where
  | nil {s : σ} : Run step s [] s
  | snoc {s t u : σ} {labels : List ℓ} {label : ℓ} :
      Run step s labels t → step t label u → Run step s (labels ++ [label]) u

/-- The steps of `step` that meet a condition on the state before the step. -/
def Restrict (step : σ → ℓ → σ → Prop) (allowed : σ → ℓ → Prop) : σ → ℓ → σ → Prop :=
  fun s label t => allowed s label ∧ step s label t

section Rules

variable {step step' : σ → ℓ → σ → Prop} {s t u : σ} {labels labels' : List ℓ} {label : ℓ}

theorem Run.single (taken : step s label t) : Run step s [label] t := by
  have run : Run step s ([] ++ [label]) t := .snoc .nil taken
  simpa using run

theorem Run.trans (first : Run step s labels t) (second : Run step t labels' u) :
    Run step s (labels ++ labels') u := by
  induction second with
  | nil => simpa using first
  | snoc _ taken inductionHypothesis =>
    rw [← List.append_assoc]
    exact .snoc inductionHypothesis taken

theorem Run.cons (taken : step s label t) (rest : Run step t labels u) :
    Run step s (label :: labels) u :=
  (Run.single taken).trans rest

theorem Run.mono (weaker : ∀ s label t, step s label t → step' s label t)
    (run : Run step s labels t) : Run step' s labels t := by
  induction run with
  | nil => exact .nil
  | snoc _ taken inductionHypothesis => exact .snoc inductionHypothesis (weaker _ _ _ taken)

theorem Run.of_restrict {allowed : σ → ℓ → Prop}
    (run : Run (Restrict step allowed) s labels t) : Run step s labels t :=
  run.mono fun _ _ _ taken => taken.2

/-- What every step preserves, a run preserves. -/
theorem Run.invariant {Invariant : σ → Prop}
    (preserved : ∀ s label t, Invariant s → step s label t → Invariant t)
    (run : Run step s labels t) (initially : Invariant s) : Invariant t := by
  induction run with
  | nil => exact initially
  | snoc _ taken inductionHypothesis => exact preserved _ _ _ inductionHypothesis taken

end Rules

/-! ## Executable runs -/

/-- The step relation of a partial step function. -/
def Takes (next : σ → ℓ → Option σ) : σ → ℓ → σ → Prop :=
  fun s label t => next s label = some t

def exec (next : σ → ℓ → Option σ) : σ → List ℓ → Option σ
  | s, [] => some s
  | s, label :: labels => (next s label).bind fun t => exec next t labels

theorem run_of_exec {next : σ → ℓ → Option σ} {labels : List ℓ} {s t : σ}
    (executed : exec next s labels = some t) : Run (Takes next) s labels t := by
  induction labels generalizing s with
  | nil =>
    simp only [exec, Option.some.injEq] at executed
    subst executed
    exact .nil
  | cons label labels inductionHypothesis =>
    simp only [exec, Option.bind_eq_some_iff] at executed
    obtain ⟨middle, taken, rest⟩ := executed
    exact .cons taken (inductionHypothesis rest)

/-- `next`, refusing the labels the condition does not allow. -/
def guarded (next : σ → ℓ → Option σ) (allowed : σ → ℓ → Prop)
    [∀ s, DecidablePred (allowed s)] : σ → ℓ → Option σ :=
  fun s label => if allowed s label then next s label else none

theorem run_of_guarded_exec {next : σ → ℓ → Option σ} {allowed : σ → ℓ → Prop}
    [∀ s, DecidablePred (allowed s)] {labels : List ℓ} {s t : σ}
    (executed : exec (guarded next allowed) s labels = some t) :
    Run (Restrict (Takes next) allowed) s labels t := by
  refine (run_of_exec executed).mono fun s label t taken => ?_
  simp only [Takes, guarded] at taken
  split at taken
  next isAllowed => exact ⟨isAllowed, taken⟩
  next => cases taken

end Transition
