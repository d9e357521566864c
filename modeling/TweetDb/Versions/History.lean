import Mathlib.Data.List.MinMax
import Mathlib.Order.WellFoundedSet

/-! # Histories of versions

Rows of one subject, told apart by their time.  A recorder that is given
observations and keeps a row only when it differs from the newest row it has
already kept shows the right contents exactly when no later observation falls
between a dropped row and the row it repeated.
-/

namespace Versions

universe u v w

variable {α : Type u} {τ : Type v} {κ : Type w} [LinearOrder τ]

/-- The newest of the rows whose time satisfies `p`. -/
def newest (time : α → τ) (p : τ → Prop) [DecidablePred p] (rows : List α) : Option α :=
  (rows.filter fun row => decide (p (time row))).argmax time

def atOrBefore (time : α → τ) (rows : List α) (t : τ) : Option α :=
  newest time (· ≤ t) rows

def before (time : α → τ) (rows : List α) (t : τ) : Option α :=
  newest time (· < t) rows

/-- Times tell rows apart. -/
def Apart (time : α → τ) (rows : List α) : Prop :=
  ∀ a ∈ rows, ∀ b ∈ rows, time a = time b → a = b

section Newest

variable {time : α → τ} {p : τ → Prop} [DecidablePred p] {rows : List α} {row : α}

omit [LinearOrder τ] in
theorem Apart.of_nodup (distinct : (rows.map time).Nodup) : Apart time rows := by
  intro a inA b inB same
  exact List.inj_on_of_nodup_map distinct inA inB same

theorem newest_eq_none : newest time p rows = none ↔ ∀ row ∈ rows, ¬ p (time row) := by
  simp [newest]

theorem newest_spec (found : newest time p rows = some row) :
    row ∈ rows ∧ p (time row) ∧ ∀ other ∈ rows, p (time other) → time other ≤ time row := by
  have kept := List.argmax_mem found
  rw [List.mem_filter, decide_eq_true_eq] at kept
  refine ⟨kept.1, kept.2, fun other present holds => ?_⟩
  have passes : other ∈ rows.filter fun row => decide (p (time row)) := by
    simp [present, holds]
  exact List.le_of_mem_argmax passes found

theorem newest_eq_some (apart : Apart time rows) :
    newest time p rows = some row ↔
      row ∈ rows ∧ p (time row) ∧ ∀ other ∈ rows, p (time other) → time other ≤ time row := by
  constructor
  · exact newest_spec
  · rintro ⟨present, holds, greatest⟩
    cases found : newest time p rows with
    | none => exact absurd holds (newest_eq_none.mp found row present)
    | some other =>
      have spec := newest_spec found
      have same : time other = time row :=
        le_antisymm (greatest other spec.1 spec.2.1) (spec.2.2 row present holds)
      rw [apart other spec.1 row present same]

theorem newest_congr_time {q : τ → Prop} [DecidablePred q]
    (same : ∀ row ∈ rows, p (time row) ↔ q (time row)) :
    newest time p rows = newest time q rows := by
  have sameRows : (rows.filter fun row => decide (p (time row))) =
      rows.filter fun row => decide (q (time row)) := by
    apply List.filter_congr
    intro row present
    simp [same row present]
  rw [newest, newest, sameRows]

theorem newest_congr {rows' : List α} (apart : Apart time rows)
    (same : ∀ row, row ∈ rows' ↔ row ∈ rows) : newest time p rows' = newest time p rows := by
  have apart' : Apart time rows' := by
    intro a inA b inB
    exact apart a ((same a).mp inA) b ((same b).mp inB)
  apply Option.ext
  intro row
  simp only [newest_eq_some apart, newest_eq_some apart', same]

end Newest

/-! ## A part of the observations -/

section Faithful

variable {time : α → τ} {content : α → κ} {stored observed : List α}

/-- At every time the kept rows show what the observations show. -/
def Faithful (time : α → τ) (content : α → κ) (stored observed : List α) : Prop :=
  ∀ t, (atOrBefore time stored t).map content = (atOrBefore time observed t).map content

/-- The last kept row and the observation it must agree with, at the time of an observation. -/
private theorem shows_observation (part : ∀ row ∈ stored, row ∈ observed)
    (apart : Apart time observed)
    (dropped : ∀ row ∈ observed, row ∉ stored →
      (before time observed (time row)).map content = some (content row)) :
    ∀ row ∈ observed, (atOrBefore time stored (time row)).map content = some (content row) := by
  have apart' : Apart time stored := fun a inA b inB => apart a (part a inA) b (part b inB)
  have strict : IsStrictOrder α fun a b => time a < time b :=
    { irrefl := fun a => lt_irrefl (time a)
      trans := fun _ _ _ => lt_trans }
  have wellFounded : {row | row ∈ observed}.WellFoundedOn fun a b => time a < time b :=
    (List.finite_toSet observed).wellFoundedOn
  -- Induction on the time of the observation: a dropped row leads back to an earlier one.
  have step : ∀ row ∈ observed,
      (∀ earlier ∈ observed, time earlier < time row →
        (atOrBefore time stored (time earlier)).map content = some (content earlier)) →
      (atOrBefore time stored (time row)).map content = some (content row) := by
    intro row observedRow inductionHypothesis
    by_cases kept : row ∈ stored
    · have shown : atOrBefore time stored (time row) = some row :=
        (newest_eq_some apart').mpr ⟨kept, le_refl _, fun _ _ early => early⟩
      rw [shown, Option.map_some]
    · have repeated := dropped row observedRow kept
      cases previous : before time observed (time row) with
      | none =>
        rw [previous] at repeated
        cases repeated
      | some earlier =>
        rw [previous, Option.map_some, Option.some.injEq] at repeated
        obtain ⟨observedEarlier, earlierTime, greatest⟩ := newest_spec previous
        have shown := inductionHypothesis earlier observedEarlier earlierTime
        -- Nothing is kept after `earlier` and up to `row`.
        have sameVersion :
            atOrBefore time stored (time row) = atOrBefore time stored (time earlier) := by
          apply newest_congr_time
          intro other keptOther
          constructor
          · intro early
            have different : time other ≠ time row := by
              intro same
              rw [apart other (part other keptOther) row observedRow same] at keptOther
              exact kept keptOther
            exact greatest other (part other keptOther) (lt_of_le_of_ne early different)
          · intro early
            exact le_trans early (le_of_lt earlierTime)
        rw [sameVersion, shown, repeated]
  intro row observedRow
  exact wellFounded.induction (P := fun row =>
    (atOrBefore time stored (time row)).map content = some (content row)) observedRow step

/-- Dropping observations is faithful exactly when each dropped one repeats the one before it. -/
theorem faithful_iff (part : ∀ row ∈ stored, row ∈ observed) (apart : Apart time observed) :
    Faithful time content stored observed ↔
      ∀ row ∈ observed, row ∉ stored →
        (before time observed (time row)).map content = some (content row) := by
  have apart' : Apart time stored := fun a inA b inB => apart a (part a inA) b (part b inB)
  constructor
  · intro faithful row observedRow notKept
    have observedAt : atOrBefore time observed (time row) = some row :=
      (newest_eq_some apart).mpr ⟨observedRow, le_refl _, fun _ _ early => early⟩
    have agree := faithful (time row)
    rw [observedAt] at agree
    cases kept : atOrBefore time stored (time row) with
    | none =>
      rw [kept] at agree
      cases agree
    | some version =>
      rw [kept, Option.map_some, Option.map_some, Option.some.injEq] at agree
      obtain ⟨keptVersion, early, latest⟩ := newest_spec kept
      have strictlyEarly : time version < time row := by
        apply lt_of_le_of_ne early
        intro same
        rw [apart version (part version keptVersion) row observedRow same] at keptVersion
        exact notKept keptVersion
      cases previous : before time observed (time row) with
      | none => exact absurd strictlyEarly (newest_eq_none.mp previous version (part _ keptVersion))
      | some earlier =>
        obtain ⟨observedEarlier, earlierTime, greatest⟩ := newest_spec previous
        -- The kept version is also the one shown at the time of the previous observation.
        have keptEarlier : atOrBefore time stored (time earlier) = some version :=
          (newest_eq_some apart').mpr ⟨keptVersion,
            greatest version (part _ keptVersion) strictlyEarly,
            fun other keptOther earlyOther =>
              latest other keptOther (le_trans earlyOther (le_of_lt earlierTime))⟩
        have observedAtEarlier : atOrBefore time observed (time earlier) = some earlier :=
          (newest_eq_some apart).mpr ⟨observedEarlier, le_refl _, fun _ _ early => early⟩
        have agreeEarlier := faithful (time earlier)
        rw [keptEarlier, observedAtEarlier, Option.map_some, Option.map_some,
          Option.some.injEq] at agreeEarlier
        rw [Option.map_some, ← agreeEarlier, agree]
  · intro dropped t
    have shows := shows_observation part apart dropped
    cases observedAt : atOrBefore time observed t with
    | none =>
      have nothing : atOrBefore time stored t = none :=
        newest_eq_none.mpr fun row kept => newest_eq_none.mp observedAt row (part row kept)
      rw [nothing]
    | some row =>
      obtain ⟨observedRow, early, latest⟩ := newest_spec observedAt
      have sameVersion : atOrBefore time stored t = atOrBefore time stored (time row) := by
        apply newest_congr_time
        intro other keptOther
        exact ⟨latest other (part other keptOther), fun earlyOther => le_trans earlyOther early⟩
      rw [sameVersion, shows row observedRow, Option.map_some]

/-- Then the newest kept row shows the newest observation. -/
theorem faithful_newest (faithful : Faithful time content stored observed)
    (part : ∀ row ∈ stored, row ∈ observed) :
    (newest time (fun _ => True) stored).map content =
      (newest time (fun _ => True) observed).map content := by
  cases last : newest time (fun _ => True) observed with
  | none =>
    have nothing : newest time (fun _ => True) stored = none :=
      newest_eq_none.mpr fun row kept => newest_eq_none.mp last row (part row kept)
    rw [nothing]
  | some row =>
    obtain ⟨observedRow, _, greatest⟩ := newest_spec last
    -- Up to the time of the last observation means always.
    have always : ∀ rows, (∀ other ∈ rows, other ∈ observed) →
        newest time (fun _ => True) rows = atOrBefore time rows (time row) := by
      intro rows included
      apply newest_congr_time
      intro other present
      exact ⟨fun _ => greatest other (included other present) trivial, fun _ => trivial⟩
    rw [always stored part, faithful (time row), ← always observed fun _ => id, last]

theorem faithful_congr {stored' : List α} (apart : Apart time stored)
    (same : ∀ row, row ∈ stored' ↔ row ∈ stored) :
    Faithful time content stored' observed ↔ Faithful time content stored observed := by
  unfold Faithful atOrBefore
  simp only [newest_congr apart same]

end Faithful

/-! ## The recorder -/

section Recorder

variable {time : α → τ} {content : α → κ}

/-- The row has the content of the newest stored row that is not later. -/
def Repeats (time : α → τ) (content : α → κ) (stored : List α) (row : α) : Prop :=
  (atOrBefore time stored (time row)).map content = some (content row)

instance [DecidableEq κ] (stored : List α) (row : α) :
    Decidable (Repeats time content stored row) :=
  inferInstanceAs (Decidable (_ = _))

theorem repeats_congr {stored stored' : List α} (apart : Apart time stored)
    (same : ∀ row, row ∈ stored' ↔ row ∈ stored) (row : α) :
    Repeats time content stored' row ↔ Repeats time content stored row := by
  unfold Repeats atOrBefore
  rw [newest_congr apart same]

variable [DecidableEq κ]

/-- One call: its rows are compared with what was stored before it, not with each other. -/
def record (time : α → τ) (content : α → κ) (stored call : List α) : List α :=
  stored ++ call.filter fun row => decide (¬ Repeats time content stored row)

def recordAll (time : α → τ) (content : α → κ) (calls : List (List α)) : List α :=
  calls.foldl (record time content) []

theorem mem_record {stored call : List α} {row : α} :
    row ∈ record time content stored call ↔
      row ∈ stored ∨ row ∈ call ∧ ¬ Repeats time content stored row := by
  simp [record]

theorem recordAll_concat (calls : List (List α)) (call : List α) :
    recordAll time content (calls ++ [call]) =
      record time content (recordAll time content calls) call := by
  simp [recordAll]

theorem mem_observed_of_recorded {calls : List (List α)} {row : α}
    (recorded : row ∈ recordAll time content calls) : row ∈ calls.flatten := by
  induction calls using List.reverseRecOn with
  | nil => cases recorded
  | append_singleton calls call inductionHypothesis =>
    rw [recordAll_concat, mem_record] at recorded
    rw [List.flatten_concat, List.mem_append]
    exact recorded.imp inductionHypothesis And.left

/-- A row of a call is recorded unless it repeats what was stored before the call. -/
theorem mem_recordAll {earlier later : List (List α)} {call : List α} {row : α}
    (distinct : ((earlier ++ call :: later).flatten.map time).Nodup) (observed : row ∈ call) :
    row ∈ recordAll time content (earlier ++ call :: later) ↔
      ¬ Repeats time content (recordAll time content earlier) row := by
  induction later using List.reverseRecOn with
  | nil =>
    rw [recordAll_concat, mem_record]
    have notEarlier : row ∉ recordAll time content earlier := by
      intro recorded
      rw [List.flatten_concat, List.map_append, List.nodup_append] at distinct
      exact distinct.2.2 _ (List.mem_map_of_mem (mem_observed_of_recorded recorded)) _
        (List.mem_map_of_mem observed) rfl
    simp [notEarlier, observed]
  | append_singleton later last inductionHypothesis =>
    rw [← List.cons_append, ← List.append_assoc] at distinct ⊢
    rw [List.flatten_concat, List.map_append, List.nodup_append] at distinct
    rw [recordAll_concat, mem_record, inductionHypothesis distinct.1]
    have notLast : row ∉ last := by
      intro again
      have observedBefore : row ∈ (earlier ++ call :: later).flatten := by
        simp [observed]
      exact distinct.2.2 _ (List.mem_map_of_mem observedBefore) _ (List.mem_map_of_mem again) rfl
    simp [notLast]

/-- The exact condition: what is dropped on arrival repeats the observation just before it. -/
theorem recordAll_faithful_iff {calls : List (List α)}
    (distinct : (calls.flatten.map time).Nodup) :
    Faithful time content (recordAll time content calls) calls.flatten ↔
      ∀ earlier call later, calls = earlier ++ call :: later → ∀ row ∈ call,
        Repeats time content (recordAll time content earlier) row →
          (before time calls.flatten (time row)).map content = some (content row) := by
  rw [faithful_iff (fun _ => mem_observed_of_recorded) (Apart.of_nodup distinct)]
  constructor
  · rintro dropped earlier call later rfl row observed repeated
    apply dropped row (by simp [observed])
    rw [mem_recordAll distinct observed]
    exact fun notRepeated => notRepeated repeated
  · intro onArrival row observed notRecorded
    obtain ⟨call, called, inCall⟩ := List.mem_flatten.mp observed
    obtain ⟨earlier, later, rfl⟩ := List.append_of_mem called
    rw [mem_recordAll distinct inCall, not_not] at notRecorded
    exact onArrival earlier call later rfl row inCall notRecorded

end Recorder

end Versions
