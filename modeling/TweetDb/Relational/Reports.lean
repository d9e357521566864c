import TweetDb.Relational.Upsert

/-! # What an upsert reports

`RETURNING` names the rows that were inserted or updated.  That these are the
rows that changed, and that the same rows once more change nothing, depends on
one thing: a row that was set to a proposed one is not updated by it again.
-/

namespace Relational

universe u v

variable {α : Type u} {κ : Type v} [Row α κ]

/-- The reported keys are those whose row was created or changed. -/
def ReportsExactly (returned : List κ) (before after : Table α) : Prop :=
  ∀ key, key ∈ returned ↔ after.find key ≠ before.find key

namespace OnConflict

variable {conflict : OnConflict α} {constraints : Constraints α} {table table' : Table α}
  {returned : List κ} {rows : List α}

/-- A row that was merged with a proposed one takes nothing more from it. -/
def Settles (conflict : OnConflict α) (stored excluded : α) : Prop :=
  conflict.condition (conflict.merge stored excluded) excluded = false

theorem Settles.changes {stored excluded : α} (settles : conflict.Settles stored excluded)
    (fires : conflict.condition stored excluded = true) :
    conflict.set stored excluded ≠ stored := by
  intro same
  rw [Settles, merge, if_pos fires, same, fires] at settles
  cases settles

theorem checks_of_upsert
    (upserted : conflict.upsert constraints table rows = some (returned, table')) :
    ∀ row ∈ rows, constraints.checks row = true := by
  induction rows generalizing table returned with
  | nil => exact fun row none => absurd none List.not_mem_nil
  | cons first rows ih =>
    obtain ⟨_, middle, _, firstUpserted, othersUpserted, rfl⟩ := upsert_cons_eq_some.mp upserted
    intro row member
    rcases List.mem_cons.mp member with rfl | later
    · exact (upsertRow_cases firstUpserted).1
    · exact ih othersUpserted row later

theorem reportsExactly_upsert (distinct : rows.Pairwise fun a b => Row.key a ≠ Row.key b)
    (settles : ∀ row ∈ rows, ∀ stored, table.find (Row.key row) = some stored →
      conflict.Settles stored row)
    (upserted : conflict.upsert constraints table rows = some (returned, table')) :
    ReportsExactly returned table table' := by
  intro key
  rw [mem_returned_upsert distinct upserted]
  obtain ⟨proposed, untouched⟩ := find_upsert distinct upserted
  constructor
  · rintro ⟨row, member, rfl, fires⟩
    rw [proposed row member]
    cases found : table.find (Row.key row) with
    | none => simp
    | some stored =>
      rw [Option.elim_some, merge, if_pos (fires stored found)]
      intro same
      exact (settles row member stored found).changes (fires stored found) (Option.some.inj same)
  · intro changed
    obtain ⟨row, member, rfl⟩ : ∃ row ∈ rows, Row.key row = key := by
      by_contra absent
      exact changed (untouched key fun row member same => absent ⟨row, member, same⟩)
    refine ⟨row, member, rfl, fun stored found => ?_⟩
    by_contra quiet
    rw [proposed row member, found, Option.elim_some, merge, if_neg quiet] at changed
    exact changed rfl

/-- The rows are proposed once more. -/
theorem upsert_again_iff (distinct : rows.Pairwise fun a b => Row.key a ≠ Row.key b)
    (inserted : ∀ row ∈ rows, conflict.condition row row = false)
    (upserted : conflict.upsert constraints table rows = some (returned, table')) :
    conflict.upsert constraints table' rows = some ([], table') ↔
      ∀ row ∈ rows, ∀ stored, table.find (Row.key row) = some stored →
        conflict.Settles stored row := by
  have proposed := (find_upsert distinct upserted).1
  constructor
  · intro again row member stored found
    have quiet := (mem_returned_upsert distinct again).not.mp (@List.not_mem_nil κ (Row.key row))
    have merged := proposed row member
    rw [found, Option.elim_some] at merged
    rw [Settles]
    by_contra fires
    refine quiet ⟨row, member, rfl, fun kept isKept => ?_⟩
    rw [Option.some.inj (isKept.symm.trans merged)]
    simpa using fires
  · intro settles
    refine upsert_of_quiet fun row member => ⟨checks_of_upsert upserted row member, ?_⟩
    refine ⟨_, proposed row member, ?_⟩
    cases found : table.find (Row.key row) with
    | none => exact inserted row member
    | some stored => exact settles row member stored found

/-- The reports are exact and the rows settle, or neither. -/
theorem exact_and_again_iff (distinct : rows.Pairwise fun a b => Row.key a ≠ Row.key b)
    (inserted : ∀ row ∈ rows, conflict.condition row row = false)
    (upserted : conflict.upsert constraints table rows = some (returned, table')) :
    (ReportsExactly returned table table' ∧
        conflict.upsert constraints table' rows = some ([], table')) ↔
      ∀ row ∈ rows, ∀ stored, table.find (Row.key row) = some stored →
        conflict.Settles stored row := by
  rw [upsert_again_iff distinct inserted upserted]
  exact and_iff_right_of_imp fun settles => reportsExactly_upsert distinct settles upserted

/-! ## The table after the rows once more -/

/-- Rows that are merged already leave the table as it is, whether they are reported or not. -/
theorem upsert_of_merged
    (merged : ∀ row ∈ rows, ∃ stored, table.find (Row.key row) = some stored ∧
      conflict.merge stored row = stored)
    (upserted : conflict.upsert constraints table rows = some (returned, table')) :
    table' = table := by
  induction rows generalizing returned table' with
  | nil =>
    cases upserted
    rfl
  | cons first rows ih =>
    obtain ⟨_, middle, _, firstUpserted, othersUpserted, rfl⟩ := upsert_cons_eq_some.mp upserted
    obtain ⟨stored, found, same⟩ := merged first List.mem_cons_self
    have unchanged : middle = table := by
      obtain ⟨-, ⟨fresh, -, -, -⟩ | ⟨old, foundOld, ⟨fires, rfl, -⟩ | ⟨-, rfl, -⟩⟩⟩ :=
        upsertRow_cases firstUpserted
      · rw [fresh] at found
        cases found
      · rw [foundOld, Option.some.injEq] at found
        subst found
        rw [merge, if_pos fires] at same
        -- The one row that is set is set to what it was.
        have rows_eq : table.rows.map (Table.setWhere
            (fun other => decide (Row.key other = Row.key first))
            fun other => conflict.set other first) = table.rows := by
          refine (List.map_congr_left fun row present => ?_).trans (List.map_id _)
          unfold Table.setWhere
          split
          next isFirst =>
            have isOld : row = old := by
              have foundRow := Table.find_of_mem present
              rw [of_decide_eq_true isFirst, foundOld] at foundRow
              exact (Option.some.inj foundRow).symm
            rw [isOld]
            exact same
          next => rfl
        unfold Table.update
        simp only [rows_eq]
      · rfl
    subst unchanged
    exact ih (fun row later => merged row (List.mem_cons_of_mem _ later)) othersUpserted

theorem upsert_again_table {constraints' : Constraints α} {table'' : Table α} {returned' : List κ}
    (distinct : rows.Pairwise fun a b => Row.key a ≠ Row.key b)
    (self : ∀ row, conflict.merge row row = row)
    (again : ∀ stored row, conflict.merge (conflict.merge stored row) row =
      conflict.merge stored row)
    (upserted : conflict.upsert constraints table rows = some (returned, table'))
    (twice : conflict.upsert constraints' table' rows = some (returned', table'')) :
    table'' = table' := by
  refine upsert_of_merged (fun row member => ⟨_, (find_upsert distinct upserted).1 row member, ?_⟩)
    twice
  cases table.find (Row.key row) with
  | none => exact self row
  | some stored => exact again stored row

end OnConflict

end Relational
