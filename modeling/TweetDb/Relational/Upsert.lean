import TweetDb.Relational.Table

/-! # INSERT … ON CONFLICT DO UPDATE

A statement upserts its rows one after the other and either takes effect as a
whole or, where a constraint refuses one row, not at all.
-/

namespace Relational

universe u v

variable {α : Type u} {κ : Type v} [Row α κ]

/-- `ON CONFLICT (key) DO UPDATE SET set WHERE condition`; the second row is `EXCLUDED`. -/
structure OnConflict (α : Type u) {κ : Type v} [Row α κ] where
  set : α → α → α
  condition : α → α → Bool
  keeps : ∀ excluded, KeepsKeys fun stored => set stored excluded

/-- `NOT NULL` and `CHECK` are checked for every proposed row, foreign keys for what is stored. -/
structure Constraints (α : Type u) where
  checks : α → Bool
  references : α → Bool

namespace OnConflict

variable (conflict : OnConflict α)

/-- What becomes of a stored row when another one with its key is proposed. -/
def merge (stored excluded : α) : α :=
  if conflict.condition stored excluded then conflict.set stored excluded else stored

/-- One proposed row; the keys are those of `RETURNING`. -/
def upsertRow (constraints : Constraints α) (table : Table α) (row : α) :
    Option (List κ × Table α) :=
  if constraints.checks row then
    match table.find (Row.key row) with
    | none =>
      if constraints.references row then
        (table.insert row).map fun table' => ([Row.key row], table')
      else none
    | some stored =>
      if conflict.condition stored row then
        if constraints.references (conflict.set stored row) then
          some ([Row.key row], table.update (fun other => decide (Row.key other = Row.key row))
            (fun other => conflict.set other row) (conflict.keeps row))
        else none
      else some ([], table)
  else none

def upsert (constraints : Constraints α) (table : Table α) : List α → Option (List κ × Table α)
  | [] => some ([], table)
  | row :: rows =>
    (conflict.upsertRow constraints table row).bind fun (first, table) =>
      (upsert constraints table rows).map fun (others, table) => (first ++ others, table)

variable {conflict} {constraints : Constraints α} {table table' : Table α} {returned : List κ}

/-- A row is inserted, is merged into the stored one with its key, or leaves that one alone. -/
theorem upsertRow_cases {row : α}
    (upserted : conflict.upsertRow constraints table row = some (returned, table')) :
    constraints.checks row = true ∧
      (table.find (Row.key row) = none ∧ constraints.references row = true ∧
          table.insert row = some table' ∧ returned = [Row.key row] ∨
        ∃ stored, table.find (Row.key row) = some stored ∧
          (conflict.condition stored row = true ∧
              table' = table.update (fun other => decide (Row.key other = Row.key row))
                (fun other => conflict.set other row) (conflict.keeps row) ∧
              returned = [Row.key row] ∨
            conflict.condition stored row = false ∧ table' = table ∧ returned = [])) := by
  unfold upsertRow at upserted
  split at upserted
  next checked =>
    refine ⟨checked, ?_⟩
    cases found : table.find (Row.key row) with
    | none =>
      simp only [found, Option.ite_none_right_eq_some, Option.map_eq_some_iff,
        Prod.mk.injEq] at upserted
      obtain ⟨refers, inserted, insertedRow, isReturned, rfl⟩ := upserted
      exact .inl ⟨rfl, refers, insertedRow, isReturned.symm⟩
    | some stored =>
      simp only [found] at upserted
      refine .inr ⟨stored, rfl, ?_⟩
      split at upserted
      next fires =>
        simp only [Option.ite_none_right_eq_some, Option.some.injEq, Prod.mk.injEq] at upserted
        obtain ⟨_, isReturned, isUpdated⟩ := upserted
        exact .inl ⟨fires, isUpdated.symm, isReturned.symm⟩
      next quiet =>
        cases upserted
        exact .inr ⟨Bool.eq_false_iff.mpr quiet, rfl, rfl⟩
  next => cases upserted

theorem upsert_cons_eq_some {row : α} {rows : List α} :
    conflict.upsert constraints table (row :: rows) = some (returned, table') ↔
      ∃ first middle others, conflict.upsertRow constraints table row = some (first, middle) ∧
        conflict.upsert constraints middle rows = some (others, table') ∧
          returned = first ++ others := by
  rw [upsert, Option.bind_eq_some_iff]
  constructor
  · rintro ⟨⟨first, middle⟩, firstUpserted, rest⟩
    obtain ⟨⟨others, finish⟩, othersUpserted, result⟩ := Option.map_eq_some_iff.mp rest
    cases result
    exact ⟨first, middle, others, firstUpserted, othersUpserted, rfl⟩
  · rintro ⟨first, middle, others, firstUpserted, othersUpserted, rfl⟩
    exact ⟨(first, middle), firstUpserted, Option.map_eq_some_iff.mpr ⟨_, othersUpserted, rfl⟩⟩

theorem find_upsertRow {row : α}
    (upserted : conflict.upsertRow constraints table row = some (returned, table')) (key : κ) :
    table'.find key =
      if Row.key row = key then
        some ((table.find key).elim row fun stored => conflict.merge stored row)
      else table.find key := by
  obtain ⟨-, ⟨fresh, -, inserted, -⟩ | ⟨stored, found, ⟨fires, rfl, -⟩ | ⟨quiet, rfl, -⟩⟩⟩ :=
    upsertRow_cases upserted
  · rw [Table.find_insert inserted]
    split
    next same => rw [← same, fresh, Option.elim_none]
    next => rfl
  · rw [Table.find_update]
    split
    next same =>
      rw [← same, found]
      have storedKey := Table.find_key found
      simp [Table.setWhere, storedKey, merge, fires]
    next different =>
      cases other : table.find key with
      | none => rfl
      | some otherRow =>
        have otherKey := Table.find_key other
        have notRow : Row.key otherRow ≠ Row.key row := by
          rw [otherKey]
          exact fun same => different same.symm
        simp [Table.setWhere, notRow]
  · split
    next same =>
      rw [← same, found]
      simp [merge, quiet]
    next => rfl

theorem mem_returned_upsertRow {row : α} {key : κ}
    (upserted : conflict.upsertRow constraints table row = some (returned, table')) :
    key ∈ returned ↔ Row.key row = key ∧
      ∀ stored, table.find key = some stored → conflict.condition stored row = true := by
  obtain ⟨-, ⟨fresh, -, -, rfl⟩ | ⟨stored, found, ⟨fires, -, rfl⟩ | ⟨quiet, -, rfl⟩⟩⟩ :=
    upsertRow_cases upserted
  · rw [List.mem_singleton]
    constructor
    · rintro rfl
      exact ⟨rfl, fun stored isStored => by simp [fresh] at isStored⟩
    · exact fun ⟨same, _⟩ => same.symm
  · rw [List.mem_singleton]
    constructor
    · rintro rfl
      refine ⟨rfl, fun other isOther => ?_⟩
      rwa [Option.some.inj (isOther.symm.trans found)]
    · exact fun ⟨same, _⟩ => same.symm
  · constructor
    · intro none
      cases none
    · rintro ⟨rfl, fires⟩
      rw [fires stored found] at quiet
      cases quiet

/-- Rows with different keys are upserted independently. -/
theorem find_upsert {rows : List α}
    (distinct : rows.Pairwise fun a b => Row.key a ≠ Row.key b)
    (upserted : conflict.upsert constraints table rows = some (returned, table')) :
    (∀ row ∈ rows, table'.find (Row.key row) =
      some ((table.find (Row.key row)).elim row fun stored => conflict.merge stored row)) ∧
    ∀ key, (∀ row ∈ rows, Row.key row ≠ key) → table'.find key = table.find key := by
  induction rows generalizing table returned with
  | nil =>
    cases upserted
    exact ⟨fun row none => absurd none List.not_mem_nil, fun _ _ => rfl⟩
  | cons first rows inductionHypothesis =>
    rw [List.pairwise_cons] at distinct
    obtain ⟨_, middle, _, firstUpserted, othersUpserted, rfl⟩ := upsert_cons_eq_some.mp upserted
    obtain ⟨others, untouched⟩ := inductionHypothesis distinct.2 othersUpserted
    have step := find_upsertRow firstUpserted
    constructor
    · intro row member
      rcases List.mem_cons.mp member with rfl | later
      · rw [untouched _ fun other later => (distinct.1 other later).symm, step, if_pos rfl]
      · rw [others row later, step, if_neg (distinct.1 row later)]
    · intro key absent
      rw [untouched key fun row later => absent row (List.mem_cons_of_mem _ later), step,
        if_neg (absent first List.mem_cons_self)]

/-- The keys of `RETURNING` are those of the rows that are inserted or updated. -/
theorem mem_returned_upsert {rows : List α} {key : κ}
    (distinct : rows.Pairwise fun a b => Row.key a ≠ Row.key b)
    (upserted : conflict.upsert constraints table rows = some (returned, table')) :
    key ∈ returned ↔ ∃ row ∈ rows, Row.key row = key ∧
      ∀ stored, table.find key = some stored → conflict.condition stored row = true := by
  induction rows generalizing table returned with
  | nil =>
    cases upserted
    simp
  | cons first rows inductionHypothesis =>
    rw [List.pairwise_cons] at distinct
    obtain ⟨_, middle, _, firstUpserted, othersUpserted, rfl⟩ := upsert_cons_eq_some.mp upserted
    rw [List.mem_append, mem_returned_upsertRow firstUpserted,
      inductionHypothesis distinct.2 othersUpserted, List.exists_mem_cons_iff]
    -- The rows after the first have other keys, whose stored rows the first leaves alone.
    have untouched : ∀ row ∈ rows, Row.key row = key → middle.find key = table.find key := by
      intro row later same
      rw [find_upsertRow firstUpserted, if_neg]
      exact same ▸ distinct.1 row later
    constructor
    · intro named
      refine named.imp id fun ⟨row, later, same, fires⟩ => ?_
      rw [untouched row later same] at fires
      exact ⟨row, later, same, fires⟩
    · intro named
      refine named.imp id fun ⟨row, later, same, fires⟩ => ?_
      rw [← untouched row later same] at fires
      exact ⟨row, later, same, fires⟩

/-- What holds of the rows, of a proposed row that is let in and of a row set to a proposed one
holds afterwards. -/
theorem forall_upsertRow {holds : α → Prop} {row : α} (stored : ∀ old ∈ table.rows, holds old)
    (fresh : constraints.checks row = true → constraints.references row = true → holds row)
    (merged : ∀ old ∈ table.rows, holds (conflict.set old row))
    (upserted : conflict.upsertRow constraints table row = some (returned, table')) :
    ∀ new ∈ table'.rows, holds new := by
  obtain ⟨checked, ⟨-, refers, inserted, -⟩ | ⟨-, -, ⟨-, rfl, -⟩ | ⟨-, rfl, -⟩⟩⟩ :=
    upsertRow_cases upserted
  · intro new member
    rw [Table.insert_rows inserted, List.mem_append, List.mem_singleton] at member
    rcases member with old | rfl
    · exact stored new old
    · exact fresh checked refers
  · intro new member
    obtain ⟨old, present, rfl⟩ := Table.mem_update.mp member
    unfold Table.setWhere
    split
    · exact merged old present
    · exact stored old present
  · exact stored

theorem forall_upsert {holds : α → Prop} {rows : List α} (stored : ∀ old ∈ table.rows, holds old)
    (fresh : ∀ row ∈ rows, constraints.checks row = true → constraints.references row = true →
      holds row)
    (merged : ∀ row ∈ rows, ∀ old, holds old → holds (conflict.set old row))
    (upserted : conflict.upsert constraints table rows = some (returned, table')) :
    ∀ new ∈ table'.rows, holds new := by
  induction rows generalizing table returned with
  | nil =>
    cases upserted
    exact stored
  | cons first rows inductionHypothesis =>
    obtain ⟨_, middle, _, firstUpserted, othersUpserted, rfl⟩ := upsert_cons_eq_some.mp upserted
    have afterFirst := forall_upsertRow stored (fresh first List.mem_cons_self)
      (fun old present => merged first List.mem_cons_self old (stored old present)) firstUpserted
    exact inductionHypothesis afterFirst
      (fun row later => fresh row (List.mem_cons_of_mem _ later))
      (fun row later => merged row (List.mem_cons_of_mem _ later)) othersUpserted

/-- No row goes away. -/
theorem find_isSome_upsert {rows : List α} {key : κ}
    (upserted : conflict.upsert constraints table rows = some (returned, table'))
    (present : (table.find key).isSome = true) : (table'.find key).isSome = true := by
  induction rows generalizing table returned with
  | nil =>
    cases upserted
    exact present
  | cons first rows inductionHypothesis =>
    obtain ⟨_, middle, _, firstUpserted, othersUpserted, rfl⟩ := upsert_cons_eq_some.mp upserted
    apply inductionHypothesis othersUpserted
    rw [find_upsertRow firstUpserted]
    split
    · rfl
    · exact present

/-- A row stays, and so does a column that no conflict sets. -/
theorem find_upsert_column {β : Type v} {column : α → β} {rows : List α} {key : κ} {stored : α}
    (fixed : ∀ old excluded, column (conflict.set old excluded) = column old)
    (upserted : conflict.upsert constraints table rows = some (returned, table'))
    (found : table.find key = some stored) :
    ∃ kept, table'.find key = some kept ∧ column kept = column stored := by
  induction rows generalizing table returned stored with
  | nil =>
    cases upserted
    exact ⟨stored, found, rfl⟩
  | cons first rows inductionHypothesis =>
    obtain ⟨_, middle, _, firstUpserted, othersUpserted, rfl⟩ := upsert_cons_eq_some.mp upserted
    have step := find_upsertRow firstUpserted key
    rw [found, Option.elim_some] at step
    by_cases same : Row.key first = key
    · rw [if_pos same] at step
      obtain ⟨kept, isKept, sameColumn⟩ := inductionHypothesis othersUpserted step
      refine ⟨kept, isKept, sameColumn.trans ?_⟩
      simp only [merge]
      split
      · exact fixed stored first
      · rfl
    · rw [if_neg same] at step
      exact inductionHypothesis othersUpserted step

/-- The row is there and fills nothing of what is stored. -/
def Quiet (conflict : OnConflict α) (table : Table α) (row : α) : Prop :=
  ∃ stored, table.find (Row.key row) = some stored ∧ conflict.condition stored row = false

theorem upsert_of_quiet {rows : List α}
    (quiet : ∀ row ∈ rows, constraints.checks row = true ∧ conflict.Quiet table row) :
    conflict.upsert constraints table rows = some ([], table) := by
  induction rows with
  | nil => rfl
  | cons row rows inductionHypothesis =>
    obtain ⟨checked, stored, found, condition⟩ := quiet row List.mem_cons_self
    have others := inductionHypothesis fun row later => quiet row (List.mem_cons_of_mem _ later)
    simp [upsert, upsertRow, checked, found, condition, others]

end OnConflict

end Relational
