import Mathlib.Data.List.Pairwise
import Mathlib.Data.List.Sort

/-! # Tables with unique constraints

A `Table` is a list of rows no two of which violate a unique constraint, so a
table with a duplicate key cannot be built.  The operations are the ones of a
single SQL statement (`UPDATE … SET … WHERE`, `INSERT`, `DELETE … WHERE`), and
each comes with the lemma that says what `find`, the lookup by primary key,
returns afterwards.
-/

namespace Relational

universe u v

/-- A row type with its primary key.  `clash a b` says that storing both rows
violates a unique constraint of the table; the primary key is one of them. -/
class Row (α : Type u) (κ : outParam (Type v)) where
  key : α → κ
  clash : α → α → Prop
  clash_of_key : ∀ {a b}, key a = key b → clash a b
  clash_symm : ∀ {a b}, clash a b → clash b a
  decidableKey : DecidableEq κ
  decidableClash : DecidableRel clash

attribute [reducible, instance] Row.decidableKey Row.decidableClash

/-- The row type of a table whose only unique constraint is the primary key. -/
@[reducible] def Row.ofKey {α : Type u} {κ : Type v} [DecidableEq κ] (key : α → κ) : Row α κ where
  key := key
  clash a b := key a = key b
  clash_of_key := id
  clash_symm := Eq.symm
  decidableKey := inferInstance
  decidableClash := fun a b => inferInstanceAs (Decidable (key a = key b))

variable {α : Type u} {κ : Type v} [Row α κ]

structure Table (α : Type u) {κ : Type v} [Row α κ] where
  rows : List α
  unique : rows.Pairwise fun a b => ¬ Row.clash a b

/-- A `SET` clause that leaves the columns of the unique constraints alone. -/
structure KeepsKeys (set : α → α) : Prop where
  key : ∀ a, Row.key (set a) = Row.key a
  clash : ∀ a b, Row.clash (set a) b ↔ Row.clash a b

namespace Table

def empty : Table α := ⟨[], .nil⟩

instance : Inhabited (Table α) := ⟨empty⟩

instance : Membership α (Table α) := ⟨fun table row => row ∈ table.rows⟩

def find (table : Table α) (key : κ) : Option α :=
  table.rows.find? fun row => decide (Row.key row = key)

/-- What `UPDATE … SET … WHERE condition` does to one row. -/
def setWhere (condition : α → Bool) (set : α → α) (row : α) : α :=
  if condition row then set row else row

theorem setWhere_key {condition : α → Bool} {set : α → α} (keeps : KeepsKeys set) (row : α) :
    Row.key (setWhere condition set row) = Row.key row := by
  unfold setWhere
  split
  · exact keeps.key row
  · rfl

theorem setWhere_clash {condition : α → Bool} {set : α → α} (keeps : KeepsKeys set) (a b : α) :
    Row.clash (setWhere condition set a) (setWhere condition set b) ↔ Row.clash a b := by
  have left : ∀ a b, Row.clash (setWhere condition set a) b ↔ Row.clash a b := by
    intro a b
    unfold setWhere
    split
    · exact keeps.clash a b
    · exact Iff.rfl
  have symmetric : ∀ a b : α, Row.clash a b ↔ Row.clash b a :=
    fun a b => ⟨Row.clash_symm, Row.clash_symm⟩
  rw [left, symmetric, left, symmetric]

def update (table : Table α) (condition : α → Bool) (set : α → α) (keeps : KeepsKeys set) :
    Table α where
  rows := table.rows.map (setWhere condition set)
  unique := by
    rw [List.pairwise_map]
    exact table.unique.imp fun distinct clashes => distinct ((setWhere_clash keeps _ _).mp clashes)

/-- `INSERT`; `none` is a unique violation. -/
def insert (table : Table α) (row : α) : Option (Table α) :=
  if violation : ∃ stored ∈ table.rows, Row.clash stored row then none
  else some
    { rows := table.rows ++ [row]
      unique := by
        rw [List.pairwise_append]
        refine ⟨table.unique, List.pairwise_singleton _ _, ?_⟩
        intro stored present new isNew clashes
        rw [List.mem_singleton] at isNew
        exact violation ⟨stored, present, isNew ▸ clashes⟩ }

/-- `INSERT … ON CONFLICT DO NOTHING RETURNING`, row by row. -/
def insertNew (table : Table α) : List α → List α × Table α
  | [] => ([], table)
  | row :: rows =>
    match table.insert row with
    | none => table.insertNew rows
    | some table' => (row :: (table'.insertNew rows).1, (table'.insertNew rows).2)

def delete (table : Table α) (condition : α → Bool) : Table α where
  rows := table.rows.filter fun row => !condition row
  unique := table.unique.filter _

/-! ## Lookups -/

theorem find_key {table : Table α} {key : κ} {row : α} (found : table.find key = some row) :
    Row.key row = key := by
  have satisfied := List.find?_some found
  simpa using satisfied

theorem mem_of_find {table : Table α} {key : κ} {row : α} (found : table.find key = some row) :
    row ∈ table.rows :=
  List.mem_of_find?_eq_some found

private theorem find_of_mem_list {rows : List α} {row : α} (present : row ∈ rows)
    (unique : rows.Pairwise fun a b => ¬ Row.clash a b) :
    rows.find? (fun stored => decide (Row.key stored = Row.key row)) = some row := by
  induction rows with
  | nil => cases present
  | cons first rest inductionHypothesis =>
    rw [List.pairwise_cons] at unique
    rw [List.mem_cons] at present
    rcases present with rfl | present
    · simp
    · have different : Row.key first ≠ Row.key row :=
        fun same => unique.1 row present (Row.clash_of_key same)
      simpa [List.find?_cons, different] using inductionHypothesis present unique.2

/-- Keys are unique, so a stored row is the one its key finds. -/
theorem find_of_mem {table : Table α} {row : α} (present : row ∈ table.rows) :
    table.find (Row.key row) = some row :=
  find_of_mem_list present table.unique

theorem mem_iff_find {table : Table α} {row : α} :
    row ∈ table.rows ↔ table.find (Row.key row) = some row :=
  ⟨find_of_mem, mem_of_find⟩

theorem eq_of_key {table : Table α} {row other : α} (present : row ∈ table.rows)
    (otherPresent : other ∈ table.rows) (same : Row.key row = Row.key other) : row = other := by
  have found := find_of_mem present
  rw [same, find_of_mem otherPresent, Option.some.injEq] at found
  exact found.symm

/-- No two rows clash. -/
theorem eq_of_clash {table : Table α} {row other : α} (present : row ∈ table.rows)
    (otherPresent : other ∈ table.rows) (clashes : Row.clash row other) : row = other := by
  by_contra different
  have symmetric : Std.Symm fun a b : α => ¬ Row.clash a b :=
    ⟨fun _ _ apart clashes => apart (Row.clash_symm clashes)⟩
  exact table.unique.forall present otherPresent different clashes

theorem find_eq_none {table : Table α} {key : κ} :
    table.find key = none ↔ ∀ row ∈ table.rows, Row.key row ≠ key := by
  simp [find]

@[simp] theorem find_empty (key : κ) : (empty : Table α).find key = none := rfl

@[simp] theorem find_update (table : Table α) (condition : α → Bool) (set : α → α)
    (keeps : KeepsKeys set) (key : κ) :
    (table.update condition set keeps).find key =
      (table.find key).map (setWhere condition set) := by
  have sameKey : ((fun row => decide (Row.key row = key)) ∘ setWhere condition set) =
      fun row : α => decide (Row.key row = key) := by
    funext row
    simp only [Function.comp_apply, setWhere_key keeps]
  simp only [find, update, List.find?_map, sameKey]

theorem mem_update {table : Table α} {condition : α → Bool} {set : α → α}
    {keeps : KeepsKeys set} {row : α} :
    row ∈ (table.update condition set keeps).rows ↔
      ∃ old ∈ table.rows, setWhere condition set old = row := by
  simp [update]

theorem insert_eq_none {table : Table α} {row : α} :
    table.insert row = none ↔ ∃ stored ∈ table.rows, Row.clash stored row := by
  unfold insert
  split <;> simp_all

theorem insert_rows {table table' : Table α} {row : α} (inserted : table.insert row = some table') :
    table'.rows = table.rows ++ [row] := by
  unfold insert at inserted
  split at inserted
  · cases inserted
  · simp only [Option.some.injEq] at inserted
    rw [← inserted]

theorem insert_fresh {table table' : Table α} {row : α}
    (inserted : table.insert row = some table') : table.find (Row.key row) = none := by
  rw [find_eq_none]
  intro stored present same
  have violated : table.insert row = none :=
    insert_eq_none.mpr ⟨stored, present, Row.clash_of_key same⟩
  rw [violated] at inserted
  cases inserted

theorem find_insert {table table' : Table α} {row : α}
    (inserted : table.insert row = some table') (key : κ) :
    table'.find key = if Row.key row = key then some row else table.find key := by
  have rows := insert_rows inserted
  have fresh := insert_fresh inserted
  simp only [find, rows, List.find?_append]
  split
  next same =>
    subst same
    have absent : table.rows.find? (fun stored => decide (Row.key stored = Row.key row)) = none :=
      fresh
    simp [absent]
  next different => simp [different]

theorem insertNew_rows (table : Table α) (rows : List α) :
    (table.insertNew rows).2.rows = table.rows ++ (table.insertNew rows).1 := by
  induction rows generalizing table with
  | nil => simp [insertNew]
  | cons row rows inductionHypothesis =>
    unfold insertNew
    cases inserted : table.insert row with
    | none => exact inductionHypothesis table
    | some table' =>
      show (table'.insertNew rows).2.rows = table.rows ++ row :: (table'.insertNew rows).1
      rw [inductionHypothesis table', insert_rows inserted, List.append_assoc]
      rfl

theorem mem_of_mem_insertNew {table : Table α} {rows : List α} {row : α}
    (inserted : row ∈ (table.insertNew rows).1) : row ∈ rows := by
  induction rows generalizing table with
  | nil => exact inserted
  | cons first rows inductionHypothesis =>
    unfold insertNew at inserted
    split at inserted
    next => exact List.mem_cons_of_mem _ (inductionHypothesis inserted)
    next table' _ =>
      rcases List.mem_cons.mp inserted with rfl | later
      · exact List.mem_cons_self
      · exact List.mem_cons_of_mem _ (inductionHypothesis later)

theorem forall_insertNew {table : Table α} {rows : List α} {holds : α → Prop}
    (stored : ∀ row ∈ table.rows, holds row) (new : ∀ row ∈ rows, holds row) :
    ∀ row ∈ (table.insertNew rows).2.rows, holds row := by
  intro row member
  rw [insertNew_rows, List.mem_append] at member
  rcases member with old | inserted
  · exact stored row old
  · exact new row (mem_of_mem_insertNew inserted)

/-- Rows that are all there already leave the table as it is. -/
theorem insertNew_of_clash {table : Table α} {rows : List α}
    (present : ∀ row ∈ rows, ∃ stored ∈ table.rows, Row.clash stored row) :
    table.insertNew rows = ([], table) := by
  induction rows with
  | nil => rfl
  | cons row rows inductionHypothesis =>
    have violation := insert_eq_none.mpr (present row List.mem_cons_self)
    rw [insertNew, violation]
    exact inductionHypothesis fun row later => present row (List.mem_cons_of_mem _ later)

/-- Of rows that do not clash with each other, the inserted ones clash with no stored row. -/
theorem mem_insertNew {table : Table α} {rows : List α} {row : α}
    (apart : rows.Pairwise fun a b => ¬ Row.clash a b) :
    row ∈ (table.insertNew rows).1 ↔
      row ∈ rows ∧ ∀ stored ∈ table.rows, ¬ Row.clash stored row := by
  induction rows generalizing table with
  | nil => simp [insertNew]
  | cons first rows inductionHypothesis =>
    rw [List.pairwise_cons] at apart
    unfold insertNew
    cases inserted : table.insert first with
    | none =>
      obtain ⟨stored, present, clashes⟩ := insert_eq_none.mp inserted
      show row ∈ (table.insertNew rows).1 ↔ _
      rw [inductionHypothesis apart.2]
      constructor
      · rintro ⟨later, free⟩
        exact ⟨List.mem_cons_of_mem _ later, free⟩
      · rintro ⟨listed, free⟩
        rcases List.mem_cons.mp listed with rfl | later
        · exact absurd clashes (free stored present)
        · exact ⟨later, free⟩
    | some table' =>
      have notClashing : ∀ stored ∈ table.rows, ¬ Row.clash stored first := by
        intro stored present clashes
        have violated := insert_eq_none.mpr ⟨stored, present, clashes⟩
        rw [violated] at inserted
        cases inserted
      show row ∈ first :: (table'.insertNew rows).1 ↔ _
      rw [List.mem_cons, inductionHypothesis apart.2, insert_rows inserted]
      constructor
      · rintro (rfl | ⟨later, free⟩)
        · exact ⟨List.mem_cons_self, notClashing⟩
        · exact ⟨List.mem_cons_of_mem _ later,
            fun stored present => free stored (List.mem_append_left _ present)⟩
      · rintro ⟨listed, free⟩
        rcases List.mem_cons.mp listed with rfl | later
        · exact .inl rfl
        · refine .inr ⟨later, fun stored present => ?_⟩
          rcases List.mem_append.mp present with old | new
          · exact free stored old
          · rw [List.mem_singleton.mp new]
            exact apart.1 row later

theorem mem_delete {table : Table α} {condition : α → Bool} {row : α} :
    row ∈ (table.delete condition).rows ↔ row ∈ table.rows ∧ condition row = false := by
  simp [delete]

@[simp] theorem find_delete (table : Table α) (condition : α → Bool) (key : κ) :
    (table.delete condition).find key = (table.find key).filter fun row => !condition row := by
  cases found : table.find key with
  | none =>
    rw [find_eq_none] at found
    rw [Option.filter_none, find_eq_none]
    intro row present
    exact found row (List.mem_of_mem_filter present)
  | some row =>
    have present := mem_of_find found
    have same := find_key found
    cases deleted : condition row with
    | true =>
      simp only [Option.filter_some, deleted, Bool.not_true, Bool.false_eq_true, if_false]
      rw [find_eq_none]
      intro other otherPresent otherKey
      rw [delete, List.mem_filter] at otherPresent
      have found' := find_of_mem otherPresent.1
      rw [otherKey, found, Option.some.injEq] at found'
      subst found'
      simp [deleted] at otherPresent
    | false =>
      simp only [Option.filter_some, deleted, Bool.not_false, if_true]
      have kept : row ∈ (table.delete condition).rows := by
        simp [delete, present, deleted]
      rw [← same]
      exact find_of_mem kept

end Table

end Relational
