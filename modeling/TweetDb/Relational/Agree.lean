import TweetDb.Relational.Select
import TweetDb.Relational.Upsert

/-! # Tables that agree on some rows

Two runs of a statement on lists and tables that have the same rows inside a
scope end with tables that have the same rows inside it, provided that no row
of the scope is decided by one outside.
-/

namespace Relational

universe u v

variable {α β : Type u} {κ : Type v}

/-! ## Keys that tell rows apart -/

def DistinctBy (key : α → κ) (rows : List α) : Prop :=
  ∀ a ∈ rows, ∀ b ∈ rows, key a = key b → a = b

namespace DistinctBy

variable {key : α → κ} {rows : List α}

theorem of_nodup (distinct : (rows.map key).Nodup) : DistinctBy key rows :=
  fun _ inA _ inB same => List.inj_on_of_nodup_map distinct inA inB same

theorem map {f : β → α} {rows : List β} (distinct : DistinctBy (fun row => key (f row)) rows) :
    DistinctBy key (rows.map f) := by
  intro a inA b inB same
  obtain ⟨row, member, rfl⟩ := List.mem_map.mp inA
  obtain ⟨row', member', rfl⟩ := List.mem_map.mp inB
  rw [distinct row member row' member' same]

theorem subset {part : List α} (distinct : DistinctBy key rows) (inside : ∀ row ∈ part, row ∈ rows) :
    DistinctBy key part :=
  fun a inA b inB same => distinct a (inside a inA) b (inside b inB) same

/-- The answer of a row stands under its key. -/
theorem lookup_answers {γ : Type v} [BEq κ] [LawfulBEq κ] (answer : α → γ) {row : α}
    (distinct : DistinctBy key rows) (member : row ∈ rows) :
    (rows.map fun other => (key other, answer other)).lookup (key row) = some (answer row) := by
  induction rows with
  | nil => cases member
  | cons first rows inductionHypothesis =>
    rw [List.map_cons, List.lookup_cons]
    by_cases same : key row = key first
    · rw [distinct row member first List.mem_cons_self same]
      simp
    · have later : row ∈ rows := by
        rcases List.mem_cons.mp member with rfl | later
        · exact absurd rfl same
        · exact later
      have rest : DistinctBy key rows := distinct.subset fun other => List.mem_cons_of_mem first
      rw [beq_eq_false_iff_ne.mpr same]
      exact inductionHypothesis rest later

end DistinctBy

/-! ## Lists -/

/-- Both lists have the same rows inside the scope. -/
def AgreeOn (scope : α → Prop) (rows rows' : List α) : Prop :=
  ∀ row, scope row → (row ∈ rows ↔ row ∈ rows')

namespace AgreeOn

variable {scope : α → Prop} {rows rows' rows'' : List α}

theorem refl (scope : α → Prop) (rows : List α) : AgreeOn scope rows rows := fun _ _ => Iff.rfl

theorem symm (agree : AgreeOn scope rows rows') : AgreeOn scope rows' rows :=
  fun row inside => (agree row inside).symm

theorem trans (first : AgreeOn scope rows rows') (second : AgreeOn scope rows' rows'') :
    AgreeOn scope rows rows'' :=
  fun row inside => (first row inside).trans (second row inside)

theorem append {more more' : List α} (agree : AgreeOn scope rows rows')
    (agreeMore : AgreeOn scope more more') : AgreeOn scope (rows ++ more) (rows' ++ more') := by
  intro row inside
  simp only [List.mem_append, agree row inside, agreeMore row inside]

theorem map {scope' : β → Prop} {f : α → β} (agree : AgreeOn scope rows rows')
    (inScope : ∀ row, scope' (f row) → scope row) :
    AgreeOn scope' (rows.map f) (rows'.map f) := by
  intro value inside
  simp only [List.mem_map]
  constructor
  · intro ⟨row, member, made⟩
    exact ⟨row, (agree row (inScope row (made ▸ inside))).mp member, made⟩
  · intro ⟨row, member, made⟩
    exact ⟨row, (agree row (inScope row (made ▸ inside))).mpr member, made⟩

theorem filter {keep keep' : α → Bool} (agree : AgreeOn scope rows rows')
    (same : ∀ row, scope row → keep row = keep' row) :
    AgreeOn scope (rows.filter keep) (rows'.filter keep') := by
  intro row inside
  simp only [List.mem_filter, agree row inside, same row inside]

theorem distinctOn [DecidableEq κ] {key : α → κ} (agree : AgreeOn scope rows rows')
    (distinct : DistinctBy key rows) (distinct' : DistinctBy key rows') :
    AgreeOn scope (distinctOn key rows) (Relational.distinctOn key rows') := by
  intro row inside
  rw [mem_distinctOn_of_injective distinct, mem_distinctOn_of_injective distinct']
  exact agree row inside

/-- Rows of the scope are counted alike. -/
theorem countP_eq {p : α → Bool} (agree : AgreeOn scope rows rows') (distinct : rows.Nodup)
    (distinct' : rows'.Nodup) (inside : ∀ row, p row = true → scope row) :
    rows.countP p = rows'.countP p := by
  rw [List.countP_eq_length_filter, List.countP_eq_length_filter]
  apply List.Perm.length_eq
  rw [List.perm_ext_iff_of_nodup (distinct.filter p) (distinct'.filter p)]
  intro row
  simp only [List.mem_filter]
  constructor
  · intro ⟨member, counted⟩
    exact ⟨(agree row (inside row counted)).mp member, counted⟩
  · intro ⟨member, counted⟩
    exact ⟨(agree row (inside row counted)).mpr member, counted⟩

end AgreeOn

/-! ## Tables -/

section Tables

variable [Row α κ] {keys : κ → Prop} {table table' : Table α}

theorem find_congr (agree : AgreeOn (fun row => keys (Row.key row)) table.rows table'.rows)
    {key : κ} (inside : keys key) : table.find key = table'.find key := by
  apply Option.ext
  intro row
  constructor
  · intro found
    have same := Table.find_key found
    subst same
    exact Table.find_of_mem ((agree row inside).mp (Table.mem_of_find found))
  · intro found
    have same := Table.find_key found
    subst same
    exact Table.find_of_mem ((agree row inside).mpr (Table.mem_of_find found))

theorem agreeOn_of_find (same : ∀ key, keys key → table.find key = table'.find key) :
    AgreeOn (fun row => keys (Row.key row)) table.rows table'.rows := by
  intro row inside
  rw [Table.mem_iff_find, Table.mem_iff_find, same _ inside]

/-- New rows are inserted unless a stored row of the scope is in their way. -/
theorem insertNew_agreeOn {scope : α → Prop} {rows rows' : List α}
    (apart : rows.Pairwise fun a b => ¬ Row.clash a b)
    (apart' : rows'.Pairwise fun a b => ¬ Row.clash a b)
    (closed : ∀ a b, scope b → Row.clash a b → scope a)
    (agreeRows : AgreeOn scope rows rows') (agree : AgreeOn scope table.rows table'.rows) :
    AgreeOn scope (table.insertNew rows).1 (table'.insertNew rows').1 ∧
      AgreeOn scope (table.insertNew rows).2.rows (table'.insertNew rows').2.rows := by
  have inserted : AgreeOn scope (table.insertNew rows).1 (table'.insertNew rows').1 := by
    intro row inside
    rw [Table.mem_insertNew apart, Table.mem_insertNew apart', agreeRows row inside]
    have free : (∀ stored ∈ table.rows, ¬ Row.clash stored row) ↔
        ∀ stored ∈ table'.rows, ¬ Row.clash stored row := by
      constructor
      · intro free stored present clashes
        exact free stored ((agree stored (closed _ _ inside clashes)).mpr present) clashes
      · intro free stored present clashes
        exact free stored ((agree stored (closed _ _ inside clashes)).mp present) clashes
    rw [free]
  refine ⟨inserted, ?_⟩
  rw [Table.insertNew_rows, Table.insertNew_rows]
  exact agree.append inserted

end Tables

/-! ## Upserts -/

namespace OnConflict

variable [Row α κ] {conflict : OnConflict α} {constraints constraints' : Constraints α}
  {table table' after after' : Table α} {rows rows' : List α} {returned returned' : List κ}

/-- Without constraints nothing is refused. -/
theorem upsert_total (keyed : ∀ a b : α, Row.clash a b → Row.key a = Row.key b)
    (checks : ∀ row, constraints.checks row = true)
    (references : ∀ row, constraints.references row = true) (table : Table α) (rows : List α) :
    ∃ returned after, conflict.upsert constraints table rows = some (returned, after) := by
  induction rows generalizing table with
  | nil => exact ⟨[], table, rfl⟩
  | cons row rows inductionHypothesis =>
    have first : ∃ returned middle,
        conflict.upsertRow constraints table row = some (returned, middle) := by
      unfold upsertRow
      rw [if_pos (checks row)]
      cases found : table.find (Row.key row) with
      | none =>
        cases inserted : table.insert row with
        | some middle => simp [references]
        | none =>
          obtain ⟨stored, present, clashes⟩ := Table.insert_eq_none.mp inserted
          exact absurd (keyed _ _ clashes) (Table.find_eq_none.mp found stored present)
      | some stored =>
        simp only [references, if_true]
        split <;> simp
    obtain ⟨returned, middle, ran⟩ := first
    obtain ⟨others, after, rest⟩ := inductionHypothesis middle
    exact ⟨returned ++ others, after, by simp [upsert, ran, rest]⟩

theorem upsert_agreeOn (keys : κ → Prop)
    (distinct : rows.Pairwise fun a b => Row.key a ≠ Row.key b)
    (distinct' : rows'.Pairwise fun a b => Row.key a ≠ Row.key b)
    (agreeRows : AgreeOn (fun row => keys (Row.key row)) rows rows')
    (agree : AgreeOn (fun row => keys (Row.key row)) table.rows table'.rows)
    (upserted : conflict.upsert constraints table rows = some (returned, after))
    (upserted' : conflict.upsert constraints' table' rows' = some (returned', after')) :
    AgreeOn keys returned returned' ∧
      AgreeOn (fun row => keys (Row.key row)) after.rows after'.rows := by
  constructor
  · intro key inside
    rw [mem_returned_upsert distinct upserted, mem_returned_upsert distinct' upserted',
      find_congr agree inside]
    constructor
    · intro ⟨row, member, same, fires⟩
      subst same
      exact ⟨row, (agreeRows row inside).mp member, rfl, fires⟩
    · intro ⟨row, member, same, fires⟩
      subst same
      exact ⟨row, (agreeRows row inside).mpr member, rfl, fires⟩
  · apply agreeOn_of_find
    intro key inside
    obtain ⟨written, untouched⟩ := find_upsert distinct upserted
    obtain ⟨written', untouched'⟩ := find_upsert distinct' upserted'
    by_cases named : ∃ row ∈ rows, Row.key row = key
    · obtain ⟨row, member, rfl⟩ := named
      rw [written row member, written' row ((agreeRows row inside).mp member),
        find_congr agree inside]
    · simp only [not_exists, not_and] at named
      rw [untouched key named, untouched' key, find_congr agree inside]
      intro row member same
      subst same
      exact named row ((agreeRows row inside).mpr member) rfl

end OnConflict

end Relational
