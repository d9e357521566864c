import Mathlib.Data.List.Dedup
import Mathlib.Data.List.Sort

/-! # ORDER BY and DISTINCT ON

`orderBy key` sorts by a list of columns, `distinctOn key` keeps the first row
of each key, and an aggregate of sorted rows is determined by which rows there
are.
-/

namespace Relational

universe u v

variable {α : Type u} {κ : Type v}

/-- Columns compared one after the other. -/
def columnsLe : List Int → List Int → Bool
  | [], _ => true
  | _ :: _, [] => false
  | a :: as, b :: bs => decide (a < b) || (decide (a = b) && columnsLe as bs)

theorem columnsLe_cons {a b : Int} {as bs : List Int} :
    columnsLe (a :: as) (b :: bs) = true ↔ a < b ∨ a = b ∧ columnsLe as bs = true := by
  simp [columnsLe]

@[simp] theorem columnsLe_refl (as : List Int) : columnsLe as as = true := by
  induction as with
  | nil => rfl
  | cons a as inductionHypothesis => simp [columnsLe, inductionHypothesis]

theorem columnsLe_pair {a b c d : Int} :
    columnsLe [a, b] [c, d] = true ↔ a < c ∨ a = c ∧ b ≤ d := by
  rw [columnsLe_cons, columnsLe_cons]
  simp only [columnsLe_refl, and_true]
  omega

theorem columnsLe_total (as bs : List Int) : columnsLe as bs = true ∨ columnsLe bs as = true := by
  induction as generalizing bs with
  | nil => exact .inl rfl
  | cons a as inductionHypothesis =>
    cases bs with
    | nil => exact .inr rfl
    | cons b bs =>
      rw [columnsLe_cons, columnsLe_cons]
      rcases lt_trichotomy a b with below | rfl | above
      · exact .inl (.inl below)
      · exact (inductionHypothesis bs).imp (fun le => .inr ⟨rfl, le⟩) fun le => .inr ⟨rfl, le⟩
      · exact .inr (.inl above)

theorem columnsLe_trans {as bs cs : List Int} (first : columnsLe as bs = true)
    (second : columnsLe bs cs = true) : columnsLe as cs = true := by
  induction as generalizing bs cs with
  | nil => rfl
  | cons a as inductionHypothesis =>
    cases bs with
    | nil => cases first
    | cons b bs =>
      cases cs with
      | nil => cases second
      | cons c cs =>
        rw [columnsLe_cons] at first second ⊢
        rcases first with below | ⟨rfl, rest⟩ <;> rcases second with below' | ⟨rfl, rest'⟩
        · exact .inl (lt_trans below below')
        · exact .inl below
        · exact .inl below'
        · exact .inr ⟨rfl, inductionHypothesis rest rest'⟩

theorem columnsLe_antisymm {as bs : List Int} (first : columnsLe as bs = true)
    (second : columnsLe bs as = true) : as = bs := by
  induction as generalizing bs with
  | nil =>
    cases bs with
    | nil => rfl
    | cons => cases second
  | cons a as inductionHypothesis =>
    cases bs with
    | nil => cases first
    | cons b bs =>
      rw [columnsLe_cons] at first second
      rcases first with below | ⟨rfl, rest⟩
      · omega
      · rcases second with above | ⟨_, rest'⟩
        · omega
        · rw [inductionHypothesis rest rest']

/-- `ORDER BY` the columns of `key`. -/
def orderBy (key : α → List Int) (rows : List α) : List α :=
  rows.insertionSort fun a b => columnsLe (key a) (key b) = true

/-- `DISTINCT ON (key)`. -/
def distinctOn [DecidableEq κ] (key : α → κ) : List α → List α
  | [] => []
  | row :: rows => row :: (distinctOn key rows).filter fun other => decide (key other ≠ key row)

@[simp] theorem mem_orderBy {key : α → List Int} {rows : List α} {row : α} :
    row ∈ orderBy key rows ↔ row ∈ rows :=
  List.mem_insertionSort _

theorem orderBy_perm (key : α → List Int) (rows : List α) : (orderBy key rows).Perm rows :=
  List.perm_insertionSort _ rows

theorem nodup_orderBy (key : α → List Int) {rows : List α} (distinct : rows.Nodup) :
    (orderBy key rows).Nodup :=
  (orderBy_perm key rows).nodup_iff.mpr distinct

theorem orderBy_sorted (key : α → List Int) (rows : List α) :
    (orderBy key rows).Pairwise fun a b => columnsLe (key a) (key b) = true := by
  have total : Std.Total fun a b : α => columnsLe (key a) (key b) = true :=
    ⟨fun a b => columnsLe_total (key a) (key b)⟩
  have transitive : IsTrans α fun a b => columnsLe (key a) (key b) = true :=
    ⟨fun a b c => columnsLe_trans⟩
  exact List.pairwise_insertionSort _ rows

/-- `ORDER BY … LIMIT 1`. -/
theorem head?_orderBy {key : α → List Int} {rows : List α} {row : α}
    (first : (orderBy key rows).head? = some row) :
    row ∈ rows ∧ ∀ other ∈ rows, columnsLe (key row) (key other) = true := by
  have sorted := orderBy_sorted key rows
  have present : ∀ other, other ∈ orderBy key rows ↔ other ∈ rows := fun _ => mem_orderBy
  cases ordered : orderBy key rows with
  | nil =>
    rw [ordered] at first
    cases first
  | cons head rest =>
    rw [ordered] at first sorted present
    cases first
    refine ⟨(present row).mp List.mem_cons_self, fun other member => ?_⟩
    rcases List.mem_cons.mp ((present other).mpr member) with rfl | later
    · exact columnsLe_refl _
    · exact (List.pairwise_cons.mp sorted).1 other later

theorem head?_orderBy_isSome {key : α → List Int} {rows : List α} {row : α}
    (present : row ∈ rows) : ∃ first, (orderBy key rows).head? = some first := by
  have member : row ∈ orderBy key rows := mem_orderBy.mpr present
  cases ordered : orderBy key rows with
  | nil =>
    rw [ordered] at member
    cases member
  | cons head rest => exact ⟨head, rfl⟩

/-- A row that `ORDER BY … LIMIT 1` may return. -/
structure First (key : α → List Int) (rows : List α) (row : α) : Prop where
  member : row ∈ rows
  least : ∀ other ∈ rows, columnsLe (key row) (key other) = true

theorem exists_first {key : α → List Int} {rows : List α} {row : α} (present : row ∈ rows) :
    ∃ first, First key rows first := by
  obtain ⟨first, found⟩ := head?_orderBy_isSome present
  have leads := head?_orderBy found
  exact ⟨first, leads.1, leads.2⟩

/-- Every row that may come first has a property exactly if every row without it loses to one
that has it. -/
theorem forall_first_iff {key : α → List Int} {rows : List α} {property : α → Prop} :
    (∀ row, First key rows row → property row) ↔
      ∀ row ∈ rows, ¬ property row →
        ∃ other ∈ rows, property other ∧ ¬ columnsLe (key row) (key other) = true := by
  constructor
  · intro holds row present lacks
    obtain ⟨first, leads⟩ := exists_first present
    refine ⟨first, leads.member, holds first leads, fun ties => lacks ?_⟩
    exact holds row ⟨present, fun other member => columnsLe_trans ties (leads.least other member)⟩
  · intro loses row leads
    by_contra lacks
    obtain ⟨other, member, _, beats⟩ := loses row leads.member lacks
    exact beats (leads.least other member)

/-- Rows without repetitions whose columns tell them apart come out in one order. -/
theorem orderBy_eq_iff {key : α → List Int} {first second : List α} (injective :
    ∀ a ∈ first, ∀ b ∈ second, key a = key b → a = b) (firstNodup : first.Nodup)
    (secondNodup : second.Nodup) :
    orderBy key first = orderBy key second ↔ ∀ row, row ∈ first ↔ row ∈ second := by
  constructor
  · intro same row
    have moved : row ∈ orderBy key first ↔ row ∈ orderBy key second := by rw [same]
    simpa using moved
  · intro sameRows
    have perm : (orderBy key first).Perm (orderBy key second) :=
      ((orderBy_perm key first).trans ((List.perm_ext_iff_of_nodup firstNodup secondNodup).mpr
        sameRows)).trans (orderBy_perm key second).symm
    refine perm.eq_of_pairwise (fun a b inFirst inSecond below above => ?_)
      (orderBy_sorted key first) (orderBy_sorted key second)
    rw [mem_orderBy] at inFirst inSecond
    exact injective a inFirst b inSecond (columnsLe_antisymm below above)

/-- `WHERE` and `ORDER BY` in either order, where the columns tell the rows apart. -/
theorem orderBy_filter {key : α → List Int} {rows : List α} (condition : α → Bool)
    (injective : ∀ a ∈ rows, ∀ b ∈ rows, key a = key b → a = b) :
    orderBy key (rows.filter condition) = (orderBy key rows).filter condition := by
  have perm : (orderBy key (rows.filter condition)).Perm ((orderBy key rows).filter condition) :=
    (orderBy_perm key _).trans ((orderBy_perm key rows).filter condition).symm
  refine perm.eq_of_pairwise (fun a b inFirst inSecond below above => ?_)
    (orderBy_sorted key _) ((orderBy_sorted key rows).filter condition)
  rw [mem_orderBy] at inFirst
  rw [List.mem_filter, mem_orderBy] at inSecond
  exact injective a (List.mem_of_mem_filter inFirst) b inSecond.1 (columnsLe_antisymm below above)

/-- Rows computed from others come in an order of the others. -/
theorem exists_perm_of_perm_map {β : Type v} {compute : α → β} {rows : List α}
    {computed : List β} (perm : computed.Perm (rows.map compute)) :
    ∃ ordered : List α, ordered.Perm rows ∧ ordered.map compute = computed := by
  generalize image : rows.map compute = mapped at perm
  induction perm generalizing rows with
  | nil =>
    rw [List.map_eq_nil_iff] at image
    exact ⟨[], by rw [image], rfl⟩
  | cons value _ inductionHypothesis =>
    obtain ⟨row, others, rfl, rfl, rest⟩ := List.map_eq_cons_iff.mp image
    obtain ⟨ordered, perm, rfl⟩ := inductionHypothesis rest
    exact ⟨row :: ordered, perm.cons row, rfl⟩
  | swap first second rest =>
    obtain ⟨row, others, rfl, rfl, tail⟩ := List.map_eq_cons_iff.mp image
    obtain ⟨row', others', rfl, rfl, rfl⟩ := List.map_eq_cons_iff.mp tail
    exact ⟨row' :: row :: others', .swap row row' others', rfl⟩
  | trans _ _ first second =>
    obtain ⟨middle, middlePerm, rfl⟩ := second image
    obtain ⟨ordered, perm, computed⟩ := first rfl
    exact ⟨ordered, perm.trans middlePerm, computed⟩

section Distinct

variable [DecidableEq κ] {key : α → κ} {rows : List α} {row : α}

theorem mem_of_mem_distinctOn (kept : row ∈ distinctOn key rows) : row ∈ rows := by
  induction rows with
  | nil => exact kept
  | cons first rows inductionHypothesis =>
    rw [distinctOn, List.mem_cons] at kept
    rcases kept with rfl | later
    · exact List.mem_cons_self
    · exact List.mem_cons_of_mem _ (inductionHypothesis (List.mem_of_mem_filter later))

/-- A row that is alone with its key is kept. -/
theorem mem_distinctOn_of_alone (present : row ∈ rows)
    (alone : ∀ other ∈ rows, key other = key row → other = row) : row ∈ distinctOn key rows := by
  induction rows with
  | nil => cases present
  | cons first rows inductionHypothesis =>
    rw [distinctOn, List.mem_cons]
    rcases List.mem_cons.mp present with rfl | later
    · exact .inl rfl
    · by_cases same : key row = key first
      · exact .inl (alone first List.mem_cons_self same.symm).symm
      · have kept := inductionHypothesis later fun other member =>
          alone other (List.mem_cons_of_mem _ member)
        exact .inr (List.mem_filter.mpr ⟨kept, decide_eq_true same⟩)

theorem mem_distinctOn_of_injective
    (injective : ∀ a ∈ rows, ∀ b ∈ rows, key a = key b → a = b) :
    row ∈ distinctOn key rows ↔ row ∈ rows :=
  ⟨mem_of_mem_distinctOn, fun present => mem_distinctOn_of_alone present
    fun other member same => injective other member row present same⟩

theorem mem_distinctOn_id {values : List κ} {value : κ} :
    value ∈ distinctOn id values ↔ value ∈ values :=
  mem_distinctOn_of_injective fun _ _ _ _ same => same

/-- Every key keeps a row. -/
theorem exists_mem_distinctOn (present : row ∈ rows) :
    ∃ kept ∈ distinctOn key rows, key kept = key row := by
  induction rows with
  | nil => cases present
  | cons first rows inductionHypothesis =>
    simp only [distinctOn, List.mem_cons, List.mem_filter, decide_eq_true_eq]
    by_cases same : key row = key first
    · exact ⟨first, .inl rfl, same.symm⟩
    · have later : row ∈ rows := by
        rcases List.mem_cons.mp present with rfl | later
        · exact absurd rfl same
        · exact later
      obtain ⟨kept, member, sameKey⟩ := inductionHypothesis later
      exact ⟨kept, .inr ⟨member, fun isFirst => same (sameKey.symm.trans isFirst)⟩, sameKey⟩

theorem distinctOn_pairwise (key : α → κ) (rows : List α) :
    (distinctOn key rows).Pairwise fun a b => key a ≠ key b := by
  induction rows with
  | nil => exact .nil
  | cons first rows inductionHypothesis =>
    rw [distinctOn, List.pairwise_cons]
    refine ⟨fun other later => ?_, inductionHypothesis.filter _⟩
    have different := (List.mem_filter.mp later).2
    exact (of_decide_eq_true different).symm

/-- Rows of different keys all stay. -/
theorem distinctOn_of_pairwise (apart : rows.Pairwise fun a b => key a ≠ key b) :
    distinctOn key rows = rows := by
  induction apart with
  | nil => rfl
  | cons first _ inductionHypothesis =>
    rw [distinctOn, inductionHypothesis, List.filter_eq_self.mpr]
    intro other later
    simpa using (first other later).symm

/-- Of sorted rows, the row kept for a key is the least one. -/
theorem mem_distinctOn_iff {before : α → α → Prop} (sorted : rows.Pairwise before)
    (antisymm : ∀ a b, key a = key b → before a b → before b a → a = b)
    (reflexive : ∀ a, before a a) :
    row ∈ distinctOn key rows ↔
      row ∈ rows ∧ ∀ other ∈ rows, key other = key row → before row other := by
  induction rows with
  | nil => simp [distinctOn]
  | cons first rows inductionHypothesis =>
    rw [List.pairwise_cons] at sorted
    rw [distinctOn, List.mem_cons, List.mem_filter, inductionHypothesis sorted.2,
      decide_eq_true_eq]
    constructor
    · rintro (rfl | ⟨⟨present, least⟩, different⟩)
      · refine ⟨List.mem_cons_self, fun other member _ => ?_⟩
        rcases List.mem_cons.mp member with rfl | later
        · exact reflexive other
        · exact sorted.1 other later
      · refine ⟨List.mem_cons_of_mem _ present, fun other member same => ?_⟩
        rcases List.mem_cons.mp member with rfl | later
        · exact absurd same.symm different
        · exact least other later same
    · rintro ⟨present, least⟩
      by_cases same : key row = key first
      · left
        have below := least first List.mem_cons_self same.symm
        rcases List.mem_cons.mp present with rfl | later
        · rfl
        · exact antisymm row first same below (sorted.1 row later)
      · right
        rcases List.mem_cons.mp present with rfl | later
        · exact absurd rfl same
        · exact ⟨⟨later, fun other member => least other (List.mem_cons_of_mem _ member)⟩, same⟩

end Distinct

end Relational
