import Mathlib.Data.List.Basic
import Mathlib.Data.List.DropRight

/-! # The inner part of a list

What is left of a list without the elements at its two ends that are not kept,
and the inner parts of its prefixes.
-/

namespace TweetDb

section Bounds

variable {α : Type} {keeps : α → Bool}

/-- From the first to the last element that is kept. -/
def inner (keeps : α → Bool) (values : List α) : List α :=
  (values.dropWhile fun value => !keeps value).rdropWhile fun value => !keeps value

/-- A list that starts and ends with elements that are kept. -/
def IsInner (keeps : α → Bool) (values : List α) : Prop :=
  (∃ first, values.head? = some first ∧ keeps first = true) ∧
    ∃ last, values.getLast? = some last ∧ keeps last = true

theorem IsInner.ne_nil {values : List α} (isInner : IsInner keeps values) : values ≠ [] := by
  rintro rfl
  obtain ⟨⟨first, isFirst, -⟩, -⟩ := isInner
  cases isFirst

/-! ## Removing one end -/

variable {drops : α → Bool}

/-- Nothing beyond the first element that stays is dropped. -/
theorem dropWhile_append_kept {before rest : List α} {first : α}
    (isFirst : rest.head? = some first) (stays : drops first = false) :
    (before ++ rest).dropWhile drops = before.dropWhile drops ++ rest := by
  obtain ⟨rest, rfl⟩ := List.head?_eq_some_iff.mp isFirst
  induction before with
  | nil => simp [stays]
  | cons value before ih =>
    cases dropped : drops value with
    | true => simpa [dropped] using ih
    | false => simp [dropped]

theorem rdropWhile_append_kept {before rest : List α} {last : α}
    (isLast : before.getLast? = some last) (stays : drops last = false) :
    (before ++ rest).rdropWhile drops = before ++ rest.rdropWhile drops := by
  rw [List.rdropWhile, List.rdropWhile, List.reverse_append,
    dropWhile_append_kept (by simpa using isLast) stays, List.reverse_append, List.reverse_reverse]

/-! ## The inner part -/

/-- A list with its inner part, and nothing kept on either side of it. -/
def HasInner (keeps : α → Bool) (values core : List α) : Prop :=
  IsInner keeps core ∧ ∃ before after, values = before ++ core ++ after ∧
    (∀ value ∈ before, keeps value = false) ∧ ∀ value ∈ after, keeps value = false

theorem HasInner.inner_eq {values core : List α} (hasInner : HasInner keeps values core) :
    inner keeps values = core := by
  obtain ⟨⟨⟨first, isFirst, firstKept⟩, last, isLast, lastKept⟩,
    before, after, rfl, opens, closes⟩ := hasInner
  have nothingBefore : before.dropWhile (fun value => !keeps value) = [] :=
    List.dropWhile_eq_nil_iff.mpr fun value given => by simp [opens value given]
  have nothingAfter : after.rdropWhile (fun value => !keeps value) = [] :=
    List.rdropWhile_eq_nil_iff.mpr fun value given => by simp [closes value given]
  have startsRest : (core ++ after).head? = some first := by simp [isFirst]
  rw [inner, List.append_assoc, dropWhile_append_kept startsRest (by simp [firstKept]),
    nothingBefore, List.nil_append, rdropWhile_append_kept isLast (by simp [lastKept]),
    nothingAfter, List.append_nil]

theorem HasInner.dropWhile {values core : List α} (hasInner : HasInner keeps values core)
    (drops : α → Bool) (spares : ∀ value, keeps value = true → drops value = false) :
    HasInner keeps (values.dropWhile drops) core := by
  obtain ⟨isInner, before, after, rfl, opens, closes⟩ := hasInner
  obtain ⟨⟨first, isFirst, firstKept⟩, -⟩ := id isInner
  refine ⟨isInner, before.dropWhile drops, after, ?_, fun value given => opens value
    ((List.dropWhile_sublist _).subset given), closes⟩
  have startsRest : (core ++ after).head? = some first := by simp [isFirst]
  rw [List.append_assoc, dropWhile_append_kept startsRest (spares first firstKept),
    List.append_assoc]

theorem HasInner.rdropWhile {values core : List α} (hasInner : HasInner keeps values core)
    (drops : α → Bool) (spares : ∀ value, keeps value = true → drops value = false) :
    HasInner keeps (values.rdropWhile drops) core := by
  obtain ⟨isInner, before, after, rfl, opens, closes⟩ := hasInner
  obtain ⟨-, last, isLast, lastKept⟩ := id isInner
  refine ⟨isInner, before, after.rdropWhile drops, ?_, opens, fun value given => closes value
    ((List.rdropWhile_prefix _ _).subset given)⟩
  have endsStart : (before ++ core).getLast? = some last := by simp [isLast]
  exact rdropWhile_append_kept endsStart (spares last lastKept)

theorem inner_subset (values : List α) : inner keeps values ⊆ values :=
  List.Subset.trans (List.rdropWhile_prefix _ _).subset (List.dropWhile_sublist _).subset

theorem isInner_inner {values : List α} (notEmpty : inner keeps values ≠ []) :
    IsInner keeps (inner keeps values) := by
  constructor
  · have isPrefix : inner keeps values <+: values.dropWhile fun value => !keeps value :=
      List.rdropWhile_prefix _ _
    obtain ⟨first, rest, shape⟩ := List.exists_cons_of_ne_nil notEmpty
    obtain ⟨removed, started⟩ := isPrefix
    have head := List.head?_dropWhile_not (fun value => !keeps value) values
    rw [← started, shape, List.cons_append, List.head?_cons] at head
    exact ⟨first, by simp [shape], by simpa using head⟩
  · have last := List.rdropWhile_last_not (fun value => !keeps value) _ notEmpty
    exact ⟨_, List.getLast?_eq_some_getLast notEmpty, by simpa [inner] using last⟩

/-- A list with an element that is kept has an inner part. -/
theorem hasInner_of_mem {values : List α} {value : α} (given : value ∈ values)
    (kept : keeps value = true) : HasInner keeps values (inner keeps values) := by
  have opens : ∀ value ∈ values.takeWhile (fun value => !keeps value), keeps value = false :=
    fun value given => by simpa using List.mem_takeWhile_imp given
  have closes : ∀ value ∈ (values.dropWhile fun value => !keeps value).rtakeWhile
      (fun value => !keeps value), keeps value = false :=
    fun value given => by simpa using List.mem_rtakeWhile_imp given
  have split : values = values.takeWhile (fun value => !keeps value) ++ inner keeps values ++
      (values.dropWhile fun value => !keeps value).rtakeWhile (fun value => !keeps value) := by
    rw [List.append_assoc, inner, List.rdropWhile_append_rtakeWhile,
      List.takeWhile_append_dropWhile]
  -- An empty inner part would leave the element no place.
  refine ⟨isInner_inner fun none => ?_, _, _, split, opens, closes⟩
  rw [none, List.append_nil] at split
  rw [split] at given
  rcases List.mem_append.mp given with given | given
  · rw [opens value given] at kept
    cases kept
  · rw [closes value given] at kept
    cases kept

/-- What follows a list extends its inner part at the end. -/
theorem HasInner.append {values core : List α} (hasInner : HasInner keeps values core)
    (more : List α) : ∃ tail, HasInner keeps (values ++ more) (core ++ tail) := by
  obtain ⟨⟨⟨first, isFirst, firstKept⟩, last, isLast, lastKept⟩,
    before, after, rfl, opens, closes⟩ := hasInner
  have given : first ∈ before ++ core ++ after ++ more := by
    have inCore := List.mem_of_head? isFirst
    simp [inCore]
  refine ⟨(after ++ more).rdropWhile fun value => !keeps value, ?_⟩
  -- The inner part of the longer list starts where that of the shorter one does.
  have whole := hasInner_of_mem given firstKept
  have nothingBefore : before.dropWhile (fun value => !keeps value) = [] :=
    List.dropWhile_eq_nil_iff.mpr fun value given => by simp [opens value given]
  have startsRest : (core ++ (after ++ more)).head? = some first := by simp [isFirst]
  have shape : inner keeps (before ++ core ++ after ++ more) =
      core ++ (after ++ more).rdropWhile fun value => !keeps value := by
    rw [inner, List.append_assoc, List.append_assoc,
      dropWhile_append_kept startsRest (by simp [firstKept]), nothingBefore, List.nil_append,
      rdropWhile_append_kept isLast (by simp [lastKept])]
  rwa [shape] at whole

/-! ## Inner parts of prefixes -/

section Prefixes

variable {before rest : List α} {first : α} (opens : ∀ value ∈ before, keeps value = false)
  (isFirst : rest.head? = some first) (firstKept : keeps first = true)

include opens isFirst firstKept

/-- What is in front of the first element that is kept does not matter. -/
theorem inner_take (count : Nat) :
    inner keeps ((before ++ rest).take count) =
      (rest.take (count - before.length)).rdropWhile fun value => !keeps value := by
  have dropped : ∀ value ∈ before.take count, (!keeps value) = true :=
    fun value given => by simp [opens value (List.mem_of_mem_take given)]
  rw [inner, List.take_append, List.dropWhile_append_of_pos dropped]
  congr 1
  cases left : count - before.length with
  | zero => rfl
  | succ left =>
    obtain ⟨rest, rfl⟩ := List.head?_eq_some_iff.mp isFirst
    simp [firstKept]

theorem inner_take_prefix (count : Nat) : inner keeps ((before ++ rest).take count) <+: rest := by
  rw [inner_take opens isFirst firstKept]
  exact (List.rdropWhile_prefix _ _).trans (List.take_prefix _ _)

/-- An inner part ends within the prefix. -/
theorem length_inner_take {count : Nat} (notEmpty : inner keeps ((before ++ rest).take count) ≠ []) :
    before.length + (inner keeps ((before ++ rest).take count)).length ≤ count := by
  rw [inner_take opens isFirst firstKept] at notEmpty ⊢
  have short := (List.rdropWhile_prefix (fun value => !keeps value)
    (rest.take (count - before.length))).length_le
  have some : 0 < count - before.length := by
    by_contra none
    have zero : count - before.length = 0 := by omega
    simp [zero] at notEmpty
  rw [List.length_take] at short
  omega

end Prefixes

end Bounds

end TweetDb
