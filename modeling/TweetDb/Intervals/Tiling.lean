import Mathlib.Algebra.GroupWithZero.Nat
import Mathlib.Data.List.Basic

/-! # Tilings

`Tiles from spans upTo` says that half-open spans follow one another from `from`
to `upTo` without a gap.  Such spans are in order and pairwise disjoint, hold
every position of the line in exactly one place, and their slices of a list make
up the list.
-/

namespace Intervals

universe u

variable {α : Type u}

/-- The positions from `start` on and before `stop`. -/
structure Span where
  start : Nat
  stop : Nat
deriving DecidableEq, Repr

namespace Span

def Holds (span : Span) (position : Nat) : Prop := span.start ≤ position ∧ position < span.stop

instance (span : Span) (position : Nat) : Decidable (span.Holds position) :=
  inferInstanceAs (Decidable (_ ∧ _))

def slice (xs : List α) (span : Span) : List α :=
  (xs.drop span.start).take (span.stop - span.start)

end Span

def Tiles : Nat → List Span → Nat → Prop
  | cursor, [], upTo => cursor = upTo
  | cursor, span :: spans, upTo =>
    span.start = cursor ∧ span.start ≤ span.stop ∧ Tiles span.stop spans upTo

variable {cursor middle upTo : Nat} {spans others : List Span}

@[simp] theorem tiles_nil : Tiles cursor [] upTo ↔ cursor = upTo := Iff.rfl

@[simp] theorem tiles_cons {span : Span} : Tiles cursor (span :: spans) upTo ↔
    span.start = cursor ∧ span.start ≤ span.stop ∧ Tiles span.stop spans upTo := Iff.rfl

theorem Tiles.append (first : Tiles cursor spans middle) (second : Tiles middle others upTo) :
    Tiles cursor (spans ++ others) upTo := by
  induction spans generalizing cursor with
  | nil =>
    cases first
    exact second
  | cons span spans inductionHypothesis =>
    obtain ⟨starts, proper, rest⟩ := first
    exact ⟨starts, proper, inductionHypothesis rest⟩

theorem Tiles.le (tiles : Tiles cursor spans upTo) : cursor ≤ upTo := by
  induction spans generalizing cursor with
  | nil => exact Nat.le_of_eq tiles
  | cons span spans inductionHypothesis =>
    obtain ⟨starts, proper, rest⟩ := tiles
    have later := inductionHypothesis rest
    omega

theorem Tiles.within (tiles : Tiles cursor spans upTo) {span : Span} (member : span ∈ spans) :
    cursor ≤ span.start ∧ span.start ≤ span.stop ∧ span.stop ≤ upTo := by
  induction spans generalizing cursor with
  | nil => cases member
  | cons first spans inductionHypothesis =>
    obtain ⟨starts, proper, rest⟩ := tiles
    have later := rest.le
    cases member with
    | head => omega
    | tail _ member =>
      have inside := inductionHypothesis rest member
      omega

/-- The spans are in order, and no two of them overlap. -/
theorem Tiles.ordered (tiles : Tiles cursor spans upTo) :
    spans.Pairwise fun before after => before.stop ≤ after.start := by
  induction spans generalizing cursor with
  | nil => exact .nil
  | cons span spans inductionHypothesis =>
    obtain ⟨_, _, rest⟩ := tiles
    exact .cons (fun other member => (rest.within member).1) (inductionHypothesis rest)

theorem Tiles.holds_iff (tiles : Tiles cursor spans upTo) {position : Nat} :
    (∃ span ∈ spans, span.Holds position) ↔ cursor ≤ position ∧ position < upTo := by
  induction spans generalizing cursor with
  | nil =>
    cases tiles
    simp
  | cons span spans inductionHypothesis =>
    obtain ⟨starts, proper, rest⟩ := tiles
    have later := rest.le
    rw [List.exists_mem_cons_iff, inductionHypothesis rest, Span.Holds]
    omega

theorem Tiles.contiguous (tiles : Tiles cursor spans upTo) :
    spans.IsChain fun span following => following.start = span.stop := by
  induction spans generalizing cursor with
  | nil => exact .nil
  | cons span spans inductionHypothesis =>
    obtain ⟨_, _, rest⟩ := tiles
    cases spans with
    | nil => exact .singleton span
    | cons following spans => exact .cons_cons rest.1 (inductionHypothesis rest)

theorem Tiles.sum_lengths (tiles : Tiles cursor spans upTo) :
    (spans.map fun span => span.stop - span.start).sum = upTo - cursor := by
  induction spans generalizing cursor with
  | nil =>
    cases tiles
    simp
  | cons span spans inductionHypothesis =>
    obtain ⟨starts, proper, rest⟩ := tiles
    have later := rest.le
    rw [List.map_cons, List.sum_cons, inductionHypothesis rest]
    omega

/-- The slices of the spans, one after the other, are one slice of the list. -/
theorem Tiles.flatten_slices (tiles : Tiles cursor spans upTo) (xs : List α) :
    (spans.map (Span.slice xs)).flatten = Span.slice xs ⟨cursor, upTo⟩ := by
  induction spans generalizing cursor with
  | nil =>
    cases tiles
    simp [Span.slice]
  | cons span spans inductionHypothesis =>
    obtain ⟨rfl, proper, rest⟩ := tiles
    have later := rest.le
    rw [List.map_cons, List.flatten_cons, inductionHypothesis rest]
    have split : upTo - span.start = (span.stop - span.start) + (upTo - span.stop) := by omega
    have behind : xs.drop span.stop = (xs.drop span.start).drop (span.stop - span.start) := by
      rw [List.drop_drop, Nat.add_sub_cancel' proper]
    simp only [Span.slice]
    rw [behind, split, List.take_add]

theorem slice_whole (xs : List α) : Span.slice xs ⟨0, xs.length⟩ = xs := by
  simp [Span.slice]

/-- What a slice holds, by position. -/
theorem mem_slice {xs : List α} {span : Span} {a : α} :
    a ∈ span.slice xs ↔ ∃ position, span.Holds position ∧ xs[position]? = some a := by
  simp only [Span.slice, List.mem_iff_getElem?, List.getElem?_take, List.getElem?_drop]
  constructor
  · intro ⟨i, found⟩
    split at found
    next inside => exact ⟨span.start + i, ⟨by omega, by omega⟩, found⟩
    next => cases found
  · intro ⟨position, inside, found⟩
    refine ⟨position - span.start, ?_⟩
    rw [if_pos (by have := inside.1; have := inside.2; omega), Nat.add_sub_cancel' inside.1, found]

/-! ## Blocks -/

section Blocks

variable {size length k : Nat} {xs : List α}

def block (size length k : Nat) : Span := ⟨min (k * size) length, min ((k + 1) * size) length⟩

/-- A line cut into spans of one size, of which the last may be shorter. -/
def blocks (size length : Nat) : List Span :=
  (List.range ((length + size - 1) / size)).map (block size length)

theorem lt_blocks_iff (positive : 0 < size) :
    k < (length + size - 1) / size ↔ k * size < length := by
  rw [← Nat.succ_le_iff, Nat.le_div_iff_mul_le positive, Nat.succ_mul]
  omega

theorem tiles_blocks (positive : 0 < size) : Tiles 0 (blocks size length) length := by
  -- By induction on the number of blocks: `n` of them reach `n * size`, or the end.
  have partly : ∀ n, Tiles 0 ((List.range n).map (block size length)) (min (n * size) length) := by
    intro n
    induction n with
    | zero => simp
    | succ n inductionHypothesis =>
      rw [List.range_succ, List.map_append]
      refine inductionHypothesis.append ⟨rfl, ?_, rfl⟩
      simp only [block, Nat.succ_mul]
      omega
  have whole := partly ((length + size - 1) / size)
  have reaches : length ≤ (length + size - 1) / size * size := by
    by_contra short
    exact Nat.lt_irrefl _ ((lt_blocks_iff positive).mpr (Nat.lt_of_not_le short))
  rwa [Nat.min_eq_right reaches] at whole

theorem slice_block (xs : List α) (k : Nat) :
    (block size xs.length k).slice xs = (xs.drop (k * size)).take size := by
  by_cases inside : k * size ≤ xs.length
  · simp only [Span.slice, block, Nat.min_eq_left inside, List.take_eq_take_iff,
      List.length_drop, Nat.succ_mul]
    omega
  · have outside : xs.length ≤ k * size := Nat.le_of_not_le inside
    rw [Span.slice, block, Nat.min_eq_right outside, List.drop_eq_nil_of_le outside]
    simp

theorem getElem?_slice_blocks (positive : 0 < size) :
    ((blocks size xs.length).map (Span.slice xs))[k]? =
      if (xs.drop (k * size)).take size = [] then none
      else some ((xs.drop (k * size)).take size) := by
  have empty : (xs.drop (k * size)).take size = [] ↔ ¬ k * size < xs.length := by
    rw [List.take_eq_nil_iff, List.drop_eq_nil_iff]
    omega
  rw [List.getElem?_map, blocks, List.getElem?_map, ← slice_block]
  by_cases inside : k * size < xs.length
  · rw [List.getElem?_range ((lt_blocks_iff positive).mpr inside), slice_block,
      if_neg (mt empty.mp (not_not_intro inside))]
    simp [slice_block]
  · have outside : ¬ k < (xs.length + size - 1) / size := mt (lt_blocks_iff positive).mp inside
    rw [List.getElem?_eq_none (by simp; omega), slice_block, if_pos (empty.mpr inside)]
    rfl

theorem length_slice_block (xs : List α) (k : Nat) :
    ((block size xs.length k).slice xs).length = min size (xs.length - k * size) := by
  rw [slice_block, List.length_take, List.length_drop]

theorem length_slice_blocks (positive : 0 < size) :
    ∀ part ∈ (blocks size xs.length).map (Span.slice xs), part ≠ [] ∧ part.length ≤ size := by
  intro part member
  obtain ⟨span, isBlock, rfl⟩ := List.mem_map.mp member
  obtain ⟨k, isIndex, rfl⟩ := List.mem_map.mp isBlock
  have inside := (lt_blocks_iff positive).mp (List.mem_range.mp isIndex)
  have length : ((block size xs.length k).slice xs).length = _ := length_slice_block xs k
  rw [← List.length_pos_iff]
  omega

theorem length_slice_dropLast_blocks (positive : 0 < size) :
    ∀ part ∈ ((blocks size xs.length).map (Span.slice xs)).dropLast, part.length = size := by
  intro part member
  rw [← List.map_dropLast, blocks, ← List.map_dropLast, List.dropLast_eq_take, List.length_range,
    List.take_range] at member
  obtain ⟨span, isBlock, rfl⟩ := List.mem_map.mp member
  obtain ⟨k, isIndex, rfl⟩ := List.mem_map.mp isBlock
  have before := List.mem_range.mp isIndex
  -- The block behind this one is not empty.
  have inside := (lt_blocks_iff positive).mp (by omega : k + 1 < (xs.length + size - 1) / size)
  rw [length_slice_block]
  rw [Nat.succ_mul] at inside
  omega

end Blocks

end Intervals
