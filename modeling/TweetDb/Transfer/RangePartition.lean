import Mathlib.Algebra.Order.BigOperators.Group.Finset
import Mathlib.Order.Interval.Finset.Nat
import TweetDb.Transfer.Range
import TweetDb.Transition.Loop

/-! # The plan of the ranges

The loop of `build_range_specs` on `u64` and `i32`: it never leaves these types,
it ends, and its ranges are a partition of what follows the first buffer.
-/

namespace TweetDb.Transfer

open Intervals Transition

/-- Why the loop has no ranges: an error of the source, or arithmetic that leaves its type. -/
inductive SpecFault where
  | upstream (message : String)
  | arithmetic
deriving DecidableEq, Repr

/-- `a - b` on `u64`. -/
def checkedSub (a b : Nat) : Except SpecFault Nat :=
  if b ≤ a then .ok (a - b) else .error .arithmetic

/-- `n + 1` on `i32`. -/
def checkedSucc (n : Nat) : Except SpecFault Nat :=
  if n + 1 < 2 ^ 31 then .ok (n + 1) else .error .arithmetic

/-- The variables of the loop. -/
structure SpecLoop where
  specs : List RangeSpec
  cursor : Nat
  partNumber : Nat
deriving DecidableEq, Repr

/-- One turn of `while cursor < content_length`. -/
def specTurn (contentLength chunkSize : Nat) (loop : SpecLoop) :
    Turn SpecLoop (Except SpecFault (List RangeSpec)) :=
  if loop.cursor < contentLength then
    match ensureValidPartNumber loop.partNumber with
    | .error message => .leave (.error (.upstream message))
    | .ok () =>
      -- `cursor.saturating_add(chunk_size).min(content_length)`
      let nextCursor := min (min (loop.cursor + chunkSize) (2 ^ 64 - 1)) contentLength
      match checkedSub nextCursor 1, checkedSucc loop.partNumber with
      | .ok endInclusive, .ok partNumber =>
        .next ⟨loop.specs ++ [⟨loop.partNumber, loop.cursor, endInclusive⟩], nextCursor, partNumber⟩
      | .error fault, _ => .leave (.error fault)
      | _, .error fault => .leave (.error fault)
  else .leave (.ok loop.specs)

variable {startOffset contentLength chunkSize : Nat} {specs : List RangeSpec}

/-- From any turn on, the loop leaves with the ranges made so far and those still to come. -/
theorem leaves_specTurn {fuel cursor partNumber : Nat} (positive : 1 ≤ chunkSize)
    (enough : partNumber + fuel = 10002) (first : 1 ≤ partNumber) (valid : partNumber ≤ 10001) :
    Leaves (specTurn contentLength chunkSize) ⟨specs, cursor, partNumber⟩
      (((buildRangeSpecsFrom contentLength chunkSize fuel cursor partNumber).map
        fun others => specs ++ others).mapError .upstream) := by
  induction fuel generalizing specs cursor partNumber with
  | zero => omega
  | succ fuel inductionHypothesis =>
    rw [buildRangeSpecsFrom]
    split
    next inside =>
      by_cases within : partNumber ≤ 10000
      · -- The numbers stay far from the ends of their types.
        have ensured : ensureValidPartNumber partNumber = .ok () := if_pos ⟨first, within⟩
        let nextCursor := min (min (cursor + chunkSize) (2 ^ 64 - 1)) contentLength
        have isEnd : checkedSub nextCursor 1 = .ok (nextCursor - 1) := if_pos (by omega)
        have isNumber : checkedSucc partNumber = .ok (partNumber + 1) := if_pos (by omega)
        have taken : specTurn contentLength chunkSize ⟨specs, cursor, partNumber⟩ = .next
            ⟨specs ++ [⟨partNumber, cursor, nextCursor - 1⟩], nextCursor, partNumber + 1⟩ := by
          simp only [specTurn, inside, if_true, ensured, isEnd, isNumber, nextCursor]
        have rest := @inductionHypothesis (specs ++ [⟨partNumber, cursor, nextCursor - 1⟩])
          nextCursor (partNumber + 1) (by omega) (by omega) (by omega)
        rw [ensured]
        refine .next taken ?_
        convert rest using 2
        simp only [Except.bind, nextCursor]
        cases buildRangeSpecsFrom contentLength chunkSize fuel
            (min (min (cursor + chunkSize) (2 ^ 64 - 1)) contentLength) (partNumber + 1) with
        | error message => rfl
        | ok others => simp [Except.map]
      · have refused : ensureValidPartNumber partNumber =
            .error "multipart upload exceeded the S3 10000 part limit" :=
          if_neg fun bounds => within bounds.2
        rw [refused]
        exact .last (by simp [specTurn, inside, refused, Except.bind, Except.map, Except.mapError])
    next outside =>
      refine .last ?_
      simp [specTurn, outside, Except.map, Except.mapError]

/-- The ranges a plan consists of. -/
structure RangePartition (startOffset contentLength chunkSize : Nat) (specs : List RangeSpec) :
    Prop where
  nonempty : ∀ spec ∈ specs, spec.start ≤ spec.endInclusive
  contiguous : specs.IsChain fun spec following => following.start = spec.endInclusive + 1
  disjoint : specs.Pairwise fun spec later => spec.endInclusive < later.start
  small : ∀ spec ∈ specs, spec.len ≤ chunkSize
  covers : ∀ position, (∃ spec ∈ specs, spec.start ≤ position ∧ position ≤ spec.endInclusive) ↔
    startOffset ≤ position ∧ position < contentLength
  numbered : specs.map RangeSpec.partNumber = List.range' 2 specs.length

theorem rangePartition_of_ok (positive : 1 ≤ chunkSize) (fits : contentLength < 2 ^ 64)
    (built : buildRangeSpecs startOffset contentLength chunkSize = .ok specs) :
    RangePartition startOffset contentLength chunkSize specs := by
  have tiles := buildRangeSpecs_tiles positive fits built
  obtain ⟨numbered, each⟩ := buildRangeSpecs_each positive fits built
  constructor
  case nonempty => exact fun spec member => (each spec member).1
  case contiguous => exact (List.isChain_map _).mp tiles.contiguous
  case disjoint => exact (List.pairwise_map.mp tiles.ordered).imp Nat.lt_of_succ_le
  case small => exact fun spec member => (each spec member).2.1
  case covers =>
    intro position
    have holds := @Tiles.holds_iff _ _ _ tiles position
    simp only [List.mem_map, exists_exists_and_eq_and, Span.Holds, RangeSpec.span,
      Nat.lt_succ_iff] at holds
    rw [holds]
    omega
  case numbered => exact numbered

/-- There are enough ranges for the bytes. -/
theorem RangePartition.length_le (plan : RangePartition startOffset contentLength chunkSize specs) :
    contentLength - startOffset ≤ specs.length * chunkSize := by
  have covered : Finset.Ico startOffset contentLength ⊆
      specs.toFinset.biUnion fun spec => Finset.Icc spec.start spec.endInclusive := by
    intro position inside
    obtain ⟨spec, member, holds⟩ := (plan.covers position).mpr (Finset.mem_Ico.mp inside)
    exact Finset.mem_biUnion.mpr ⟨spec, List.mem_toFinset.mpr member, Finset.mem_Icc.mpr holds⟩
  calc contentLength - startOffset
      = (Finset.Ico startOffset contentLength).card := (Nat.card_Ico ..).symm
    _ ≤ (specs.toFinset.biUnion fun spec => Finset.Icc spec.start spec.endInclusive).card :=
        Finset.card_le_card covered
    _ ≤ specs.toFinset.card * chunkSize := by
        apply Finset.card_biUnion_le_card_mul
        intro spec member
        have nonempty := plan.nonempty spec (List.mem_toFinset.mp member)
        have small := plan.small spec (List.mem_toFinset.mp member)
        rw [Nat.card_Icc]
        simp only [RangeSpec.len] at small
        omega
    _ ≤ specs.length * chunkSize := Nat.mul_le_mul_right _ (List.toFinset_card_le _)

theorem RangePartition.exists_number
    (plan : RangePartition startOffset contentLength chunkSize specs) {number : Nat}
    (first : 2 ≤ number) (last : number < 2 + specs.length) :
    ∃ spec ∈ specs, spec.partNumber = number := by
  have member : number ∈ specs.map RangeSpec.partNumber := by
    rw [plan.numbered, List.mem_range'_1]
    exact ⟨first, last⟩
  obtain ⟨spec, isSpec, same⟩ := List.mem_map.mp member
  exact ⟨spec, isSpec, same⟩

/-- With `fuel` part numbers left, the loop fails if what is behind the cursor takes more. -/
theorem buildRangeSpecsFrom_error_iff {fuel cursor partNumber : Nat}
    (fits : contentLength < 2 ^ 64) (enough : partNumber + fuel = 10001)
    (first : 1 ≤ partNumber) :
    (∃ message, buildRangeSpecsFrom contentLength chunkSize (fuel + 1) cursor partNumber =
        .error message) ↔ fuel * chunkSize + cursor < contentLength := by
  induction fuel generalizing cursor partNumber with
  | zero =>
    -- All numbers are used up: any byte left is one too many.
    have refused : ensureValidPartNumber partNumber =
        .error "multipart upload exceeded the S3 10000 part limit" :=
      if_neg fun bounds => by omega
    rw [buildRangeSpecsFrom, refused]
    by_cases inside : cursor < contentLength <;> simp [inside, Except.bind]
  | succ fuel inductionHypothesis =>
    have ensured : ensureValidPartNumber partNumber = .ok () := if_pos ⟨first, by omega⟩
    rw [buildRangeSpecsFrom, ensured]
    by_cases inside : cursor < contentLength
    · have rest := @inductionHypothesis
        (min (min (cursor + chunkSize) (2 ^ 64 - 1)) contentLength) (partNumber + 1)
        (by omega) (by omega)
      have passed : ∀ (specs : Except String (List RangeSpec)) (spec : RangeSpec),
          (∃ message, (specs.map fun others => spec :: others) = .error message) ↔
            ∃ message, specs = .error message := by
        intro specs spec
        cases specs <;> simp [Except.map]
      simp only [inside, if_true, Except.bind]
      rw [passed, rest, Nat.succ_mul]
      omega
    · have long : ¬ (fuel + 1) * chunkSize + cursor < contentLength := by omega
      simp [inside, long]

/-- `build_range_specs` ends without leaving its types; its ranges are a partition, and it fails
exactly if every partition needs a part number above 10000. -/
theorem range_plan_is_partition (positive : 1 ≤ chunkSize) (fits : contentLength < 2 ^ 64) :
    (∀ result, Leaves (specTurn contentLength chunkSize) ⟨[], startOffset, 2⟩ result ↔
      result = (buildRangeSpecs startOffset contentLength chunkSize).mapError .upstream) ∧
    (∀ specs, buildRangeSpecs startOffset contentLength chunkSize = .ok specs →
      RangePartition startOffset contentLength chunkSize specs) ∧
    ((∃ message, buildRangeSpecs startOffset contentLength chunkSize = .error message) ↔
      ∀ specs, RangePartition startOffset contentLength chunkSize specs →
        ∃ spec ∈ specs, 10000 < spec.partNumber) ∧
    ((∃ message, buildRangeSpecs startOffset contentLength chunkSize = .error message) ↔
      9999 * chunkSize < contentLength - startOffset) := by
  have fails : (∃ message, buildRangeSpecs startOffset contentLength chunkSize =
      .error message) ↔ 9999 * chunkSize < contentLength - startOffset := by
    have limit := @buildRangeSpecsFrom_error_iff contentLength chunkSize 9999 startOffset 2
      fits rfl (by decide)
    rw [buildRangeSpecs, limit]
    omega
  refine ⟨fun result => ?_, fun specs => rangePartition_of_ok positive fits, ?_, fails⟩
  · have leaves := @leaves_specTurn contentLength chunkSize [] 10000 startOffset 2 positive rfl
      (by decide) (by decide)
    rw [leaves.iff_eq, buildRangeSpecs]
    cases buildRangeSpecsFrom contentLength chunkSize 10000 startOffset 2 <;> rfl
  · constructor
    -- A partition of that many bytes has more than 9999 ranges, numbered from 2 on.
    · intro failed specs plan
      have long := fails.mp failed
      have short := plan.length_le
      have many : 9999 < specs.length :=
        Nat.lt_of_mul_lt_mul_right (Nat.lt_of_lt_of_le long short)
      obtain ⟨spec, member, isNumber⟩ := plan.exists_number (by decide : 2 ≤ 10001) (by omega)
      exact ⟨spec, member, by omega⟩
    · intro needed
      cases built : buildRangeSpecs startOffset contentLength chunkSize with
      | error message => exact ⟨message, rfl⟩
      | ok specs =>
        obtain ⟨spec, member, above⟩ := needed specs (rangePartition_of_ok positive fits built)
        have within := (buildRangeSpecs_each positive fits built).2 spec member
        omega

theorem range_plan_is_partition_thirds :
    RangePartition 10 35 10 [⟨2, 10, 19⟩, ⟨3, 20, 29⟩, ⟨4, 30, 34⟩] :=
  (range_plan_is_partition (by decide) (by decide)).2.1 _ rfl

end TweetDb.Transfer
