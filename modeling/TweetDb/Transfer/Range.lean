import Mathlib.Data.List.AList
import TweetDb.Intervals.Tiling
import TweetDb.Transfer.Common

/-! # Ranges and part states

`range.rs`: the ranges after the first buffer, and the map of parts that are
not both hashed and uploaded.  Parts come in any order and are hashed in order.
-/

namespace TweetDb.Transfer

open Intervals

/-! ## Ranges -/

structure RangeSpec where
  partNumber : Nat
  start : Nat
  endInclusive : Nat
deriving DecidableEq, Repr

def RangeSpec.len (spec : RangeSpec) : Nat := spec.endInclusive - spec.start + 1

/-- `while cursor < content_length`; the limit on part numbers ends it before the fuel does. -/
def buildRangeSpecsFrom (contentLength chunkSize : Nat) :
    Nat → Nat → Nat → Except String (List RangeSpec)
  | 0, _, _ => .ok []
  | fuel + 1, cursor, partNumber =>
    if cursor < contentLength then
      (ensureValidPartNumber partNumber).bind fun _ =>
        let nextCursor := min (min (cursor + chunkSize) (2 ^ 64 - 1)) contentLength
        (buildRangeSpecsFrom contentLength chunkSize fuel nextCursor (partNumber + 1)).map
          fun specs => ⟨partNumber, cursor, nextCursor - 1⟩ :: specs
    else .ok []

/-- `build_range_specs`. -/
def buildRangeSpecs (startOffset contentLength chunkSizeBytes : Nat) :
    Except String (List RangeSpec) :=
  buildRangeSpecsFrom contentLength chunkSizeBytes 10000 startOffset 2

/-- The bytes of a range. -/
def RangeSpec.slice (body : Bytes) (spec : RangeSpec) : Bytes := (body.drop spec.start).take spec.len

/-! ## Part states -/

structure ActivePartState where
  bytes : Option Bytes
  uploadDone : Bool
deriving DecidableEq, Repr

def ActivePartState.pendingHash (bytes : Bytes) : ActivePartState := ⟨some bytes, false⟩

abbrev PartStates := AList fun _ : Nat => ActivePartState

/-- The part states with the hasher, which has absorbed the parts before `nextHashPart`. -/
structure RangeHash where
  partStates : PartStates
  hasher : Bytes
  contentLength : Nat
  nextHashPart : Nat

/-- The loop of `hash_ready_range_parts`; each turn that goes on uses up a part. -/
def hashReadyFrom : Nat → RangeHash → Except String RangeHash
  | 0, hash => .ok hash
  | fuel + 1, hash =>
    match hash.partStates.lookup hash.nextHashPart with
    | none => .ok hash
    | some state =>
      match state.bytes with
      | none => .ok hash
      | some bytes =>
        (addContentLength hash.contentLength bytes.length).bind fun contentLength =>
        hashReadyFrom fuel
          { partStates :=
              if state.uploadDone then hash.partStates.erase hash.nextHashPart
              else hash.partStates.insert hash.nextHashPart { state with bytes := none }
            hasher := hash.hasher ++ bytes
            contentLength := contentLength
            nextHashPart := hash.nextHashPart + 1 }

/-- `hash_ready_range_parts`. -/
def hashReadyRangeParts (hash : RangeHash) : Except String RangeHash :=
  hashReadyFrom hash.partStates.keys.length hash

/-- `mark_range_part_uploaded`. -/
def markRangePartUploaded (partStates : PartStates) (partNumber : Nat) : PartStates :=
  match partStates.lookup partNumber with
  | none => partStates
  | some state =>
    if state.bytes.isNone then partStates.erase partNumber
    else partStates.insert partNumber { state with uploadDone := true }

/-! ## The ranges cover the rest of the body -/

/-- The loop is at its end, or a range is cut off and the loop goes on behind it. -/
theorem buildRangeSpecsFrom_cases {contentLength chunkSize fuel cursor partNumber : Nat}
    {specs : List RangeSpec}
    (built : buildRangeSpecsFrom contentLength chunkSize (fuel + 1) cursor partNumber =
      .ok specs) :
    contentLength ≤ cursor ∧ specs = [] ∨
      cursor < contentLength ∧ 1 ≤ partNumber ∧ partNumber ≤ 10000 ∧ ∃ nextCursor others,
        nextCursor = min (min (cursor + chunkSize) (2 ^ 64 - 1)) contentLength ∧
        buildRangeSpecsFrom contentLength chunkSize fuel nextCursor (partNumber + 1) = .ok others ∧
        specs = ⟨partNumber, cursor, nextCursor - 1⟩ :: others := by
  unfold buildRangeSpecsFrom at built
  split at built
  next inside =>
    obtain ⟨_, ensured, built⟩ := bind_eq_ok built
    obtain ⟨others, rest, same⟩ := map_eq_ok built
    by_cases within : 1 ≤ partNumber ∧ partNumber ≤ 10000
    · exact .inr ⟨inside, within.1, within.2, _, others, rfl, rest, same.symm⟩
    · simp [ensureValidPartNumber, within] at ensured
  next outside =>
    cases built
    exact .inl ⟨Nat.le_of_not_lt outside, rfl⟩

def RangeSpec.span (spec : RangeSpec) : Span := ⟨spec.start, spec.endInclusive + 1⟩

/-- The ranges tile what is behind the cursor. -/
theorem buildRangeSpecsFrom_tiles {contentLength chunkSize fuel cursor partNumber : Nat}
    {specs : List RangeSpec} (positive : 1 ≤ chunkSize) (fits : contentLength < 2 ^ 64)
    (enough : partNumber + fuel = 10002) (valid : partNumber ≤ 10001)
    (inside : cursor ≤ contentLength)
    (built : buildRangeSpecsFrom contentLength chunkSize fuel cursor partNumber = .ok specs) :
    Tiles cursor (specs.map RangeSpec.span) contentLength := by
  induction fuel generalizing cursor partNumber specs with
  | zero => omega
  | succ fuel inductionHypothesis =>
    rcases buildRangeSpecsFrom_cases built with
      ⟨outside, rfl⟩ | ⟨inside, first, last, nextCursor, others, isNext, rest, rfl⟩
    · exact Nat.le_antisymm inside outside
    · -- The next cursor is behind this one and not behind the end.
      have after : cursor < nextCursor ∧ nextCursor ≤ contentLength := by omega
      have stop : nextCursor - 1 + 1 = nextCursor := by omega
      have tiles := inductionHypothesis (by omega) (by omega) after.2 rest
      simp only [List.map_cons, tiles_cons, RangeSpec.span, stop, true_and]
      exact ⟨Nat.le_of_lt after.1, tiles⟩

/-- Each range is numbered in order, is not empty and has at most the chunk size. -/
theorem buildRangeSpecsFrom_each {contentLength chunkSize fuel cursor partNumber : Nat}
    {specs : List RangeSpec} (positive : 1 ≤ chunkSize) (fits : contentLength < 2 ^ 64)
    (enough : partNumber + fuel = 10002) (valid : partNumber ≤ 10001)
    (built : buildRangeSpecsFrom contentLength chunkSize fuel cursor partNumber = .ok specs) :
    specs.map RangeSpec.partNumber = List.range' partNumber specs.length ∧
      ∀ spec ∈ specs, spec.start ≤ spec.endInclusive ∧ spec.len ≤ chunkSize ∧
        spec.partNumber ≤ 10000 := by
  induction fuel generalizing cursor partNumber specs with
  | zero => omega
  | succ fuel inductionHypothesis =>
    rcases buildRangeSpecsFrom_cases built with
      ⟨outside, rfl⟩ | ⟨inside, first, last, nextCursor, others, isNext, rest, rfl⟩
    · exact ⟨rfl, fun _ none => absurd none List.not_mem_nil⟩
    · obtain ⟨numbered, each⟩ := inductionHypothesis (by omega) (by omega) rest
      constructor
      · rw [List.map_cons, numbered, List.length_cons, List.range'_succ]
      · rw [List.forall_mem_cons]
        refine ⟨⟨?_, ?_, last⟩, each⟩
        · show cursor ≤ nextCursor - 1
          omega
        · show nextCursor - 1 - cursor + 1 ≤ chunkSize
          omega

section Whole

variable {startOffset contentLength chunkSize : Nat} {specs : List RangeSpec}
  (positive : 1 ≤ chunkSize) (fits : contentLength < 2 ^ 64)
  (built : buildRangeSpecs startOffset contentLength chunkSize = .ok specs)

include positive fits built

/-- Behind the end of the content there are no ranges. -/
theorem buildRangeSpecs_tiles :
    Tiles startOffset (specs.map RangeSpec.span) (max startOffset contentLength) := by
  by_cases inside : startOffset ≤ contentLength
  · rw [Nat.max_eq_right inside]
    exact buildRangeSpecsFrom_tiles positive fits rfl (by decide) inside built
  · rw [Nat.max_eq_left (Nat.le_of_not_le inside)]
    rcases buildRangeSpecsFrom_cases built with ⟨_, rfl⟩ | ⟨within, _⟩
    · rfl
    · omega

theorem buildRangeSpecs_each :
    specs.map RangeSpec.partNumber = List.range' 2 specs.length ∧
      ∀ spec ∈ specs, spec.start ≤ spec.endInclusive ∧ spec.len ≤ chunkSize ∧
        spec.partNumber ≤ 10000 :=
  buildRangeSpecsFrom_each positive fits rfl (by decide) built

end Whole

/-- The ranges of a body are numbered in order and make up what is behind the first buffer. -/
theorem buildRangeSpecs_ok {body : Bytes} {startOffset chunkSize : Nat} {specs : List RangeSpec}
    (positive : 1 ≤ chunkSize) (fits : body.length < 2 ^ 64)
    (built : buildRangeSpecs startOffset body.length chunkSize = .ok specs) :
    (specs.map (RangeSpec.slice body)).flatten = body.drop startOffset ∧
      specs.map RangeSpec.partNumber = List.range' 2 specs.length := by
  obtain ⟨numbered, each⟩ := buildRangeSpecs_each positive fits built
  refine ⟨?_, numbered⟩
  have slices := (buildRangeSpecs_tiles positive fits built).flatten_slices body
  have slice_eq : ∀ spec ∈ specs, spec.slice body = spec.span.slice body := by
    intro spec member
    have ordered := (each spec member).1
    have len_eq : spec.len = spec.endInclusive + 1 - spec.start := by
      simp only [RangeSpec.len]
      omega
    rw [RangeSpec.slice, len_eq]
    rfl
  rw [List.map_congr_left slice_eq, ← Function.comp_def, ← List.map_map, slices, Span.slice]
  apply List.take_of_length_le
  rw [List.length_drop]
  exact Nat.sub_le_sub_right (Nat.le_max_right _ _) _

/-! ## The hash loop -/

/-- A part to hash is there. -/
def Ready (hash : RangeHash) : Prop :=
  ∃ state bytes, hash.partStates.lookup hash.nextHashPart = some state ∧ state.bytes = some bytes

private theorem countP_lt {l : List Nat} {p q : Nat → Bool} {a : Nat} (member : a ∈ l)
    (yes : p a = true) (no : q a = false) (weaker : ∀ b, q b = true → p b = true) :
    l.countP q < l.countP p := by
  induction l with
  | nil => cases member
  | cons b l inductionHypothesis =>
    have rest : l.countP q ≤ l.countP p := List.countP_mono_left fun b _ => weaker b
    rcases List.mem_cons.mp member with rfl | later
    · rw [List.countP_cons_of_pos yes, List.countP_cons_of_neg (by simp [no])]
      omega
    · have less := inductionHypothesis later
      rw [List.countP_cons, List.countP_cons]
      cases first : q b with
      | false =>
        simp only [Bool.false_eq_true, if_false]
        omega
      | true =>
        rw [weaker b first]
        simp only [if_true]
        omega

/-- The loop stops, or hashes the next part and goes on. -/
theorem hashReadyFrom_cases {fuel : Nat} {hash hash' : RangeHash}
    (hashed : hashReadyFrom (fuel + 1) hash = .ok hash') :
    ¬ Ready hash ∧ hash' = hash ∨ ∃ state bytes contentLength,
      hash.partStates.lookup hash.nextHashPart = some state ∧ state.bytes = some bytes ∧
      addContentLength hash.contentLength bytes.length = .ok contentLength ∧
      hashReadyFrom fuel
        { partStates :=
            if state.uploadDone then hash.partStates.erase hash.nextHashPart
            else hash.partStates.insert hash.nextHashPart { state with bytes := none }
          hasher := hash.hasher ++ bytes
          contentLength := contentLength
          nextHashPart := hash.nextHashPart + 1 } = .ok hash' := by
  unfold hashReadyFrom at hashed
  cases found : hash.partStates.lookup hash.nextHashPart with
  | none =>
    rw [found] at hashed
    cases hashed
    refine .inl ⟨?_, rfl⟩
    rintro ⟨state, bytes, found', _⟩
    rw [found] at found'
    cases found'
  | some state =>
    rw [found] at hashed
    cases taken : state.bytes with
    | none =>
      simp only [taken] at hashed
      cases hashed
      refine .inl ⟨?_, rfl⟩
      rintro ⟨state', bytes, found', taken'⟩
      rw [found, Option.some.injEq] at found'
      subst found'
      rw [taken] at taken'
      cases taken'
    | some bytes =>
      simp only [taken] at hashed
      obtain ⟨contentLength, added, hashed⟩ := bind_eq_ok hashed
      exact .inr ⟨state, bytes, contentLength, rfl, taken, added, hashed⟩

/-- The loop stops because the next part is not there or has been hashed. -/
theorem hashReadyFrom_stops {fuel : Nat} {hash hash' : RangeHash}
    (enough : hash.partStates.keys.countP (fun k => decide (hash.nextHashPart ≤ k)) ≤ fuel)
    (hashed : hashReadyFrom fuel hash = .ok hash') : ¬ Ready hash' := by
  induction fuel generalizing hash with
  | zero =>
    cases hashed
    rintro ⟨state, bytes, found, _⟩
    have member : hash'.nextHashPart ∈ hash'.partStates.keys :=
      AList.mem_keys.mp (AList.lookup_isSome.mp (by rw [found]; rfl))
    have none := List.countP_eq_zero.mp (Nat.le_zero.mp enough) _ member
    simp at none
  | succ fuel inductionHypothesis =>
    rcases hashReadyFrom_cases hashed with
      ⟨stopped, rfl⟩ | ⟨state, bytes, contentLength, found, taken, added, hashed⟩
    · exact stopped
    · apply inductionHypothesis _ hashed
      have member : hash.nextHashPart ∈ hash.partStates.keys :=
        AList.mem_keys.mp (AList.lookup_isSome.mp (by rw [found]; rfl))
      have fewer : hash.partStates.keys.countP (fun k => decide (hash.nextHashPart + 1 ≤ k)) <
          hash.partStates.keys.countP fun k => decide (hash.nextHashPart ≤ k) := by
        apply countP_lt member
        · simp
        · simp
        · intro k later
          simp only [decide_eq_true_eq] at later ⊢
          omega
      have erased : (hash.partStates.keys.erase hash.nextHashPart).countP
            (fun k => decide (hash.nextHashPart + 1 ≤ k)) ≤
          hash.partStates.keys.countP fun k => decide (hash.nextHashPart + 1 ≤ k) :=
        List.Sublist.countP_le List.erase_sublist
      show (if state.uploadDone then hash.partStates.erase hash.nextHashPart
        else hash.partStates.insert hash.nextHashPart { state with bytes := none }).keys.countP
          (fun k => decide (hash.nextHashPart + 1 ≤ k)) ≤ fuel
      split
      · rw [AList.keys_erase]
        omega
      · rw [AList.keys_insert, List.countP_cons_of_neg (by simp)]
        omega

theorem hashReadyRangeParts_stops {hash hash' : RangeHash}
    (hashed : hashReadyRangeParts hash = .ok hash') : ¬ Ready hash' :=
  hashReadyFrom_stops List.countP_le_length hashed

end TweetDb.Transfer
