import TweetDb.Intervals.Tiling
import TweetDb.Transfer.Download
import TweetDb.Transition.Loop

/-! # The buffers of a stream

The loops of `read_some` and `read_next_buffer`, and what the calls of
`read_next_buffer` return one after the other.  Deadlines and transport errors,
which end a read, are left out; a chunk and a buffer have less than 2^63 bytes,
so an offset and a length stay within `usize` when added.
-/

namespace TweetDb.Transfer

open Intervals Transition

namespace ResponseByteReader

/-- One turn of the `loop` of `read_some`; an empty chunk is dropped. -/
def readTurn (maxLen : Nat) (reader : ResponseByteReader) :
    Turn ResponseByteReader (Option Bytes × ResponseByteReader) :=
  match reader.readPending maxLen with
  | some (bytes, reader) => .leave (some bytes, reader)
  | none =>
    match reader.chunks with
    | [] => .leave (none, ⟨[], none, 0⟩)
    | chunk :: chunks =>
      if chunk.isEmpty then .next ⟨chunks, none, 0⟩ else .next ⟨chunks, some chunk, 0⟩

/-- One turn of the `while` of `read_next_buffer`. -/
def fillTurn (wanted : Nat) : Bytes × ResponseByteReader →
    Turn (Bytes × ResponseByteReader) (Bytes × ResponseByteReader)
  | (buffer, reader) =>
    if buffer.length < wanted then
      match reader.readSome (wanted - buffer.length) with
      | (none, reader) => .leave (buffer, reader)
      | (some bytes, reader) => .next (buffer ++ bytes, reader)
    else .leave (buffer, reader)

variable {maxLen wanted : Nat} {reader : ResponseByteReader}

theorem leaves_readChunk (nothing : reader.readPending maxLen = none) :
    Leaves (readTurn maxLen) reader (readChunk maxLen reader.chunks) := by
  obtain ⟨chunks, pending, offset⟩ := reader
  induction chunks generalizing pending offset with
  | nil => exact .last (by simp [readTurn, nothing, readChunk])
  | cons chunk chunks inductionHypothesis =>
    cases chunk with
    | nil =>
      refine .next (t := ⟨chunks, none, 0⟩) (by simp [readTurn, nothing]) ?_
      exact inductionHypothesis none 0 rfl
    | cons byte bytes =>
      refine .next (t := ⟨chunks, some (byte :: bytes), 0⟩) (by simp [readTurn, nothing]) ?_
      rw [readChunk]
      cases read : readPending maxLen ⟨chunks, some (byte :: bytes), 0⟩ with
      | some result => exact .last (by simp [readTurn, read])
      | none => exact inductionHypothesis _ _ read

/-- `read_some` terminates. -/
theorem leaves_readTurn (maxLen : Nat) (reader : ResponseByteReader) :
    Leaves (readTurn maxLen) reader (reader.readSome maxLen) := by
  unfold readSome
  cases read : reader.readPending maxLen with
  | some result => exact .last (by simp [readTurn, read])
  | none => exact leaves_readChunk read

/-- `read_next_buffer` terminates: each turn that goes on adds a byte. -/
theorem leaves_fillTurn {fuel : Nat} {buffer : Bytes} (enough : wanted ≤ buffer.length + fuel) :
    Leaves (fillTurn wanted) (buffer, reader) (fillBuffer wanted fuel buffer reader) := by
  induction fuel generalizing buffer reader with
  | zero =>
    have full : ¬ buffer.length < wanted := by omega
    exact .last (by simp [fillTurn, full, fillBuffer])
  | succ fuel inductionHypothesis =>
    rw [fillBuffer]
    split
    next short =>
      have spec := readSome_spec (by omega : 0 < wanted - buffer.length) reader
      cases read : reader.readSome (wanted - buffer.length) with
      | mk result reader' =>
        rw [read] at spec
        cases result with
        | none => exact .last (by simp [fillTurn, short, read])
        | some bytes =>
          have grows : 0 < bytes.length := List.length_pos_iff.mpr spec.1
          refine .next (t := (buffer ++ bytes, reader')) (by simp [fillTurn, short, read]) ?_
          exact inductionHypothesis (by rw [List.length_append]; omega)
    next full => exact .last (by simp [fillTurn, full])

/-! ## Successive calls -/

/-- The reader after some calls of `read_next_buffer`. -/
def readerAfter (chunkSizeBytes : Nat) (chunks : List Bytes) : Nat → ResponseByteReader
  | 0 => .new chunks
  | calls + 1 => ((readerAfter chunkSizeBytes chunks calls).readNextBuffer chunkSizeBytes).2

/-- What the next call returns. -/
def bufferAfter (chunkSizeBytes : Nat) (chunks : List Bytes) (calls : Nat) : Option Bytes :=
  ((readerAfter chunkSizeBytes chunks calls).readNextBuffer chunkSizeBytes).1

variable {chunkSizeBytes : Nat} {chunks : List Bytes}

theorem remaining_readerAfter (calls : Nat) :
    (readerAfter chunkSizeBytes chunks calls).remaining =
      chunks.flatten.drop (calls * chunkSizeBytes) := by
  induction calls with
  | zero => simp [readerAfter]
  | succ calls inductionHypothesis =>
    rw [readerAfter, (readNextBuffer_spec _ _).2, inductionHypothesis, List.drop_drop,
      Nat.succ_mul]

theorem bufferAfter_eq (calls : Nat) : bufferAfter chunkSizeBytes chunks calls =
    if (readerAfter chunkSizeBytes chunks calls).remaining.take chunkSizeBytes = [] then none
    else some ((readerAfter chunkSizeBytes chunks calls).remaining.take chunkSizeBytes) :=
  (readNextBuffer_spec _ _).1

/-- The buffers are the blocks of the stream: every call ends, no byte is lost, and `None` comes
exactly at the end of the stream. -/
theorem rechunking_preserves_stream (chunks : List Bytes) (positive : 1 ≤ chunkSizeBytes) :
    ∃ buffers : List Bytes,
      (∀ calls, bufferAfter chunkSizeBytes chunks calls = buffers[calls]?) ∧
      (∀ buffer ∈ buffers, buffer ≠ [] ∧ buffer.length ≤ chunkSizeBytes) ∧
      (∀ buffer ∈ buffers.dropLast, buffer.length = chunkSizeBytes) ∧
      buffers.flatten = chunks.flatten ∧
      (∀ calls, bufferAfter chunkSizeBytes chunks calls = none ↔
        (readerAfter chunkSizeBytes chunks calls).remaining = []) ∧
      (∀ calls result, Leaves (fillTurn chunkSizeBytes)
          ([], readerAfter chunkSizeBytes chunks calls) result ↔
        result = fillBuffer chunkSizeBytes chunkSizeBytes []
          (readerAfter chunkSizeBytes chunks calls)) ∧
      ∀ maxLen reader result, Leaves (readTurn maxLen) reader result ↔
        result = reader.readSome maxLen := by
  refine ⟨(blocks chunkSizeBytes chunks.flatten.length).map (Span.slice chunks.flatten),
    fun calls => ?_, ?_, ?_, ?_, fun calls => ?_, fun calls result => ?_,
    fun maxLen reader result => (leaves_readTurn maxLen reader).iff_eq⟩
  -- Call `k` returns what is left of block `k`, which is `None` behind the last one.
  · rw [bufferAfter_eq, remaining_readerAfter, getElem?_slice_blocks positive]
  · exact length_slice_blocks positive
  · exact length_slice_dropLast_blocks positive
  · exact ((tiles_blocks positive).flatten_slices _).trans (slice_whole _)
  · rw [bufferAfter_eq]
    have nonzero : chunkSizeBytes ≠ 0 := Nat.ne_of_gt positive
    simp [List.take_eq_nil_iff, nonzero]
  · exact (leaves_fillTurn (by simp)).iff_eq

/-- Five bytes in chunks of one and four, with an empty one between them, in buffers of two. -/
theorem rechunking_preserves_stream_pairs : ∃ buffers : List Bytes,
    (∀ calls, bufferAfter 2 [[1], [], [2, 3, 4, 5]] calls = buffers[calls]?) ∧
      buffers.flatten = [1, 2, 3, 4, 5] ∧
      bufferAfter 2 [[1], [], [2, 3, 4, 5]] 0 = some [1, 2] ∧
      bufferAfter 2 [[1], [], [2, 3, 4, 5]] 3 = none := by
  obtain ⟨buffers, returned, _, _, whole, _⟩ :=
    rechunking_preserves_stream [[1], [], [2, 3, 4, 5]] (by decide : 1 ≤ 2)
  exact ⟨buffers, returned, whole, by decide, by decide⟩

end ResponseByteReader

end TweetDb.Transfer
