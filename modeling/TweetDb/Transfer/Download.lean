import TweetDb.Transfer.Range

/-! # Reading a response body

The HTTP client hands out the body in chunks of any size; `ResponseByteReader`
cuts them anew.  `remaining` is what a reader has not given out yet, and each
read takes a prefix of it.
-/

namespace TweetDb.Transfer

/-- The chunks are those `response.chunk()` still returns; after them it returns `None`. -/
structure ResponseByteReader where
  chunks : List Bytes
  pending : Option Bytes
  pendingOffset : Nat
deriving DecidableEq, Repr

namespace ResponseByteReader

def new (chunks : List Bytes) : ResponseByteReader := ⟨chunks, none, 0⟩

/-- What `read_some` takes from the pending chunk. -/
def readPending (maxLen : Nat) (reader : ResponseByteReader) :
    Option (Bytes × ResponseByteReader) :=
  match reader.pending with
  | none => none
  | some pending =>
    if reader.pendingOffset < pending.length then
      let stop := min (reader.pendingOffset + maxLen) pending.length
      let bytes := (pending.drop reader.pendingOffset).take (stop - reader.pendingOffset)
      if stop = pending.length then some (bytes, ⟨reader.chunks, none, 0⟩)
      else some (bytes, { reader with pendingOffset := stop })
    else none

/-- The loop of `read_some`: an empty chunk is passed over. -/
def readChunk (maxLen : Nat) : List Bytes → Option Bytes × ResponseByteReader
  | [] => (none, ⟨[], none, 0⟩)
  | chunk :: chunks =>
    match readPending maxLen ⟨chunks, some chunk, 0⟩ with
    | some (bytes, reader) => (some bytes, reader)
    | none => readChunk maxLen chunks

/-- `read_some`. -/
def readSome (maxLen : Nat) (reader : ResponseByteReader) : Option Bytes × ResponseByteReader :=
  match reader.readPending maxLen with
  | some (bytes, reader) => (some bytes, reader)
  | none => readChunk maxLen reader.chunks

/-- `while buffer.len() < wanted`; every turn that goes on adds a byte. -/
def fillBuffer (wanted : Nat) : Nat → Bytes → ResponseByteReader → Bytes × ResponseByteReader
  | 0, buffer, reader => (buffer, reader)
  | fuel + 1, buffer, reader =>
    if buffer.length < wanted then
      match reader.readSome (wanted - buffer.length) with
      | (none, reader) => (buffer, reader)
      | (some bytes, reader) => fillBuffer wanted fuel (buffer ++ bytes) reader
    else (buffer, reader)

/-- `read_next_buffer`. -/
def readNextBuffer (reader : ResponseByteReader) (chunkSizeBytes : Nat) :
    Option Bytes × ResponseByteReader :=
  let (buffer, reader) := fillBuffer chunkSizeBytes chunkSizeBytes [] reader
  (if buffer.isEmpty then none else some buffer, reader)

/-! ## What is read -/

/-- The bytes not read yet. -/
def remaining (reader : ResponseByteReader) : Bytes :=
  (reader.pending.elim [] fun pending => pending.drop reader.pendingOffset) ++
    reader.chunks.flatten

@[simp] theorem remaining_new (chunks : List Bytes) : (new chunks).remaining = chunks.flatten := rfl

variable {maxLen : Nat} {reader reader' : ResponseByteReader} {bytes : Bytes}

theorem readPending_some (positive : 0 < maxLen)
    (read : reader.readPending maxLen = some (bytes, reader')) :
    bytes ≠ [] ∧ bytes.length ≤ maxLen ∧ reader.remaining = bytes ++ reader'.remaining := by
  obtain ⟨chunks, pending, offset⟩ := reader
  cases pending with
  | none => cases read
  | some pending =>
    simp only [readPending, Option.ite_none_right_eq_some] at read
    obtain ⟨inside, read⟩ := read
    have nonempty : ∀ stop, offset < stop → stop ≤ pending.length →
        (pending.drop offset).take (stop - offset) ≠ [] := by
      intro stop after inBounds empty
      have length := congrArg List.length empty
      simp only [List.length_take, List.length_drop, List.length_nil] at length
      omega
    split at read
    next whole =>
      simp only [Option.some.injEq, Prod.mk.injEq] at read
      obtain ⟨rfl, rfl⟩ := read
      rw [whole]
      refine ⟨nonempty _ inside (Nat.le_refl _), ?_, ?_⟩
      · rw [List.length_take]
        omega
      · have all : (pending.drop offset).take (pending.length - offset) = pending.drop offset :=
          List.take_of_length_le (by simp)
        rw [all]
        rfl
    next part =>
      simp only [Option.some.injEq, Prod.mk.injEq] at read
      obtain ⟨rfl, rfl⟩ := read
      have stop_eq : min (offset + maxLen) pending.length = offset + maxLen := by omega
      rw [stop_eq]
      refine ⟨nonempty _ (by omega) (by omega), ?_, ?_⟩
      · rw [List.length_take]
        omega
      · simp only [remaining, Option.elim_some]
        rw [← List.append_assoc, Nat.add_sub_cancel_left, ← List.drop_drop,
          List.take_append_drop]

theorem readPending_none (read : reader.readPending maxLen = none) :
    reader.remaining = reader.chunks.flatten := by
  obtain ⟨chunks, pending, offset⟩ := reader
  cases pending with
  | none => rfl
  | some pending =>
    simp only [readPending] at read
    split at read
    next => split at read <;> cases read
    next outside =>
      have nothing : pending.drop offset = [] := List.drop_eq_nil_of_le (by omega)
      simp [remaining, nothing]

theorem readChunk_spec (positive : 0 < maxLen) (chunks : List Bytes) :
    match readChunk maxLen chunks with
    | (none, reader') => chunks.flatten = [] ∧ reader'.remaining = []
    | (some bytes, reader') =>
      bytes ≠ [] ∧ bytes.length ≤ maxLen ∧ chunks.flatten = bytes ++ reader'.remaining := by
  induction chunks with
  | nil => exact ⟨rfl, rfl⟩
  | cons chunk chunks inductionHypothesis =>
    unfold readChunk
    have whole : (⟨chunks, some chunk, 0⟩ : ResponseByteReader).remaining =
        (chunk :: chunks).flatten := by
      simp [remaining]
    cases read : readPending maxLen ⟨chunks, some chunk, 0⟩ with
    | some result =>
      have spec := readPending_some positive read
      rw [whole] at spec
      exact spec
    | none =>
      have empty := readPending_none read
      rw [whole] at empty
      rw [empty]
      exact inductionHypothesis

/-- A read gives a nonempty prefix of what remains, or nothing at the end of the body. -/
theorem readSome_spec (positive : 0 < maxLen) (reader : ResponseByteReader) :
    match reader.readSome maxLen with
    | (none, reader') => reader.remaining = [] ∧ reader'.remaining = []
    | (some bytes, reader') =>
      bytes ≠ [] ∧ bytes.length ≤ maxLen ∧ reader.remaining = bytes ++ reader'.remaining := by
  unfold readSome
  cases read : reader.readPending maxLen with
  | some result => exact readPending_some positive read
  | none =>
    rw [readPending_none read]
    exact readChunk_spec positive reader.chunks

theorem fillBuffer_spec {wanted fuel : Nat} {buffer : Bytes} {reader : ResponseByteReader}
    (enough : wanted ≤ buffer.length + fuel) (within : buffer.length ≤ wanted) :
    fillBuffer wanted fuel buffer reader =
      (buffer ++ reader.remaining.take (wanted - buffer.length),
        (fillBuffer wanted fuel buffer reader).2) ∧
    (fillBuffer wanted fuel buffer reader).2.remaining =
      reader.remaining.drop (wanted - buffer.length) := by
  induction fuel generalizing buffer reader with
  | zero =>
    have full : wanted - buffer.length = 0 := by omega
    simp [fillBuffer, full]
  | succ fuel inductionHypothesis =>
    unfold fillBuffer
    split
    next short =>
      have spec := readSome_spec (by omega : 0 < wanted - buffer.length) reader
      cases read : reader.readSome (wanted - buffer.length) with
      | mk result reader' =>
        rw [read] at spec
        cases result with
        | none =>
          obtain ⟨atEnd, nothing⟩ := spec
          simp [atEnd, nothing]
        | some bytes =>
          obtain ⟨nonempty, fits, split_eq⟩ := spec
          have grows : 0 < bytes.length := List.length_pos_iff.mpr nonempty
          have rest := @inductionHypothesis (buffer ++ bytes) reader'
            (by rw [List.length_append]; omega) (by rw [List.length_append]; omega)
          have left : wanted - (buffer ++ bytes).length = wanted - buffer.length - bytes.length := by
            rw [List.length_append]
            omega
          rw [left] at rest
          have taken : reader.remaining.take (wanted - buffer.length) =
              bytes ++ reader'.remaining.take (wanted - buffer.length - bytes.length) := by
            rw [split_eq, List.take_append, List.take_of_length_le fits]
          have dropped : reader.remaining.drop (wanted - buffer.length) =
              reader'.remaining.drop (wanted - buffer.length - bytes.length) := by
            rw [split_eq, List.drop_append, List.drop_eq_nil_of_le fits, List.nil_append]
          rw [taken, dropped, ← List.append_assoc]
          exact rest
    next full =>
      have nothing : wanted - buffer.length = 0 := by omega
      simp [nothing]

/-- `read_next_buffer` gives the next `chunkSizeBytes` bytes, fewer only at the end. -/
theorem readNextBuffer_spec (reader : ResponseByteReader) (chunkSizeBytes : Nat) :
    (reader.readNextBuffer chunkSizeBytes).1 =
      (if reader.remaining.take chunkSizeBytes = [] then none
        else some (reader.remaining.take chunkSizeBytes)) ∧
    (reader.readNextBuffer chunkSizeBytes).2.remaining =
      reader.remaining.drop chunkSizeBytes := by
  obtain ⟨filled, left⟩ := @fillBuffer_spec chunkSizeBytes chunkSizeBytes
    [] reader (by simp) (by simp)
  simp only [List.nil_append, List.length_nil, Nat.sub_zero] at filled left
  unfold readNextBuffer
  rw [filled]
  exact ⟨by simp [List.isEmpty_iff], left⟩

end ResponseByteReader

/-! ## Range downloads -/

/-- The answer to a range request; `statusText` is how the status is displayed. -/
structure RangeAnswer where
  status : Nat
  statusText : String
  contentLength : Option Nat
  chunks : List Bytes
deriving DecidableEq, Repr

/-- `download_range_part`. -/
def downloadRangePart (sourceUrl : String) (spec : RangeSpec) (answer : RangeAnswer) :
    Except String Bytes :=
  if answer.status ≠ 206 then
    .error s!"range download returned status {answer.statusText} for {sourceUrl}"
  else if answer.contentLength.any fun length => length != spec.len then
    .error s!"range download returned length {answer.contentLength.getD 0} for expected length {spec.len}"
  else
    let buffer := (ResponseByteReader.fillBuffer spec.len spec.len [] (.new answer.chunks)).1
    if buffer.length < spec.len then .error s!"range download ended early for {sourceUrl}"
    else .ok buffer

/-- From an honest answer the part is the range. -/
theorem downloadRangePart_ok {sourceUrl : String} {spec : RangeSpec} {answer : RangeAnswer}
    {body bytes : Bytes}
    (honest : answer.status = 206 → answer.chunks.flatten = spec.slice body)
    (downloaded : downloadRangePart sourceUrl spec answer = .ok bytes) :
    bytes = spec.slice body := by
  unfold downloadRangePart at downloaded
  split at downloaded
  · cases downloaded
  next partial_content =>
  split at downloaded
  · cases downloaded
  obtain ⟨filled, _⟩ := @ResponseByteReader.fillBuffer_spec spec.len spec.len []
    (.new answer.chunks) (by simp) (by simp)
  have part : (ResponseByteReader.fillBuffer spec.len spec.len [] (.new answer.chunks)).1 =
      spec.slice body := by
    rw [filled, ResponseByteReader.remaining_new, honest (Decidable.not_not.mp partial_content), List.nil_append, List.length_nil,
      Nat.sub_zero]
    apply List.take_of_length_le
    rw [RangeSpec.slice, List.length_take]
    exact Nat.min_le_left _ _
  simp only [part] at downloaded
  split at downloaded
  · cases downloaded
  · cases downloaded
    rfl

end TweetDb.Transfer
