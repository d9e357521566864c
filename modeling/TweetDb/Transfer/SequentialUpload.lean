import TweetDb.Transition.Run
import TweetDb.Transfer.Download
import TweetDb.Transfer.Multipart

/-! # Sequential multipart upload

`upload_multipart_sequential_inner` as a step function: it takes a buffer,
waits until an upload may be pushed, pushes it, and after the last buffer
waits for the rest.  The uploads in flight finish in any order, which covers
every schedule the semaphore allows.
-/

namespace TweetDb.Transfer

open Transition

/-- What `enqueue_sequential_part` changes; the hasher is the bytes it has absorbed. -/
structure SequentialParts where
  upload : MultipartUpload
  hasher : Bytes
  contentLength : Nat
  nextPartNumber : Nat
deriving DecidableEq, Repr

def SequentialParts.new : SequentialParts := ⟨.empty, [], 0, 1⟩

/-- `enqueue_sequential_part`. -/
def enqueueSequentialPart (buffer : Bytes) (parts : SequentialParts) :
    Except String SequentialParts :=
  (ensureValidPartNumber parts.nextPartNumber).bind fun _ =>
    (addContentLength parts.contentLength buffer.length).map fun contentLength =>
      { upload := parts.upload.push parts.nextPartNumber buffer
        hasher := parts.hasher ++ buffer
        contentLength := contentLength
        nextPartNumber := parts.nextPartNumber + 1 }

/-- `held` is the buffer that waits for capacity; `ended` is set when the reader has no more. -/
structure SequentialState where
  parts : SequentialParts
  preloaded : List Bytes
  reader : ResponseByteReader
  held : Option Bytes
  ended : Bool
deriving DecidableEq, Repr

inductive SequentialEvent where
  | nextBuffer
  | enqueued
  | uploaded (index : Nat) (etag : String)
deriving DecidableEq, Repr

/-- The loop heads: preloaded buffers first, then the reader. -/
def SequentialState.takeBuffer (options : TransferOptions) (state : SequentialState) :
    SequentialState :=
  match state.preloaded with
  | buffer :: preloaded => { state with preloaded := preloaded, held := some buffer }
  | [] =>
    match state.reader.readNextBuffer options.chunkSizeBytes with
    | (some buffer, reader) => { state with reader := reader, held := some buffer }
    | (none, reader) => { state with reader := reader, ended := true }

/-- `uploads.next()` is awaited for capacity, or after the last buffer. -/
def SequentialState.awaitsUploads (options : TransferOptions) (state : SequentialState) : Bool :=
  state.ended ||
    state.held.isSome && decide (options.maxInFlightParts ≤ state.parts.upload.uploads.length)

def sequentialNext (options : TransferOptions) (state : SequentialState) :
    SequentialEvent → Option SequentialState
  | .nextBuffer =>
    if state.ended || state.held.isSome then none else some (state.takeBuffer options)
  | .enqueued =>
    match state.held with
    | none => none
    | some buffer =>
      if state.parts.upload.uploads.length < options.maxInFlightParts then
        (enqueueSequentialPart buffer state.parts).toOption.map fun parts =>
          { state with parts := parts, held := none }
      else none
  | .uploaded index etag =>
    if state.awaitsUploads options then
      (state.parts.upload.finish index etag).map fun (_, upload) =>
        { state with parts := { state.parts with upload := upload } }
    else none

/-- The first buffer is enqueued before any wait. -/
def startSequential (first : Bytes) (preloaded : List Bytes) (reader : ResponseByteReader) :
    Except String SequentialState :=
  (enqueueSequentialPart first .new).map fun parts => ⟨parts, preloaded, reader, none, false⟩

def SequentialState.finished (state : SequentialState) : Bool :=
  state.ended && state.parts.upload.uploads.isEmpty

/-! ## Every buffer is a part -/

/-- The parts sent so far, and what of the body is still to come. -/
structure Sends (body : Bytes) (sent : List Bytes) (state : SequentialState) : Prop where
  hashed : state.parts.hasher = sent.flatten
  counted : state.parts.contentLength = sent.flatten.length
  next : state.parts.nextPartNumber = sent.length + 1
  carries : Carries sent state.parts.upload
  numbers : state.parts.upload.numbers.Perm (List.range' 1 sent.length)
  covers : sent.flatten ++ (state.held.getD [] ++ (state.preloaded.flatten ++
    state.reader.remaining)) = body
  atEnd : state.ended = true →
    state.held = none ∧ state.preloaded = [] ∧ state.reader.remaining = []

section Sends

variable {options : TransferOptions} {body buffer : Bytes} {sent : List Bytes}
  {state state' : SequentialState} {parts : SequentialParts} {index : Nat} {etag : String}

theorem enqueueSequentialPart_ok {before : SequentialParts}
    (enqueued : enqueueSequentialPart buffer before = .ok parts) :
    parts =
      { upload := before.upload.push before.nextPartNumber buffer
        hasher := before.hasher ++ buffer
        contentLength := before.contentLength + buffer.length
        nextPartNumber := before.nextPartNumber + 1 } := by
  obtain ⟨_, _, enqueued⟩ := bind_eq_ok enqueued
  cases added : addContentLength before.contentLength buffer.length with
  | error message =>
    rw [added] at enqueued
    cases enqueued
  | ok contentLength =>
    rw [added] at enqueued
    cases enqueued
    rw [addContentLength_ok added]

theorem range'_push (sent : List Bytes) (buffer : Bytes) :
    List.range' 1 (sent ++ [buffer]).length = List.range' 1 sent.length ++ [sent.length + 1] := by
  rw [List.length_append, List.length_singleton, List.range'_concat, Nat.one_mul,
    Nat.add_comm 1 sent.length]

/-- The held buffer becomes the next part. -/
theorem Sends.enqueue (sends : Sends body sent state) (holds : state.held = some buffer)
    (enqueued : enqueueSequentialPart buffer state.parts = .ok parts) :
    Sends body (sent ++ [buffer]) { state with parts := parts, held := none } := by
  have atNext : (sent ++ [buffer])[state.parts.nextPartNumber - 1]? = some buffer := by
    rw [sends.next, Nat.add_sub_cancel, List.getElem?_append_right (Nat.le_refl _), Nat.sub_self]
    rfl
  rw [enqueueSequentialPart_ok enqueued]
  constructor
  · simp [sends.hashed]
  · simp [sends.counted]
  · simp [sends.next]
  · have positive : 1 ≤ state.parts.nextPartNumber := by
      rw [sends.next]
      exact Nat.le_add_left 1 _
    exact (sends.carries.append [buffer]).push positive atNext
  · rw [range'_push]
    refine (numbers_push _ _).trans ?_
    rw [sends.next]
    exact (sends.numbers.cons _).trans (List.perm_append_singleton _ _).symm
  · have covers := sends.covers
    rw [holds] at covers
    simpa using covers
  · intro ended
    rw [(sends.atEnd ended).1] at holds
    cases holds

/-- Taking a buffer moves a prefix of what is to come. -/
theorem Sends.takeBuffer (sends : Sends body sent state) (empty : state.held = none)
    (going : state.ended = false) : Sends body sent (state.takeBuffer options) := by
  obtain ⟨parts, preloaded, reader, held, ended⟩ := state
  cases empty
  cases going
  have covers := sends.covers
  cases preloaded with
  | cons buffer preloaded =>
    refine ⟨sends.hashed, sends.counted, sends.next, sends.carries, sends.numbers, ?_, nofun⟩
    simpa [SequentialState.takeBuffer] using covers
  | nil =>
    obtain ⟨taken, left⟩ := reader.readNextBuffer_spec options.chunkSizeBytes
    cases read : reader.readNextBuffer options.chunkSizeBytes with
    | mk result reader' =>
      rw [read] at taken left
      simp only at taken left
      have chunkPositive := options.chunkSizeBytes_pos
      cases result with
      | some buffer =>
        have buffer_eq : reader.remaining.take options.chunkSizeBytes = buffer := by
          split at taken
          · cases taken
          · exact (Option.some.inj taken).symm
        have join : buffer ++ reader'.remaining = reader.remaining := by
          rw [← buffer_eq, left, List.take_append_drop]
        simp only [SequentialState.takeBuffer, read]
        refine ⟨sends.hashed, sends.counted, sends.next, sends.carries, sends.numbers, ?_, nofun⟩
        simpa [join] using covers
      | none =>
        have atEnd : reader.remaining = [] := by
          split at taken
          next nothing =>
            rcases List.take_eq_nil_iff.mp nothing with zero | empty
            · omega
            · exact empty
          next => cases taken
        have left_nil : reader'.remaining = [] := by
          rw [left, atEnd, List.drop_nil]
        simp only [SequentialState.takeBuffer, read]
        refine ⟨sends.hashed, sends.counted, sends.next, sends.carries, sends.numbers, ?_,
          fun _ => ⟨rfl, rfl, left_nil⟩⟩
        simpa [atEnd, left_nil] using covers

theorem Sends.uploaded {finished : UploadedPart} {upload : MultipartUpload}
    (sends : Sends body sent state)
    (ended : state.parts.upload.finish index etag = some (finished, upload)) :
    Sends body sent { state with parts := { state.parts with upload := upload } } :=
  { sends with
    carries := sends.carries.finish ended
    numbers := (numbers_finish ended).trans sends.numbers }

theorem Sends.step {event : SequentialEvent} (sends : ∃ sent, Sends body sent state)
    (taken : sequentialNext options state event = some state') :
    ∃ sent, Sends body sent state' := by
  obtain ⟨sent, sends⟩ := sends
  cases event with
  | nextBuffer =>
    simp only [sequentialNext, Bool.or_eq_true] at taken
    split at taken
    · cases taken
    next goesOn =>
      cases taken
      have empty : state.held = none := by
        rw [← Option.not_isSome_iff_eq_none]
        exact fun holds => goesOn (.inr holds)
      have going : state.ended = false := by
        rw [← Bool.not_eq_true]
        exact fun ended => goesOn (.inl ended)
      exact ⟨sent, sends.takeBuffer empty going⟩
  | enqueued =>
    cases holds : state.held with
    | none => simp [sequentialNext, holds] at taken
    | some buffer =>
      simp only [sequentialNext, holds] at taken
      split at taken
      next capacity =>
        cases enqueued : enqueueSequentialPart buffer state.parts with
        | error message =>
          rw [enqueued] at taken
          cases taken
        | ok parts =>
          rw [enqueued] at taken
          cases taken
          exact ⟨sent ++ [buffer], sends.enqueue holds enqueued⟩
      next full => cases taken
  | uploaded index etag =>
    simp only [sequentialNext] at taken
    split at taken
    next awaits =>
      obtain ⟨⟨finished, upload⟩, ended, result⟩ := Option.map_eq_some_iff.mp taken
      cases result
      exact ⟨sent, sends.uploaded ended⟩
    next => cases taken

theorem sends_start {first : Bytes} {preloaded : List Bytes} {reader : ResponseByteReader}
    (started : startSequential first preloaded reader = .ok state) :
    ∃ sent, Sends (first ++ (preloaded.flatten ++ reader.remaining)) sent state := by
  cases enqueued : enqueueSequentialPart first .new with
  | error message =>
    rw [startSequential, enqueued] at started
    cases started
  | ok parts =>
    rw [startSequential, enqueued] at started
    cases started
    -- Before the first buffer nothing is sent.
    have nothing : Sends (first ++ (preloaded.flatten ++ reader.remaining)) []
        ⟨.new, preloaded, reader, some first, false⟩ :=
      ⟨rfl, rfl, rfl, carries_empty, .nil, rfl, nofun⟩
    exact ⟨_, nothing.enqueue rfl enqueued⟩

/-- When the upload is finished its parts make up the body. -/
theorem sequential_run_sends {first : Bytes} {preloaded : List Bytes}
    {reader : ResponseByteReader} {events : List SequentialEvent}
    (started : startSequential first preloaded reader = .ok state)
    (run : Run (Takes (sequentialNext options)) state events state')
    (finished : state'.finished = true) :
    ∃ sent, sent.flatten = first ++ (preloaded.flatten ++ reader.remaining) ∧
      state'.parts.hasher = sent.flatten ∧
      state'.parts.contentLength = sent.flatten.length ∧
      Carries sent state'.parts.upload ∧ state'.parts.upload.uploads = [] ∧
      state'.parts.upload.numbers.Perm (List.range' 1 sent.length) := by
  obtain ⟨sent, sends⟩ := run.invariant
    (fun _ _ _ sends taken => Sends.step sends taken) (sends_start started)
  simp only [SequentialState.finished, Bool.and_eq_true, List.isEmpty_iff] at finished
  obtain ⟨ended, noneInFlight⟩ := finished
  obtain ⟨notHeld, notPreloaded, atEnd⟩ := sends.atEnd ended
  have covers := sends.covers
  rw [notHeld, notPreloaded, atEnd] at covers
  refine ⟨sent, ?_, sends.hashed, sends.counted, sends.carries, noneInFlight, sends.numbers⟩
  simpa using covers

end Sends

end TweetDb.Transfer
