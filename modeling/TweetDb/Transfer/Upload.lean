import TweetDb.Transfer.SequentialUpload
import TweetDb.Transfer.RangeUpload

/-! # Transfer to storage

`transfer_source_to_storage`: the first buffer, the announced length and the
range support choose the path.  Whatever the path and the order in which
downloads and uploads finish, the storage gets the body.
-/

namespace TweetDb.Transfer

open Transition

/-- The response to the first request; `chunks` is how its body arrives. -/
structure InitialDownload where
  chunks : List Bytes
  contentType : Option String
  contentLength : Option UInt64
  supportsRanges : Bool
deriving DecidableEq, Repr

inductive UploadPath where
  | single (body : Bytes)
  | range (firstBuffer : Bytes) (contentLength : Nat)
  | sequential (firstBuffer : Bytes) (preloaded : List Bytes) (reader : ResponseByteReader)
deriving DecidableEq, Repr

/-- The branches of `transfer_source_to_storage`. -/
def choosePath (options : TransferOptions) (initial : InitialDownload) : UploadPath :=
  match (ResponseByteReader.new initial.chunks).readNextBuffer options.chunkSizeBytes with
  | (none, _) => .single []
  | (some firstBuffer, reader) =>
    if (initial.contentLength.any fun contentLength => contentLength.toNat ≤ firstBuffer.length) ||
        firstBuffer.length < options.chunkSizeBytes then
      .single firstBuffer
    else
      match initial.contentLength with
      | some contentLength =>
        if initial.supportsRanges && 1 < options.downloadParallelism then
          .range firstBuffer contentLength.toNat
        else .sequential firstBuffer [] reader
      | none =>
        match reader.readNextBuffer options.chunkSizeBytes with
        | (some secondBuffer, reader) => .sequential firstBuffer [secondBuffer] reader
        | (none, _) => .single firstBuffer

/-- The hash loop is done: the length is checked before the upload is completed. -/
def finishRange (sha256 : Bytes → String) (object : PreparedStorageObject) (etag : Option String)
    (contentLength : Nat) (state : RangeState) : Except String Transferred :=
  if state.hash.contentLength ≠ contentLength then
    .error s!"downloaded content length {state.hash.contentLength} did not match expected content length {contentLength}"
  else
    completeMultipartWithHash sha256 object etag state.upload state.hash.contentLength
      state.hash.hasher

/-- What a transfer depends on besides the downloads: `prepareUpload` takes the explicit
content type, and `etag` is what the storage answers in the end. -/
structure TransferRequest where
  options : TransferOptions
  sha256 : Bytes → String
  prepareUpload : Option String → PreparedStorageObject
  sourceUrl : String
  sourceContentType : Option String
  initial : InitialDownload
  etag : Option String

def TransferRequest.object (request : TransferRequest) : PreparedStorageObject :=
  request.prepareUpload (request.sourceContentType.or request.initial.contentType)

/-- `transfer_source_to_storage` succeeds with a result, by some order of events; the range
answers are about `body`. -/
inductive TransferSourceToStorage (request : TransferRequest) (body : Bytes) :
    Transferred → Prop where
  | single {whole : Bytes} {result : Transferred} :
      choosePath request.options request.initial = .single whole →
      putSingleObject request.sha256 request.object request.etag whole = .ok result →
      TransferSourceToStorage request body result
  | range {firstBuffer : Bytes} {contentLength : Nat} {begin final : RangeState}
      {events : List RangeEvent} {result : Transferred} :
      choosePath request.options request.initial = .range firstBuffer contentLength →
      startRange request.options firstBuffer contentLength = .ok begin →
      Run (rangeStep request.options request.sourceUrl body) begin events final →
      final.finished = true →
      finishRange request.sha256 request.object request.etag contentLength final = .ok result →
      TransferSourceToStorage request body result
  | sequential {firstBuffer : Bytes} {preloaded : List Bytes} {reader : ResponseByteReader}
      {begin final : SequentialState} {events : List SequentialEvent} {result : Transferred} :
      choosePath request.options request.initial = .sequential firstBuffer preloaded reader →
      startSequential firstBuffer preloaded reader = .ok begin →
      Run (Takes (sequentialNext request.options)) begin events final →
      final.finished = true →
      completeMultipartWithHash request.sha256 request.object request.etag final.parts.upload
        final.parts.contentLength final.parts.hasher = .ok result →
      TransferSourceToStorage request body result

/-- An order of events, for the paths that have one. -/
inductive Schedule where
  | single
  | range (events : List RangeEvent)
  | sequential (events : List SequentialEvent)
deriving DecidableEq, Repr

/-- The transfer under a given schedule. -/
def transferBy (request : TransferRequest) (body : Bytes) (schedule : Schedule) :
    Option Transferred :=
  match choosePath request.options request.initial, schedule with
  | .single whole, .single =>
    (putSingleObject request.sha256 request.object request.etag whole).toOption
  | .range firstBuffer contentLength, .range events =>
    (startRange request.options firstBuffer contentLength).toOption.bind fun begin =>
    (exec (guarded (rangeNext request.options request.sourceUrl) fun state event =>
      isHonest request.options body state event = true) begin events).bind fun final =>
    if final.finished then
      (finishRange request.sha256 request.object request.etag contentLength final).toOption
    else none
  | .sequential firstBuffer preloaded reader, .sequential events =>
    (startSequential firstBuffer preloaded reader).toOption.bind fun begin =>
    (exec (sequentialNext request.options) begin events).bind fun final =>
    if final.finished then
      (completeMultipartWithHash request.sha256 request.object request.etag final.parts.upload
        final.parts.contentLength final.parts.hasher).toOption
    else none
  | _, _ => none

theorem transfers_of_schedule {request : TransferRequest} {body : Bytes} {schedule : Schedule}
    {result : Transferred} (transferred : transferBy request body schedule = some result) :
    TransferSourceToStorage request body result := by
  unfold transferBy at transferred
  split at transferred
  next path => exact .single path (toOption_eq_some transferred)
  next path =>
    obtain ⟨begin, started, transferred⟩ := Option.bind_eq_some_iff.mp transferred
    obtain ⟨final, executed, transferred⟩ := Option.bind_eq_some_iff.mp transferred
    split at transferred
    next finished =>
      exact .range path (toOption_eq_some started) (run_of_guarded_exec executed) finished
        (toOption_eq_some transferred)
    next => cases transferred
  next path =>
    obtain ⟨begin, started, transferred⟩ := Option.bind_eq_some_iff.mp transferred
    obtain ⟨final, executed, transferred⟩ := Option.bind_eq_some_iff.mp transferred
    split at transferred
    next finished =>
      exact .sequential path (toOption_eq_some started) (run_of_exec executed) finished
        (toOption_eq_some transferred)
    next => cases transferred
  next => cases transferred

/-! ## The path and the body -/

/-- The response is the body, and the announced length is its length. -/
structure InitialDownload.Honest (initial : InitialDownload) (body : Bytes) : Prop where
  chunks : initial.chunks.flatten = body
  contentLength : ∀ length, initial.contentLength = some length → length.toNat = body.length

/-- What the path starts from is the body, or a first buffer of it with the rest. -/
def UploadPath.StartsFrom (body : Bytes) : UploadPath → Prop
  | .single whole => whole = body
  | .range firstBuffer contentLength =>
    body.take firstBuffer.length = firstBuffer ∧ contentLength = body.length ∧
      body.length < 2 ^ 64
  | .sequential firstBuffer preloaded reader =>
    firstBuffer ++ (preloaded.flatten ++ reader.remaining) = body

section Path

variable {options : TransferOptions} {initial : InitialDownload} {body : Bytes}

/-- A read either ends the body or takes its first chunk. -/
theorem readNextBuffer_cases (reader : ResponseByteReader) (options : TransferOptions) :
    (∃ reader', reader.readNextBuffer options.chunkSizeBytes = (none, reader') ∧
      reader.remaining = []) ∨
    (∃ buffer reader', reader.readNextBuffer options.chunkSizeBytes = (some buffer, reader') ∧
      buffer = reader.remaining.take options.chunkSizeBytes ∧
      buffer ++ reader'.remaining = reader.remaining) := by
  obtain ⟨taken, left⟩ := reader.readNextBuffer_spec options.chunkSizeBytes
  have positive := options.chunkSizeBytes_pos
  cases read : reader.readNextBuffer options.chunkSizeBytes with
  | mk result reader' =>
    rw [read] at taken left
    simp only at taken left
    by_cases nothing : reader.remaining.take options.chunkSizeBytes = []
    · rw [if_pos nothing] at taken
      subst taken
      refine .inl ⟨reader', rfl, ?_⟩
      rcases List.take_eq_nil_iff.mp nothing with zero | empty
      · omega
      · exact empty
    · rw [if_neg nothing] at taken
      subst taken
      refine .inr ⟨_, reader', rfl, rfl, ?_⟩
      rw [left, List.take_append_drop]

theorem choosePath_startsFrom (honest : initial.Honest body) :
    (choosePath options initial).StartsFrom body := by
  have whole : (ResponseByteReader.new initial.chunks).remaining = body := honest.chunks
  unfold choosePath
  rcases readNextBuffer_cases (.new initial.chunks) options with
    ⟨reader, read, atEnd⟩ | ⟨firstBuffer, reader, read, isTake, join⟩
  · rw [read]
    rw [whole] at atEnd
    exact atEnd.symm
  · rw [read]
    rw [whole] at isTake join
    -- A buffer below the chunk size, or of the announced length, is all of the body.
    have short : body.length ≤ firstBuffer.length → firstBuffer = body := by
      intro covered
      have length := congrArg List.length join
      rw [List.length_append] at length
      have nothing : reader.remaining = [] := List.length_eq_zero_iff.mp (by omega)
      simpa [nothing] using join
    have isPrefix : body.take firstBuffer.length = firstBuffer := by
      rw [← join, List.take_left']
      rfl
    have take_length : firstBuffer.length = min options.chunkSizeBytes body.length := by
      rw [isTake, List.length_take]
    simp only
    split
    next isShort =>
      simp only [Bool.or_eq_true, decide_eq_true_eq] at isShort
      apply short
      rcases isShort with announced | below
      · cases header : initial.contentLength with
        | none =>
          rw [header] at announced
          cases announced
        | some length =>
          rw [header] at announced
          have length_eq := honest.contentLength length header
          have covered : length.toNat ≤ firstBuffer.length := of_decide_eq_true announced
          omega
      · omega
    next =>
      split
      next contentLength header =>
        have length_eq := honest.contentLength _ header
        split
        · have bounded := contentLength.toNat_lt
          exact ⟨isPrefix, length_eq, by omega⟩
        · simpa [UploadPath.StartsFrom] using join
      next =>
        rcases readNextBuffer_cases reader options with
          ⟨reader', read', atEnd⟩ | ⟨secondBuffer, reader', read', _, join'⟩
        · rw [read']
          rw [atEnd, List.append_nil] at join
          exact join
        · rw [read']
          simp only [UploadPath.StartsFrom, List.flatten_cons, List.flatten_nil, List.append_nil,
            join', join]

end Path

/-! ## The stored object is the body -/

/-- The reported length is the length, and what is stored and hashed is the body. -/
def Transferred.IsCopyOf (sha256 : Bytes → String) (body : Bytes) (result : Transferred) : Prop :=
  result.storedObject = body ∧ result.metadata.sha256Hex = sha256 body ∧
    result.metadata.contentLength = body.length ∧
    ∀ parts, result.parts = some parts →
      parts.map UploadedPart.partNumber = List.range' 1 parts.length

section Copy

variable {sha256 : Bytes → String} {object : PreparedStorageObject} {etag : Option String}
  {body : Bytes} {result : Transferred}

theorem objectLength_ok {length : Nat} {asInt : Int} (converted : objectLength length = .ok asInt) :
    asInt = length := by
  unfold objectLength at converted
  split at converted
  · cases converted
    rfl
  · cases converted

theorem putSingleObject_isCopy (put : putSingleObject sha256 object etag body = .ok result) :
    result.IsCopyOf sha256 body := by
  cases converted : objectLength body.length with
  | error message =>
    rw [putSingleObject, converted] at put
    cases put
  | ok contentLength =>
    rw [putSingleObject, converted] at put
    cases put
    exact ⟨rfl, rfl, objectLength_ok converted, nofun⟩

/-- An upload that carried all parts of the body is completed to the body. -/
theorem completeMultipart_isCopy {parts : List Bytes} {upload : MultipartUpload}
    (carries : Carries parts upload) (noneInFlight : upload.uploads = [])
    (numbered : upload.numbers.Perm (List.range' 1 parts.length))
    (completed : completeMultipartWithHash sha256 object etag upload parts.flatten.length
      parts.flatten = .ok result) : result.IsCopyOf sha256 parts.flatten := by
  obtain ⟨listed, assembled⟩ := carries.complete noneInFlight numbered
  obtain ⟨contentLength, converted, completed⟩ := bind_eq_ok completed
  simp only [assembled] at completed
  cases completed
  refine ⟨rfl, rfl, objectLength_ok converted, ?_⟩
  rintro list ⟨⟩
  have length_eq := congrArg List.length listed
  rw [List.length_map, List.length_range'] at length_eq
  rw [listed, length_eq]

end Copy

/-- Whatever path is taken and whatever finishes first, the storage has the body, with its
hash and length, from parts 1, 2, … in order. -/
theorem transferSourceToStorage_stores_body {request : TransferRequest} {body : Bytes}
    {result : Transferred} (honest : request.initial.Honest body)
    (transferred : TransferSourceToStorage request body result) :
    result.storedObject = body ∧ result.metadata.sha256Hex = request.sha256 body ∧
      result.metadata.contentLength = body.length ∧
      ∀ parts, result.parts = some parts →
        parts.map UploadedPart.partNumber = List.range' 1 parts.length := by
  have starts := @choosePath_startsFrom request.options _ _ honest
  show result.IsCopyOf request.sha256 body
  cases transferred with
  | single path put =>
    rw [path] at starts
    rw [← starts]
    exact putSingleObject_isCopy put
  | range path started run finished completed =>
    rw [path] at starts
    obtain ⟨isPrefix, rfl, fits⟩ := starts
    obtain ⟨parts, rfl, hashed, counted, carries, noneInFlight, numbered⟩ :=
      range_run_ranges isPrefix fits started run finished
    rw [finishRange, if_neg (not_not_intro counted), counted, hashed] at completed
    exact completeMultipart_isCopy carries noneInFlight numbered completed
  | sequential path started run finished completed =>
    rw [path] at starts
    obtain ⟨sent, flatten_eq, hashed, counted, carries, noneInFlight, numbered⟩ :=
      sequential_run_sends started run finished
    have isBody : sent.flatten = body := flatten_eq.trans starts
    rw [hashed, counted] at completed
    rw [← isBody]
    exact completeMultipart_isCopy carries noneInFlight numbered completed

/-- Five bytes in uneven chunks; `sha256` is the digest of these bytes. -/
def smallRequest (options : TransferOptions) (contentLength : Option UInt64) : TransferRequest where
  options := options
  sha256 := fun bytes =>
    if bytes = [1, 2, 3, 4, 5] then
      "74f81fe167d99b4cb41d6d0ccda82278caee9f3e2f25d5e5a3936ff3dcec60d0"
    else ""
  prepareUpload := fun contentType =>
    ⟨7, "s3", "media", "media/7.jpg", contentType.getD "application/octet-stream"⟩
  sourceUrl := "https://pbs.twimg.com/media/7.jpg"
  sourceContentType := none
  initial := ⟨[[1], [], [2, 3, 4], [5]], some "image/jpeg", contentLength, true⟩
  etag := some "final"

/-- In chunks of two bytes there are three parts, in chunks of eight there is one object. -/
def smallOptions (chunkSizeBytes : Nat) (positive : 1 ≤ chunkSizeBytes) : TransferOptions :=
  ⟨chunkSizeBytes, 2, 2, 3, positive, by decide, by decide, by decide⟩

theorem small_transfers_store_body :
    (∃ result, transferBy (smallRequest (smallOptions 2 (by decide)) (some 5)) [1, 2, 3, 4, 5]
        (.range [.downloaded 1 ⟨206, "206 Partial Content", some 1, [[], [5]]⟩,
          .uploaded 0 "first", .downloaded 0 ⟨206, "206 Partial Content", none, [[3], [4]]⟩,
          .uploaded 1 "second", .uploaded 0 "third"]) = some result ∧
      result.IsCopyOf (smallRequest (smallOptions 2 (by decide)) (some 5)).sha256
        [1, 2, 3, 4, 5]) ∧
    (∃ result, transferBy (smallRequest (smallOptions 2 (by decide)) none) [1, 2, 3, 4, 5]
        (.sequential [.nextBuffer, .enqueued, .nextBuffer, .enqueued, .nextBuffer,
          .uploaded 2 "third", .uploaded 1 "second", .uploaded 0 "first"]) = some result ∧
      result.IsCopyOf (smallRequest (smallOptions 2 (by decide)) none).sha256
        [1, 2, 3, 4, 5]) ∧
    (∃ result, transferBy (smallRequest (smallOptions 8 (by decide)) none) [1, 2, 3, 4, 5]
        .single = some result ∧
      result.IsCopyOf (smallRequest (smallOptions 8 (by decide)) none).sha256
        [1, 2, 3, 4, 5]) := by
  have announced : ∀ length, some (5 : UInt64) = some length → length.toNat = 5 := by
    intro length given
    cases given
    rfl
  have unannounced : ∀ length, (none : Option UInt64) = some length → length.toNat = 5 := by
    intro length given
    cases given
  refine ⟨?_, ?_, ?_⟩
  · obtain ⟨result, transferred⟩ := Option.isSome_iff_exists.mp
      (show (transferBy (smallRequest (smallOptions 2 (by decide)) (some 5)) [1, 2, 3, 4, 5]
        (.range [.downloaded 1 ⟨206, "206 Partial Content", some 1, [[], [5]]⟩,
          .uploaded 0 "first", .downloaded 0 ⟨206, "206 Partial Content", none, [[3], [4]]⟩,
          .uploaded 1 "second", .uploaded 0 "third"])).isSome = true by decide)
    exact ⟨result, transferred, transferSourceToStorage_stores_body ⟨rfl, announced⟩
      (transfers_of_schedule transferred)⟩
  · obtain ⟨result, transferred⟩ := Option.isSome_iff_exists.mp
      (show (transferBy (smallRequest (smallOptions 2 (by decide)) none) [1, 2, 3, 4, 5]
        (.sequential [.nextBuffer, .enqueued, .nextBuffer, .enqueued, .nextBuffer,
          .uploaded 2 "third", .uploaded 1 "second", .uploaded 0 "first"])).isSome = true
        by decide)
    exact ⟨result, transferred, transferSourceToStorage_stores_body ⟨rfl, unannounced⟩
      (transfers_of_schedule transferred)⟩
  · obtain ⟨result, transferred⟩ := Option.isSome_iff_exists.mp
      (show (transferBy (smallRequest (smallOptions 8 (by decide)) none) [1, 2, 3, 4, 5]
        .single).isSome = true by decide)
    exact ⟨result, transferred, transferSourceToStorage_stores_body ⟨rfl, unannounced⟩
      (transfers_of_schedule transferred)⟩

end TweetDb.Transfer
