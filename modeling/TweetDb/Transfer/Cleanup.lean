import TweetDb.Transfer.Upload

/-! # Deadlines and clean-up

A whole attempt with its times: every await is under the attempt's deadline,
the two upload loops are given by what comes to them and when, and a multipart
upload that fails is aborted, under the same deadline.
-/

namespace TweetDb.Transfer

/-! ## Awaits -/

/-- What a future comes to when nothing cuts it off: after how long, and with what. -/
structure Awaited (α : Type) where
  after : Nat
  answer : Except String α

/-- `with_deadline`: when the future is done, and its result.  `timeout_at` polls the future before
it looks at the clock, so one that is ready at once is never cut off. -/
def withDeadline {α : Type} (deadline : Option Nat) (name : String) (now : Nat)
    (future : Awaited α) : Nat × Except String α :=
  match deadline with
  | none => (now + future.after, future.answer)
  | some deadline =>
    if future.after = 0 ∨ now + future.after ≤ deadline then (now + future.after, future.answer)
    else (max now deadline, .error s!"{name} timed out")

/-- A future that takes time is carried out exactly if it is done by the deadline. -/
theorem withDeadline_done_iff {deadline : Option Nat} {name : String} {now after : Nat}
    (positive : 0 < after) :
    (withDeadline deadline name now ⟨after, .ok ()⟩).2 = .ok () ↔
      ∀ limit ∈ deadline, now + after ≤ limit := by
  have notZero : after ≠ 0 := by omega
  cases deadline with
  | none => simp [withDeadline]
  | some limit =>
    by_cases inTime : now + after ≤ limit
    · simp [withDeadline, inTime]
    · simp [withDeadline, inTime, notZero]

/-! ## The upload loops -/

/-- What comes to the range loop: a completion, or the error of a future it polls. -/
inductive RangeTurn where
  | completed (event : RangeEvent)
  | downloadFailed (index : Nat) (error : String)
  | uploadFailed (index : Nat) (error : String)
deriving DecidableEq, Repr

/-- One turn of the range loop; an error leaves the function. -/
def rangeTurn (options : TransferOptions) (sourceUrl : String) (state : RangeState) :
    RangeTurn → Option (Except String RangeState)
  | .completed (.downloaded index answer) =>
    let state := state.startDownloads options
    state.downloads[index]?.map fun spec =>
      (downloadRangePart sourceUrl spec answer).bind fun bytes =>
        state.receive spec bytes (state.downloads.eraseIdx index)
  | .completed (.uploaded index etag) =>
    (rangeNext options sourceUrl state (.uploaded index etag)).map .ok
  | .downloadFailed index error =>
    (state.startDownloads options).downloads[index]?.map fun _ => .error error
  | .uploadFailed index error =>
    state.upload.uploads[index]?.map fun _ => .error error

inductive SequentialTurn where
  | completed (event : SequentialEvent)
  | readFailed (error : String)
  | uploadFailed (index : Nat) (error : String)
deriving DecidableEq, Repr

/-- One turn of the sequential loop; the reader is asked after the preloaded buffers. -/
def sequentialTurn (options : TransferOptions) (state : SequentialState) :
    SequentialTurn → Option (Except String SequentialState)
  | .completed .nextBuffer => (sequentialNext options state .nextBuffer).map .ok
  | .completed .enqueued =>
    state.held.bind fun buffer =>
      if state.parts.upload.uploads.length < options.maxInFlightParts then
        some ((enqueueSequentialPart buffer state.parts).map fun parts =>
          { state with parts := parts, held := none })
      else none
  | .completed (.uploaded index etag) =>
    (sequentialNext options state (.uploaded index etag)).map .ok
  | .readFailed error =>
    if state.ended || state.held.isSome || !state.preloaded.isEmpty then none
    else some (.error error)
  | .uploadFailed index error =>
    if state.awaitsUploads options then
      state.parts.upload.uploads[index]?.map fun _ => .error error
    else none

/-- A loop under a schedule, with the time it is left at; `none` if it has not come to an end. -/
def runLoop {σ ε : Type} (turn : σ → ε → Option (Except String σ)) (finished : σ → Bool) :
    σ → Nat → List (Nat × ε) → Option (Nat × Except String σ)
  | state, now, [] => if finished state then some (now, .ok state) else none
  | state, now, (time, event) :: schedule =>
    if finished state || decide (time < now) then none
    else
      match turn state event with
      | none => none
      | some (.error error) => if schedule.isEmpty then some (time, .error error) else none
      | some (.ok state) => runLoop turn finished state time schedule

/-! ## An attempt -/

/-- All that an attempt depends on.  `leftBehind` says that the storage has created the upload
although its answer did not come, or not in time. -/
structure TransferAttempt where
  request : TransferRequest
  attemptTimeoutSeconds : Nat
  opened : Awaited Unit
  read : Awaited Unit
  put : Awaited Unit
  created : Awaited Unit
  leftBehind : Bool
  range : List (Nat × RangeTurn)
  sequential : List (Nat × SequentialTurn)
  completed : Awaited Unit
  abortAfter : Nat

/-- What an attempt returns, and what it leaves in the storage. -/
structure AttemptOutcome where
  result : Except String Transferred
  multipartCreated : Bool
  aborted : Bool

namespace TransferAttempt

variable (attempt : TransferAttempt)

/-- `options.deadline`, in milliseconds since the attempt began. -/
def deadline : Option Nat :=
  if attempt.attemptTimeoutSeconds = 0 then none else some (attempt.attemptTimeoutSeconds * 1000)

def path : UploadPath := choosePath attempt.request.options attempt.request.initial

/-- The end of `complete_multipart_with_hash`. -/
def complete (now : Nat) (result : Except String Transferred) : Nat × Except String Transferred :=
  match result with
  | .error error => (now, .error error)
  | .ok transferred =>
    let (time, answer) := withDeadline attempt.deadline "multipart upload completion" now
      attempt.completed
    (time, answer.map fun _ => transferred)

/-- `upload_multipart_range_inner`. -/
def uploadRange (firstBuffer : Bytes) (contentLength now : Nat) :
    Option (Nat × Except String Transferred) :=
  match startRange attempt.request.options firstBuffer contentLength with
  | .error error => some (now, .error error)
  | .ok begin =>
    (runLoop (rangeTurn attempt.request.options attempt.request.sourceUrl) RangeState.finished begin
      now attempt.range).map fun (time, looped) =>
        attempt.complete time (looped.bind (finishRange attempt.request.sha256
          attempt.request.object attempt.request.etag contentLength))

/-- `upload_multipart_sequential_inner`. -/
def uploadSequential (firstBuffer : Bytes) (preloaded : List Bytes) (reader : ResponseByteReader)
    (now : Nat) : Option (Nat × Except String Transferred) :=
  match startSequential firstBuffer preloaded reader with
  | .error error => some (now, .error error)
  | .ok begin =>
    (runLoop (sequentialTurn attempt.request.options) SequentialState.finished begin now
      attempt.sequential).map fun (time, looped) =>
        attempt.complete time (looped.bind fun final =>
          completeMultipartWithHash attempt.request.sha256 attempt.request.object
            attempt.request.etag final.parts.upload final.parts.contentLength final.parts.hasher)

/-- The inner function of the path, from the time the creation was answered. -/
def inner (now : Nat) : Option (Nat × Except String Transferred) :=
  match attempt.path with
  | .single _ => none
  | .range firstBuffer contentLength => attempt.uploadRange firstBuffer contentLength now
  | .sequential firstBuffer preloaded reader =>
    attempt.uploadSequential firstBuffer preloaded reader now

/-- `finish_or_abort_multipart`. -/
def finishOrAbortMultipart (now : Nat) (result : Except String Transferred) : AttemptOutcome :=
  match result with
  | .ok uploaded => ⟨.ok uploaded, true, false⟩
  | .error error =>
    let abort := withDeadline attempt.deadline "multipart upload abort" now
      ⟨attempt.abortAfter, .ok ()⟩
    ⟨.error error, true, abort.2.toOption.isSome⟩

/-- `upload_multipart_range` and `upload_multipart_sequential`. -/
def uploadMultipart (now : Nat) : Option AttemptOutcome :=
  match withDeadline attempt.deadline "multipart upload creation" now attempt.created with
  | (_, .error error) => some ⟨.error error, attempt.leftBehind, false⟩
  | (time, .ok ()) =>
    (attempt.inner time).map fun (time, result) => attempt.finishOrAbortMultipart time result

/-- `put_single_object`. -/
def putSingle (body : Bytes) (now : Nat) : AttemptOutcome :=
  let (_, answer) := withDeadline attempt.deadline "single object upload" now attempt.put
  ⟨answer.bind fun _ => putSingleObject attempt.request.sha256 attempt.request.object
    attempt.request.etag body, false, false⟩

/-- `transfer_source_to_storage`; `none` if the schedule does not end the attempt. -/
def transferSourceToStorage : Option AttemptOutcome :=
  match withDeadline attempt.deadline "download request" 0 attempt.opened with
  | (_, .error error) => some ⟨.error error, false, false⟩
  | (time, .ok ()) =>
    match withDeadline attempt.deadline "download body read" time attempt.read with
    | (_, .error error) => some ⟨.error error, false, false⟩
    | (time, .ok ()) =>
      match attempt.path with
      | .single body => some (attempt.putSingle body time)
      | _ => attempt.uploadMultipart time

end TransferAttempt

/-! ## Every failure is cleaned up, if there is time for it -/

def AttemptOutcome.NoOrphan (outcome : AttemptOutcome) : Prop :=
  outcome.multipartCreated = true → outcome.result.toOption = none → outcome.aborted = true

namespace TransferAttempt

variable {attempt : TransferAttempt} {outcome : AttemptOutcome}

/-- When a multipart upload is asked for, if the attempt comes to that. -/
def multipartBegins (attempt : TransferAttempt) : Option Nat :=
  match withDeadline attempt.deadline "download request" 0 attempt.opened with
  | (_, .error _) => none
  | (time, .ok ()) =>
    match withDeadline attempt.deadline "download body read" time attempt.read with
    | (_, .error _) => none
    | (time, .ok ()) =>
      match attempt.path with
      | .single _ => none
      | _ => some time

/-- An upload that the attempt does not learn of is not left behind, and whatever fails after the
creation leaves the storage enough time before the deadline to answer the abort. -/
structure CleanUpInTime (attempt : TransferAttempt) : Prop where
  creationKnown : ∀ now ∈ attempt.multipartBegins, ∀ time error,
    withDeadline attempt.deadline "multipart upload creation" now attempt.created =
      (time, .error error) → attempt.leftBehind = false
  abortInTime : ∀ now ∈ attempt.multipartBegins, ∀ time,
    withDeadline attempt.deadline "multipart upload creation" now attempt.created =
      (time, .ok ()) →
    ∀ failed error, attempt.inner time = some (failed, .error error) →
    ∀ limit ∈ attempt.deadline, failed + attempt.abortAfter ≤ limit

theorem transferSourceToStorage_cases
    (returned : attempt.transferSourceToStorage = some outcome) :
    (attempt.multipartBegins = none ∧ outcome.multipartCreated = false) ∨
      ∃ now, attempt.multipartBegins = some now ∧ attempt.uploadMultipart now = some outcome := by
  unfold transferSourceToStorage at returned
  unfold multipartBegins
  split at returned
  next error opened =>
    cases returned
    simp
  next time opened =>
    split at returned
    next error read =>
      cases returned
      simp
    next time read =>
      cases path : attempt.path with
      | single body =>
        simp only [path] at returned
        cases returned
        simp [putSingle]
      | range firstBuffer contentLength =>
        simp only [path] at returned
        simp [returned]
      | sequential firstBuffer preloaded reader =>
        simp only [path] at returned
        simp [returned]

theorem finishOrAbort_noOrphan_iff (positive : 0 < attempt.abortAfter) {now : Nat}
    {result : Except String Transferred} :
    (attempt.finishOrAbortMultipart now result).NoOrphan ↔
      ∀ error, result = .error error →
        ∀ limit ∈ attempt.deadline, now + attempt.abortAfter ≤ limit := by
  cases result with
  | ok uploaded => simp [finishOrAbortMultipart, AttemptOutcome.NoOrphan, Except.toOption]
  | error error =>
    have done := @withDeadline_done_iff attempt.deadline "multipart upload abort" now
      attempt.abortAfter positive
    simp only [finishOrAbortMultipart, AttemptOutcome.NoOrphan, Except.toOption, forall_const,
      Except.error.injEq, forall_eq']
    rw [← done]
    cases (withDeadline attempt.deadline "multipart upload abort" now
      ⟨attempt.abortAfter, .ok ()⟩).2 <;> simp

/-- Whatever fails an attempt and when, the upload it created has been aborted on return exactly
if the clean-up was in time. -/
theorem no_orphaned_multipart_iff (positive : 0 < attempt.abortAfter)
    (returned : attempt.transferSourceToStorage = some outcome) :
    outcome.NoOrphan ↔ attempt.CleanUpInTime := by
  rcases transferSourceToStorage_cases returned with ⟨never, notCreated⟩ | ⟨now, begins, returned⟩
  · constructor
    · intro _
      constructor <;> simp [never]
    · intro _ created
      rw [notCreated] at created
      cases created
  · unfold uploadMultipart at returned
    split at returned
    next time error unanswered =>
      -- The attempt does not know the upload, so nobody aborts it.
      cases returned
      simp only [AttemptOutcome.NoOrphan, Except.toOption, forall_const, Bool.false_eq_true,
        imp_false, Bool.not_eq_true]
      constructor
      · intro notLeft
        refine ⟨fun _ _ _ _ _ => notLeft, ?_⟩
        intro now' begins' time' answered
        rw [begins, Option.mem_some_iff] at begins'
        subst begins'
        rw [unanswered] at answered
        cases answered
      · intro inTime
        exact inTime.creationKnown now begins time error unanswered
    next time answered =>
      obtain ⟨⟨failed, result⟩, ended, isOutcome⟩ := Option.map_eq_some_iff.mp returned
      subst isOutcome
      simp only
      rw [finishOrAbort_noOrphan_iff positive]
      constructor
      · intro inTime
        constructor
        · intro now' begins' time' error unanswered
          rw [begins, Option.mem_some_iff] at begins'
          subst begins'
          rw [answered] at unanswered
          cases unanswered
        · intro now' begins' time' answered' failed' error ended'
          rw [begins, Option.mem_some_iff] at begins'
          subst begins'
          rw [answered] at answered'
          cases answered'
          rw [ended] at ended'
          cases ended'
          exact inTime error rfl
      · intro inTime error isError
        subst isError
        exact inTime.abortInTime now begins time answered failed error ended

/-- Five bytes in chunks of two, with a second for all of it: the answer to the first range comes
after 40 ms, and nothing comes to the second but what the schedule says. -/
def twoRanges (range : List (Nat × RangeTurn)) : TransferAttempt where
  request := smallRequest (smallOptions 2 Nat.two_pos) (some 5)
  attemptTimeoutSeconds := 1
  opened := ⟨20, .ok ()⟩
  read := ⟨5, .ok ()⟩
  put := ⟨5, .ok ()⟩
  created := ⟨5, .ok ()⟩
  leftBehind := false
  range := (40, .completed (.downloaded 0 ⟨206, "206 Partial Content", none, [[3, 4]]⟩)) :: range
  sequential := []
  completed := ⟨5, .ok ()⟩
  abortAfter := 5

/-- A download that hangs until the deadline fails the attempt, and the abort is cut off. -/
theorem timed_out_upload_is_orphaned : ∃ outcome,
    (twoRanges [(1000, .downloadFailed 0 "range download request timed out")]).transferSourceToStorage
      = some outcome ∧ 0 < (twoRanges []).abortAfter ∧ ¬ outcome.NoOrphan := by
  refine ⟨⟨.error "range download request timed out", true, false⟩, rfl, by decide, ?_⟩
  intro noOrphan
  have aborted := noOrphan rfl rfl
  cases aborted

theorem no_orphaned_multipart_refused : ∃ outcome,
    (twoRanges [(60, .uploadFailed 0 "failed to upload multipart part to storage")]).transferSourceToStorage
      = some outcome ∧ outcome.multipartCreated = true ∧ outcome.NoOrphan := by
  refine ⟨⟨.error "failed to upload multipart part to storage", true, true⟩, rfl, rfl, ?_⟩
  refine (@no_orphaned_multipart_iff
    (twoRanges [(60, .uploadFailed 0 "failed to upload multipart part to storage")]) _ (by decide)
    rfl).mpr ⟨fun _ _ _ _ _ => rfl, ?_⟩
  intro now begins time created failed error ended limit isLimit
  cases begins
  cases created
  cases ended
  cases isLimit
  decide

end TransferAttempt

end TweetDb.Transfer
