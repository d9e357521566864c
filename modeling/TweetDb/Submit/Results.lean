import TweetDb.Submit.PrepareLoop
import TweetDb.Submit.TwoRuns

/-! # The response of a submit call

`result.rs`, and what `execute_prepared_submit` records for given outcomes of
its statements, with an index out of range as a failure of the whole call.
-/

namespace TweetDb.Submit

open TweetDb.Transfer (EnqueueTransferTask TransferEnqueueStatus)
open TweetDb.Tweet (TweetPlace TwitterUser)
open ObjectResult

/-! ## Statuses and the summary -/

/-- `SubmitObjectStatus`. -/
inductive ObjectStatus where
  | accepted
  | skipped
  | partly
  | failed
deriving DecidableEq, Repr

structure SubmitObjectResult where
  id : Option String
  status : ObjectStatus
  operations : List OperationResult
  error : Option String
deriving DecidableEq, Repr

def ObjectResult.has (result : ObjectResult) (status : OperationStatus) : Bool :=
  result.operations.any fun operation => operation.status == status

def ObjectResult.finish (result : ObjectResult) : SubmitObjectResult where
  id := result.id
  status :=
    if result.has .failed && (result.has .accepted || result.has .skipped) then .partly
    else if result.has .failed || result.fatalError.isSome then .failed
    else if result.has .accepted then .accepted
    else .skipped
  operations := result.operations
  error := result.fatalError

structure SubmitSummary where
  total : Nat
  accepted : Nat
  skipped : Nat
  partly : Nat
  failed : Nat
deriving DecidableEq, Repr

def SubmitSummary.count (summary : SubmitSummary) (result : SubmitObjectResult) : SubmitSummary :=
  let summary := { summary with total := summary.total + 1 }
  match result.status with
  | .accepted => { summary with accepted := summary.accepted + 1 }
  | .skipped => { summary with skipped := summary.skipped + 1 }
  | .partly => { summary with partly := summary.partly + 1 }
  | .failed => { summary with failed := summary.failed + 1 }

structure SubmitTweetResponse where
  summary : SubmitSummary
  users : List SubmitObjectResult
  tweets : List SubmitObjectResult
  media : List SubmitObjectResult
deriving DecidableEq, Repr

/-- `summarize_results`. -/
def summarizeResults (users tweets media : List SubmitObjectResult) : SubmitSummary :=
  (users ++ tweets ++ media).foldl SubmitSummary.count ⟨0, 0, 0, 0, 0⟩

/-- The response of `submit_tweets`. -/
def SubmitResults.response (results : SubmitResults) : SubmitTweetResponse :=
  let users := results.users.map ObjectResult.finish
  let tweets := results.tweets.map ObjectResult.finish
  let media := results.media.map ObjectResult.finish
  ⟨summarizeResults users tweets media, users, tweets, media⟩

/-- Every result is counted once, under its status. -/
theorem foldl_count (results : List SubmitObjectResult) (summary : SubmitSummary) :
    let counted := results.foldl SubmitSummary.count summary
    counted.total = summary.total + results.length ∧
      (summary.total = summary.accepted + summary.skipped + summary.partly + summary.failed →
        counted.total = counted.accepted + counted.skipped + counted.partly + counted.failed) := by
  induction results generalizing summary with
  | nil => exact ⟨rfl, id⟩
  | cons result results inductionHypothesis =>
    obtain ⟨total, balanced⟩ := inductionHypothesis (summary.count result)
    simp only [List.foldl_cons, List.length_cons] at total balanced ⊢
    have one : (summary.count result).total = summary.total + 1 := by
      unfold SubmitSummary.count
      cases result.status <;> rfl
    refine ⟨by omega, fun before => balanced ?_⟩
    unfold SubmitSummary.count
    cases result.status <;> simp only <;> omega

theorem summarizeResults_total (users tweets media : List SubmitObjectResult) :
    let summary := summarizeResults users tweets media
    summary.total = users.length + tweets.length + media.length ∧
      summary.total = summary.accepted + summary.skipped + summary.partly + summary.failed := by
  obtain ⟨total, balanced⟩ := foldl_count (users ++ tweets ++ media) ⟨0, 0, 0, 0, 0⟩
  refine ⟨?_, balanced rfl⟩
  simp only [List.length_append] at total
  simp only [summarizeResults]
  omega

/-! ## Outcomes of the statements -/

/-- What the statements of a call may answer, each a set of statuses or an error. -/
structure Outcomes where
  preload : Except String Unit
  users : Except String (List Int)
  userSnapshots : Except String (List ((Int × Timestamp) × ConditionalWrite))
  userStats : Except String (List ((Int × Timestamp) × ConditionalWrite))
  media : Except String (List Int)
  mediaResources : Except String (List ((Int × Timestamp) × ConditionalWrite))
  transferTasks : Except String (List ((Int × Timestamp) × TransferEnqueueStatus))
  tweetPlaces : Except String (List String)
  tweets : Except String (List Int)
  tweetEdits : Except String (List (Int × ConditionalWrite))
  tweetPolicies : Except String (List (Int × ConditionalWrite))
  tweetCommunityNotes : Except String (List (Int × ConditionalWrite))
  tweetStats : Except String (List ((Int × Timestamp) × ConditionalWrite))
  relations : Except String (List (Int × RelationSyncStatuses))

/-- Something recorded in the results at some indices. -/
structure Recording where
  indices : List Nat
  record : ObjectResult → ObjectResult

/-- What a stage records for the outcome of its statement. -/
def stage {α β : Type} (indices : α → List Nat) (record : β → α → ObjectResult → ObjectResult)
    (fail : String → ObjectResult → ObjectResult) (entries : List α)
    (statement : Except String β) : List Recording :=
  if entries.isEmpty then []
  else
    match statement with
    | .ok answers => entries.map fun entry => ⟨indices entry, record answers entry⟩
    | .error error => entries.map fun entry => ⟨indices entry, fail (databaseError error)⟩

/-- `results[index]` with an index out of range panics. -/
def indexResults (record : ObjectResult → ObjectResult) (results : List ObjectResult)
    (index : Nat) : Option (List ObjectResult) :=
  if index < results.length then some (results.modify index record) else none

def applyRecording (results : List ObjectResult) (recording : Recording) :
    Option (List ObjectResult) :=
  recording.indices.foldlM (indexResults recording.record) results

def applyRecordings (recordings : List Recording) (results : List ObjectResult) :
    Option (List ObjectResult) :=
  recordings.foldlM applyRecording results

section Recordings

variable (prepared : PreparedSubmitBatch) (outcomes : Outcomes)

def writeOf (name : String) (statuses : List ((Int × Timestamp) × ConditionalWrite))
    (key : Int × Timestamp) : ObjectResult → ObjectResult :=
  recordConditionalWrite name (statuses.lookup key)

/-- What the stages record in `user_results`, in order. -/
def userRecordings : List Recording :=
  stage CombinedUserWrite.userIndices recordUser (failed "twitter_user")
      (combineUsers prepared.users prepared.tweetAuthors) outcomes.users ++
    stage indexOf (fun statuses item =>
        writeOf "user_snapshot" statuses (item.value.userId, item.value.recordedAt))
      (failed "user_snapshot") prepared.userSnapshots outcomes.userSnapshots ++
    stage indexOf (fun statuses item =>
        writeOf "user_stats" statuses (item.value.userId, item.value.recordedAt))
      (failed "user_stats") prepared.userStats outcomes.userStats

/-- What `write_media_resources_batch` returns. -/
def resourceStatuses : List ((Int × Timestamp) × ConditionalWrite) :=
  if prepared.mediaResources.isEmpty then []
  else
    match outcomes.mediaResources with
    | .ok statuses => statuses
    | .error _ => []

def mediaRecordings (env : Environment) : List Recording :=
  let statuses := resourceStatuses prepared outcomes
  stage indexOf (fun changed item => recordChanged "media" (changed.contains item.value.id))
      (failed "media") prepared.media outcomes.media ++
    stage indexOf (fun statuses item =>
        writeOf "media_resource" statuses (item.value.mediaId, item.value.recordedAt))
      (failed "media_resource") prepared.mediaResources outcomes.mediaResources ++
    (prepared.mediaResources.map fun item =>
      ⟨[item.index], (planMediaTransfer env prepared.media statuses item).recorded⟩) ++
    stage indexOf recordTransfer (failed "media_transfer")
      (mediaTransferTasks env prepared.media prepared.mediaResources statuses)
      outcomes.transferTasks

def childStage {α : Type} (name : String) (tweetId : α → Int) (items : List (Indexed α))
    (statement : Except String (List (Int × ConditionalWrite))) : List Recording :=
  stage indexOf
    (fun statuses item => recordConditionalWrite name (statuses.lookup (tweetId item.value)))
    (failed name) items statement

def tweetRecordings : List Recording :=
  stage CombinedUserWrite.tweetIndices recordAuthor (failed "tweet_author")
      (combineUsers prepared.users prepared.tweetAuthors) outcomes.users ++
    stage DedupedPlace.indices
      (fun changed entry => recordChanged "tweet_place" (changed.contains entry.placeId))
      (failed "tweet_place") (dedupePlaces prepared.tweetPlaces) outcomes.tweetPlaces ++
    stage indexOf (fun changed item => recordChanged "tweet" (changed.contains item.value.id))
      (failed "tweet") prepared.tweets outcomes.tweets ++
    childStage "tweet_edit" Tweet.TweetEdit.tweetId prepared.tweetEdits outcomes.tweetEdits ++
    childStage "tweet_policy" Tweet.TweetPolicy.tweetId prepared.tweetPolicies
      outcomes.tweetPolicies ++
    childStage "tweet_community_note" Tweet.TweetCommunityNote.tweetId
      prepared.tweetCommunityNotes outcomes.tweetCommunityNotes ++
    stage indexOf (fun statuses item =>
        writeOf "tweet_stats" statuses (item.value.tweetId, item.value.recordedAt))
      (failed "tweet_stats") prepared.tweetStats outcomes.tweetStats ++
    stage indexOf recordRelations failRelations prepared.tweetRelations outcomes.relations

/-- `execute_prepared_submit` for these outcomes; `none` is a panic. -/
def recordOutcomes (env : Environment) : Option SubmitResults :=
  match outcomes.preload with
  | .error error => do
    let record := failed "dict_preload" (databaseError error)
    let users ← applyRecording prepared.userResults ⟨userIndices prepared, record⟩
    let tweets ← applyRecording prepared.tweetResults ⟨tweetIndices prepared, record⟩
    let media ← applyRecording prepared.mediaResults ⟨mediaIndices prepared, record⟩
    return ⟨users, tweets, media⟩
  | .ok () => do
    let users ← applyRecordings (userRecordings prepared outcomes) prepared.userResults
    let tweets ← applyRecordings (tweetRecordings prepared outcomes) prepared.tweetResults
    let media ← applyRecordings (mediaRecordings prepared outcomes env) prepared.mediaResults
    return ⟨users, tweets, media⟩

end Recordings

/-! ## Recordings in range -/

def InRange (recordings : List Recording) (length : Nat) : Prop :=
  ∀ recording ∈ recordings, ∀ index ∈ recording.indices, index < length

/-- Recording changes no id. -/
def KeepsId (record : ObjectResult → ObjectResult) : Prop :=
  ∀ result, (record result).id = result.id

section Apply

variable {recordings : List Recording} {results : List ObjectResult} {length : Nat}

@[simp] theorem length_recordAt (indices : List Nat) (record : ObjectResult → ObjectResult)
    (results : List ObjectResult) : (recordAt indices record results).length = results.length := by
  induction indices generalizing results with
  | nil => rfl
  | cons index indices inductionHypothesis =>
    exact (inductionHypothesis _).trans (List.length_modify ..)

theorem applyRecording_of_inRange {recording : Recording} {results : List ObjectResult}
    (inRange : ∀ index ∈ recording.indices, index < results.length) :
    applyRecording results recording =
      some (recordAt recording.indices recording.record results) := by
  obtain ⟨indices, record⟩ := recording
  simp only [applyRecording] at inRange ⊢
  induction indices generalizing results with
  | nil => rfl
  | cons index indices inductionHypothesis =>
    have first : index < results.length := inRange index List.mem_cons_self
    have step : indexResults record results index = some (results.modify index record) := by
      simp [indexResults, first]
    rw [List.foldlM_cons, step]
    refine inductionHypothesis fun other later => ?_
    rw [List.length_modify]
    exact inRange other (List.mem_cons_of_mem _ later)

/-- With every index in range nothing panics. -/
theorem applyRecordings_of_inRange (inRange : InRange recordings results.length) :
    applyRecordings recordings results =
      some (recordEach Recording.indices Recording.record recordings results) := by
  unfold applyRecordings
  induction recordings generalizing results with
  | nil => rfl
  | cons recording recordings inductionHypothesis =>
    rw [List.foldlM_cons, applyRecording_of_inRange (inRange recording List.mem_cons_self)]
    refine inductionHypothesis fun other later => ?_
    rw [length_recordAt]
    exact inRange other (List.mem_cons_of_mem _ later)

theorem map_id_recordAt {record : ObjectResult → ObjectResult} (keeps : KeepsId record)
    (indices : List Nat) (results : List ObjectResult) :
    (recordAt indices record results).map ObjectResult.id = results.map ObjectResult.id := by
  induction indices generalizing results with
  | nil => rfl
  | cons index indices inductionHypothesis =>
    refine (inductionHypothesis _).trans ?_
    apply List.ext_getElem?
    intro other
    simp only [List.getElem?_map, List.getElem?_modify]
    by_cases same : index = other <;> cases results[other]? <;> simp [same, keeps _]

theorem map_id_recordEach (keeps : ∀ recording ∈ recordings, KeepsId recording.record)
    (results : List ObjectResult) :
    (recordEach Recording.indices Recording.record recordings results).map ObjectResult.id =
      results.map ObjectResult.id := by
  induction recordings generalizing results with
  | nil => rfl
  | cons recording recordings inductionHypothesis =>
    refine (inductionHypothesis (fun other later => keeps other (List.mem_cons_of_mem _ later))
      _).trans ?_
    exact map_id_recordAt (keeps recording List.mem_cons_self) _ _

theorem inRange_append {others : List Recording} :
    InRange (recordings ++ others) length ↔ InRange recordings length ∧ InRange others length := by
  simp [InRange, or_imp, forall_and]

theorem inRange_stage {α β : Type} {indices : α → List Nat}
    {record : β → α → ObjectResult → ObjectResult} {fail : String → ObjectResult → ObjectResult}
    {entries : List α} (statement : Except String β)
    (inRange : ∀ entry ∈ entries, ∀ index ∈ indices entry, index < length) :
    InRange (stage indices record fail entries statement) length := by
  intro recording member index named
  unfold stage at member
  split at member
  · cases member
  · cases statement <;>
      obtain ⟨entry, isEntry, rfl⟩ := List.mem_map.mp member <;>
      exact inRange entry isEntry index named

theorem keepsId_stage {α β : Type} {indices : α → List Nat}
    {record : β → α → ObjectResult → ObjectResult} {fail : String → ObjectResult → ObjectResult}
    (entries : List α) (statement : Except String β)
    (keeps : ∀ answers entry, KeepsId (record answers entry)) (keeps' : ∀ error, KeepsId (fail error)) :
    ∀ recording ∈ stage indices record fail entries statement, KeepsId recording.record := by
  intro recording member
  unfold stage at member
  split at member
  · cases member
  · cases statement with
    | ok answers =>
      obtain ⟨entry, _, rfl⟩ := List.mem_map.mp member
      exact keeps answers entry
    | error error =>
      obtain ⟨entry, _, rfl⟩ := List.mem_map.mp member
      exact keeps' (databaseError error)

end Apply

section Keeps

theorem keepsId_failed (name error : String) : KeepsId (failed name error) := fun _ => rfl

theorem keepsId_recordConditionalWrite (name : String) (write : Option ConditionalWrite) :
    KeepsId (recordConditionalWrite name write) := by
  intro result
  cases write with
  | none => rfl
  | some write => cases write <;> rfl

theorem keepsId_recordRelationSync (name : String) (status : Option Tweet.SyncStatus) :
    KeepsId (recordRelationSync name status) := by
  intro result
  cases status with
  | none => rfl
  | some status => cases status <;> rfl

theorem keepsId_recordChanged (name : String) (changed : Bool) :
    KeepsId (recordChanged name changed) := by
  intro result
  cases changed <;> rfl

theorem keepsId_recordAuthor (changed : List Int) (entry : CombinedUserWrite) :
    KeepsId (recordAuthor changed entry) := by
  intro result
  unfold recordAuthor
  split <;> rfl

theorem keepsId_recordTransfer (statuses : List ((Int × Timestamp) × TransferEnqueueStatus))
    (item : Indexed EnqueueTransferTask) : KeepsId (recordTransfer statuses item) := by
  intro result
  unfold recordTransfer
  cases statuses.lookup (item.value.mediaId, item.value.sourceRecordedAt) with
  | none => rfl
  | some status => cases status <;> rfl

theorem keepsId_recorded (plan : TransferPlan) : KeepsId plan.recorded := by
  intro result
  cases plan <;> rfl

theorem keepsId_recordRelations (statuses : List (Int × RelationSyncStatuses))
    (item : Indexed TweetRelations) : KeepsId (recordRelations statuses item) := by
  intro result
  simp only [recordRelations]
  rw [keepsId_recordRelationSync, keepsId_recordRelationSync, keepsId_recordRelationSync,
    keepsId_recordRelationSync]

end Keeps

end TweetDb.Submit
