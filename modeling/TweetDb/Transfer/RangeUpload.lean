import TweetDb.Transition.Run
import TweetDb.Transfer.Download
import TweetDb.Transfer.Multipart

/-! # Range multipart upload

`upload_multipart_range_inner` as a step function.  Range downloads and part
uploads finish in any order; the parts are hashed in order, from the map of
part states.  `Tracks` says what that map is: a part stays in it until it is
both hashed and uploaded, and keeps its bytes until it is hashed.
-/

namespace TweetDb.Transfer

open Transition

structure RangeState where
  pendingRanges : List RangeSpec
  downloads : List RangeSpec
  upload : MultipartUpload
  hash : RangeHash

inductive RangeEvent where
  | downloaded (index : Nat) (answer : RangeAnswer)
  | uploaded (index : Nat) (etag : String)
deriving DecidableEq, Repr

/-- The inner `while`; `active` is `part_states.len()`. -/
def startDownloadsFrom (options : TransferOptions) (active : Nat) :
    List RangeSpec → List RangeSpec → List RangeSpec × List RangeSpec
  | downloads, [] => (downloads, [])
  | downloads, spec :: pendingRanges =>
    if downloads.length < options.downloadParallelism ∧
        downloads.length + active < options.maxInFlightParts then
      startDownloadsFrom options active (downloads ++ [spec]) pendingRanges
    else (downloads, spec :: pendingRanges)

def RangeState.startDownloads (options : TransferOptions) (state : RangeState) : RangeState :=
  { state with
    downloads := (startDownloadsFrom options state.hash.partStates.keys.length state.downloads
      state.pendingRanges).1
    pendingRanges := (startDownloadsFrom options state.hash.partStates.keys.length state.downloads
      state.pendingRanges).2 }

/-- A downloaded part is uploaded, and hashed as soon as its turn comes. -/
def RangeState.receive (spec : RangeSpec) (bytes : Bytes) (downloads : List RangeSpec)
    (state : RangeState) : Except String RangeState :=
  (hashReadyRangeParts { state.hash with
      partStates := state.hash.partStates.insert spec.partNumber (.pendingHash bytes) }).map
    fun hash =>
      { state with
        downloads := downloads
        upload := state.upload.push spec.partNumber bytes
        hash := hash }

/-- One turn of the loop: `while` first, then the `select!`. -/
def rangeNext (options : TransferOptions) (sourceUrl : String) (state : RangeState) :
    RangeEvent → Option RangeState
  | .downloaded index answer =>
    let state := state.startDownloads options
    state.downloads[index]?.bind fun spec =>
      ((downloadRangePart sourceUrl spec answer).bind fun bytes =>
        state.receive spec bytes (state.downloads.eraseIdx index)).toOption
  | .uploaded index etag =>
    let state := state.startDownloads options
    (state.upload.finish index etag).map fun (finished, upload) =>
      { state with
        upload := upload
        hash := { state.hash with
          partStates := markRangePartUploaded state.hash.partStates finished.partNumber } }

/-- The first buffer is part 1. -/
def startRange (options : TransferOptions) (first : Bytes) (contentLength : Nat) :
    Except String RangeState :=
  (buildRangeSpecs first.length contentLength options.chunkSizeBytes).bind fun specs =>
    (hashReadyRangeParts
      { partStates := AList.insert 1 (.pendingHash first) ∅
        hasher := []
        contentLength := 0
        nextHashPart := 1 }).map fun hash =>
      { pendingRanges := specs
        downloads := []
        upload := MultipartUpload.empty.push 1 first
        hash := hash }

/-- The exit condition of the loop. -/
def RangeState.finished (state : RangeState) : Bool :=
  state.pendingRanges.isEmpty && state.downloads.isEmpty && state.upload.uploads.isEmpty &&
    state.hash.partStates.keys.isEmpty

/-- The range answers that arrive are about the body. -/
def isHonest (options : TransferOptions) (body : Bytes) (state : RangeState) : RangeEvent → Bool
  | .downloaded index answer =>
    (state.startDownloads options).downloads[index]?.all fun spec =>
      answer.status != 206 || answer.chunks.flatten == spec.slice body
  | .uploaded _ _ => true

abbrev rangeStep (options : TransferOptions) (sourceUrl : String) (body : Bytes) :
    RangeState → RangeEvent → RangeState → Prop :=
  Restrict (Takes (rangeNext options sourceUrl)) fun state event =>
    isHonest options body state event = true

/-! ## The map of part states -/

/-- The part numbers whose upload has finished. -/
def MultipartUpload.uploaded (upload : MultipartUpload) : List Nat :=
  upload.completedParts.map UploadedPart.partNumber

/-- What the map says about a part, from the part numbers pushed and uploaded. -/
def partState (parts : List Bytes) (upload : MultipartUpload) (nextHashPart k : Nat) :
    Option ActivePartState :=
  if k ∈ upload.numbers ∧ ¬ (k < nextHashPart ∧ k ∈ upload.uploaded) then
    some ⟨if k < nextHashPart then none else parts[k - 1]?, decide (k ∈ upload.uploaded)⟩
  else none

/-- The parts before `nextHashPart` are hashed, and the map knows all others. -/
structure Tracks (parts : List Bytes) (upload : MultipartUpload) (hash : RangeHash) : Prop where
  positive : 1 ≤ hash.nextHashPart
  hashed : hash.hasher = (parts.take (hash.nextHashPart - 1)).flatten
  counted : hash.contentLength = hash.hasher.length
  pushed : ∀ k, 1 ≤ k → k < hash.nextHashPart → k ∈ upload.numbers
  states : ∀ k, hash.partStates.lookup k = partState parts upload hash.nextHashPart k

section Tracks

variable {parts : List Bytes} {upload : MultipartUpload} {hash hash' : RangeHash} {bytes : Bytes}

/-- A part whose bytes the map has is the next to hash, and then counts as hashed. -/
theorem Tracks.hashPart {state : ActivePartState} {contentLength : Nat}
    (tracks : Tracks parts upload hash)
    (found : hash.partStates.lookup hash.nextHashPart = some state)
    (taken : state.bytes = some bytes)
    (added : contentLength = hash.contentLength + bytes.length) :
    Tracks parts upload
      { partStates :=
          if state.uploadDone then hash.partStates.erase hash.nextHashPart
          else hash.partStates.insert hash.nextHashPart { state with bytes := none }
        hasher := hash.hasher ++ bytes
        contentLength := contentLength
        nextHashPart := hash.nextHashPart + 1 } := by
  have known := tracks.states hash.nextHashPart
  rw [found, partState] at known
  simp only [Nat.lt_irrefl, false_and, not_false_eq_true, and_true, if_false] at known
  split at known
  next isPushed =>
    rw [Option.some.injEq] at known
    have here : parts[hash.nextHashPart - 1]? = some bytes := by
      rw [known] at taken
      exact taken
    constructor
    · exact Nat.le_add_left 1 _
    · have next_eq : hash.nextHashPart + 1 - 1 = hash.nextHashPart - 1 + 1 := by
        have positive := tracks.positive
        omega
      show hash.hasher ++ bytes = (parts.take (hash.nextHashPart + 1 - 1)).flatten
      rw [next_eq, List.take_add_one, here, tracks.hashed]
      simp
    · simp [added, tracks.counted]
    · intro k atLeast before
      rcases Nat.lt_or_eq_of_le (Nat.le_of_lt_succ before) with earlier | rfl
      · exact tracks.pushed k atLeast earlier
      · exact isPushed
    · intro k
      by_cases same : k = hash.nextHashPart
      · subst same
        rw [known]
        -- An uploaded part leaves the map, another stays there without its bytes.
        by_cases done : hash.nextHashPart ∈ upload.uploaded
        · simp [partState, done]
        · simp [partState, done, isPushed]
      · have unmoved : k < hash.nextHashPart + 1 ↔ k < hash.nextHashPart := by omega
        have others : (if state.uploadDone then hash.partStates.erase hash.nextHashPart
            else hash.partStates.insert hash.nextHashPart
              { state with bytes := none }).lookup k = hash.partStates.lookup k := by
          split
          · exact AList.lookup_erase_ne same
          · exact AList.lookup_insert_ne same
        simp only [others, tracks.states k, partState, unmoved]
  next => cases known

theorem Tracks.hashReadyFrom {fuel : Nat} (tracks : Tracks parts upload hash)
    (hashed : hashReadyFrom fuel hash = .ok hash') : Tracks parts upload hash' := by
  induction fuel generalizing hash with
  | zero =>
    cases hashed
    exact tracks
  | succ fuel inductionHypothesis =>
    rcases hashReadyFrom_cases hashed with
      ⟨-, rfl⟩ | ⟨state, bytes, contentLength, found, taken, added, hashed⟩
    · exact tracks
    · exact inductionHypothesis (tracks.hashPart found taken (addContentLength_ok added)) hashed

theorem mem_numbers_push (upload : MultipartUpload) (partNumber : Nat) (buffer : Bytes) (k : Nat) :
    k ∈ (upload.push partNumber buffer).numbers ↔ k = partNumber ∨ k ∈ upload.numbers := by
  rw [(numbers_push partNumber buffer).mem_iff, List.mem_cons]

theorem uploaded_subset_numbers {k : Nat} (done : k ∈ upload.uploaded) : k ∈ upload.numbers :=
  List.mem_append_right _ done

/-- A new part enters the map with its bytes. -/
theorem Tracks.push {partNumber : Nat} (tracks : Tracks parts upload hash)
    (atLeast : 1 ≤ partNumber) (new : partNumber ∉ upload.numbers)
    (found : parts[partNumber - 1]? = some bytes) :
    Tracks parts (upload.push partNumber bytes)
      { hash with partStates := hash.partStates.insert partNumber (.pendingHash bytes) } := by
  refine ⟨tracks.positive, tracks.hashed, tracks.counted, ?_, ?_⟩
  · intro k atLeast' before
    exact (mem_numbers_push upload partNumber bytes k).mpr (.inr (tracks.pushed k atLeast' before))
  · intro k
    have uploaded_eq : (upload.push partNumber bytes).uploaded = upload.uploaded := rfl
    by_cases same : k = partNumber
    · subst same
      have notHashed : ¬ k < hash.nextHashPart := fun before => new (tracks.pushed k atLeast before)
      have notUploaded : k ∉ upload.uploaded := fun done => new (uploaded_subset_numbers done)
      simp [partState, mem_numbers_push, uploaded_eq, notHashed, notUploaded, found,
        ActivePartState.pendingHash]
    · rw [AList.lookup_insert_ne same, tracks.states k]
      simp [partState, mem_numbers_push, uploaded_eq, same]

/-- An upload that finishes is marked, and a hashed part then leaves the map. -/
theorem Tracks.markUploaded {index : Nat} {etag : String} {finished : UploadedPart}
    {upload' : MultipartUpload} (tracks : Tracks parts upload hash)
    (carries : Carries parts upload) (once : upload.numbers.Nodup)
    (ended : upload.finish index etag = some (finished, upload')) :
    Tracks parts upload' { hash with
      partStates := markRangePartUploaded hash.partStates finished.partNumber } := by
  have numbers_iff : ∀ k, k ∈ upload'.numbers ↔ k ∈ upload.numbers :=
    fun k => (numbers_finish ended).mem_iff
  obtain ⟨buffer, flying, upload_eq⟩ := finish_eq ended
  have uploaded_eq : upload'.uploaded = upload.uploaded ++ [finished.partNumber] := by
    rw [upload_eq]
    exact List.map_append
  have isNumber : finished.partNumber ∈ upload.numbers :=
    List.mem_append_left _ (List.mem_map.mpr ⟨_, flying, rfl⟩)
  have notYet : finished.partNumber ∉ upload.uploaded := by
    intro done
    exact (List.nodup_append.mp once).2.2 _ (List.mem_map.mpr ⟨_, flying, rfl⟩) _ done rfl
  obtain ⟨_, found⟩ := carries.inFlight _ flying
  have known := tracks.states finished.partNumber
  simp only [partState, isNumber, notYet, and_false, not_false_eq_true, and_self, if_true,
    decide_false, found] at known
  refine ⟨tracks.positive, tracks.hashed, tracks.counted, ?_, ?_⟩
  · intro k atLeast before
    exact (numbers_iff k).mpr (tracks.pushed k atLeast before)
  · intro k
    by_cases same : k = finished.partNumber
    · subst same
      by_cases isHashed : finished.partNumber < hash.nextHashPart
      · simp only [isHashed, if_true] at known
        simp [markRangePartUploaded, known, partState, uploaded_eq, isHashed]
      · simp only [isHashed, if_false] at known
        simp [markRangePartUploaded, known, partState, uploaded_eq, isHashed, numbers_iff,
          isNumber, found]
    · have others : (markRangePartUploaded hash.partStates finished.partNumber).lookup k =
          hash.partStates.lookup k := by
        unfold markRangePartUploaded
        rw [known]
        split
        · rfl
        · split
          · exact AList.lookup_erase_ne same
          · exact AList.lookup_insert_ne same
      have uploaded_iff : k ∈ upload'.uploaded ↔ k ∈ upload.uploaded := by
        rw [uploaded_eq, List.mem_append, List.mem_singleton]
        exact or_iff_left same
      simp only [others, tracks.states k, partState, numbers_iff k, uploaded_iff]

theorem tracks_start {first : Bytes} (found : parts[0]? = some first) :
    Tracks parts (MultipartUpload.empty.push 1 first)
      { partStates := AList.insert 1 (.pendingHash first) ∅
        hasher := []
        contentLength := 0
        nextHashPart := 1 } := by
  have nothing : Tracks parts .empty ⟨∅, [], 0, 1⟩ := by
    refine ⟨Nat.le_refl 1, rfl, rfl, fun k atLeast before => ?_, fun k => ?_⟩
    · exact absurd before (Nat.not_lt.mpr atLeast)
    · rw [AList.lookup_empty]
      rfl
  exact nothing.push (Nat.le_refl 1) (by simp [MultipartUpload.empty, MultipartUpload.numbers])
    found

/-- Once every part is pushed and has left the map, every part is hashed. -/
theorem Tracks.all_hashed (tracks : Tracks parts upload hash)
    (numbered : upload.numbers.Perm (List.range' 1 parts.length))
    (noStates : hash.partStates.keys = []) : parts.length ≤ hash.nextHashPart - 1 := by
  by_contra more
  have positive := tracks.positive
  -- The next part to hash would still be in the map.
  have isPart : hash.nextHashPart ∈ upload.numbers := by
    rw [numbered.mem_iff, List.mem_range'_1]
    omega
  have known := tracks.states hash.nextHashPart
  have absent : hash.partStates.lookup hash.nextHashPart = none := by
    rw [AList.lookup_eq_none]
    intro member
    have inKeys := AList.mem_keys.mp member
    rw [noStates] at inKeys
    cases inKeys
  rw [absent, partState] at known
  simp [isPart] at known

end Tracks

/-! ## Every range is a part -/

theorem cons_eraseIdx_perm {α : Type} {list : List α} {index : Nat} {entry : α}
    (found : list[index]? = some entry) : (entry :: list.eraseIdx index).Perm list := by
  obtain ⟨inside, rfl⟩ := List.getElem?_eq_some_iff.mp found
  exact List.getElem_cons_eraseIdx_perm inside

/-- A range that is received is one of the numbered ones, and was not pushed before. -/
theorem RangeState.numbered_receive {state : RangeState} {index count : Nat} {spec : RangeSpec}
    (numbered : ((state.downloads ++ state.pendingRanges).map RangeSpec.partNumber ++
      state.upload.numbers).Perm (List.range' 1 count))
    (downloading : state.downloads[index]? = some spec) :
    (spec.partNumber ::
        ((state.downloads.eraseIdx index ++ state.pendingRanges).map RangeSpec.partNumber ++
          state.upload.numbers)).Perm (List.range' 1 count) ∧
      spec.partNumber ∉ state.upload.numbers := by
  have isFirst := cons_eraseIdx_perm downloading
  have together : (spec.partNumber ::
      ((state.downloads.eraseIdx index ++ state.pendingRanges).map RangeSpec.partNumber ++
        state.upload.numbers)).Perm (List.range' 1 count) := by
    refine List.Perm.trans ?_ numbered
    exact ((isFirst.append_right state.pendingRanges).map RangeSpec.partNumber).append_right _
  have once := List.nodup_cons.mp (together.nodup_iff.mpr List.nodup_range')
  exact ⟨together, fun old => once.1 (List.mem_append_right _ old)⟩

/-- Each part is still to download, in flight, or uploaded. -/
structure Ranges (body : Bytes) (parts : List Bytes) (state : RangeState) : Prop where
  numbered : ((state.downloads ++ state.pendingRanges).map RangeSpec.partNumber ++
    state.upload.numbers).Perm (List.range' 1 parts.length)
  waiting : ∀ spec ∈ state.downloads ++ state.pendingRanges,
    1 ≤ spec.partNumber ∧ parts[spec.partNumber - 1]? = some (spec.slice body)
  carries : Carries parts state.upload
  tracks : Tracks parts state.upload state.hash

section Ranges

variable {options : TransferOptions} {sourceUrl : String} {body bytes : Bytes}
  {parts : List Bytes} {state state' : RangeState} {spec : RangeSpec} {index : Nat}

theorem startDownloadsFrom_append (options : TransferOptions) (active : Nat)
    (downloads pendingRanges : List RangeSpec) :
    (startDownloadsFrom options active downloads pendingRanges).1 ++
      (startDownloadsFrom options active downloads pendingRanges).2 =
        downloads ++ pendingRanges := by
  induction pendingRanges generalizing downloads with
  | nil => rfl
  | cons spec pendingRanges inductionHypothesis =>
    unfold startDownloadsFrom
    split
    · rw [inductionHypothesis, List.append_assoc, List.singleton_append]
    · rfl

theorem Ranges.startDownloads (ranges : Ranges body parts state) :
    Ranges body parts (state.startDownloads options) := by
  have same : (state.startDownloads options).downloads ++
      (state.startDownloads options).pendingRanges = state.downloads ++ state.pendingRanges :=
    startDownloadsFrom_append _ _ _ _
  refine ⟨?_, ?_, ranges.carries, ranges.tracks⟩
  · rw [same]
    exact ranges.numbered
  · rw [same]
    exact ranges.waiting

theorem Ranges.receive (ranges : Ranges body parts state)
    (downloading : state.downloads[index]? = some spec)
    (received : state.receive spec (spec.slice body) (state.downloads.eraseIdx index) =
      .ok state') : Ranges body parts state' := by
  have member : spec ∈ state.downloads ++ state.pendingRanges :=
    List.mem_append_left _ (List.mem_of_getElem? downloading)
  obtain ⟨atLeast, found⟩ := ranges.waiting spec member
  obtain ⟨numbered, new⟩ := RangeState.numbered_receive ranges.numbered downloading
  cases hashed : hashReadyRangeParts { state.hash with
      partStates := state.hash.partStates.insert spec.partNumber
        (.pendingHash (spec.slice body)) } with
  | error message =>
    rw [RangeState.receive, hashed] at received
    cases received
  | ok hash =>
    rw [RangeState.receive, hashed] at received
    cases received
    constructor
    · refine List.Perm.trans ?_ numbered
      exact ((numbers_push _ _).append_left _).trans List.perm_middle
    · intro other member
      apply ranges.waiting other
      rcases List.mem_append.mp member with downloading | pending
      · exact List.mem_append_left _ (List.mem_of_mem_eraseIdx downloading)
      · exact List.mem_append_right _ pending
    · exact ranges.carries.push atLeast found
    · exact (ranges.tracks.push atLeast new found).hashReadyFrom hashed

theorem Ranges.uploaded {etag : String} {finished : UploadedPart} {upload : MultipartUpload}
    (ranges : Ranges body parts state)
    (ended : state.upload.finish index etag = some (finished, upload)) :
    Ranges body parts { state with
      upload := upload
      hash := { state.hash with
        partStates := markRangePartUploaded state.hash.partStates finished.partNumber } } := by
  have once : state.upload.numbers.Nodup :=
    (List.nodup_append.mp (ranges.numbered.nodup_iff.mpr List.nodup_range')).2.1
  refine ⟨?_, ranges.waiting, ranges.carries.finish ended,
    ranges.tracks.markUploaded ranges.carries once ended⟩
  exact ((numbers_finish ended).append_left _).trans ranges.numbered

theorem Ranges.step {event : RangeEvent} (ranges : Ranges body parts state)
    (honest : isHonest options body state event = true)
    (taken : rangeNext options sourceUrl state event = some state') :
    Ranges body parts state' := by
  have started : Ranges body parts (state.startDownloads options) := ranges.startDownloads
  cases event with
  | downloaded index answer =>
    simp only [rangeNext] at taken
    obtain ⟨spec, downloading, taken⟩ := Option.bind_eq_some_iff.mp taken
    cases received : (downloadRangePart sourceUrl spec answer).bind fun bytes =>
        (state.startDownloads options).receive spec bytes
          ((state.startDownloads options).downloads.eraseIdx index) with
    | error message =>
      rw [received] at taken
      cases taken
    | ok next =>
      rw [received] at taken
      cases taken
      obtain ⟨bytes, downloaded, received⟩ := bind_eq_ok received
      have about : answer.status = 206 → answer.chunks.flatten = spec.slice body := by
        simpa [isHonest, downloading, ← imp_iff_not_or] using honest
      have bytes_eq : bytes = spec.slice body := downloadRangePart_ok about downloaded
      rw [bytes_eq] at received
      exact started.receive downloading received
  | uploaded index etag =>
    simp only [rangeNext] at taken
    obtain ⟨⟨finished, upload⟩, ended, result⟩ := Option.map_eq_some_iff.mp taken
    cases result
    exact started.uploaded ended

/-- The range with number `k` is the `k`-th part, the first buffer being part 1. -/
theorem slice_at_partNumber {specs : List RangeSpec}
    (numbered : specs.map RangeSpec.partNumber = List.range' 2 specs.length) (first : Bytes)
    (member : spec ∈ specs) :
    1 ≤ spec.partNumber ∧
      (first :: specs.map (RangeSpec.slice body))[spec.partNumber - 1]? =
        some (spec.slice body) := by
  obtain ⟨place, inside, at_eq⟩ := List.mem_iff_getElem.mp member
  have number_eq : spec.partNumber = 2 + place := by
    have atPlace := congrArg (fun numbers => numbers[place]?) numbered
    simp only [List.getElem?_map] at atPlace
    rw [List.getElem?_eq_getElem inside, at_eq] at atPlace
    simpa [inside] using atPlace
  have shifted : 2 + place - 1 = place + 1 := by omega
  rw [number_eq, shifted, List.getElem?_cons_succ, List.getElem?_map,
    List.getElem?_eq_getElem inside, at_eq]
  exact ⟨by omega, rfl⟩

theorem ranges_start {first : Bytes} (isPrefix : body.take first.length = first)
    (fits : body.length < 2 ^ 64)
    (begun : startRange options first body.length = .ok state) :
    ∃ parts, parts.flatten = body ∧ Ranges body parts state := by
  obtain ⟨specs, built, begun⟩ := bind_eq_ok begun
  obtain ⟨covers, numbered⟩ := buildRangeSpecs_ok options.chunkSizeBytes_pos fits built
  cases hashed : hashReadyRangeParts
      { partStates := AList.insert 1 (.pendingHash first) ∅
        hasher := []
        contentLength := 0
        nextHashPart := 1 } with
  | error message =>
    rw [hashed] at begun
    cases begun
  | ok hash =>
    rw [hashed] at begun
    cases begun
    refine ⟨first :: specs.map (RangeSpec.slice body), ?_, ?_, ?_, ?_, ?_⟩
    · rw [List.flatten_cons, covers]
      nth_rewrite 1 [← isPrefix]
      exact List.take_append_drop _ _
    · rw [List.nil_append, numbered, List.length_cons, List.length_map, List.range'_succ]
      exact List.perm_append_singleton _ _
    · intro spec member
      exact slice_at_partNumber numbered first member
    · exact carries_empty.push (Nat.le_refl 1) rfl
    · exact (tracks_start rfl).hashReadyFrom hashed

/-- When the loop exits, everything is hashed and uploaded. -/
theorem Ranges.complete (ranges : Ranges body parts state) (finished : state.finished = true) :
    state.hash.hasher = parts.flatten ∧ state.upload.uploads = [] ∧
      state.upload.numbers.Perm (List.range' 1 parts.length) := by
  simp only [RangeState.finished, Bool.and_eq_true, List.isEmpty_iff] at finished
  obtain ⟨⟨⟨nonePending, noneDownloading⟩, noneInFlight⟩, noStates⟩ := finished
  have numbered : state.upload.numbers.Perm (List.range' 1 parts.length) := by
    have all := ranges.numbered
    rw [nonePending, noneDownloading] at all
    exact all
  refine ⟨?_, noneInFlight, numbered⟩
  have behind := ranges.tracks.all_hashed numbered noStates
  rw [ranges.tracks.hashed, List.take_of_length_le behind]

theorem range_run_ranges {first : Bytes} {events : List RangeEvent}
    (isPrefix : body.take first.length = first) (fits : body.length < 2 ^ 64)
    (begun : startRange options first body.length = .ok state)
    (run : Run (rangeStep options sourceUrl body) state events state')
    (finished : state'.finished = true) :
    ∃ parts, parts.flatten = body ∧ state'.hash.hasher = parts.flatten ∧
      state'.hash.contentLength = parts.flatten.length ∧
      Carries parts state'.upload ∧ state'.upload.uploads = [] ∧
      state'.upload.numbers.Perm (List.range' 1 parts.length) := by
  obtain ⟨parts, whole, initially⟩ := ranges_start isPrefix fits begun
  have ranges : Ranges body parts state' := run.invariant
    (fun _ _ _ ranges taken => ranges.step taken.1 taken.2) initially
  obtain ⟨hashed, noneInFlight, numbered⟩ := ranges.complete finished
  refine ⟨parts, whole, hashed, ?_, ranges.carries, noneInFlight, numbered⟩
  rw [ranges.tracks.counted, hashed]

end Ranges

end TweetDb.Transfer
