import TweetDb.Transfer.RangeUpload

/-! # The range upload goes on

The loop of `upload_multipart_range_inner` under every order of completions.
Ranges are started in order, so the part that is hashed next is running or
already has its bytes, and a part that waits for an earlier hash never holds
the last slot.  `remaining` counts the completions still to come.
-/

namespace TweetDb.Transfer

open Transition

/-! ## The lengths of the ranges -/

/-- The ranges have the numbers 2, 3, … and share out what follows the first buffer. -/
theorem buildRangeSpecs_plan {startOffset contentLength chunkSize : Nat} {specs : List RangeSpec}
    (positive : 1 ≤ chunkSize) (fits : contentLength < 2 ^ 64)
    (built : buildRangeSpecs startOffset contentLength chunkSize = .ok specs) :
    specs.map RangeSpec.partNumber = List.range' 2 specs.length ∧
      (specs.map RangeSpec.len).sum = contentLength - startOffset := by
  obtain ⟨numbered, each⟩ := buildRangeSpecs_each positive fits built
  have lengths := (buildRangeSpecs_tiles positive fits built).sum_lengths
  have len_eq : ∀ spec ∈ specs, spec.len = spec.span.stop - spec.span.start := by
    intro spec member
    have ordered := (each spec member).1
    simp only [RangeSpec.len, RangeSpec.span]
    omega
  rw [List.map_map] at lengths
  refine ⟨numbered, ?_⟩
  rw [List.map_congr_left len_eq]
  refine lengths.trans ?_
  omega

/-! ## Hashing does not fail, and takes no room -/

section Hashing

variable {parts : List Bytes} {upload : MultipartUpload} {hash hash' : RangeHash} {bytes : Bytes}

/-- A length that fits in `u64` as a whole is never exceeded by the parts hashed so far. -/
theorem hashReadyFrom_total {fuel : Nat} (tracks : Tracks parts upload hash)
    (fits : parts.flatten.length < 2 ^ 64) : ∃ hash', hashReadyFrom fuel hash = .ok hash' := by
  induction fuel generalizing hash with
  | zero => exact ⟨hash, rfl⟩
  | succ fuel inductionHypothesis =>
    unfold hashReadyFrom
    cases found : hash.partStates.lookup hash.nextHashPart with
    | none => exact ⟨hash, rfl⟩
    | some state =>
      cases taken : state.bytes with
      | none => exact ⟨hash, by simp only [taken]⟩
      | some bytes =>
        have next := tracks.hashPart found taken rfl
        -- What is hashed after this turn is a prefix of the parts.
        have length_le : hash.contentLength + bytes.length ≤ parts.flatten.length := by
          have counted := next.counted
          have hashed := next.hashed
          simp only at counted hashed
          rw [counted, hashed]
          have split := congrArg (fun parts => parts.flatten.length)
            (List.take_append_drop (hash.nextHashPart + 1 - 1) parts)
          simp only [List.flatten_append, List.length_append] at split
          omega
        have added : addContentLength hash.contentLength bytes.length =
            .ok (hash.contentLength + bytes.length) := by
          rw [addContentLength, if_pos (by omega)]
        simp only [taken, added]
        exact inductionHypothesis next

theorem keys_insert_length (states : PartStates) (k : Nat) (state : ActivePartState) :
    (states.insert k state).keys.length ≤ states.keys.length + 1 := by
  rw [AList.keys_insert, List.length_cons]
  have erased : (states.keys.erase k).length ≤ states.keys.length := List.length_erase_le
  omega

theorem keys_update_length {states : PartStates} {k : Nat} (known : k ∈ states)
    (state : ActivePartState) : (states.insert k state).keys.length = states.keys.length := by
  rw [AList.keys_insert, List.length_cons, List.length_erase_of_mem (AList.mem_keys.mp known)]
  have nonempty := List.length_pos_of_mem (AList.mem_keys.mp known)
  omega

theorem keys_erase_length (states : PartStates) (k : Nat) :
    (states.erase k).keys.length ≤ states.keys.length := by
  rw [AList.keys_erase]
  exact List.length_erase_le

theorem mem_of_lookup {states : PartStates} {k : Nat} {state : ActivePartState}
    (found : states.lookup k = some state) : k ∈ states := by
  rw [← AList.lookup_isSome, found]
  rfl

theorem hashReadyFrom_keys {fuel : Nat} (hashed : hashReadyFrom fuel hash = .ok hash') :
    hash'.partStates.keys.length ≤ hash.partStates.keys.length := by
  induction fuel generalizing hash with
  | zero =>
    cases hashed
    exact Nat.le_refl _
  | succ fuel inductionHypothesis =>
    rcases hashReadyFrom_cases hashed with
      ⟨-, rfl⟩ | ⟨state, bytes, contentLength, found, taken, added, hashed⟩
    · exact Nat.le_refl _
    · apply Nat.le_trans (inductionHypothesis hashed)
      simp only
      split
      · exact keys_erase_length _ _
      · rw [keys_update_length (mem_of_lookup found)]

theorem markRangePartUploaded_keys (states : PartStates) (k : Nat) :
    (markRangePartUploaded states k).keys.length ≤ states.keys.length := by
  unfold markRangePartUploaded
  cases found : states.lookup k with
  | none => exact Nat.le_refl _
  | some state =>
    simp only
    split
    · exact keys_erase_length _ _
    · rw [keys_update_length (mem_of_lookup found)]

/-- An upload that finishes makes no part ready. -/
theorem ready_of_markUploaded {k : Nat}
    (ready : Ready { hash with partStates := markRangePartUploaded hash.partStates k }) :
    Ready hash := by
  obtain ⟨state, bytes, found, taken⟩ := ready
  simp only [markRangePartUploaded] at found
  cases known : hash.partStates.lookup k with
  | none =>
    rw [known] at found
    exact ⟨state, bytes, found, taken⟩
  | some old =>
    simp only [known] at found
    by_cases same : hash.nextHashPart = k
    · subst same
      split at found
      · simp at found
      · simp only [AList.lookup_insert, Option.some.injEq] at found
        subst found
        exact ⟨old, bytes, known, taken⟩
    · split at found
      · rw [AList.lookup_erase_ne same] at found
        exact ⟨state, bytes, found, taken⟩
      · rw [AList.lookup_insert_ne same] at found
        exact ⟨state, bytes, found, taken⟩

/-! ## A part is filled in when it arrives -/

theorem set_length_eq {k : Nat} (same : parts[k]?.map List.length = some bytes.length) :
    (parts.set k bytes).map List.length = parts.map List.length := by
  rw [List.map_set]
  apply List.ext_getElem?
  intro i
  by_cases here : k = i
  · subst here
    rw [List.getElem?_map, same, List.getElem?_set_self']
    simp [same]
  · rw [List.getElem?_set_ne here]

/-- Parts that were not pushed are not looked at. -/
theorem Carries.set {k : Nat} (carries : Carries parts upload) (positive : 1 ≤ k)
    (new : k ∉ upload.numbers) : Carries (parts.set (k - 1) bytes) upload := by
  constructor
  · intro entry member
    obtain ⟨atLeast, found⟩ := carries.inFlight entry member
    have other : k ≠ entry.1 := by
      intro same
      exact new (List.mem_append_left _ (List.mem_map.mpr ⟨entry, member, same.symm⟩))
    refine ⟨atLeast, ?_⟩
    rw [List.getElem?_set_ne (by omega)]
    exact found
  · intro part member
    obtain ⟨atLeast, buffer, found, kept⟩ := carries.inStorage part member
    have other : k ≠ part.partNumber := by
      intro same
      exact new (List.mem_append_right _ (List.mem_map.mpr ⟨part, member, same.symm⟩))
    refine ⟨atLeast, buffer, ?_, kept⟩
    rw [List.getElem?_set_ne (by omega)]
    exact found

theorem Tracks.set {k : Nat} (tracks : Tracks parts upload hash) (positive : 1 ≤ k)
    (numbered : ∀ j ∈ upload.numbers, 1 ≤ j) (new : k ∉ upload.numbers) :
    Tracks (parts.set (k - 1) bytes) upload hash := by
  have notHashed : hash.nextHashPart ≤ k := by
    by_contra before
    exact new (tracks.pushed k positive (by omega))
  have atLeast := tracks.positive
  refine ⟨tracks.positive, ?_, tracks.counted, tracks.pushed, ?_⟩
  · rw [List.take_set_of_le (by omega)]
    exact tracks.hashed
  · intro j
    rw [tracks.states j]
    by_cases pushed : j ∈ upload.numbers
    · have other : k ≠ j := fun same => new (same ▸ pushed)
      have apart : k - 1 ≠ j - 1 := by
        have atLeast := numbered j pushed
        omega
      simp only [partState, List.getElem?_set_ne apart]
    · simp [partState, pushed]

end Hashing

/-! ## The loop -/

/-- `active_range_part_count`. -/
def RangeState.activeRangePartCount (state : RangeState) : Nat :=
  state.downloads.length + state.hash.partStates.keys.length

/-- The ranges behind a first buffer, by number; all parts together have a `u64` length. -/
structure RangePlan (first : Bytes) (specs : List RangeSpec) : Prop where
  numbered : specs.map RangeSpec.partNumber = List.range' 2 specs.length
  fits : first.length + (specs.map RangeSpec.len).sum < 2 ^ 64

namespace RangePlan

variable {first : Bytes} {specs : List RangeSpec} {spec : RangeSpec}

theorem len_at (plan : RangePlan first specs) (member : spec ∈ specs) :
    2 ≤ spec.partNumber ∧
      (first.length :: specs.map RangeSpec.len)[spec.partNumber - 1]? = some spec.len := by
  obtain ⟨place, inside, at_eq⟩ := List.mem_iff_getElem.mp member
  have number_eq : spec.partNumber = 2 + place := by
    have atPlace := congrArg (fun numbers => numbers[place]?) plan.numbered
    simpa [inside, at_eq] using atPlace
  have shifted : 2 + place - 1 = place + 1 := by omega
  constructor
  · omega
  · rw [number_eq, shifted, List.getElem?_cons_succ]
    simp [inside, at_eq]

theorem eq_of_partNumber (plan : RangePlan first specs) {spec' : RangeSpec} (member : spec ∈ specs)
    (member' : spec' ∈ specs) (same : spec.partNumber = spec'.partNumber) : spec = spec' := by
  apply List.inj_on_of_nodup_map _ member member' same
  rw [plan.numbered]
  exact List.nodup_range'

/-- Behind a range that has not been started none has been started. -/
theorem later_pending (plan : RangePlan first specs) {started pending : List RangeSpec}
    (cut : specs = started ++ pending) {j k : Nat} (isPending : j ∈ pending.map RangeSpec.partNumber)
    (behind : j ≤ k) (inside : k ≤ specs.length + 1) : k ∈ pending.map RangeSpec.partNumber := by
  have numbered := plan.numbered
  rw [cut, List.map_append, List.length_append, ← List.range'_append_1] at numbered
  have pending_eq := (List.append_inj numbered (by simp)).2
  rw [cut, List.length_append] at inside
  rw [pending_eq, List.mem_range'_1] at isPending ⊢
  omega

end RangePlan

/-- The parts at some point of the loop: those that are not pushed yet stand for their lengths. -/
structure Progress (options : TransferOptions) (sourceUrl : String) (first : Bytes)
    (specs : List RangeSpec) (events : List RangeEvent) (parts : List Bytes) (state : RangeState) :
    Prop where
  numbered : ((state.downloads ++ state.pendingRanges).map RangeSpec.partNumber ++
    state.upload.numbers).Perm (List.range' 1 parts.length)
  pending : ∃ started, specs = started ++ state.pendingRanges
  running : ∀ spec ∈ state.downloads, spec ∈ specs
  lengths : parts.map List.length = first.length :: specs.map RangeSpec.len
  isFirst : parts[0]? = some first
  carries : Carries parts state.upload
  tracks : Tracks parts state.upload state.hash
  notReady : ¬ Ready state.hash
  bounded : state.activeRangePartCount ≤ options.maxInFlightParts
  delivered : ∀ spec ∈ specs, spec ∈ state.downloads ++ state.pendingRanges ∨
    ∃ index answer, .downloaded index answer ∈ events ∧
      (downloadRangePart sourceUrl spec answer).toOption = parts[spec.partNumber - 1]?

section Progress

variable {options : TransferOptions} {sourceUrl : String} {first : Bytes} {specs : List RangeSpec}
  {events : List RangeEvent} {parts : List Bytes} {state state' : RangeState} {spec : RangeSpec}
  {index : Nat}

theorem Progress.parts_length (progress : Progress options sourceUrl first specs events parts state) :
    parts.length = specs.length + 1 := by
  have length := congrArg List.length progress.lengths
  simpa using length

/-- The starts of the inner `while`, and why it stops. -/
theorem startDownloadsFrom_spec (options : TransferOptions) (active : Nat)
    (downloads pending : List RangeSpec) :
    ∃ taken, pending = taken ++ (startDownloadsFrom options active downloads pending).2 ∧
      (startDownloadsFrom options active downloads pending).1 = downloads ++ taken ∧
      (downloads.length + active ≤ options.maxInFlightParts →
        (startDownloadsFrom options active downloads pending).1.length + active ≤
          options.maxInFlightParts) ∧
      ((startDownloadsFrom options active downloads pending).2 = [] ∨
        options.downloadParallelism ≤ (startDownloadsFrom options active downloads pending).1.length ∨
        options.maxInFlightParts ≤
          (startDownloadsFrom options active downloads pending).1.length + active) := by
  induction pending generalizing downloads with
  | nil => exact ⟨[], by simp [startDownloadsFrom]⟩
  | cons spec pending inductionHypothesis =>
    unfold startDownloadsFrom
    split
    next room =>
      obtain ⟨taken, cut, result, bounded, stops⟩ := inductionHypothesis (downloads ++ [spec])
      refine ⟨spec :: taken, ?_, ?_, ?_, stops⟩
      · rw [List.cons_append, ← cut]
      · rw [result, List.append_assoc, List.singleton_append]
      · intro _
        apply bounded
        rw [List.length_append, List.length_singleton]
        omega
    next full =>
      refine ⟨[], by simp, by simp, id, ?_⟩
      right
      simp only
      omega

theorem Progress.startDownloads
    (progress : Progress options sourceUrl first specs events parts state) :
    Progress options sourceUrl first specs events parts (state.startDownloads options) := by
  obtain ⟨taken, cut, result, bounded, _⟩ := startDownloadsFrom_spec options
    state.hash.partStates.keys.length state.downloads state.pendingRanges
  have same : (state.startDownloads options).downloads ++
      (state.startDownloads options).pendingRanges = state.downloads ++ state.pendingRanges :=
    startDownloadsFrom_append _ _ _ _
  obtain ⟨started, specs_eq⟩ := progress.pending
  refine ⟨?_, ⟨started ++ taken, ?_⟩, ?_, progress.lengths, progress.isFirst, progress.carries,
    progress.tracks, progress.notReady, bounded progress.bounded, ?_⟩
  · rw [same]
    exact progress.numbered
  · rw [List.append_assoc]
    exact specs_eq.trans (congrArg (started ++ ·) cut)
  · intro spec member
    have isOld : spec ∈ state.downloads ++ state.pendingRanges := by
      rw [← same]
      exact List.mem_append_left _ member
    rcases List.mem_append.mp isOld with running | pending
    · exact progress.running spec running
    · rw [specs_eq]
      exact List.mem_append_right _ pending
  · rw [same]
    exact progress.delivered

/-- If nothing is running, nothing is left: the next part to hash would be running or ready. -/
theorem Progress.not_stalled (plan : RangePlan first specs)
    (progress : Progress options sourceUrl first specs events parts state)
    (noDownloads : (state.startDownloads options).downloads = [])
    (noUploads : (state.startDownloads options).upload.uploads = []) :
    (state.startDownloads options).finished = true := by
  have started := progress.startDownloads
  obtain ⟨taken, _, _, _, stops⟩ := startDownloadsFrom_spec options
    state.hash.partStates.keys.length state.downloads state.pendingRanges
  have allUploaded : ∀ k, k ∈ state.upload.numbers → k ∈ state.upload.uploaded := by
    intro k pushed
    have noneInFlight : state.upload.uploads = [] := noUploads
    simpa [MultipartUpload.numbers, MultipartUpload.uploaded, noneInFlight] using pushed
  have noStates : state.hash.partStates.keys = [] := by
    rw [List.eq_nil_iff_forall_not_mem]
    intro k isKey
    have known := progress.tracks.states k
    obtain ⟨held, found⟩ := Option.isSome_iff_exists.mp
      (AList.lookup_isSome.mpr (AList.mem_keys.mpr isKey))
    rw [found, partState] at known
    split at known
    next kept =>
      -- The part waits for a hash, so the next part to hash is not behind it.
      have behind : state.hash.nextHashPart ≤ k := by
        by_contra before
        exact kept.2 ⟨by omega, allUploaded k kept.1⟩
      have positive := progress.tracks.positive
      have inside : k ≤ parts.length := by
        have isNumber := progress.numbered.subset (List.mem_append_right _ kept.1)
        rw [List.mem_range'_1] at isNumber
        omega
      have isNumber : state.hash.nextHashPart ∈ List.range' 1 parts.length := by
        rw [List.mem_range'_1]
        omega
      have somewhere := started.numbered.symm.subset isNumber
      rw [noDownloads, List.nil_append, List.mem_append] at somewhere
      have pushed : state.hash.nextHashPart ∈ state.upload.numbers := by
        rcases somewhere with isPending | isPushed
        · -- Then this part would not have been started either.
          obtain ⟨before, cut⟩ := started.pending
          have pendingToo := plan.later_pending cut isPending behind
            (by rw [← progress.parts_length]; exact inside)
          have once := started.numbered.nodup_iff.mpr List.nodup_range'
          rw [noDownloads, List.nil_append] at once
          exact absurd rfl ((List.nodup_append.mp once).2.2 k pendingToo k kept.1)
        · exact isPushed
      have next := progress.tracks.states state.hash.nextHashPart
      obtain ⟨bytes, hasBytes⟩ : ∃ bytes, parts[state.hash.nextHashPart - 1]? = some bytes :=
        ⟨_, List.getElem?_eq_getElem (by omega)⟩
      simp only [partState, pushed, Nat.lt_irrefl, false_and, not_false_eq_true, and_self, if_true,
        if_false, hasBytes] at next
      exact absurd ⟨_, _, next, rfl⟩ progress.notReady
    next => cases known
  have nonePending : (state.startDownloads options).pendingRanges = [] := by
    have parallel := options.downloadParallelism_pos
    have room := options.maxInFlightParts_pos
    have none : (state.startDownloads options).downloads.length = 0 := by simp [noDownloads]
    have keys : state.hash.partStates.keys.length = 0 := by simp [noStates]
    simp only [RangeState.startDownloads] at none ⊢
    rcases stops with done | full | full
    · exact done
    · omega
    · omega
  have noStatesAfter : (state.startDownloads options).hash.partStates.keys = [] := noStates
  simp [RangeState.finished, nonePending, noDownloads, noUploads, noStatesAfter]

/-! ### One completion -/

/-- The completions still to come. -/
def RangeState.remaining (state : RangeState) : Nat :=
  2 * (state.downloads.length + state.pendingRanges.length) + state.upload.uploads.length

theorem remaining_startDownloads : (state.startDownloads options).remaining = state.remaining := by
  have same := congrArg List.length (startDownloadsFrom_append options
    state.hash.partStates.keys.length state.downloads state.pendingRanges)
  rw [List.length_append, List.length_append] at same
  simp only [RangeState.remaining, RangeState.startDownloads, same]

theorem downloadRangePart_length {answer : RangeAnswer} {bytes : Bytes}
    (downloaded : downloadRangePart sourceUrl spec answer = .ok bytes) :
    bytes.length = spec.len := by
  unfold downloadRangePart at downloaded
  split at downloaded
  · cases downloaded
  · split at downloaded
    · cases downloaded
    · obtain ⟨filled, _⟩ := @ResponseByteReader.fillBuffer_spec spec.len spec.len []
        (.new answer.chunks) (by simp) (by simp)
      have atMost : (ResponseByteReader.fillBuffer spec.len spec.len []
          (.new answer.chunks)).1.length ≤ spec.len := by
        rw [filled]
        simp
      simp only at downloaded
      split at downloaded
      · cases downloaded
      · cases downloaded
        omega

theorem length_eraseIdx_of_getElem? {α : Type} {list : List α} {index : Nat} {entry : α}
    (found : list[index]? = some entry) : (list.eraseIdx index).length + 1 = list.length := by
  obtain ⟨inside, _⟩ := List.getElem?_eq_some_iff.mp found
  rw [List.length_eraseIdx_of_lt inside]
  omega

/-- A part that has been downloaded is always received. -/
theorem Progress.receive {answer : RangeAnswer} {bytes : Bytes} (plan : RangePlan first specs)
    (progress : Progress options sourceUrl first specs events parts state)
    (running : state.downloads[index]? = some spec)
    (downloaded : downloadRangePart sourceUrl spec answer = .ok bytes) :
    ∃ state', state.receive spec bytes (state.downloads.eraseIdx index) = .ok state' ∧
      state'.remaining + 1 = state.remaining ∧
      Progress options sourceUrl first specs (events ++ [.downloaded index answer])
        (parts.set (spec.partNumber - 1) bytes) state' := by
  have member := progress.running spec (List.mem_of_getElem? running)
  obtain ⟨atLeast, len_eq⟩ := plan.len_at member
  obtain ⟨numbered, new⟩ := RangeState.numbered_receive progress.numbered running
  have positive : ∀ j ∈ state.upload.numbers, 1 ≤ j := by
    intro j isNumber
    have inRange := progress.numbered.subset (List.mem_append_right _ isNumber)
    rw [List.mem_range'_1] at inRange
    exact inRange.1
  have lengths : (parts.set (spec.partNumber - 1) bytes).map List.length =
      parts.map List.length := by
    apply set_length_eq
    rw [← List.getElem?_map, progress.lengths, len_eq, downloadRangePart_length downloaded]
  have here : (parts.set (spec.partNumber - 1) bytes)[spec.partNumber - 1]? = some bytes := by
    have isPart := numbered.subset List.mem_cons_self
    rw [List.mem_range'_1] at isPart
    rw [List.getElem?_set_self (by omega)]
  have tracks := (progress.tracks.set (by omega) positive new).push (by omega) new here
  have fits : (parts.set (spec.partNumber - 1) bytes).flatten.length < 2 ^ 64 := by
    rw [List.length_flatten, lengths, progress.lengths, List.sum_cons]
    exact plan.fits
  obtain ⟨hash, hashed⟩ : ∃ hash, hashReadyRangeParts { state.hash with
      partStates := state.hash.partStates.insert spec.partNumber (.pendingHash bytes) } = .ok hash :=
    hashReadyFrom_total tracks fits
  refine ⟨_, by rw [RangeState.receive, hashed]; rfl, ?_, ?_⟩
  · have fewer := length_eraseIdx_of_getElem? running
    simp only [RangeState.remaining, MultipartUpload.push, List.length_append, List.length_singleton]
    omega
  · refine ⟨?_, progress.pending, ?_, lengths.trans progress.lengths, ?_, ?_, tracks.hashReadyFrom hashed,
      hashReadyRangeParts_stops hashed, ?_, ?_⟩
    · rw [List.length_set]
      refine List.Perm.trans ?_ numbered
      exact ((numbers_push _ _).append_left _).trans List.perm_middle
    · intro other isRunning
      exact progress.running other (List.mem_of_mem_eraseIdx isRunning)
    · rw [List.getElem?_set_ne (by omega)]
      exact progress.isFirst
    · exact (progress.carries.set (by omega) new).push (by omega) here
    · -- The part gives its place among the downloads to its state.
      have fewer := length_eraseIdx_of_getElem? running
      have entered := keys_insert_length state.hash.partStates spec.partNumber (.pendingHash bytes)
      have kept := hashReadyFrom_keys hashed
      have bounded := progress.bounded
      simp only [RangeState.activeRangePartCount] at bounded kept ⊢
      omega
    · intro other isSpec
      by_cases same : other = spec
      · subst same
        right
        refine ⟨index, answer, by simp, ?_⟩
        rw [here, downloaded]
        rfl
      · rcases progress.delivered other isSpec with waiting | ⟨index', answer', earlier, result⟩
        · left
          rcases List.mem_append.mp waiting with isRunning | isPending
          · have still := (cons_eraseIdx_perm running).symm.subset isRunning
            rcases List.mem_cons.mp still with isSame | still
            · exact absurd isSame same
            · exact List.mem_append_left _ still
          · exact List.mem_append_right _ isPending
        · right
          refine ⟨index', answer', List.mem_append_left _ earlier, ?_⟩
          have otherNumber : spec.partNumber ≠ other.partNumber :=
            fun equal => same (plan.eq_of_partNumber member isSpec equal).symm
          have otherLeast := (plan.len_at isSpec).1
          rw [List.getElem?_set_ne (by omega)]
          exact result

theorem Progress.uploaded {etag : String} {finished : UploadedPart} {upload : MultipartUpload}
    (progress : Progress options sourceUrl first specs events parts state)
    (ended : state.upload.finish index etag = some (finished, upload)) :
    Progress options sourceUrl first specs (events ++ [.uploaded index etag]) parts
      { state with
        upload := upload
        hash := { state.hash with
          partStates := markRangePartUploaded state.hash.partStates finished.partNumber } } := by
  have once : state.upload.numbers.Nodup :=
    (List.nodup_append.mp (progress.numbered.nodup_iff.mpr List.nodup_range')).2.1
  refine ⟨?_, progress.pending, progress.running, progress.lengths, progress.isFirst,
    progress.carries.finish ended, progress.tracks.markUploaded progress.carries once ended,
    fun ready => progress.notReady (ready_of_markUploaded ready), ?_, ?_⟩
  · exact ((numbers_finish ended).append_left _).trans progress.numbered
  · have kept := markRangePartUploaded_keys state.hash.partStates finished.partNumber
    have bounded := progress.bounded
    simp only [RangeState.activeRangePartCount] at bounded ⊢
    omega
  · intro spec member
    rcases progress.delivered spec member with waiting | ⟨index', answer, earlier, result⟩
    · exact .inl waiting
    · exact .inr ⟨index', answer, List.mem_append_left _ earlier, result⟩

theorem remaining_finish {etag : String} {finished : UploadedPart} {upload : MultipartUpload}
    (ended : state.upload.finish index etag = some (finished, upload)) :
    upload.uploads.length + 1 = state.upload.uploads.length := by
  obtain ⟨entry, found, result⟩ := Option.map_eq_some_iff.mp ended
  cases result
  exact length_eraseIdx_of_getElem? found

theorem Progress.step {event : RangeEvent} (plan : RangePlan first specs)
    (progress : Progress options sourceUrl first specs events parts state)
    (taken : rangeNext options sourceUrl state event = some state') :
    state'.remaining + 1 = state.remaining ∧
      ∃ parts', Progress options sourceUrl first specs (events ++ [event]) parts' state' := by
  have started := progress.startDownloads
  have same := @remaining_startDownloads options state
  cases event with
  | downloaded index answer =>
    simp only [rangeNext] at taken
    obtain ⟨spec, running, taken⟩ := Option.bind_eq_some_iff.mp taken
    cases downloaded : downloadRangePart sourceUrl spec answer with
    | error message =>
      rw [downloaded] at taken
      cases taken
    | ok bytes =>
      obtain ⟨next, received, fewer, goesOn⟩ := started.receive plan running downloaded
      have isNext : some next = some state' := by
        rw [downloaded] at taken
        rw [← taken]
        simp [Except.bind, received, Except.toOption]
      cases isNext
      exact ⟨by omega, _, goesOn⟩
  | uploaded index etag =>
    simp only [rangeNext] at taken
    obtain ⟨⟨finished, upload⟩, ended, result⟩ := Option.map_eq_some_iff.mp taken
    cases result
    have fewer := remaining_finish ended
    refine ⟨?_, parts, started.uploaded ended⟩
    rw [← same]
    simp only [RangeState.remaining]
    omega

/-! ### Runs -/

theorem progress_start {contentLength : Nat} (fits : first.length < 2 ^ 64)
    (fits' : contentLength < 2 ^ 64)
    (built : buildRangeSpecs first.length contentLength options.chunkSizeBytes = .ok specs) :
    RangePlan first specs ∧ ∃ begin parts, startRange options first contentLength = .ok begin ∧
      begin.remaining = 2 * specs.length + 1 ∧
      Progress options sourceUrl first specs [] parts begin := by
  obtain ⟨numbered, len_eq⟩ := buildRangeSpecs_plan options.chunkSizeBytes_pos fits' built
  have plan : RangePlan first specs := ⟨numbered, by omega⟩
  -- A part that has not arrived is any bytes of its length.
  generalize parts_eq : (first :: specs.map fun spec => List.replicate spec.len (0 : UInt8)) = parts
  have lengths : parts.map List.length = first.length :: specs.map RangeSpec.len := by
    simp [← parts_eq, Function.comp_def]
  have found : parts[0]? = some first := by simp [← parts_eq]
  obtain ⟨hash, hashed⟩ : ∃ hash, hashReadyRangeParts
      { partStates := AList.insert 1 (.pendingHash first) ∅
        hasher := []
        contentLength := 0
        nextHashPart := 1 } = .ok hash := by
    apply hashReadyFrom_total (tracks_start found)
    rw [List.length_flatten, lengths, List.sum_cons]
    exact plan.fits
  refine ⟨plan, _, parts, by rw [startRange, built, Except.bind, hashed]; rfl, ?_, ?_⟩
  · simp [RangeState.remaining, MultipartUpload.push, MultipartUpload.empty]
  · refine ⟨?_, ⟨[], rfl⟩, List.forall_mem_nil _, lengths, found, carries_empty.push (Nat.le_refl 1) found,
      (tracks_start found).hashReadyFrom hashed, hashReadyRangeParts_stops hashed, ?_, ?_⟩
    · have length_eq := congrArg List.length lengths
      simp only [List.length_map, List.length_cons] at length_eq
      rw [List.nil_append, numbered, length_eq, List.range'_succ]
      exact List.perm_append_singleton _ _
    · have kept := hashReadyFrom_keys hashed
      have room := options.maxInFlightParts_pos
      have one : (AList.insert 1 (ActivePartState.pendingHash first)
          (∅ : PartStates)).keys.length = 1 := rfl
      simp only [one] at kept
      simp only [RangeState.activeRangePartCount, List.length_nil]
      omega
    · intro spec member
      exact .inl (by simpa using member)

theorem progress_run {begin : RangeState} (plan : RangePlan first specs)
    (initially : Progress options sourceUrl first specs [] parts begin)
    (run : Run (Takes (rangeNext options sourceUrl)) begin events state) :
    events.length + state.remaining = begin.remaining ∧
      ∃ parts, Progress options sourceUrl first specs events parts state := by
  induction run with
  | nil => exact ⟨by simp, parts, initially⟩
  | snoc earlier taken inductionHypothesis =>
    obtain ⟨counted, parts, progress⟩ := inductionHypothesis
    obtain ⟨fewer, goesOn⟩ := progress.step plan taken
    refine ⟨?_, goesOn⟩
    rw [List.length_append, List.length_singleton]
    omega

/-- The loop exits when no completion is left, and only then. -/
theorem Progress.finished_iff (plan : RangePlan first specs)
    (progress : Progress options sourceUrl first specs events parts state) :
    state.finished = true ↔ state.remaining = 0 := by
  constructor
  · intro finished
    simp only [RangeState.finished, Bool.and_eq_true, List.isEmpty_iff] at finished
    obtain ⟨⟨⟨nonePending, noneDownloading⟩, noneInFlight⟩, _⟩ := finished
    simp [RangeState.remaining, nonePending, noneDownloading, noneInFlight]
  · intro nothing
    have after := @remaining_startDownloads options state
    rw [nothing] at after
    simp only [RangeState.remaining] at nothing after
    have exits := progress.not_stalled plan (List.eq_nil_of_length_eq_zero (by omega))
      (List.eq_nil_of_length_eq_zero (by omega))
    have nonePending : state.pendingRanges = [] := List.eq_nil_of_length_eq_zero (by omega)
    have noneDownloading : state.downloads = [] := List.eq_nil_of_length_eq_zero (by omega)
    simpa [RangeState.finished, RangeState.startDownloads, nonePending, noneDownloading,
      startDownloadsFrom] using exits

/-- When the loop exits, the parts have been hashed and uploaded, each once, as they arrived. -/
theorem Progress.exit
    (progress : Progress options sourceUrl first specs events parts state)
    (finished : state.finished = true) :
    state.hash.hasher = parts.flatten ∧ state.hash.nextHashPart = parts.length + 1 ∧
      (state.upload.completedParts.map UploadedPart.partNumber).Perm
        (List.range' 1 parts.length) ∧
      (∀ part ∈ state.upload.completedParts,
        state.upload.stored.lookup part.partNumber = parts[part.partNumber - 1]?) ∧
      ∀ spec ∈ specs, ∃ index answer, .downloaded index answer ∈ events ∧
        (downloadRangePart sourceUrl spec answer).toOption = parts[spec.partNumber - 1]? := by
  simp only [RangeState.finished, Bool.and_eq_true, List.isEmpty_iff] at finished
  obtain ⟨⟨⟨nonePending, noneDownloading⟩, noneInFlight⟩, noStates⟩ := finished
  have numbered : state.upload.numbers.Perm (List.range' 1 parts.length) := by
    have all := progress.numbered
    rw [nonePending, noneDownloading] at all
    exact all
  have uploaded_eq : state.upload.numbers =
      state.upload.completedParts.map UploadedPart.partNumber := by
    rw [MultipartUpload.numbers, noneInFlight, List.map_nil, List.nil_append]
  have behind : state.hash.nextHashPart = parts.length + 1 := by
    have positive := progress.tracks.positive
    apply Nat.le_antisymm
    · -- What is hashed has been pushed.
      by_contra beyond
      have pushed := progress.tracks.pushed (parts.length + 1) (by omega) (by omega)
      have inRange := numbered.subset pushed
      rw [List.mem_range'_1] at inRange
      omega
    · have hashed := progress.tracks.all_hashed numbered noStates
      omega
  refine ⟨?_, behind, ?_, ?_, ?_⟩
  · rw [progress.tracks.hashed, behind, Nat.add_sub_cancel, List.take_length]
  · rw [← uploaded_eq]
    exact numbered
  · intro part member
    obtain ⟨_, buffer, found, kept⟩ := progress.carries.inStorage part member
    rw [found, kept]
  · intro spec member
    rcases progress.delivered spec member with waiting | received
    · rw [nonePending, noneDownloading] at waiting
      cases waiting
    · exact received

end Progress

/-! ## The loop never stalls -/

/-- The uploads that hold a permit of `upload_semaphore`: as many as it has, if there are so many. -/
structure HoldPermits (options : TransferOptions) (state : RangeState) (holders : List Nat) :
    Prop where
  distinct : holders.Nodup
  inFlight : ∀ index ∈ holders, index < state.upload.uploads.length
  count : holders.length = min state.upload.uploads.length options.uploadParallelism

/-- A running download that succeeds, or an upload with a permit that does. -/
def RangeState.CanComplete (sourceUrl : String) (state : RangeState) (holders : List Nat) :
    RangeEvent → Prop
  | .downloaded index answer => ∃ spec ∈ state.downloads[index]?, ∃ bytes,
      downloadRangePart sourceUrl spec answer = .ok bytes
  | .uploaded index _ => index ∈ holders

/-- Whatever completes in whatever order: as long as the loop has not come to its exit something
is running that can complete, and a success is always taken up. -/
theorem upload_multipart_range_never_stalls {options : TransferOptions} {sourceUrl : String}
    {first : Bytes} {contentLength : UInt64} {specs : List RangeSpec}
    (fits : first.length < 2 ^ 64)
    (built : buildRangeSpecs first.length contentLength.toNat options.chunkSizeBytes = .ok specs) :
    ∃ begin, startRange options first contentLength.toNat = .ok begin ∧
      ∀ events state, Run (Takes (rangeNext options sourceUrl)) begin events state →
        state.activeRangePartCount ≤ options.maxInFlightParts ∧
        (state.startDownloads options).activeRangePartCount ≤ options.maxInFlightParts ∧
        (∀ holders, HoldPermits options (state.startDownloads options) holders →
          state.finished = true ∨ ∃ event,
            (state.startDownloads options).CanComplete sourceUrl holders event) ∧
        (∀ holders event, HoldPermits options (state.startDownloads options) holders →
          (state.startDownloads options).CanComplete sourceUrl holders event →
          ∃ next, rangeNext options sourceUrl state event = some next) ∧
        events.length ≤ 2 * specs.length + 1 ∧
        (state.finished = true ↔ events.length = 2 * specs.length + 1) ∧
        (state.finished = true → ∃ parts : List Bytes, parts.length = specs.length + 1 ∧
          parts[0]? = some first ∧
          (∀ spec ∈ specs, ∃ index answer, .downloaded index answer ∈ events ∧
            (downloadRangePart sourceUrl spec answer).toOption = parts[spec.partNumber - 1]?) ∧
          state.hash.hasher = parts.flatten ∧ state.hash.nextHashPart = parts.length + 1 ∧
          (state.upload.completedParts.map UploadedPart.partNumber).Perm
            (List.range' 1 parts.length) ∧
          ∀ part ∈ state.upload.completedParts,
            state.upload.stored.lookup part.partNumber = parts[part.partNumber - 1]?) := by
  obtain ⟨plan, begin, parts, started, total, initially⟩ :=
    @progress_start options sourceUrl first specs contentLength.toNat fits contentLength.toNat_lt
      built
  refine ⟨begin, started, ?_⟩
  intro events state run
  obtain ⟨counted, parts, progress⟩ := progress_run plan initially run
  have waiting := progress.startDownloads
  have exits := progress.finished_iff plan
  refine ⟨progress.bounded, waiting.bounded, ?_, ?_, by omega, ?_, ?_⟩
  · intro holders permits
    by_cases noDownloads : (state.startDownloads options).downloads = []
    · by_cases noUploads : (state.startDownloads options).upload.uploads = []
      · left
        have finished := waiting.finished_iff plan
        rw [remaining_startDownloads] at finished
        rw [exits, ← finished]
        exact progress.not_stalled plan noDownloads noUploads
      · right
        have some_permit := options.uploadParallelism_pos
        have some_upload := List.length_pos_of_ne_nil noUploads
        have count := permits.count
        obtain ⟨index, holds⟩ := List.exists_mem_of_length_pos (l := holders) (by omega)
        exact ⟨.uploaded index "", holds⟩
    · right
      obtain ⟨spec, rest, downloads_eq⟩ := List.exists_cons_of_ne_nil noDownloads
      have zeros : (List.replicate spec.len (0 : UInt8)).length = spec.len := by simp
      refine ⟨.downloaded 0 ⟨206, "206 Partial Content", none, [List.replicate spec.len 0]⟩, spec,
        by simp [downloads_eq], List.replicate spec.len 0, ?_⟩
      obtain ⟨filled, _⟩ := @ResponseByteReader.fillBuffer_spec spec.len spec.len []
        (.new [List.replicate spec.len 0]) (by simp) (by simp)
      have buffer := congrArg Prod.fst filled
      simp at buffer
      simp [downloadRangePart, buffer]
  · intro holders event permits completes
    cases event with
    | downloaded index answer =>
      obtain ⟨spec, running, bytes, downloaded⟩ := completes
      obtain ⟨next, received, _⟩ := waiting.receive plan running downloaded
      refine ⟨next, ?_⟩
      simp only [rangeNext, Option.mem_def.mp running, Option.bind_some, downloaded]
      simp [Except.bind, received, Except.toOption]
    | uploaded index etag =>
      have inside := permits.inFlight index completes
      simp [rangeNext, MultipartUpload.finish, inside]
  · rw [exits]
    omega
  · intro finished
    obtain ⟨hashed, allHashed, uploaded, stored, arrived⟩ := progress.exit finished
    exact ⟨parts, progress.parts_length, progress.isFirst, arrived, hashed, allHashed, uploaded,
      stored⟩

/-- Chunks of one byte, and one slot for all of them. -/
def oneSlot : TransferOptions := ⟨1, 1, 1, 1, by decide, by decide, by decide, by decide⟩

theorem upload_multipart_range_never_stalls_oneSlot :
    buildRangeSpecs 1 3 1 = .ok [⟨2, 1, 1⟩, ⟨3, 2, 2⟩] ∧
      ∃ begin, startRange oneSlot [1] 3 = .ok begin ∧
        ∀ events state, Run (Takes (rangeNext oneSlot "https://pbs.twimg.com/media/7.jpg")) begin
          events state →
          state.activeRangePartCount ≤ 1 ∧ (state.finished = true ↔ events.length = 5) := by
  have built : buildRangeSpecs 1 3 1 = .ok [⟨2, 1, 1⟩, ⟨3, 2, 2⟩] := rfl
  obtain ⟨begin, started, sound⟩ := @upload_multipart_range_never_stalls oneSlot
    "https://pbs.twimg.com/media/7.jpg" [1] 3 [⟨2, 1, 1⟩, ⟨3, 2, 2⟩] (by decide) built
  refine ⟨built, begin, started, ?_⟩
  intro events state run
  obtain ⟨bounded, _, _, _, _, exits, _⟩ := sound events state run
  exact ⟨bounded, exits⟩

end TweetDb.Transfer
