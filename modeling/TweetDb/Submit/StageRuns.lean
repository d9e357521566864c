import TweetDb.Submit.Independence

/-! # Two runs of a stage with its results

A stage whose statement ends alike in two runs does the same for the other
items; and since it tells them how the statement ended, two runs that report
the same have had statements that ended alike.
-/

namespace TweetDb.Submit

open Relational ObjectResult
open TweetDb.Tweet (SyncStatus)

/-! ## A stage in two runs -/

/-- The entries of two runs that are recorded at other items, or have a row in the scope. -/
structure EntriesAlike {α ε : Type} (other : Nat → Bool) (indices : ε → List Nat) (row : ε → α)
    (scope : α → Prop) (entries entries' : List ε) : Prop where
  touching : ∀ index, other index = true →
    touching indices index entries = touching indices index entries'
  rows : AgreeOn scope (entries.map row) (entries'.map row)
  inside : ∀ entry ∈ entries, ∀ index ∈ indices entry, other index = true → scope (row entry)

/-- What two runs of a stage leave. -/
structure StageAlike {σ : Type} (other : Nat → Bool) (sound : σ → Prop) (agree : σ → σ → Prop)
    (left right : σ × List ObjectResult) : Prop where
  sound : sound left.1 ∧ sound right.1
  states : agree left.1 right.1
  results : ∀ index, other index = true → left.2[index]? = right.2[index]?

/-- Some entry has a row in the scope. -/
def CarriesRow {α ε : Type} (row : ε → α) (scope : α → Prop) (entries : List ε) : Prop :=
  ∃ entry ∈ entries, scope (row entry)

section Stage

variable {π α β σ γ ε : Type} {run : π → List α → σ → Except String (β × σ)}
  {contexts : π → π → Prop} {valid : List α → Prop} {scope : α → Prop} {sound : σ → Prop}
  {agree : σ → σ → Prop} {answer : β → α → γ} {other : Nat → Bool} {indices : ε → List Nat}
  {row : ε → α} {entries entries' : List ε} {record : β → ε → ObjectResult → ObjectResult}
  {fail : String → ObjectResult → ObjectResult} {state state' : σ}
  {results results' : List ObjectResult}

theorem EntriesAlike.carries (alike : EntriesAlike other indices row scope entries entries') :
    CarriesRow row scope entries ↔ CarriesRow row scope entries' := by
  constructor
  · intro ⟨entry, member, inside⟩
    obtain ⟨other, isOther, same⟩ :=
      List.mem_map.mp ((alike.rows _ inside).mp (List.mem_map_of_mem member))
    exact ⟨other, isOther, same ▸ inside⟩
  · intro ⟨entry, member, inside⟩
    obtain ⟨other, isOther, same⟩ :=
      List.mem_map.mp ((alike.rows _ inside).mpr (List.mem_map_of_mem member))
    exact ⟨other, isOther, same ▸ inside⟩

/-- A stage whose statements end alike does the same for the other items. -/
theorem writeBatch_alike (independent : Independent run contexts valid scope sound agree answer)
    (alike : EntriesAlike other indices row scope entries entries')
    (recorded : ∀ answers answers' entry, answer answers (row entry) = answer answers' (row entry) →
      record answers entry = record answers' entry)
    (refusal refusal' : Option String) (context context' : π)
    (sameContext : contexts context context') (isValid : valid (entries.map row))
    (isValid' : valid (entries'.map row)) (isSound : sound state) (isSound' : sound state')
    (agrees : agree state state')
    (before : ∀ index, other index = true → results[index]? = results'[index]?)
    (ends : CarriesRow row scope entries →
      failure (send refusal (run context (entries.map row) state)) =
        failure (send refusal' (run context' (entries'.map row) state'))) :
    StageAlike other sound agree
      (writeBatch indices record fail entries (send refusal (run context (entries.map row) state))
        state results)
      (writeBatch indices record fail entries'
        (send refusal' (run context' (entries'.map row) state')) state' results') := by
  have outside : ∀ {entries : List ε}, ¬ CarriesRow row scope entries →
      ∀ value ∈ entries.map row, ¬ scope value := by
    intro entries alone value member inside
    obtain ⟨entry, isEntry, rfl⟩ := List.mem_map.mp member
    exact alone ⟨entry, isEntry, inside⟩
  have staysSound : ∀ {context : π} {entries : List ε} {refusal : Option String} {state : σ}
      {results : List ObjectResult}, valid (entries.map row) → sound state →
      sound (writeBatch indices record fail entries
        (send refusal (run context (entries.map row) state)) state results).1 := by
    intro context entries refusal state results isValid isSound
    unfold writeBatch
    split
    · exact isSound
    · cases ran : send refusal (run context (entries.map row) state) with
      | error error => exact isSound
      | ok answered =>
        have ran := send_eq_ok ran
        exact (independent.both (independent.contexts_refl context) isValid isValid (.refl _ _)
          isSound isSound (independent.equivalence.refl state) ran ran).2.1
  refine ⟨⟨staysSound isValid isSound, staysSound isValid' isSound'⟩, ?_, ?_⟩
  · refine writeBatch_states_alike
      (fun _ _ => independent.equivalence.symm) (fun _ _ _ => independent.equivalence.trans)
      ?_ ?_ ends agrees ?_ ?_ ?_
    · rintro ⟨entry, member, _⟩
      exact List.ne_nil_of_mem member
    · intro carries
      obtain ⟨entry, member, _⟩ := alike.carries.mp carries
      exact List.ne_nil_of_mem member
    · intro answered answered' ran ran'
      exact (independent.both sameContext isValid isValid' alike.rows isSound isSound' agrees
        (send_eq_ok ran) (send_eq_ok ran')).1
    · intro alone answered ran
      exact (independent.outside isValid (outside alone) isSound (send_eq_ok ran)).1
    · intro alone answered ran
      exact (independent.outside isValid' (outside (mt alike.carries.mpr alone)) isSound'
        (send_eq_ok ran)).1
  · intro index isOther
    have carried : ∀ entry ∈ touching indices index entries, scope (row entry) := by
      intro entry member
      obtain ⟨isEntry, named⟩ := mem_touching.mp member
      exact alike.inside entry isEntry index named isOther
    refine writeBatch_results_alike (alike.touching index isOther) ?_ ?_ (before index isOther)
    · intro touched
      obtain ⟨entry, member⟩ := List.exists_mem_of_ne_nil _ touched
      exact ends ⟨entry, (mem_touching.mp member).1, carried entry member⟩
    · intro answered answered' ran ran' entry member
      refine recorded _ _ _ ((independent.both sameContext isValid isValid' alike.rows isSound
        isSound' agrees (send_eq_ok ran) (send_eq_ok ran')).2.2 (row entry) ?_
        (carried entry member))
      exact List.mem_map_of_mem (mem_touching.mp member).1

end Stage

/-! ## What a stage tells an item -/

/-- The operations of a result after it is recorded: none of them is the one of the preload. -/
def AddsOperations (record : ObjectResult → ObjectResult) : Prop :=
  ∀ result, ∃ added, (record result).operations = result.operations ++ added ∧
    ∀ operation ∈ added, operation.name ≠ "dict_preload"

theorem AddsOperations.comp {record record' : ObjectResult → ObjectResult}
    (first : AddsOperations record) (second : AddsOperations record') :
    AddsOperations fun result => record' (record result) := by
  intro result
  obtain ⟨added, isAdded, named⟩ := first result
  obtain ⟨added', isAdded', named'⟩ := second (record result)
  refine ⟨added ++ added', by rw [isAdded', isAdded, List.append_assoc], fun operation member => ?_⟩
  exact (List.mem_append.mp member).elim (named operation) (named' operation)

theorem addsOperations_operation {name : String} {status : OperationStatus} {reason : String}
    (named : name ≠ "dict_preload") : AddsOperations (operation name status reason) := by
  intro result
  refine ⟨[⟨name, status, reason⟩], rfl, fun added member => ?_⟩
  rw [List.mem_singleton.mp member]
  exact named

theorem addsOperations_id : AddsOperations id :=
  fun _ => ⟨[], (List.append_nil _).symm, fun _ none => absurd none List.not_mem_nil⟩

theorem addsOperations_recordAll {α : Type} {record : α → ObjectResult → ObjectResult}
    (adds : ∀ entry, AddsOperations (record entry)) (entries : List α) :
    AddsOperations (recordAll record entries) := by
  induction entries with
  | nil => exact addsOperations_id
  | cons entry entries inductionHypothesis => exact (adds entry).comp inductionHypothesis

/-- Every result is there after, with more operations at its end. -/
def Extended (before after : List ObjectResult) : Prop :=
  ∀ (index : Nat) (result : ObjectResult), before[index]? = some result →
    ∃ (result' : ObjectResult) (added : List OperationResult), after[index]? = some result' ∧
      result'.operations = result.operations ++ added ∧
        ∀ operation ∈ added, operation.name ≠ "dict_preload"

namespace Extended

variable {before middle after : List ObjectResult}

theorem refl (results : List ObjectResult) : Extended results results :=
  fun _ result present => ⟨result, [], present, (List.append_nil _).symm,
    fun _ none => absurd none List.not_mem_nil⟩

theorem trans (first : Extended before middle) (second : Extended middle after) :
    Extended before after := by
  intro index result present
  obtain ⟨result', added, present', isAdded, named⟩ := first index result present
  obtain ⟨result'', added', present'', isAdded', named'⟩ := second index result' present'
  refine ⟨result'', added ++ added', present'', by rw [isAdded', isAdded, List.append_assoc],
    fun operation member => ?_⟩
  exact (List.mem_append.mp member).elim (named operation) (named' operation)

end Extended

theorem extended_recordEach {α : Type} {indices : α → List Nat}
    {record : α → ObjectResult → ObjectResult} (adds : ∀ entry, AddsOperations (record entry))
    (entries : List α) (results : List ObjectResult) :
    Extended results (recordEach indices record entries results) := by
  intro index result present
  obtain ⟨added, isAdded, named⟩ := addsOperations_recordAll adds (touching indices index entries)
    result
  refine ⟨_, added, ?_, isAdded, named⟩
  rw [recordEach_getElem?, present]
  rfl

section Stage

variable {α β σ : Type} {indices : α → List Nat} {record : β → α → ObjectResult → ObjectResult}
  {fail : String → ObjectResult → ObjectResult} {entries entries' : List α}
  {statement statement' : Except String (β × σ)} {state state' : σ}
  {results results' : List ObjectResult}

/-- What a stage records for an entry tells whether its statement failed, and with which error. -/
structure TellsFailure (record : β → α → ObjectResult → ObjectResult)
    (fail : String → ObjectResult → ObjectResult) : Prop where
  recordAdds : ∀ answers entry, AddsOperations (record answers entry)
  failAdds : ∀ error, AddsOperations (fail error)
  failed : ∃ name, ∀ error result, ∃ others,
    (fail error result).operations = result.operations ++ ⟨name, .failed, error⟩ :: others
  recorded : ∀ answers entry result, ∃ operation others,
    (record answers entry result).operations = result.operations ++ operation :: others ∧
      ∀ error, operation.reason ≠ databaseError error

theorem extended_writeBatch (tells : TellsFailure record fail) :
    Extended results (writeBatch indices record fail entries statement state results).2 := by
  unfold writeBatch
  split
  · exact .refl results
  · cases statement with
    | ok answered => exact extended_recordEach (tells.recordAdds answered.1) entries results
    | error error => exact extended_recordEach (fun _ => tells.failAdds _) entries results

theorem databaseError_inj {error error' : String}
    (same : databaseError error = databaseError error') : error = error' := by
  have lists := congrArg String.toList same
  simp only [databaseError, String.toList_append, List.append_cancel_left_eq] at lists
  exact String.toList_inj.mp lists

/-- The first operation a stage adds at an index of its entries. -/
theorem TellsFailure.first (tells : TellsFailure record fail) (statement : Except String (β × σ))
    (state : σ) {index : Nat} {result : ObjectResult}
    (touched : touching indices index entries ≠ []) (present : results[index]? = some result) :
    ∃ result' operation others,
      (writeBatch indices record fail entries statement state results).2[index]? = some result' ∧
      result'.operations = result.operations ++ operation :: others ∧
      ∀ error, operation.reason = databaseError error ↔ failure statement = some error := by
  obtain ⟨entry, rest, isTouching⟩ := List.exists_cons_of_ne_nil touched
  have adds : ∀ entry, AddsOperations (outcome record fail statement entry) := by
    intro entry
    cases statement with
    | ok answered => exact tells.recordAdds answered.1 entry
    | error error => exact tells.failAdds _
  obtain ⟨operation, others, isFirst, tellsError⟩ : ∃ operation others,
      (outcome record fail statement entry result).operations =
        result.operations ++ operation :: others ∧
      ∀ error, operation.reason = databaseError error ↔ failure statement = some error := by
    cases statement with
    | ok answered =>
      obtain ⟨operation, others, isFirst, different⟩ := tells.recorded answered.1 entry result
      refine ⟨operation, others, isFirst, fun error => ?_⟩
      exact iff_of_false (different error) fun none => nomatch none
    | error error =>
      obtain ⟨name, failed⟩ := tells.failed
      obtain ⟨others, isFirst⟩ := failed (databaseError error) result
      refine ⟨_, others, isFirst, fun error' => ?_⟩
      constructor
      · exact fun same => congrArg some (databaseError_inj same)
      · intro same
        cases same
        rfl
  obtain ⟨added, isAdded, _⟩ := addsOperations_recordAll adds rest
    (outcome record fail statement entry result)
  refine ⟨recordAll (outcome record fail statement) rest
    (outcome record fail statement entry result), operation, others ++ added, ?_, ?_, tellsError⟩
  · rw [writeBatch_getElem?, isTouching, present]
    rfl
  · rw [isAdded, isFirst, List.append_assoc, List.cons_append]

/-- Results that are the same at the end are told the same by each stage. -/
theorem failure_eq_of_results {index : Nat} {last last' : List ObjectResult}
    {result : ObjectResult} (tells : TellsFailure record fail)
    (touched : touching indices index entries ≠ [])
    (same : touching indices index entries = touching indices index entries')
    (present : results[index]? = some result) (before : results[index]? = results'[index]?)
    (later : Extended (writeBatch indices record fail entries statement state results).2 last)
    (later' :
      Extended (writeBatch indices record fail entries' statement' state' results').2 last')
    (atEnd : last[index]? = last'[index]?) : failure statement = failure statement' := by
  obtain ⟨middle, operation, others, isMiddle, isFirst, tellsError⟩ :=
    tells.first statement state touched present
  obtain ⟨middle', operation', others', isMiddle', isFirst', tellsError'⟩ :=
    tells.first statement' state' (same ▸ touched) (before ▸ present)
  obtain ⟨final, added, isFinal, isAdded, _⟩ := later index middle isMiddle
  obtain ⟨final', added', isFinal', isAdded', _⟩ := later' index middle' isMiddle'
  rw [isFinal, isFinal', Option.some.injEq] at atEnd
  have operations := congrArg ObjectResult.operations atEnd
  rw [isAdded, isAdded', isFirst, isFirst', List.append_assoc, List.append_assoc,
    List.append_cancel_left_eq, List.cons_append, List.cons_append, List.cons.injEq] at operations
  apply Option.ext
  intro error
  rw [← tellsError, ← tellsError', operations.1]

end Stage

/-! ## The stages -/

theorem ne_databaseError {reason : String} (different : reason.toList.take 2 ≠ ['d', 'a'])
    (error : String) : reason ≠ databaseError error := by
  intro same
  apply different
  rw [same, databaseError, String.toList_append]
  rfl

section Tells

variable {α β : Type} {record : β → α → ObjectResult → ObjectResult} {name : String}

/-- A stage that records one operation for an entry. -/
theorem tellsFailure_operation (named : name ≠ "dict_preload")
    (recorded : ∀ answers entry, ∃ status reason, record answers entry =
      operation name status reason ∧ reason.toList.take 2 ≠ ['d', 'a']) :
    TellsFailure record (failed name) where
  recordAdds answers entry := by
    obtain ⟨status, reason, isRecord, _⟩ := recorded answers entry
    rw [isRecord]
    exact addsOperations_operation named
  failAdds _ := addsOperations_operation named
  failed := ⟨name, fun _ _ => ⟨[], rfl⟩⟩
  recorded answers entry result := by
    obtain ⟨status, reason, isRecord, different⟩ := recorded answers entry
    rw [isRecord]
    exact ⟨⟨name, status, reason⟩, [], rfl, ne_databaseError different⟩

theorem recordConditionalWrite_eq (name : String) (write : Option ConditionalWrite) :
    ∃ status reason, recordConditionalWrite name write = operation name status reason ∧
      reason.toList.take 2 ≠ ['d', 'a'] := by
  unfold recordConditionalWrite
  cases write with
  | none => exact ⟨_, _, rfl, by decide⟩
  | some write => cases write <;> exact ⟨_, _, rfl, by decide⟩

theorem recordChanged_eq (name : String) (changed : Bool) :
    ∃ status reason, recordChanged name changed = operation name status reason ∧
      reason.toList.take 2 ≠ ['d', 'a'] := by
  unfold recordChanged
  cases changed <;> exact ⟨_, _, rfl, by decide⟩

theorem recordRelationSync_eq (name : String) (status : Option SyncStatus) :
    ∃ told reason, recordRelationSync name status = operation name told reason ∧
      reason.toList.take 2 ≠ ['d', 'a'] := by
  unfold recordRelationSync
  cases status with
  | none => exact ⟨_, _, rfl, by decide⟩
  | some status => cases status <;> exact ⟨_, _, rfl, by decide⟩

theorem tells_conditionalWrite {α β : Type} {write : β → α → Option ConditionalWrite}
    (named : name ≠ "dict_preload") :
    TellsFailure (fun answers entry => recordConditionalWrite name (write answers entry))
      (failed name) :=
  tellsFailure_operation named fun _ _ => recordConditionalWrite_eq name _

theorem tells_changed {α β : Type} {changed : β → α → Bool} (named : name ≠ "dict_preload") :
    TellsFailure (fun answers entry => recordChanged name (changed answers entry)) (failed name) :=
  tellsFailure_operation named fun _ _ => recordChanged_eq name _

theorem tells_author : TellsFailure recordAuthor (failed "tweet_author") := by
  apply tellsFailure_operation (by decide)
  intro changed entry
  unfold recordAuthor
  split <;> exact ⟨_, _, rfl, by decide⟩

theorem tells_transfer : TellsFailure recordTransfer (failed "media_transfer") := by
  apply tellsFailure_operation (by decide)
  intro statuses item
  unfold recordTransfer
  split <;> exact ⟨_, _, rfl, by decide⟩

theorem tells_relations : TellsFailure recordRelations failRelations where
  recordAdds statuses item := by
    have adds : ∀ (name : String) (status : Option SyncStatus), name ≠ "dict_preload" →
        AddsOperations (recordRelationSync name status) := by
      intro name status named
      obtain ⟨told, reason, isRecord, _⟩ := recordRelationSync_eq name status
      rw [isRecord]
      exact addsOperations_operation named
    exact (((adds _ _ (by decide)).comp (adds _ _ (by decide))).comp (adds _ _ (by decide))).comp
      (adds _ _ (by decide))
  failAdds error := by
    have adds : ∀ name : String, name ≠ "dict_preload" → AddsOperations (failed name error) :=
      fun name named => addsOperations_operation named
    exact (((adds _ (by decide)).comp (adds _ (by decide))).comp (adds _ (by decide))).comp
      (adds _ (by decide))
  failed := ⟨"tweet_media_ref", fun error result => ⟨[⟨"tweet_mention_ref", .failed, error⟩,
    ⟨"tweet_hashtag_ref", .failed, error⟩, ⟨"tweet_symbol_ref", .failed, error⟩], by
      simp [failRelations, failed, operation]⟩⟩
  recorded statuses item result := by
    let status := statuses.lookup item.value.tweetId
    obtain ⟨media, mediaReason, isMedia, different⟩ :=
      recordRelationSync_eq "tweet_media_ref" (status.map RelationSyncStatuses.media)
    obtain ⟨mention, mentionReason, isMention, _⟩ :=
      recordRelationSync_eq "tweet_mention_ref" (status.map RelationSyncStatuses.mention)
    obtain ⟨hashtag, hashtagReason, isHashtag, _⟩ :=
      recordRelationSync_eq "tweet_hashtag_ref" (status.map RelationSyncStatuses.hashtag)
    obtain ⟨symbol, symbolReason, isSymbol, _⟩ :=
      recordRelationSync_eq "tweet_symbol_ref" (status.map RelationSyncStatuses.symbol)
    refine ⟨⟨"tweet_media_ref", media, mediaReason⟩, [⟨"tweet_mention_ref", mention, mentionReason⟩,
      ⟨"tweet_hashtag_ref", hashtag, hashtagReason⟩, ⟨"tweet_symbol_ref", symbol, symbolReason⟩],
      ?_, ne_databaseError different⟩
    simp only [recordRelations, status] at isMedia isMention isHashtag isSymbol ⊢
    rw [isMedia, isMention, isHashtag, isSymbol]
    simp [operation]

end Tells

/-! ## Entries of two runs -/

section Entries

variable {α ε : Type} {other : Nat → Bool} {indices : ε → List Nat} {row : ε → α}
  {scope : α → Prop} {entries entries' : List ε}

theorem touching_filter {keep : ε → Bool} {index : Nat}
    (kept : ∀ entry ∈ entries, index ∈ indices entry → keep entry = true) :
    touching indices index (entries.filter keep) = touching indices index entries := by
  induction entries with
  | nil => rfl
  | cons entry entries inductionHypothesis =>
    rw [List.forall_mem_cons] at kept
    rw [List.filter_cons, touching_cons entry entries]
    split
    next => rw [touching_cons, inductionHypothesis kept.2]
    next dropped =>
      have untouched : touching indices index [entry] = [] := by
        rw [List.eq_nil_iff_forall_not_mem]
        intro touched member
        obtain ⟨isEntry, named⟩ := mem_touching.mp member
        rw [List.mem_singleton.mp isEntry] at named
        exact dropped (kept.1 named)
      rw [untouched, List.nil_append, inductionHypothesis kept.2]

/-- Two lists with the same entries of the scope. -/
theorem EntriesAlike.of_filter {keep : ε → Bool} (same : entries.filter keep = entries'.filter keep)
    (keeps : ∀ entry ∈ entries, keep entry = true ↔ scope (row entry))
    (keeps' : ∀ entry ∈ entries', keep entry = true ↔ scope (row entry))
    (inside : ∀ entry ∈ entries, ∀ index ∈ indices entry, other index = true → scope (row entry))
    (inside' : ∀ entry ∈ entries', ∀ index ∈ indices entry, other index = true →
      scope (row entry)) :
    EntriesAlike other indices row scope entries entries' where
  touching index isOther := by
    rw [← touching_filter fun entry member named =>
        (keeps entry member).mpr (inside entry member index named isOther),
      ← touching_filter fun entry member named =>
        (keeps' entry member).mpr (inside' entry member index named isOther), same]
  rows := by
    have half : ∀ {entries : List ε}, (∀ entry ∈ entries, keep entry = true ↔ scope (row entry)) →
        ∀ value, scope value →
          (value ∈ entries.map row ↔ value ∈ (entries.filter keep).map row) := by
      intro entries keeps value isInside
      simp only [List.mem_map, List.mem_filter]
      constructor
      · intro ⟨entry, member, isValue⟩
        subst isValue
        exact ⟨entry, ⟨member, (keeps entry member).mpr isInside⟩, rfl⟩
      · intro ⟨entry, member, isValue⟩
        exact ⟨entry, member.1, isValue⟩
    intro value isInside
    rw [half keeps value isInside, half keeps' value isInside, same]
  inside := inside

theorem ItemsAlike.entriesAlike {κ : Type} {keys : κ → Prop} {key : α → κ}
    {items items' : List (Indexed α)} (alike : ItemsAlike other keys key items items') :
    EntriesAlike other indexOf Indexed.value (fun value => keys (key value)) items items' := by
  have named : ∀ {item : Indexed α} {index : Nat}, index ∈ indexOf item → other index = true →
      other item.index = true := by
    intro item index isIndex isOther
    rw [List.mem_singleton.mp isIndex] at isOther
    exact isOther
  refine .of_filter alike.same (fun item member => (alike.inside item member).symm)
    (fun item member => (alike.inside' item member).symm) ?_ ?_
  · exact fun item member index isIndex isOther =>
      (alike.inside item member).mpr (named isIndex isOther)
  · exact fun item member index isIndex isOther =>
      (alike.inside' item member).mpr (named isIndex isOther)

end Entries

/-! ## A stage in two runs -/

section Stage

variable {π α β σ γ ε κ : Type} {run : π → List α → σ → Except String (β × σ)}
  {contexts : π → π → Prop} {valid : List α → Prop} {scope : α → Prop} {sound : σ → Prop}
  {agree : σ → σ → Prop} {answer : β → α → γ} {other : Nat → Bool} {indices : ε → List Nat}
  {row : ε → α} {entries entries' : List ε} {record : β → ε → ObjectResult → ObjectResult}
  {fail : String → ObjectResult → ObjectResult} {state state' : σ}
  {results results' : List ObjectResult}

/-- The results of two runs become the same at the other items. -/
def EndSame (other : Nat → Bool) (results results' : List ObjectResult) : Prop :=
  ∃ last last' : List ObjectResult, Extended results last ∧ Extended results' last' ∧
    ∀ index, other index = true → last[index]? = last'[index]?

theorem EndSame.before {middle middle' : List ObjectResult} (same : EndSame other middle middle')
    (extended : Extended results middle) (extended' : Extended results' middle') :
    EndSame other results results' := by
  obtain ⟨last, last', later, later', atEnd⟩ := same
  exact ⟨last, last', extended.trans later, extended'.trans later', atEnd⟩

/-- Two runs that end alike for the other items have told them the same in this stage. -/
theorem failure_eq_of_ends (alike : EntriesAlike other indices row scope entries entries')
    (tells : TellsFailure record fail) {statement statement' : Except String (β × σ)}
    (before : ∀ index, other index = true → results[index]? = results'[index]?)
    (present : ∀ entry ∈ entries, ∀ index ∈ indices entry, ∃ result : ObjectResult,
      results[index]? = some result)
    (atEnd : EndSame other (writeBatch indices record fail entries statement state results).2
      (writeBatch indices record fail entries' statement' state' results').2)
    (carried : ∃ entry ∈ entries, ∃ index ∈ indices entry, other index = true) :
    failure statement = failure statement' := by
  obtain ⟨entry, member, index, named, isOther⟩ := carried
  obtain ⟨last, last', later, later', sameAtEnd⟩ := atEnd
  obtain ⟨result, isPresent⟩ := present entry member index named
  have touched : touching indices index entries ≠ [] :=
    List.ne_nil_of_mem (mem_touching.mpr ⟨member, named⟩)
  exact failure_eq_of_results tells touched (alike.touching index isOther) isPresent
    (before index isOther) later later' (sameAtEnd index isOther)

/-- What two runs of a stage over indexed objects have in common. -/
structure StageRuns (other : Nat → Bool) (sound : σ → Prop) (agree : σ → σ → Prop)
    (carried : Prop) (ended ended' : Option String) (left right : σ × List ObjectResult) :
    Prop where
  alike : (carried → ended = ended') → StageAlike other sound agree left right
  told : EndSame other left.2 right.2 → carried → ended = ended'

theorem stageRuns_items {keys : κ → Prop} {key : α → κ} {items items' : List (Indexed α)}
    {record : β → Indexed α → ObjectResult → ObjectResult}
    (independent :
      Independent run contexts valid (fun value => keys (key value)) sound agree answer)
    (tells : TellsFailure record fail)
    (recorded : ∀ answers answers' (item : Indexed α),
      answer answers item.value = answer answers' item.value →
      record answers item = record answers' item)
    (refusal refusal' : Option String) (context context' : π)
    (alike : ItemsAlike other keys key items items') (sameContext : contexts context context')
    (isValid : valid (items.map Indexed.value)) (isValid' : valid (items'.map Indexed.value))
    (isSound : sound state) (isSound' : sound state') (agrees : agree state state')
    (before : ∀ index, other index = true → results[index]? = results'[index]?)
    (present : ∀ item ∈ items, ∃ result : ObjectResult, results[item.index]? = some result) :
    StageRuns other sound agree (Carries other items)
      (failure (send refusal (run context (items.map Indexed.value) state)))
      (failure (send refusal' (run context' (items'.map Indexed.value) state')))
      (writeBatch indexOf record fail items
        (send refusal (run context (items.map Indexed.value) state)) state results)
      (writeBatch indexOf record fail items'
        (send refusal' (run context' (items'.map Indexed.value) state')) state' results') where
  alike ends := by
    apply writeBatch_alike independent alike.entriesAlike recorded refusal refusal' _ _ sameContext
      isValid isValid' isSound isSound' agrees before
    intro ⟨item, member, inside⟩
    exact ends ⟨item, member, (alike.inside item member).mp inside⟩
  told atEnd carried := by
    obtain ⟨item, member, isOther⟩ := carried
    refine failure_eq_of_ends alike.entriesAlike tells before ?_ atEnd
      ⟨item, member, item.index, List.mem_singleton_self _, isOther⟩
    intro other isItem index named
    rw [List.mem_singleton.mp named]
    exact present other isItem

end Stage

/-! ## Maps of two runs -/

section Maps

variable {α κ : Type} [DecidableEq κ] {key : α → κ} {merge : α → α → α}

theorem filter_addEntry (keeps : ∀ entry value, key (merge entry value) = key entry)
    (keep : κ → Bool) (entries : List α) (value : α) :
    (addEntry key merge entries value).filter (fun entry => keep (key entry)) =
      if keep (key value) = true then
        addEntry key merge (entries.filter fun entry => keep (key entry)) value
      else entries.filter fun entry => keep (key entry) := by
  induction entries with
  | nil =>
    rw [addEntry, List.filter_cons]
    rfl
  | cons entry entries inductionHypothesis =>
    by_cases same : key entry = key value
    · rw [addEntry, if_pos same, List.filter_cons, List.filter_cons, keeps, same]
      split
      · rw [addEntry, if_pos same]
      · rfl
    · rw [addEntry, if_neg same, List.filter_cons, List.filter_cons, inductionHypothesis]
      cases keep (key entry) <;> cases keep (key value) <;> simp [addEntry, same]

/-- The entries of some keys come from the values of these keys. -/
theorem filter_foldl_addEntry (keeps : ∀ entry value, key (merge entry value) = key entry)
    (keep : κ → Bool) (values entries : List α) :
    (values.foldl (addEntry key merge) entries).filter (fun entry => keep (key entry)) =
      (values.filter fun value => keep (key value)).foldl (addEntry key merge)
        (entries.filter fun entry => keep (key entry)) := by
  induction values generalizing entries with
  | nil => rfl
  | cons value values inductionHypothesis =>
    rw [List.foldl_cons, inductionHypothesis, filter_addEntry keeps, List.filter_cons]
    split <;> rfl

end Maps

end TweetDb.Submit
