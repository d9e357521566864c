import TweetDb.Relational.Agree
import TweetDb.Submit.References

/-! # What a relation sync reports

The status of a tweet is computed from counts and from equality of two
aggregates; here it says what has happened to the stored refs.  A second call
finds nothing to change, whichever CTE runs first.
-/

namespace TweetDb.Submit

open Relational
open TweetDb.Tweet

variable {ρ : Type} [RefRow ρ] {target : RefTarget ρ} {tweetExists : Int → Bool}
  {tweetIds : List Int} {refs : List ρ} {table table' : Table ρ} {tweetId : Int}

/-- A ref of the tweet is requested that the function does not let through. -/
def Dropped (target : RefTarget ρ) (refs : List ρ) (tweetId : Int) : Prop :=
  ∃ ref ∈ refs, RefRow.tweetId ref = tweetId ∧ target.accepted ref = false

/-- The refs of the tweet are not the ones that were stored. -/
def RefsChanged (table table' : Table ρ) (tweetId : Int) : Prop :=
  ¬ ∀ ref : ρ, RefRow.tweetId ref = tweetId → (ref ∈ table'.rows ↔ ref ∈ table.rows)

/-- The status of a tweet tells what became of its refs. -/
structure Reports (target : RefTarget ρ) (tweetExists : Int → Bool) (refs : List ρ)
    (table table' : Table ρ) (tweetId : Int) (status : SyncStatus) : Prop where
  missing : status = .missingTweet ↔ tweetExists tweetId = false
  replaced : status = .replaced ∨ status = .replacedFiltered ↔ RefsChanged table table' tweetId
  filtered : status = .replacedFiltered ∨ status = .unchangedFiltered ↔
    tweetExists tweetId = true ∧ Dropped target refs tweetId

/-- Every target has a status that tells what became of its refs. -/
def Answered (target : RefTarget ρ) (tweetExists : Int → Bool) (tweetIds : List Int)
    (refs : List ρ) (table table' : Table ρ) (statuses : List (Int × SyncStatus)) : Prop :=
  ∀ tweetId ∈ tweetIds, ∃ status, statuses.lookup tweetId = some status ∧
    Reports target tweetExists refs table table' tweetId status

/-! ## Counting the refs -/

/-- What a filter leaves is counted less exactly if something was counted and left out. -/
theorem countP_filter_lt_iff {α : Type} {counted kept : α → Bool} {rows : List α} :
    (rows.filter kept).countP counted < rows.countP counted ↔
      ∃ row ∈ rows, counted row = true ∧ kept row = false := by
  -- Fewer are counted exactly if one is counted among those left out.
  have split := List.countP_eq_countP_filter_add rows counted kept
  have leftOut : 0 < (rows.filter fun row => !kept row).countP counted ↔
      ∃ row ∈ rows, counted row = true ∧ kept row = false := by
    rw [List.countP_pos_iff]
    constructor
    · rintro ⟨row, member, isCounted⟩
      rw [List.mem_filter, Bool.not_eq_true'] at member
      exact ⟨row, member.1, isCounted, member.2⟩
    · rintro ⟨row, member, isCounted, notKept⟩
      refine ⟨row, ?_, isCounted⟩
      simp [member, notKept]
  rw [← leftOut]
  omega

/-- The function lets a ref through by its id. -/
def ByRefId (target : RefTarget ρ) : Prop :=
  ∀ a b : ρ, refKey a = refKey b → target.accepted a = target.accepted b

/-- Of the requested refs with one id one is left to be counted. -/
theorem dropped_iff_rawInput (byId : ByRefId target)
    (existing : tweetId ∈ existingTweets tweetExists tweetIds) :
    Dropped target refs tweetId ↔
      ∃ ref ∈ rawInput tweetExists tweetIds refs, decide (RefRow.tweetId ref = tweetId) = true ∧
        target.accepted ref = false := by
  constructor
  · rintro ⟨ref, requested, rfl, notAccepted⟩
    have sorted : ref ∈ orderBy (fun ref => [RefRow.tweetId ref, RefRow.refId ref,
        RefRow.displayOrder ref]) (refs.filter fun ref =>
          decide (RefRow.tweetId ref ∈ existingTweets tweetExists tweetIds)) := by
      simp [requested, existing]
    -- `raw_input` holds one ref of each key, maybe another one: both are dropped or neither.
    obtain ⟨kept, isRaw, sameKey⟩ := @exists_mem_distinctOn _ _ _ refKey _ _ sorted
    refine ⟨kept, isRaw, ?_, ?_⟩
    · exact decide_eq_true (refKey_eq_iff.mp sameKey).1
    · rw [byId kept ref sameKey]
      exact notAccepted
  · rintro ⟨ref, isRaw, isTweet, notAccepted⟩
    exact ⟨ref, (mem_rawInput.mp isRaw).1.1, of_decide_eq_true isTweet, notAccepted⟩

section Status

variable [DecidableEq ρ]

/-- The changed tweets are those whose stored refs change. -/
theorem refsChanged_iff (leaves : LeavesWanted target tweetExists tweetIds refs table table')
    (named : tweetId ∈ tweetIds) :
    RefsChanged table table' tweetId ↔
      tweetId ∈ changedTweets target tweetExists tweetIds refs table := by
  rw [mem_changedTweets, mem_existingTweets, RefsChanged]
  -- A stored target has changed if its refs are not the wanted ones; those of others are kept.
  by_cases present : tweetExists tweetId = true
  · simp only [named, present, and_self, true_and]
    apply not_congr
    apply forall_congr'
    intro ref
    apply imp_congr_right
    intro isTweet
    subst isTweet
    rw [leaves ref, if_pos ⟨named, present⟩]
  · have kept : ∀ ref : ρ, RefRow.tweetId ref = tweetId →
        (ref ∈ table'.rows ↔ ref ∈ table.rows) := by
      intro ref isTweet
      subst isTweet
      rw [leaves ref, if_neg fun both => present both.2]
    simp only [present, Bool.false_eq_true, and_false, false_and, iff_false, not_not]
    exact kept

theorem reports_syncStatus (byId : ByRefId target)
    (leaves : LeavesWanted target tweetExists tweetIds refs table table')
    (named : tweetId ∈ tweetIds) :
    Reports target tweetExists refs table table' tweetId
      (syncStatus target tweetExists tweetIds refs table tweetId) := by
  have changedIff := refsChanged_iff leaves named
  by_cases present : tweetExists tweetId = true
  · have existing : tweetId ∈ existingTweets tweetExists tweetIds :=
      mem_existingTweets.mpr ⟨named, present⟩
    -- The code tells a filtered tweet by comparing two counts.
    have fewer : (inputRefs target tweetExists tweetIds refs).countP
          (fun ref => decide (RefRow.tweetId ref = tweetId)) <
        (rawInput tweetExists tweetIds refs).countP
          (fun ref => decide (RefRow.tweetId ref = tweetId)) ↔ Dropped target refs tweetId :=
      countP_filter_lt_iff.trans (dropped_iff_rawInput byId existing).symm
    have status : syncStatus target tweetExists tweetIds refs table tweetId =
        if tweetId ∈ changedTweets target tweetExists tweetIds refs table then
          if (inputRefs target tweetExists tweetIds refs).countP
              (fun ref => decide (RefRow.tweetId ref = tweetId)) <
            (rawInput tweetExists tweetIds refs).countP
              fun ref => decide (RefRow.tweetId ref = tweetId)
          then .replacedFiltered else .replaced
        else if (inputRefs target tweetExists tweetIds refs).countP
              (fun ref => decide (RefRow.tweetId ref = tweetId)) <
            (rawInput tweetExists tweetIds refs).countP
              fun ref => decide (RefRow.tweetId ref = tweetId)
        then .unchangedFiltered else .unchanged := by
      simp only [syncStatus, existing, not_true, if_false, decide_eq_true_eq]
    rw [status]
    constructor
    · rw [present]
      split <;> split <;> simp
    · rw [changedIff]
      split
      next changed => split <;> simp [changed]
      next same => split <;> simp [same]
    · rw [present, ← fewer]
      split <;> split
      next less => simp [less]
      next notLess => simp [notLess]
      next less => simp [less]
      next notLess => simp [notLess]
  · have notExisting : tweetId ∉ existingTweets tweetExists tweetIds :=
      fun existing => present (mem_existingTweets.mp existing).2
    have status : syncStatus target tweetExists tweetIds refs table tweetId = .missingTweet := by
      simp [syncStatus, notExisting]
    have notChanged : tweetId ∉ changedTweets target tweetExists tweetIds refs table :=
      fun changed => notExisting (mem_changedTweets.mp changed).1
    rw [status]
    constructor
    · simp [present]
    · simp [changedIff, notChanged]
    · simp [present]

/-! ## The same call again -/

/-- After a sync no tweet is left to be changed. -/
theorem notChanged_after (leaves : LeavesWanted target tweetExists tweetIds refs table table')
    (tweetId : Int) : tweetId ∉ changedTweets target tweetExists tweetIds refs table' := by
  intro changed
  obtain ⟨existing, different⟩ := mem_changedTweets.mp changed
  apply different
  intro ref isTweet
  subst isTweet
  rw [leaves ref, if_pos (mem_existingTweets.mp existing)]

theorem replaceRefs_unchanged {order : CteOrder}
    (unchanged : ∀ tweetId, tweetId ∉ changedTweets target tweetExists tweetIds refs table) :
    replaceRefs target tweetExists tweetIds refs table order = .ok table := by
  have nothing : isChanged target tweetExists tweetIds refs table = fun _ => false := by
    funext ref
    exact decide_eq_false (unchanged _)
  -- Both statements select by the changed tweets, so neither order has a row to write.
  have noneInserted : insertedRefs target tweetExists tweetIds refs table = [] := by
    rw [insertedRefs, nothing]
    exact List.filter_false _
  have kept : table.delete (fun _ : ρ => false) = table := by
    simp [Table.delete]
  cases order with
  | deletedFirst =>
    simp only [replaceRefs, noneInserted, nothing, kept, List.foldlM_nil]
    rfl
  | insertedFirst =>
    simp only [replaceRefs, noneInserted, nothing, List.foldlM_nil, Bool.false_and, pure_bind, kept]
    rfl

/-- One kind of refs: a status for each target, and the same call again answers without changing
anything. -/
theorem syncTweetRefs_reports {order : CteOrder} {statuses : List (Int × SyncStatus)}
    (byId : ByRefId target)
    (synced : syncTweetRefs target tweetExists tweetIds refs table order =
      .ok (statuses, table')) :
    LeavesWanted target tweetExists tweetIds refs table table' ∧
    Answered target tweetExists tweetIds refs table table' statuses ∧
    ∀ order', ∃ again, syncTweetRefs target tweetExists tweetIds refs table' order' =
        .ok (again, table') ∧
      Answered target tweetExists tweetIds refs table' table' again := by
  obtain ⟨rfl, leaves⟩ := syncTweetRefs_ok synced
  have answer : ∀ (status : Int → SyncStatus) tweetId, tweetId ∈ tweetIds →
      (tweetIds.dedup.map fun id => (id, status id)).lookup tweetId = some (status tweetId) := by
    intro status tweetId named
    have distinct : DistinctBy id tweetIds.dedup := fun a _ b _ same => same
    exact distinct.lookup_answers status (List.mem_dedup.mpr named)
  refine ⟨leaves, fun tweetId named => ⟨_, answer _ _ named, reports_syncStatus byId leaves named⟩,
    fun order' => ?_⟩
  -- The refs are the wanted ones now, so whichever order the second call takes, it writes nothing.
  have replaced := @replaceRefs_unchanged _ _ _ _ _ _ _ _ order' (notChanged_after leaves)
  have result : syncTweetRefs target tweetExists tweetIds refs table' order' =
      .ok (tweetIds.dedup.map fun id =>
        (id, syncStatus target tweetExists tweetIds refs table' id), table') := by
    simp only [syncTweetRefs, replaced]
    rfl
  have leavesAgain := (syncTweetRefs_ok result).2
  exact ⟨_, result, fun tweetId named =>
    ⟨_, answer _ _ named, reports_syncStatus byId leavesAgain named⟩⟩

end Status

/-- Nothing was replaced where the refs are the ones that were stored. -/
theorem Reports.unchanged {status : SyncStatus}
    (reports : Reports target tweetExists refs table table tweetId status)
    (present : tweetExists tweetId = true) :
    status = .unchanged ∨ status = .unchangedFiltered := by
  have notChanged : ¬ RefsChanged table table tweetId := fun changed => changed fun _ _ => Iff.rfl
  have notReplaced := mt reports.replaced.mp notChanged
  have notMissing := mt reports.missing.mp (by simp [present])
  cases status with
  | missingTweet => exact absurd rfl notMissing
  | replaced => exact absurd (.inl rfl) notReplaced
  | replacedFiltered => exact absurd (.inr rfl) notReplaced
  | unchanged => exact .inl rfl
  | unchangedFiltered => exact .inr rfl

theorem Reports.unchanged_of_notDropped {status : SyncStatus}
    (reports : Reports target tweetExists refs table table tweetId status)
    (present : tweetExists tweetId = true) (notDropped : ¬ Dropped target refs tweetId) :
    status = .unchanged := by
  have notFiltered := mt reports.filtered.mp fun both => notDropped both.2
  rcases reports.unchanged present with unchanged | filtered
  · exact unchanged
  · exact absurd (.inr filtered) notFiltered

/-! ## The four kinds of refs -/

section Relations

variable {parents : RefParents} {orders : RefOrders} {mediaRefs : List MediaRef}
  {mentionRefs : List MentionRef} {hashtagRefs : List HashtagRef} {symbolRefs : List SymbolRef}
  {tables tables' : RefTables} {statuses : List (Int × RelationSyncStatuses)}

/-- The statuses of a tweet, each for its table. -/
structure RelationsReported (parents : RefParents) (mediaRefs : List MediaRef)
    (mentionRefs : List MentionRef) (hashtagRefs : List HashtagRef) (symbolRefs : List SymbolRef)
    (tables tables' : RefTables) (tweetId : Int) (status : RelationSyncStatuses) : Prop where
  media : Reports (mediaTarget parents) parents.tweet mediaRefs tables.media tables'.media tweetId
    status.media
  mention : Reports mentionTarget parents.tweet mentionRefs tables.mention tables'.mention tweetId
    status.mention
  hashtag : Reports (hashtagTarget parents) parents.tweet hashtagRefs tables.hashtag
    tables'.hashtag tweetId status.hashtag
  symbol : Reports (symbolTarget parents) parents.tweet symbolRefs tables.symbol tables'.symbol
    tweetId status.symbol

/-- The four answers joined on the targets. -/
def joinStatuses (tweetIds : List Int) (media mention hashtag symbol : List (Int × SyncStatus)) :
    List (Int × RelationSyncStatuses) :=
  tweetIds.dedup.filterMap fun tweetId =>
    match media.lookup tweetId, mention.lookup tweetId, hashtag.lookup tweetId,
      symbol.lookup tweetId with
    | some media, some mention, some hashtag, some symbol =>
      some (tweetId, ⟨media, mention, hashtag, symbol⟩)
    | _, _, _, _ => none

theorem joinStatuses_spec {media mention hashtag symbol : List (Int × SyncStatus)}
    {reported : Int → RelationSyncStatuses → Prop}
    (answered : ∀ tweetId ∈ tweetIds, ∃ status : RelationSyncStatuses,
      media.lookup tweetId = some status.media ∧ mention.lookup tweetId = some status.mention ∧
      hashtag.lookup tweetId = some status.hashtag ∧ symbol.lookup tweetId = some status.symbol ∧
      reported tweetId status) :
    (joinStatuses tweetIds media mention hashtag symbol).map Prod.fst = tweetIds.dedup ∧
      ∀ entry ∈ joinStatuses tweetIds media mention hashtag symbol, reported entry.1 entry.2 := by
  have targets : ∀ tweetId ∈ tweetIds.dedup, tweetId ∈ tweetIds :=
    fun tweetId member => List.mem_dedup.mp member
  unfold joinStatuses
  -- The inner joins lose no target: each is answered in all four lists.
  generalize tweetIds.dedup = ids at targets
  induction ids with
  | nil => simp
  | cons first rest inductionHypothesis =>
    obtain ⟨status, inMedia, inMention, inHashtag, inSymbol, isReported⟩ :=
      answered first (targets first List.mem_cons_self)
    obtain ⟨keys, others⟩ :=
      inductionHypothesis fun tweetId member => targets tweetId (List.mem_cons_of_mem _ member)
    simp only [List.filterMap_cons, inMedia, inMention, inHashtag, inSymbol, List.map_cons, keys,
      List.mem_cons, forall_eq_or_imp, true_and]
    exact ⟨isReported, others⟩

theorem joinStatuses_reported {media mention hashtag symbol : List (Int × SyncStatus)}
    (ofMedia : Answered (mediaTarget parents) parents.tweet tweetIds mediaRefs tables.media
      tables'.media media)
    (ofMention : Answered mentionTarget parents.tweet tweetIds mentionRefs tables.mention
      tables'.mention mention)
    (ofHashtag : Answered (hashtagTarget parents) parents.tweet tweetIds hashtagRefs
      tables.hashtag tables'.hashtag hashtag)
    (ofSymbol : Answered (symbolTarget parents) parents.tweet tweetIds symbolRefs tables.symbol
      tables'.symbol symbol) :
    (joinStatuses tweetIds media mention hashtag symbol).map Prod.fst = tweetIds.dedup ∧
      ∀ entry ∈ joinStatuses tweetIds media mention hashtag symbol,
        RelationsReported parents mediaRefs mentionRefs hashtagRefs symbolRefs tables tables'
          entry.1 entry.2 := by
  apply joinStatuses_spec
  intro tweetId named
  obtain ⟨mediaStatus, inMedia, mediaReport⟩ := ofMedia tweetId named
  obtain ⟨mentionStatus, inMention, mentionReport⟩ := ofMention tweetId named
  obtain ⟨hashtagStatus, inHashtag, hashtagReport⟩ := ofHashtag tweetId named
  obtain ⟨symbolStatus, inSymbol, symbolReport⟩ := ofSymbol tweetId named
  exact ⟨⟨mediaStatus, mentionStatus, hashtagStatus, symbolStatus⟩, inMedia, inMention,
    inHashtag, inSymbol, mediaReport, mentionReport, hashtagReport, symbolReport⟩

/-- A call succeeds exactly if each of the four functions does. -/
theorem syncTweetRelations_ok_iff :
    syncTweetRelations parents orders tweetIds mediaRefs mentionRefs hashtagRefs symbolRefs tables =
        .ok (statuses, tables') ↔
      ∃ media mention hashtag symbol,
        syncTweetMediaRefs parents orders.media tweetIds mediaRefs tables.media =
          .ok (media, tables'.media) ∧
        syncTweetMentionRefs parents orders.mention tweetIds mentionRefs tables.mention =
          .ok (mention, tables'.mention) ∧
        syncTweetHashtagRefs parents orders.hashtag tweetIds hashtagRefs tables.hashtag =
          .ok (hashtag, tables'.hashtag) ∧
        syncTweetSymbolRefs parents orders.symbol tweetIds symbolRefs tables.symbol =
          .ok (symbol, tables'.symbol) ∧
        statuses = joinStatuses tweetIds media mention hashtag symbol := by
  constructor
  · intro synced
    obtain ⟨⟨media, _⟩, mediaSynced, synced⟩ := bind_eq_ok synced
    obtain ⟨⟨mention, _⟩, mentionSynced, synced⟩ := bind_eq_ok synced
    obtain ⟨⟨hashtag, _⟩, hashtagSynced, synced⟩ := bind_eq_ok synced
    obtain ⟨⟨symbol, _⟩, symbolSynced, result⟩ := map_eq_ok synced
    cases result
    exact ⟨media, mention, hashtag, symbol, mediaSynced, mentionSynced, hashtagSynced,
      symbolSynced, rfl⟩
  · rintro ⟨media, mention, hashtag, symbol, mediaSynced, mentionSynced, hashtagSynced,
      symbolSynced, rfl⟩
    simp only [syncTweetRelations, mediaSynced, mentionSynced, hashtagSynced, symbolSynced,
      Except.bind, Except.map]
    rfl

/-- Refs of missing media are dropped; no other kind of ref is. -/
theorem byRefId_media : ByRefId (mediaTarget parents) := by
  intro a b same
  have sameMedia : a.mediaId = b.mediaId := (refKey_eq_iff.mp same).2
  simp [mediaTarget, sameMedia]

/-- Whenever the call succeeds: the refs of the existing targets are the wanted ones and all others
are kept; every target has one status for each kind that tells what became of its refs; and the
same call again succeeds, changes nothing and says so. -/
theorem relation_sync_reports
    (synced : syncTweetRelations parents orders tweetIds mediaRefs mentionRefs hashtagRefs
      symbolRefs tables = .ok (statuses, tables')) :
    (LeavesWanted (mediaTarget parents) parents.tweet tweetIds mediaRefs tables.media
        tables'.media ∧
      LeavesWanted mentionTarget parents.tweet tweetIds mentionRefs tables.mention
        tables'.mention ∧
      LeavesWanted (hashtagTarget parents) parents.tweet tweetIds hashtagRefs tables.hashtag
        tables'.hashtag ∧
      LeavesWanted (symbolTarget parents) parents.tweet tweetIds symbolRefs tables.symbol
        tables'.symbol) ∧
    statuses.map Prod.fst = tweetIds.dedup ∧
    (∀ entry ∈ statuses, RelationsReported parents mediaRefs mentionRefs hashtagRefs symbolRefs
      tables tables' entry.1 entry.2) ∧
    ∀ orders', ∃ again,
      syncTweetRelations parents orders' tweetIds mediaRefs mentionRefs hashtagRefs symbolRefs
        tables' = .ok (again, tables') ∧
      again.map Prod.fst = tweetIds.dedup ∧
      ∀ entry ∈ again,
        RelationsReported parents mediaRefs mentionRefs hashtagRefs symbolRefs tables' tables'
          entry.1 entry.2 ∧
        (parents.tweet entry.1 = true →
          (entry.2.media = .unchanged ∨
            entry.2.media = .unchangedFiltered ∧ Dropped (mediaTarget parents) mediaRefs entry.1) ∧
          entry.2.mention = .unchanged ∧ entry.2.hashtag = .unchanged ∧
          entry.2.symbol = .unchanged) := by
  obtain ⟨media, mention, hashtag, symbol, mediaSynced, mentionSynced, hashtagSynced,
    symbolSynced, rfl⟩ := syncTweetRelations_ok_iff.mp synced
  obtain ⟨mediaLeaves, mediaReports, mediaAgain⟩ :=
    syncTweetRefs_reports byRefId_media mediaSynced
  obtain ⟨mentionLeaves, mentionReports, mentionAgain⟩ :=
    syncTweetRefs_reports (fun _ _ _ => rfl) mentionSynced
  obtain ⟨hashtagLeaves, hashtagReports, hashtagAgain⟩ :=
    syncTweetRefs_reports (fun _ _ _ => rfl) hashtagSynced
  obtain ⟨symbolLeaves, symbolReports, symbolAgain⟩ :=
    syncTweetRefs_reports (fun _ _ _ => rfl) symbolSynced
  obtain ⟨targets, reported⟩ :=
    joinStatuses_reported mediaReports mentionReports hashtagReports symbolReports
  -- The second call: each kind again on its own, and the answers joined as before.
  refine ⟨⟨mediaLeaves, mentionLeaves, hashtagLeaves, symbolLeaves⟩, targets, reported,
    fun orders' => ?_⟩
  obtain ⟨media', mediaSynced', mediaReports'⟩ := mediaAgain orders'.media
  obtain ⟨mention', mentionSynced', mentionReports'⟩ := mentionAgain orders'.mention
  obtain ⟨hashtag', hashtagSynced', hashtagReports'⟩ := hashtagAgain orders'.hashtag
  obtain ⟨symbol', symbolSynced', symbolReports'⟩ := symbolAgain orders'.symbol
  obtain ⟨targets', reported'⟩ :=
    joinStatuses_reported mediaReports' mentionReports' hashtagReports' symbolReports'
  refine ⟨_, syncTweetRelations_ok_iff.mpr ⟨media', mention', hashtag', symbol', mediaSynced',
    mentionSynced', hashtagSynced', symbolSynced', rfl⟩, targets', ?_⟩
  intro entry member
  have report := reported' entry member
  refine ⟨report, fun present => ⟨?_, ?_, ?_, ?_⟩⟩
  -- Only media refs are filtered by their parent; the other kinds have nothing to drop.
  · rcases report.media.unchanged present with unchanged | filtered
    · exact .inl unchanged
    · exact .inr ⟨filtered, (report.media.filtered.mp (.inr filtered)).2⟩
  · exact report.mention.unchanged_of_notDropped present (by simp [Dropped, mentionTarget])
  · exact report.hashtag.unchanged_of_notDropped present (by simp [Dropped, hashtagTarget])
  · exact report.symbol.unchanged_of_notDropped present (by simp [Dropped, symbolTarget])

end Relations

/-- Tweet 1 is stored and tweet 2 is not; of the media only 10 is stored. -/
def partlyStored : RefParents :=
  ⟨fun id => decide (id = 1), fun id => decide (id = 10), fun _ => true, fun _ => true⟩

def deletedFirst : RefOrders := ⟨.deletedFirst, .deletedFirst, .deletedFirst, .deletedFirst⟩

def insertedFirst : RefOrders := ⟨.insertedFirst, .insertedFirst, .insertedFirst, .insertedFirst⟩

/-- A media requested twice, one that is missing, and a tweet that is missing. -/
theorem relation_sync_reports_filtered :
    let mediaRefs : List MediaRef := [⟨1, 10, 3⟩, ⟨1, 10, 1⟩, ⟨1, 11, 2⟩, ⟨2, 10, 0⟩]
    ∃ tables again,
      syncTweetRelations partlyStored deletedFirst [1, 2, 1] mediaRefs [⟨1, 7⟩] [] []
          ⟨.empty, .empty, .empty, .empty⟩ =
        .ok ([(2, ⟨.missingTweet, .missingTweet, .missingTweet, .missingTweet⟩),
          (1, ⟨.replacedFiltered, .replaced, .unchanged, .unchanged⟩)], tables) ∧
      tables.media.rows = [⟨1, 10, 1⟩] ∧
      syncTweetRelations partlyStored insertedFirst [1, 2, 1] mediaRefs [⟨1, 7⟩] [] [] tables =
        .ok (again, tables) := by
  intro mediaRefs
  have synced : syncTweetRelations partlyStored deletedFirst [1, 2, 1] mediaRefs [⟨1, 7⟩] [] []
      ⟨.empty, .empty, .empty, .empty⟩ = .ok (_, _) := rfl
  obtain ⟨again, repeated, _⟩ := (relation_sync_reports synced).2.2.2 insertedFirst
  exact ⟨_, again, synced, rfl, repeated⟩

end TweetDb.Submit
