import TweetDb.Relational.Agree
import TweetDb.Submit.RelationReport
import TweetDb.Submit.Repeat
import TweetDb.Tweet.ChangeReports

/-! # The same statement again

A statement that has taken effect finds its rows in place when it is sent once
more.  For the version tables this needs one observation of a subject in a
statement: of two, the second may find the first between itself and the version
it was compared with.
-/

namespace TweetDb.Tweet

open Relational

/-! ## Versions -/

section Versions

variable {κ : Type} {input : List (Version κ)} {table : Table (Version κ)}

theorem versionsOf_insertNew {new : List (Version κ)} {subjectId : Int}
    (other : ∀ row ∈ (table.insertNew new).1, row.subjectId ≠ subjectId) :
    versionsOf (table.insertNew new).2 subjectId = versionsOf table subjectId := by
  have none : (table.insertNew new).1.filter (fun row => decide (row.subjectId = subjectId)) =
      [] := by
    rw [List.filter_eq_nil_iff]
    intro row inserted
    simpa using other row inserted
  rw [versionsOf, versionsOf, Table.insertNew_rows, List.filter_append, none, List.append_nil]

/-- A row that was not inserted ran into another one. -/
theorem storedAtTime_insertNew {new : List (Version κ)} {row : Version κ} (proposed : row ∈ new) :
    Submit.StoredAtTime (table.insertNew new).2 row := by
  induction new generalizing table with
  | nil => cases proposed
  | cons first new inductionHypothesis =>
    have stays : ∀ (table : Table (Version κ)) (stored : Version κ), stored ∈ table.rows →
        stored ∈ (table.insertNew new).2.rows := by
      intro table stored present
      rw [Table.insertNew_rows]
      exact List.mem_append_left _ present
    unfold Table.insertNew
    cases inserted : table.insert first with
    | none =>
      obtain ⟨stored, present, clashes⟩ := Table.insert_eq_none.mp inserted
      rcases List.mem_cons.mp proposed with rfl | later
      · exact ⟨stored, stays table stored present, clashes⟩
      · exact inductionHypothesis later
    | some table' =>
      rcases List.mem_cons.mp proposed with rfl | later
      · refine ⟨row, stays table' row ?_, rfl⟩
        rw [Table.insert_rows inserted]
        exact List.mem_append_right _ (List.mem_singleton_self row)
      · exact inductionHypothesis later

/-- Rows are inserted where a condition on the versions of their subject holds.  Where it holds
afterwards, it held before. -/
theorem storedAtTime_again {keep : Table (Version κ) → Version κ → Bool}
    (distinct : DistinctBy Version.subjectId input)
    (reads : ∀ table' row, versionsOf table' row.subjectId = versionsOf table row.subjectId →
      keep table' row = keep table row)
    {row : Version κ} (member : row ∈ distinctInput input)
    (kept : keep (table.insertNew ((distinctInput input).filter (keep table))).2 row = true) :
    Submit.StoredAtTime (table.insertNew ((distinctInput input).filter (keep table))).2 row := by
  by_cases before : keep table row = true
  · exact storedAtTime_insertNew (List.mem_filter.mpr ⟨member, before⟩)
  · -- No row of this subject was inserted.
    refine absurd kept ?_
    rw [reads _ row (versionsOf_insertNew fun other inserted same => before ?_)]
    · exact before
    · obtain ⟨isInput, isKept⟩ := List.mem_filter.mp (Table.mem_of_mem_insertNew inserted)
      have sameRow := distinct other (mem_of_mem_distinctInput isInput) row
        (mem_of_mem_distinctInput member) same
      rwa [sameRow] at isKept

theorem latestAt_of_versionsOf {table' : Table (Version κ)} {subjectId : Int} {t : Timestamp}
    (same : versionsOf table' subjectId = versionsOf table subjectId) :
    latestAt table' subjectId t = latestAt table subjectId t := by
  unfold latestAt
  rw [same]

theorem mem_distinctInput_of_distinct {row : Version κ}
    (distinct : DistinctBy Version.subjectId input) (member : row ∈ input) :
    row ∈ distinctInput input :=
  mem_distinctInput member fun other isInput sameSubject _ =>
    distinct other isInput row member sameSubject

variable [VersionColumns κ] {hasParent : Int → Bool} {after : Table (Version κ)}

/-- The rows a call of the snapshot functions proposes. -/
theorem proposed_eq (table : Table (Version κ)) :
    (((distinctInput input).map (classify hasParent table)).filter fun row =>
        row.hasParent && !row.unchanged).map (·.version) =
      (distinctInput input).filter fun row =>
        (classify hasParent table row).hasParent && !(classify hasParent table row).unchanged := by
  rw [List.filter_map, List.map_map]
  exact List.map_id _

theorem appendIfChanged_again (distinct : DistinctBy Version.subjectId input)
    (ran : (appendIfChanged hasParent input table).table = after) :
    (appendIfChanged hasParent input after).inserted = [] ∧
      (appendIfChanged hasParent input after).table = after := by
  have isAfter : (table.insertNew ((distinctInput input).filter fun row =>
      (classify hasParent table row).hasParent &&
        !(classify hasParent table row).unchanged)).2 = after := by
    rw [← proposed_eq]
    exact ran
  have nothing : after.insertNew ((distinctInput input).filter fun row =>
      (classify hasParent after row).hasParent && !(classify hasParent after row).unchanged) =
        ([], after) := by
    apply Table.insertNew_of_clash
    intro row member
    obtain ⟨isInput, kept⟩ := List.mem_filter.mp member
    rw [← isAfter] at kept ⊢
    refine @storedAtTime_again _ _ _ (fun table row => (classify hasParent table row).hasParent &&
      !(classify hasParent table row).unchanged) distinct (fun table' row same => ?_) row isInput
      kept
    simp only [classify, latestAt_of_versionsOf same]
  rw [← proposed_eq] at nothing
  exact ⟨congrArg Prod.fst nothing, congrArg Prod.snd nothing⟩

/-- The status of a row among those of the call. -/
def statusIn (hasParent : Int → Bool) (input : List (Version κ)) (table : Table (Version κ))
    (row : Version κ) : AppendStatus :=
  (classify hasParent table row).status (appendIfChanged hasParent input table).inserted

/-- Of a row that the second call finds unchanged, the first one did, or it inserted it. -/
theorem statusIn_again (distinct : DistinctBy Version.subjectId input)
    (ran : (appendIfChanged hasParent input table).table = after) {row : Version κ}
    (member : row ∈ input)
    (again : statusIn hasParent input after row = .inserted ∨
      statusIn hasParent input after row = .unchanged) :
    statusIn hasParent input table row = .inserted ∨
      statusIn hasParent input table row = .unchanged := by
  have none := (appendIfChanged_again distinct ran).1
  have found : hasParent row.subjectId = true ∧
      (classify hasParent after row).unchanged = true := by
    unfold statusIn ClassifiedVersion.status at again
    rw [none, List.any_nil] at again
    rw [← Bool.not_eq_false, ← Bool.not_eq_false]
    constructor
    · intro noParent
      simp [classify, noParent] at again
    · intro changed
      rw [changed] at again
      split at again <;> simp at again
  unfold statusIn ClassifiedVersion.status
  rw [if_neg (by simp [classify, found.1])]
  split
  next => exact .inl rfl
  next notInserted =>
    -- No row of this subject was inserted, so the two calls compare with the same version.
    have same : versionsOf after row.subjectId = versionsOf table row.subjectId := by
      rw [← ran]
      refine versionsOf_insertNew fun other inserted sameSubject => notInserted ?_
      have isInput : other ∈ input := by
        obtain ⟨classified, kept, rfl⟩ := List.mem_map.mp (Table.mem_of_mem_insertNew inserted)
        obtain ⟨version, isVersion, rfl⟩ := List.mem_map.mp (List.mem_of_mem_filter kept)
        exact mem_of_mem_distinctInput isVersion
      have sameRow := distinct other isInput row member sameSubject
      rw [List.any_eq_true]
      exact ⟨other, inserted, by rw [sameRow]; exact decide_eq_true rfl⟩
    have unchanged : (classify hasParent table row).unchanged = true := by
      rw [← found.2]
      simp only [classify, latestAt_of_versionsOf same]
    rw [if_pos unchanged]
    exact .inr rfl

theorem appendStatsIfChanged_again {interval : Int}
    (distinct : DistinctBy Version.subjectId input)
    (ran : (appendStatsIfChanged interval hasParent input table).2 = after) :
    (appendStatsIfChanged interval hasParent input after).2 = after := by
  have nothing : after.insertNew ((distinctInput input).filter fun row =>
      decide (decideStats interval hasParent after row = .candidate)) = ([], after) := by
    apply Table.insertNew_of_clash
    intro row member
    obtain ⟨isInput, kept⟩ := List.mem_filter.mp member
    rw [← ran] at kept ⊢
    refine @storedAtTime_again _ _ _ (fun table row =>
      decide (decideStats interval hasParent table row = .candidate)) distinct
      (fun table' row same => ?_) row isInput kept
    unfold decideStats
    rw [latestAt_of_versionsOf same]
  exact congrArg Prod.snd nothing

end Versions

/-! ## Media -/

theorem coalesce_again {α : Type} (stored excluded : Option α) :
    coalesce (coalesce stored excluded) excluded = coalesce stored excluded := by
  cases stored <;> cases excluded <;> rfl

theorem fillArray_again {α : Type} (stored excluded : List α) :
    fillArray (fillArray stored excluded) excluded = fillArray stored excluded := by
  unfold fillArray
  by_cases fills : fillableArray stored excluded = true <;> simp [fills]

theorem Media.merge_again (stored excluded : Media) :
    Media.onConflict.merge (Media.onConflict.merge stored excluded) excluded =
      Media.onConflict.merge stored excluded := by
  have set_again : Media.onConflict.set (Media.onConflict.set stored excluded) excluded =
      Media.onConflict.set stored excluded := by
    simp only [Media.onConflict, coalesce_again, fillArray_again]
  unfold OnConflict.merge
  by_cases fires : Media.onConflict.condition stored excluded = true
  · rw [if_pos fires, set_again, ite_self]
  · rw [if_neg fires, if_neg fires]

theorem Media.merge_self (row : Media) : Media.onConflict.merge row row = row := by
  rw [OnConflict.merge, Media.condition_self]
  rfl

theorem upsertMedia_again {records : List MediaPayload}
    {constraints constraints' : Constraints Media} {media after state : Table Media}
    {changed changed' : List Int}
    (first : writeMedia constraints records media = some (changed, after))
    (again : writeMedia constraints' records after = some (changed', state)) : state = after := by
  refine OnConflict.upsert_again_table ?_ Media.merge_self Media.merge_again first again
  rw [List.pairwise_map]
  exact distinctOn_pairwise MediaPayload.id records

/-! ## Relations -/

theorem syncTweetRefs_again {ρ : Type} [RefRow ρ] [DecidableEq ρ] {target target' : RefTarget ρ}
    {tweetExists : Int → Bool} {tweetIds : List Int} {refs : List ρ}
    {table after state : Table ρ} {order order' : CteOrder}
    {statuses statuses' : List (Int × SyncStatus)} (same : target'.accepted = target.accepted)
    (first : syncTweetRefs target tweetExists tweetIds refs table order = .ok (statuses, after))
    (again : syncTweetRefs target' tweetExists tweetIds refs after order' =
      .ok (statuses', state)) : state = after := by
  have leaves := (syncTweetRefs_ok first).2
  have unchanged : ∀ tweetId, tweetId ∉ changedTweets target' tweetExists tweetIds refs after := by
    have sameTweets : changedTweets target' tweetExists tweetIds refs after =
        changedTweets target tweetExists tweetIds refs after := by
      unfold changedTweets inputRefs
      rw [same]
    rw [sameTweets]
    exact Submit.notChanged_after leaves
  have replaced := @Submit.replaceRefs_unchanged _ _ _ _ _ _ _ _ order' unchanged
  simp only [syncTweetRefs, replaced] at again
  cases again
  rfl

end TweetDb.Tweet
