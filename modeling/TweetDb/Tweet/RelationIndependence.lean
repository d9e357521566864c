import TweetDb.Relational.Agree
import TweetDb.Tweet.RelationSync

/-! # Refs of different tweets

What a sync does to the refs of a tweet, and the status it answers, depends on
the requested and the stored refs of that tweet.
-/

namespace TweetDb.Tweet

open Relational

variable {ρ : Type} [RefRow ρ] {scope : Int → Prop} {target target' : RefTarget ρ}
  {tweetExists tweetExists' : Int → Bool} {tweetIds tweetIds' : List Int} {refs refs' : List ρ}
  {table table' : Table ρ}

/-- Two syncs that ask for the same inside the scope. -/
structure SyncsAlike (scope : Int → Prop) (target target' : RefTarget ρ)
    (tweetExists tweetExists' : Int → Bool) (tweetIds tweetIds' : List Int) (refs refs' : List ρ) :
    Prop where
  sameTweets : ∀ tweetId, scope tweetId → (tweetId ∈ tweetIds ↔ tweetId ∈ tweetIds')
  sameExist : ∀ tweetId, scope tweetId → tweetExists tweetId = tweetExists' tweetId
  sameRefs : AgreeOn (fun ref : ρ => scope (RefRow.tweetId ref)) refs refs'
  sameAccepted : ∀ ref ∈ refs, scope (RefRow.tweetId ref) → target.accepted ref = target'.accepted ref

namespace SyncsAlike

variable (alike : SyncsAlike scope target target' tweetExists tweetExists' tweetIds tweetIds' refs
  refs')

include alike

theorem symm :
    SyncsAlike scope target' target tweetExists' tweetExists tweetIds' tweetIds refs' refs where
  sameTweets tweetId inside := (alike.sameTweets tweetId inside).symm
  sameExist tweetId inside := (alike.sameExist tweetId inside).symm
  sameRefs := alike.sameRefs.symm
  sameAccepted ref member inside :=
    (alike.sameAccepted ref ((alike.sameRefs ref inside).mpr member) inside).symm

theorem existing {tweetId : Int} (inside : scope tweetId) :
    tweetId ∈ existingTweets tweetExists tweetIds ↔
      tweetId ∈ existingTweets tweetExists' tweetIds' := by
  rw [mem_existingTweets, mem_existingTweets, alike.sameTweets _ inside, alike.sameExist _ inside]

/-- Refs with one key are refs of one tweet. -/
theorem least_of {ref : ρ} (inside : scope (RefRow.tweetId ref))
    (least : ∀ other ∈ refs, refKey other = refKey ref →
      RefRow.displayOrder ref ≤ RefRow.displayOrder other) :
    ∀ other ∈ refs', refKey other = refKey ref →
      RefRow.displayOrder ref ≤ RefRow.displayOrder other := by
  intro other member same
  have otherInside : scope (RefRow.tweetId other) := by
    rw [(refKey_eq_iff.mp same).1]
    exact inside
  exact least other ((alike.sameRefs other otherInside).mpr member) same

theorem wanted {ref : ρ} (inside : scope (RefRow.tweetId ref)) :
    Wanted target refs ref ↔ Wanted target' refs' ref := by
  constructor
  · intro ⟨member, accepted, least⟩
    rw [alike.sameAccepted ref member inside] at accepted
    exact ⟨(alike.sameRefs ref inside).mp member, accepted, alike.least_of inside least⟩
  · intro ⟨member, accepted, least⟩
    rw [alike.symm.sameAccepted ref member inside] at accepted
    exact ⟨(alike.sameRefs ref inside).mpr member, accepted, alike.symm.least_of inside least⟩

theorem rawInput :
    AgreeOn (fun ref : ρ => scope (RefRow.tweetId ref)) (rawInput tweetExists tweetIds refs)
      (Tweet.rawInput tweetExists' tweetIds' refs') := by
  intro ref inside
  rw [mem_rawInput, mem_rawInput, alike.existing inside, alike.sameRefs ref inside]
  apply and_congr_right
  intro _
  exact ⟨alike.least_of inside, alike.symm.least_of inside⟩

theorem inputRefs :
    AgreeOn (fun ref : ρ => scope (RefRow.tweetId ref))
      (inputRefs target tweetExists tweetIds refs)
      (Tweet.inputRefs target' tweetExists' tweetIds' refs') := by
  intro ref inside
  rw [mem_inputRefs, mem_inputRefs, alike.existing inside, alike.wanted inside]

variable [DecidableEq ρ]

theorem changed
    (agree : AgreeOn (fun ref : ρ => scope (RefRow.tweetId ref)) table.rows table'.rows)
    {tweetId : Int} (inside : scope tweetId) :
    tweetId ∈ changedTweets target tweetExists tweetIds refs table ↔
      tweetId ∈ changedTweets target' tweetExists' tweetIds' refs' table' := by
  rw [mem_changedTweets, mem_changedTweets, alike.existing inside]
  apply and_congr_right
  intro _
  apply not_congr
  apply forall_congr'
  intro ref
  apply imp_congr_right
  intro isTweet
  subst isTweet
  rw [alike.wanted inside, agree ref inside]

theorem status
    (agree : AgreeOn (fun ref : ρ => scope (RefRow.tweetId ref)) table.rows table'.rows)
    {tweetId : Int} (inside : scope tweetId) :
    syncStatus target tweetExists tweetIds refs table tweetId =
      syncStatus target' tweetExists' tweetIds' refs' table' tweetId := by
  have nodup : ∀ {rows : List ρ}, (rows.Pairwise fun a b => refKey a ≠ refKey b) → rows.Nodup :=
    fun apart => apart.imp fun different same => different (congrArg refKey same)
  have ofTweet : ∀ ref : ρ, decide (RefRow.tweetId ref = tweetId) = true →
      scope (RefRow.tweetId ref) := by
    intro ref isTweet
    rw [of_decide_eq_true isTweet]
    exact inside
  have sameInput := alike.inputRefs.countP_eq (nodup inputRefs_pairwise) (nodup inputRefs_pairwise)
    ofTweet
  have sameRaw := alike.rawInput.countP_eq (nodup (distinctOn_pairwise _ _))
    (nodup (distinctOn_pairwise _ _)) ofTweet
  simp only [syncStatus, sameInput, sameRaw, alike.existing inside, alike.changed agree inside]

end SyncsAlike

/-- Two syncs that ask for the same inside the scope do the same inside it. -/
theorem syncTweetRefs_agreeOn [DecidableEq ρ] {order : CteOrder} {after after' : Table ρ}
    {statuses statuses' : List (Int × SyncStatus)}
    (alike : SyncsAlike scope target target' tweetExists tweetExists' tweetIds tweetIds' refs refs')
    (agree : AgreeOn (fun ref : ρ => scope (RefRow.tweetId ref)) table.rows table'.rows)
    (synced : syncTweetRefs target tweetExists tweetIds refs table order = .ok (statuses, after))
    (synced' : syncTweetRefs target' tweetExists' tweetIds' refs' table' order =
      .ok (statuses', after')) :
    AgreeOn (fun ref : ρ => scope (RefRow.tweetId ref)) after.rows after'.rows ∧
      ∀ tweetId, scope tweetId → tweetId ∈ tweetIds →
        ∃ status, statuses.lookup tweetId = some status ∧ statuses'.lookup tweetId = some status := by
  obtain ⟨rfl, leaves⟩ := syncTweetRefs_ok synced
  obtain ⟨rfl, leaves'⟩ := syncTweetRefs_ok synced'
  constructor
  · intro ref inside
    rw [leaves ref, leaves' ref]
    simp only [alike.sameTweets _ inside, alike.sameExist _ inside, alike.wanted inside,
      agree ref inside]
  · intro tweetId inside named
    have distinct : ∀ ids : List Int, DistinctBy id ids := fun ids a _ b _ same => same
    refine ⟨syncStatus target tweetExists tweetIds refs table tweetId, ?_, ?_⟩
    · exact DistinctBy.lookup_answers (syncStatus target tweetExists tweetIds refs table)
        (distinct _) (List.mem_dedup.mpr named)
    · rw [alike.status agree inside]
      exact DistinctBy.lookup_answers (syncStatus target' tweetExists' tweetIds' refs' table')
        (distinct _) (List.mem_dedup.mpr ((alike.sameTweets _ inside).mp named))

end TweetDb.Tweet
