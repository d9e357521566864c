import TweetDb.Relational.Select
import TweetDb.Relational.Table

/-! # Replacing the refs of tweets

The four `tweet.sync_tweet_*_refs` functions are one statement over different
tables.  Its `deleted` and `inserted` parts read the same snapshot; neither is
read by the main query, so either may run first, and the primary key is checked
while the other has not run.
-/

namespace TweetDb.Tweet

open Relational

/-- A row of one of the four ref tables. -/
class RefRow (ρ : Type) where
  tweetId : ρ → Int
  refId : ρ → Int
  /-- Constant where the table has no `display_order`. -/
  displayOrder : ρ → Int
  ext : ∀ {a b : ρ}, tweetId a = tweetId b → refId a = refId b →
    displayOrder a = displayOrder b → a = b

structure MediaRef where
  tweetId : Int
  mediaId : Int
  displayOrder : Int
deriving DecidableEq, Repr

structure MentionRef where
  tweetId : Int
  userId : Int
deriving DecidableEq, Repr

structure HashtagRef where
  tweetId : Int
  hashtagId : Int
deriving DecidableEq, Repr

structure SymbolRef where
  tweetId : Int
  symbolId : Int
deriving DecidableEq, Repr

instance : RefRow MediaRef where
  tweetId := MediaRef.tweetId
  refId := MediaRef.mediaId
  displayOrder := MediaRef.displayOrder
  ext := by
    rintro ⟨⟩ ⟨⟩ tweet ref order
    simp_all

instance : RefRow MentionRef where
  tweetId := MentionRef.tweetId
  refId := MentionRef.userId
  displayOrder _ := 0
  ext := by
    rintro ⟨⟩ ⟨⟩ tweet ref order
    simp_all

instance : RefRow HashtagRef where
  tweetId := HashtagRef.tweetId
  refId := HashtagRef.hashtagId
  displayOrder _ := 0
  ext := by
    rintro ⟨⟩ ⟨⟩ tweet ref order
    simp_all

instance : RefRow SymbolRef where
  tweetId := SymbolRef.tweetId
  refId := SymbolRef.symbolId
  displayOrder _ := 0
  ext := by
    rintro ⟨⟩ ⟨⟩ tweet ref order
    simp_all

variable {ρ : Type} [RefRow ρ]

/-- The primary key `(tweet_id, …_id)` of a ref table. -/
def refKey (ref : ρ) : Int × Int := (RefRow.tweetId ref, RefRow.refId ref)

instance : Row ρ (Int × Int) := Row.ofKey refKey

inductive ConstraintViolation where
  | uniqueViolation
  | foreignKeyViolation
  | checkViolation
deriving DecidableEq, Repr

/-- The data-modifying CTE that runs first. -/
inductive CteOrder where
  | deletedFirst
  | insertedFirst
deriving DecidableEq, Repr

inductive SyncStatus where
  | missingTweet
  | replacedFiltered
  | replaced
  | unchangedFiltered
  | unchanged
deriving DecidableEq, Repr

/-- What sets one of the four functions apart: the refs its join lets through,
and the constraint a ref would violate. -/
structure RefTarget (ρ : Type) where
  accepted : ρ → Bool
  violation : ρ → Option ConstraintViolation

section Statement

variable [DecidableEq ρ] (target : RefTarget ρ) (tweetExists : Int → Bool) (tweetIds : List Int)
  (refs : List ρ) (table : Table ρ)

def existingTweets : List Int := tweetIds.dedup.filter tweetExists

def rawInput : List ρ :=
  distinctOn refKey <| orderBy (fun ref => [RefRow.tweetId ref, RefRow.refId ref,
    RefRow.displayOrder ref]) <|
      refs.filter fun ref => decide (RefRow.tweetId ref ∈ existingTweets tweetExists tweetIds)

def inputRefs : List ρ := (rawInput tweetExists tweetIds refs).filter target.accepted

/-- The `jsonb_agg` of a tweet's refs. -/
def refsOf (rows : List ρ) (tweetId : Int) : List ρ :=
  orderBy (fun ref => [RefRow.displayOrder ref, RefRow.refId ref]) <|
    rows.filter fun ref => decide (RefRow.tweetId ref = tweetId)

def changedTweets : List Int :=
  (existingTweets tweetExists tweetIds).filter fun tweetId =>
    decide (refsOf (inputRefs target tweetExists tweetIds refs) tweetId ≠ refsOf table.rows tweetId)

def insertRef (table : Table ρ) (ref : ρ) : Except ConstraintViolation (Table ρ) :=
  match target.violation ref with
  | some violation => .error violation
  | none =>
    match table.insert ref with
    | none => .error .uniqueViolation
    | some table => .ok table

def syncStatus (tweetId : Int) : SyncStatus :=
  let count (rows : List ρ) := rows.countP fun ref => decide (RefRow.tweetId ref = tweetId)
  let filtered := decide (count (inputRefs target tweetExists tweetIds refs) <
    count (rawInput tweetExists tweetIds refs))
  if tweetId ∉ existingTweets tweetExists tweetIds then .missingTweet
  else if tweetId ∈ changedTweets target tweetExists tweetIds refs table then
    if filtered then .replacedFiltered else .replaced
  else if filtered then .unchangedFiltered
  else .unchanged

def isChanged (ref : ρ) : Bool :=
  decide (RefRow.tweetId ref ∈ changedTweets target tweetExists tweetIds refs table)

def insertedRefs : List ρ :=
  (inputRefs target tweetExists tweetIds refs).filter
    (isChanged target tweetExists tweetIds refs table)

/-- The `deleted` and `inserted` CTEs, both over the snapshot `table`. -/
def replaceRefs (order : CteOrder) : Except ConstraintViolation (Table ρ) :=
  let deleted := isChanged target tweetExists tweetIds refs table
  let inserted := insertedRefs target tweetExists tweetIds refs table
  match order with
  | .deletedFirst => inserted.foldlM (insertRef target) (table.delete deleted)
  | .insertedFirst => do
    let table' ← inserted.foldlM (insertRef target) table
    return table'.delete fun ref => deleted ref && decide (ref ∈ table.rows)

def syncTweetRefs (order : CteOrder) :
    Except ConstraintViolation (List (Int × SyncStatus) × Table ρ) := do
  let table' ← replaceRefs target tweetExists tweetIds refs table order
  return (tweetIds.dedup.map fun tweetId =>
    (tweetId, syncStatus target tweetExists tweetIds refs table tweetId), table')

end Statement

/-! ## The four functions -/

/-- The rows the ref tables refer to. -/
structure RefParents where
  tweet : Int → Bool
  media : Int → Bool
  hashtag : Int → Bool
  symbol : Int → Bool

/-- Refs to missing media are filtered; `display_order` has a check. -/
def mediaTarget (parents : RefParents) : RefTarget MediaRef where
  accepted ref := parents.media ref.mediaId
  violation ref := if ref.displayOrder < 0 then some .checkViolation else none

/-- `tweet_mention_ref.user_id` references no table. -/
def mentionTarget : RefTarget MentionRef where
  accepted _ := true
  violation _ := none

def hashtagTarget (parents : RefParents) : RefTarget HashtagRef where
  accepted _ := true
  violation ref := if parents.hashtag ref.hashtagId then none else some .foreignKeyViolation

def symbolTarget (parents : RefParents) : RefTarget SymbolRef where
  accepted _ := true
  violation ref := if parents.symbol ref.symbolId then none else some .foreignKeyViolation

def syncTweetMediaRefs (parents : RefParents) (order : CteOrder) (tweetIds : List Int)
    (refs : List MediaRef) (table : Table MediaRef) :
    Except ConstraintViolation (List (Int × SyncStatus) × Table MediaRef) :=
  syncTweetRefs (mediaTarget parents) parents.tweet tweetIds refs table order

def syncTweetMentionRefs (parents : RefParents) (order : CteOrder) (tweetIds : List Int)
    (refs : List MentionRef) (table : Table MentionRef) :
    Except ConstraintViolation (List (Int × SyncStatus) × Table MentionRef) :=
  syncTweetRefs mentionTarget parents.tweet tweetIds refs table order

def syncTweetHashtagRefs (parents : RefParents) (order : CteOrder) (tweetIds : List Int)
    (refs : List HashtagRef) (table : Table HashtagRef) :
    Except ConstraintViolation (List (Int × SyncStatus) × Table HashtagRef) :=
  syncTweetRefs (hashtagTarget parents) parents.tweet tweetIds refs table order

def syncTweetSymbolRefs (parents : RefParents) (order : CteOrder) (tweetIds : List Int)
    (refs : List SymbolRef) (table : Table SymbolRef) :
    Except ConstraintViolation (List (Int × SyncStatus) × Table SymbolRef) :=
  syncTweetRefs (symbolTarget parents) parents.tweet tweetIds refs table order

/-! ## What a sync asks for -/

/-- Of the requested refs with one key, the one with the lowest `display_order`. -/
def Wanted (target : RefTarget ρ) (refs : List ρ) (ref : ρ) : Prop :=
  ref ∈ refs ∧ target.accepted ref = true ∧
    ∀ other ∈ refs, refKey other = refKey ref →
      RefRow.displayOrder ref ≤ RefRow.displayOrder other

section Spec

variable {target : RefTarget ρ} {tweetExists : Int → Bool} {tweetIds : List Int}
  {refs : List ρ} {table table' : Table ρ}

theorem refKey_eq_iff {a b : ρ} :
    refKey a = refKey b ↔ RefRow.tweetId a = RefRow.tweetId b ∧ RefRow.refId a = RefRow.refId b := by
  simp [refKey]

theorem mem_existingTweets {tweetId : Int} :
    tweetId ∈ existingTweets tweetExists tweetIds ↔
      tweetId ∈ tweetIds ∧ tweetExists tweetId = true := by
  simp [existingTweets]

theorem mem_rawInput {ref : ρ} :
    ref ∈ rawInput tweetExists tweetIds refs ↔
      (ref ∈ refs ∧ RefRow.tweetId ref ∈ existingTweets tweetExists tweetIds) ∧
        ∀ other ∈ refs, refKey other = refKey ref →
          RefRow.displayOrder ref ≤ RefRow.displayOrder other := by
  have columns : ∀ a b : ρ, refKey a = refKey b →
      (columnsLe [RefRow.tweetId a, RefRow.refId a, RefRow.displayOrder a]
        [RefRow.tweetId b, RefRow.refId b, RefRow.displayOrder b] = true ↔
        RefRow.displayOrder a ≤ RefRow.displayOrder b) := by
    intro a b same
    obtain ⟨tweet, id⟩ := refKey_eq_iff.mp same
    simp only [tweet, id, columnsLe, decide_true, Bool.and_true, Bool.true_and, Bool.or_eq_true,
      decide_eq_true_eq]
    omega
  rw [rawInput, mem_distinctOn_iff (orderBy_sorted _ _) _ fun a => columnsLe_refl _]
  · simp only [mem_orderBy, List.mem_filter, decide_eq_true_eq]
    constructor
    · rintro ⟨present, least⟩
      refine ⟨present, fun other member same => ?_⟩
      rw [← columns ref other same.symm]
      refine least other ⟨member, ?_⟩ same
      rw [(refKey_eq_iff.mp same).1]
      exact present.2
    · rintro ⟨present, least⟩
      refine ⟨present, fun other member same => ?_⟩
      rw [columns ref other same.symm]
      exact least other member.1 same
  · intro a b same below above
    rw [columns a b same] at below
    rw [columns b a same.symm] at above
    obtain ⟨tweet, id⟩ := refKey_eq_iff.mp same
    exact RefRow.ext tweet id (le_antisymm below above)

theorem mem_inputRefs {ref : ρ} :
    ref ∈ inputRefs target tweetExists tweetIds refs ↔
      RefRow.tweetId ref ∈ existingTweets tweetExists tweetIds ∧ Wanted target refs ref := by
  rw [inputRefs, List.mem_filter, mem_rawInput, Wanted]
  tauto

theorem inputRefs_pairwise :
    (inputRefs target tweetExists tweetIds refs).Pairwise fun a b => refKey a ≠ refKey b :=
  (distinctOn_pairwise _ _).filter _

/-! ## Inserting and deleting -/

/-- No constraint but the primary key can fail. -/
def Valid (target : RefTarget ρ) (refs : List ρ) : Prop :=
  ∀ ref ∈ refs, target.violation ref = none

theorem insertRef_ok {ref : ρ} (inserted : insertRef target table ref = .ok table') :
    table'.rows = table.rows ++ [ref] ∧ ∀ stored ∈ table.rows, refKey stored ≠ refKey ref := by
  unfold insertRef at inserted
  split at inserted
  next => cases inserted
  next =>
    split at inserted
    next => cases inserted
    next table'' result =>
      cases inserted
      refine ⟨Table.insert_rows result, fun stored present same => ?_⟩
      rw [Table.insert_eq_none.mpr ⟨stored, present, same⟩] at result
      cases result

theorem insertRefs_ok {rows : List ρ}
    (inserted : rows.foldlM (insertRef target) table = .ok table') :
    table'.rows = table.rows ++ rows ∧
      ∀ stored ∈ table.rows, ∀ ref ∈ rows, refKey stored ≠ refKey ref := by
  induction rows generalizing table with
  | nil =>
    cases inserted
    simp
  | cons ref rows inductionHypothesis =>
    rw [List.foldlM_cons] at inserted
    cases first : insertRef target table ref with
    | error violation =>
      rw [first] at inserted
      cases inserted
    | ok middle =>
      rw [first] at inserted
      obtain ⟨middleRows, free⟩ := insertRef_ok first
      obtain ⟨finalRows, freeLater⟩ := inductionHypothesis inserted
      refine ⟨by simp [finalRows, middleRows], fun stored present other member => ?_⟩
      rcases List.mem_cons.mp member with rfl | later
      · exact free stored present
      · exact freeLater stored (by simp [middleRows, present]) other later

/-- Refs with distinct keys, none of them stored, can be inserted. -/
theorem insertRefs_succeeds {rows : List ρ} (valid : Valid target rows)
    (distinct : rows.Pairwise fun a b => refKey a ≠ refKey b)
    (free : ∀ stored ∈ table.rows, ∀ ref ∈ rows, refKey stored ≠ refKey ref) :
    ∃ table', rows.foldlM (insertRef target) table = .ok table' := by
  induction rows generalizing table with
  | nil => exact ⟨table, rfl⟩
  | cons ref rows inductionHypothesis =>
    rw [List.pairwise_cons] at distinct
    have noClash : ¬ ∃ stored ∈ table.rows, Row.clash stored ref := by
      rintro ⟨stored, present, same⟩
      exact free stored present ref List.mem_cons_self same
    obtain ⟨middle, result⟩ := Option.ne_none_iff_exists'.mp (mt Table.insert_eq_none.mp noClash)
    have first : insertRef target table ref = .ok middle := by
      simp only [insertRef, valid ref List.mem_cons_self, result]
    rw [List.foldlM_cons, first]
    refine inductionHypothesis (fun other member => valid other (List.mem_cons_of_mem _ member))
      distinct.2 fun stored present other member => ?_
    rw [(insertRef_ok first).1, List.mem_append, List.mem_singleton] at present
    rcases present with present | rfl
    · exact free stored present other (List.mem_cons_of_mem _ member)
    · exact distinct.1 other member

/-- The refs of every tweet the sync is for are the wanted ones; no other ref
has been touched. -/
def LeavesWanted (target : RefTarget ρ) (tweetExists : Int → Bool) (tweetIds : List Int)
    (refs : List ρ) (table table' : Table ρ) : Prop :=
  ∀ ref, ref ∈ table'.rows ↔
    if RefRow.tweetId ref ∈ tweetIds ∧ tweetExists (RefRow.tweetId ref) = true
    then Wanted target refs ref else ref ∈ table.rows

/-- A tweet whose refs change keeps none of them: no id is referenced both
before and after. -/
def ChangesEveryRef (target : RefTarget ρ) (refs : List ρ) (table : Table ρ) (tweetId : Int) :
    Prop :=
  (∀ ref, RefRow.tweetId ref = tweetId → (Wanted target refs ref ↔ ref ∈ table.rows)) ∨
    ∀ stored ∈ table.rows, ∀ ref, RefRow.tweetId stored = tweetId → Wanted target refs ref →
      refKey stored ≠ refKey ref

/-- The call completes and leaves exactly the wanted refs. -/
def Replaces (target : RefTarget ρ) (tweetExists : Int → Bool) (tweetIds : List Int)
    (refs : List ρ) (table : Table ρ)
    (result : Except ConstraintViolation (List (Int × SyncStatus) × Table ρ)) : Prop :=
  ∃ statuses table', result = .ok (statuses, table') ∧
    LeavesWanted target tweetExists tweetIds refs table table'

/-! ## Which tweets change -/

variable [DecidableEq ρ]

/-- The two aggregates of a tweet differ exactly if its refs do. -/
theorem mem_changedTweets {tweetId : Int} :
    tweetId ∈ changedTweets target tweetExists tweetIds refs table ↔
      tweetId ∈ existingTweets tweetExists tweetIds ∧
        ¬ ∀ ref, RefRow.tweetId ref = tweetId → (Wanted target refs ref ↔ ref ∈ table.rows) := by
  rw [changedTweets, List.mem_filter, decide_eq_true_eq, refsOf, refsOf, ne_eq, orderBy_eq_iff]
  · refine and_congr_right fun exists' => not_congr ?_
    simp only [List.mem_filter, mem_inputRefs, decide_eq_true_eq]
    refine forall_congr' fun ref => ⟨fun same isTweet => ?_, fun same => ?_⟩
    · subst isTweet
      simpa [exists'] using same
    · constructor
      · rintro ⟨⟨_, wanted⟩, isTweet⟩
        exact ⟨(same isTweet).mp wanted, isTweet⟩
      · rintro ⟨stored, isTweet⟩
        exact ⟨⟨isTweet ▸ exists', (same isTweet).mpr stored⟩, isTweet⟩
  · intro a inInput b inTable same
    have tweetA : RefRow.tweetId a = tweetId := by simpa using (List.mem_filter.mp inInput).2
    have tweetB : RefRow.tweetId b = tweetId := by simpa using (List.mem_filter.mp inTable).2
    simp only [List.cons.injEq, and_true] at same
    exact RefRow.ext (tweetA.trans tweetB.symm) same.2 same.1
  · refine List.Nodup.filter _ (inputRefs_pairwise.imp fun different same => different ?_)
    rw [same]
  · refine List.Nodup.filter _ (table.unique.imp fun different same => different ?_)
    exact congrArg refKey same

theorem mem_insertedRefs {ref : ρ} :
    ref ∈ insertedRefs target tweetExists tweetIds refs table ↔
      RefRow.tweetId ref ∈ changedTweets target tweetExists tweetIds refs table ∧
        Wanted target refs ref := by
  rw [insertedRefs, List.mem_filter, mem_inputRefs, isChanged, decide_eq_true_eq]
  constructor
  · rintro ⟨⟨_, wanted⟩, changed⟩
    exact ⟨changed, wanted⟩
  · rintro ⟨changed, wanted⟩
    exact ⟨⟨(mem_changedTweets.mp changed).1, wanted⟩, changed⟩

/-- Where the changed tweets got the wanted refs and the others kept theirs,
every tweet has the wanted refs. -/
theorem leavesWanted_of_mem
    (member : ∀ ref, ref ∈ table'.rows ↔
      (ref ∈ table.rows ∧
        RefRow.tweetId ref ∉ changedTweets target tweetExists tweetIds refs table) ∨
      (RefRow.tweetId ref ∈ changedTweets target tweetExists tweetIds refs table ∧
        Wanted target refs ref)) :
    LeavesWanted target tweetExists tweetIds refs table table' := by
  intro ref
  rw [member]
  by_cases changed : RefRow.tweetId ref ∈ changedTweets target tweetExists tweetIds refs table
  · have exists' := mem_existingTweets.mp (mem_changedTweets.mp changed).1
    simp [changed, exists']
  · by_cases exists' : RefRow.tweetId ref ∈ tweetIds ∧ tweetExists (RefRow.tweetId ref) = true
    · have same : ∀ other, RefRow.tweetId other = RefRow.tweetId ref →
          (Wanted target refs other ↔ other ∈ table.rows) := by
        by_contra different
        exact changed (mem_changedTweets.mpr ⟨mem_existingTweets.mpr exists', different⟩)
      simp [changed, exists', same ref rfl]
    · rw [if_neg exists']
      simp [changed]

theorem replaceRefs_deletedFirst
    (replaced : replaceRefs target tweetExists tweetIds refs table .deletedFirst = .ok table') :
    LeavesWanted target tweetExists tweetIds refs table table' := by
  obtain ⟨rows, _⟩ := insertRefs_ok replaced
  refine leavesWanted_of_mem fun ref => ?_
  rw [rows, List.mem_append, mem_insertedRefs, Table.mem_delete, isChanged,
    decide_eq_false_iff_not]

theorem replaceRefs_insertedFirst
    (replaced : replaceRefs target tweetExists tweetIds refs table .insertedFirst = .ok table') :
    LeavesWanted target tweetExists tweetIds refs table table' ∧
      ∀ tweetId ∈ tweetIds, tweetExists tweetId = true →
        ChangesEveryRef target refs table tweetId := by
  simp only [replaceRefs] at replaced
  cases result : (insertedRefs target tweetExists tweetIds refs table).foldlM
      (insertRef target) table with
  | error violation =>
    rw [result] at replaced
    cases replaced
  | ok middle =>
    rw [result] at replaced
    cases replaced
    obtain ⟨rows, free⟩ := insertRefs_ok result
    constructor
    · refine leavesWanted_of_mem fun ref => ?_
      rw [Table.mem_delete, rows, List.mem_append, mem_insertedRefs]
      simp only [isChanged, Bool.and_eq_false_iff, decide_eq_false_iff_not]
      have notBoth : RefRow.tweetId ref ∈ changedTweets target tweetExists tweetIds refs table →
          Wanted target refs ref → ref ∉ table.rows := fun changed wanted stored =>
        free ref stored ref (mem_insertedRefs.mpr ⟨changed, wanted⟩) rfl
      tauto
    · intro tweetId isTarget exists'
      by_cases changed : tweetId ∈ changedTweets target tweetExists tweetIds refs table
      · right
        intro stored present ref isTweet wanted same
        have sameTweet : RefRow.tweetId ref = tweetId := by
          rw [← (refKey_eq_iff.mp same).1, isTweet]
        exact free stored present ref (mem_insertedRefs.mpr ⟨sameTweet ▸ changed, wanted⟩) same
      · left
        by_contra different
        exact changed (mem_changedTweets.mpr ⟨mem_existingTweets.mpr ⟨isTarget, exists'⟩, different⟩)

/-- The answer of a sync that completes, and what it leaves whichever part ran first. -/
theorem syncTweetRefs_ok {order : CteOrder} {statuses : List (Int × SyncStatus)}
    (synced : syncTweetRefs target tweetExists tweetIds refs table order = .ok (statuses, table')) :
    statuses = (tweetIds.dedup.map fun tweetId =>
        (tweetId, syncStatus target tweetExists tweetIds refs table tweetId)) ∧
      LeavesWanted target tweetExists tweetIds refs table table' := by
  cases replaced : replaceRefs target tweetExists tweetIds refs table order with
  | error violation =>
    simp only [syncTweetRefs, replaced] at synced
    cases synced
  | ok after =>
    simp only [syncTweetRefs, replaced] at synced
    cases synced
    refine ⟨rfl, ?_⟩
    cases order with
    | deletedFirst => exact replaceRefs_deletedFirst replaced
    | insertedFirst => exact (replaceRefs_insertedFirst replaced).1

theorem insertedRefs_pairwise :
    (insertedRefs target tweetExists tweetIds refs table).Pairwise
      fun a b => refKey a ≠ refKey b :=
  inputRefs_pairwise.filter _

theorem replaceRefs_succeeds (valid : Valid target refs) {order : CteOrder}
    (allowed : order = .deletedFirst ∨ ∀ tweetId ∈ tweetIds, tweetExists tweetId = true →
      ChangesEveryRef target refs table tweetId) :
    ∃ table', replaceRefs target tweetExists tweetIds refs table order = .ok table' := by
  have validInserted : Valid target (insertedRefs target tweetExists tweetIds refs table) :=
    fun ref member => valid ref (mem_insertedRefs.mp member).2.1
  cases order with
  | deletedFirst =>
    refine insertRefs_succeeds validInserted insertedRefs_pairwise ?_
    -- whatever has the tweet of an inserted ref has just been deleted
    intro stored present ref member same
    rw [Table.mem_delete, isChanged, decide_eq_false_iff_not, (refKey_eq_iff.mp same).1] at present
    exact present.2 (mem_insertedRefs.mp member).1
  | insertedFirst =>
    have changesEvery := allowed.resolve_left CteOrder.noConfusion
    have free : ∀ stored ∈ table.rows,
        ∀ ref ∈ insertedRefs target tweetExists tweetIds refs table,
          refKey stored ≠ refKey ref := by
      intro stored present ref member same
      obtain ⟨changed, wanted⟩ := mem_insertedRefs.mp member
      obtain ⟨isTarget, different⟩ := mem_changedTweets.mp changed
      obtain ⟨named, exists'⟩ := mem_existingTweets.mp isTarget
      rcases changesEvery _ named exists' with unchanged | disjoint
      · exact different unchanged
      · exact disjoint stored present ref (refKey_eq_iff.mp same).1 wanted same
    obtain ⟨middle, result⟩ := insertRefs_succeeds validInserted insertedRefs_pairwise free
    exact ⟨_, by simp only [replaceRefs, result]; rfl⟩

theorem syncTweetRefs_replaces_iff (valid : Valid target refs) {order : CteOrder} :
    Replaces target tweetExists tweetIds refs table
        (syncTweetRefs target tweetExists tweetIds refs table order) ↔
      order = .deletedFirst ∨ ∀ tweetId ∈ tweetIds, tweetExists tweetId = true →
        ChangesEveryRef target refs table tweetId := by
  constructor
  · rintro ⟨statuses, table', result, _⟩
    cases order with
    | deletedFirst => exact .inl rfl
    | insertedFirst =>
      right
      cases replaced : replaceRefs target tweetExists tweetIds refs table .insertedFirst with
      | error violation =>
        simp only [syncTweetRefs, replaced] at result
        cases result
      | ok table'' => exact (replaceRefs_insertedFirst replaced).2
  · intro allowed
    obtain ⟨table', replaced⟩ := replaceRefs_succeeds valid allowed
    refine ⟨_, table', by simp only [syncTweetRefs, replaced]; rfl, ?_⟩
    cases order with
    | deletedFirst => exact replaceRefs_deletedFirst replaced
    | insertedFirst => exact (replaceRefs_insertedFirst replaced).1

end Spec

/-- Each of the four functions completes with exactly the wanted refs if and
only if the deletion runs first or no tweet whose refs change keeps one of them. -/
theorem relation_sync_completes_iff (parents : RefParents) (order : CteOrder)
    (tweetIds : List Int) :
    (∀ (refs : List MediaRef) (table : Table MediaRef), (∀ ref ∈ refs, 0 ≤ ref.displayOrder) →
      (Replaces (mediaTarget parents) parents.tweet tweetIds refs table
          (syncTweetMediaRefs parents order tweetIds refs table) ↔
        order = .deletedFirst ∨ ∀ tweetId ∈ tweetIds, parents.tweet tweetId = true →
          ChangesEveryRef (mediaTarget parents) refs table tweetId)) ∧
    (∀ (refs : List MentionRef) (table : Table MentionRef),
      Replaces mentionTarget parents.tweet tweetIds refs table
          (syncTweetMentionRefs parents order tweetIds refs table) ↔
        order = .deletedFirst ∨ ∀ tweetId ∈ tweetIds, parents.tweet tweetId = true →
          ChangesEveryRef mentionTarget refs table tweetId) ∧
    (∀ (refs : List HashtagRef) (table : Table HashtagRef),
      (∀ ref ∈ refs, parents.hashtag ref.hashtagId = true) →
      (Replaces (hashtagTarget parents) parents.tweet tweetIds refs table
          (syncTweetHashtagRefs parents order tweetIds refs table) ↔
        order = .deletedFirst ∨ ∀ tweetId ∈ tweetIds, parents.tweet tweetId = true →
          ChangesEveryRef (hashtagTarget parents) refs table tweetId)) ∧
    ∀ (refs : List SymbolRef) (table : Table SymbolRef),
      (∀ ref ∈ refs, parents.symbol ref.symbolId = true) →
      (Replaces (symbolTarget parents) parents.tweet tweetIds refs table
          (syncTweetSymbolRefs parents order tweetIds refs table) ↔
        order = .deletedFirst ∨ ∀ tweetId ∈ tweetIds, parents.tweet tweetId = true →
          ChangesEveryRef (symbolTarget parents) refs table tweetId) := by
  refine ⟨?_, ?_, ?_, ?_⟩
  · intro refs table valid
    refine syncTweetRefs_replaces_iff fun ref member => ?_
    have nonnegative := valid ref member
    simp [mediaTarget, nonnegative]
  · intro refs table
    exact syncTweetRefs_replaces_iff fun ref member => rfl
  · intro refs table valid
    refine syncTweetRefs_replaces_iff fun ref member => ?_
    simp [hashtagTarget, valid ref member]
  · intro refs table valid
    refine syncTweetRefs_replaces_iff fun ref member => ?_
    simp [symbolTarget, valid ref member]

def allParents : RefParents := ⟨fun _ => true, fun _ => true, fun _ => true, fun _ => true⟩

theorem relation_sync_completes_disjoint :
    Replaces (hashtagTarget allParents) allParents.tweet [1] [⟨1, 20⟩]
      ⟨[⟨1, 10⟩], List.pairwise_singleton _ _⟩
      (syncTweetHashtagRefs allParents .insertedFirst [1] [⟨1, 20⟩]
        ⟨[⟨1, 10⟩], List.pairwise_singleton _ _⟩) := by
  refine ((relation_sync_completes_iff allParents .insertedFirst [1]).2.2.1 [⟨1, 20⟩]
    ⟨[⟨1, 10⟩], List.pairwise_singleton _ _⟩ fun _ _ => rfl).mpr (.inr fun tweetId _ _ => .inr ?_)
  intro stored present ref _ wanted
  rw [List.mem_singleton.mp present, List.mem_singleton.mp wanted.1]
  decide

/-- Mention 10 stays, mention 20 is new; inserted first, 10 is already there. -/
theorem relation_sync_fails_on_overlap :
    let table : Table MentionRef := ⟨[⟨1, 10⟩], List.pairwise_singleton _ _⟩
    let result := syncTweetMentionRefs allParents .insertedFirst [1] [⟨1, 10⟩, ⟨1, 20⟩] table
    result = .error .uniqueViolation ∧
      ¬ Replaces mentionTarget allParents.tweet [1] [⟨1, 10⟩, ⟨1, 20⟩] table result := by
  refine ⟨rfl, ?_⟩
  rintro ⟨statuses, table', result, _⟩
  cases result

end TweetDb.Tweet
