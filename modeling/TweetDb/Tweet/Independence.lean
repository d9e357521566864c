import TweetDb.Search.Targets
import TweetDb.Tweet.Fill
import TweetDb.Tweet.Stats
import TweetDb.Tweet.VersionHistory

/-! # Rows of different subjects

Each write function decides the rows of a subject by the stored rows of that
subject and the submitted ones.  Two calls that agree on a set of subjects leave
tables that agree on it, and answer alike for it.
-/

namespace TweetDb.Tweet

open Relational Versions

variable {scope : Int → Prop}

/-! ## Version tables -/

section Versions

variable {κ : Type} {table table' : Table (Version κ)} {input input' : List (Version κ)}
  {row : Version κ}

/-- The key of a version, which a call should give only once. -/
def versionKey (row : Version κ) : Int × Timestamp := (row.subjectId, row.recordedAt)

theorem mem_distinctInput_iff (distinct : DistinctBy versionKey input) :
    row ∈ distinctInput input ↔ row ∈ input := by
  rw [distinctInput, mem_distinctOn_of_injective, mem_orderBy]
  intro a inA b inB same
  exact distinct a (mem_orderBy.mp inA) b (mem_orderBy.mp inB) same

theorem latestAt_congr
    (agree : AgreeOn (fun row : Version κ => scope row.subjectId) table.rows table'.rows)
    {subjectId : Int} (inside : scope subjectId) (t : Timestamp) :
    latestAt table subjectId t = latestAt table' subjectId t := by
  unfold latestAt atOrBefore
  apply newest_congr (versionsOf_apart table' subjectId)
  intro row
  rw [mem_versionsOf, mem_versionsOf]
  constructor
  · intro ⟨present, same⟩
    subst same
    exact ⟨(agree row inside).mp present, rfl⟩
  · intro ⟨present, same⟩
    subst same
    exact ⟨(agree row inside).mpr present, rfl⟩

theorem distinctInput_agreeOn
    (agree : AgreeOn (fun row : Version κ => scope row.subjectId) input input')
    (distinct : DistinctBy versionKey input) (distinct' : DistinctBy versionKey input') :
    AgreeOn (fun row => scope row.subjectId) (distinctInput input) (distinctInput input') := by
  intro row inside
  rw [mem_distinctInput_iff distinct, mem_distinctInput_iff distinct', agree row inside]

/-- Rows that clash are of one subject. -/
theorem scope_of_clash (a b : Version κ) (inside : scope b.subjectId) (clashes : Row.clash a b) :
    scope a.subjectId := by
  rw [Version.clash_iff] at clashes
  rw [clashes.1]
  exact inside

theorem any_clash_congr {inserted inserted' : List (Version κ)}
    (agree : AgreeOn (fun row : Version κ => scope row.subjectId) inserted inserted')
    (inside : scope row.subjectId) :
    (inserted.any fun new => decide (Row.clash new row)) =
      inserted'.any fun new => decide (Row.clash new row) := by
  rw [Bool.eq_iff_iff]
  simp only [List.any_eq_true, decide_eq_true_eq]
  constructor
  · intro ⟨new, member, clashes⟩
    exact ⟨new, (agree new (scope_of_clash new row inside clashes)).mp member, clashes⟩
  · intro ⟨new, member, clashes⟩
    exact ⟨new, (agree new (scope_of_clash new row inside clashes)).mpr member, clashes⟩

variable [VersionColumns κ] {hasParent hasParent' : Int → Bool}

/-- What a call answers for a submitted version. -/
def appendStatus (hasParent : Int → Bool) (input : List (Version κ)) (table : Table (Version κ))
    (row : Version κ) : AppendStatus :=
  (classify hasParent table row).status (appendIfChanged hasParent input table).inserted

theorem appendIfChanged_statuses :
    (appendIfChanged hasParent input table).statuses = (distinctInput input).map fun row =>
      (row.subjectId, row.recordedAt, appendStatus hasParent input table row) := by
  simp only [appendIfChanged, List.map_map]
  rfl

theorem appendIfChanged_agreeOn
    (agreeInput : AgreeOn (fun row : Version κ => scope row.subjectId) input input')
    (distinct : DistinctBy versionKey input) (distinct' : DistinctBy versionKey input')
    (parents : ∀ subjectId, scope subjectId → hasParent subjectId = hasParent' subjectId)
    (agree : AgreeOn (fun row : Version κ => scope row.subjectId) table.rows table'.rows) :
    AgreeOn (fun row => scope row.subjectId) (appendIfChanged hasParent input table).inserted
        (appendIfChanged hasParent' input' table').inserted ∧
      AgreeOn (fun row => scope row.subjectId) (appendIfChanged hasParent input table).table.rows
        (appendIfChanged hasParent' input' table').table.rows ∧
      ∀ row : Version κ, scope row.subjectId →
        appendStatus hasParent input table row = appendStatus hasParent' input' table' row := by
  have inserted : AgreeOn (fun row => scope row.subjectId)
      (appendIfChanged hasParent input table).inserted
      (appendIfChanged hasParent' input' table').inserted := by
    intro row inside
    have free : (∀ stored ∈ table.rows, ¬ Row.clash stored row) ↔
        ∀ stored ∈ table'.rows, ¬ Row.clash stored row := by
      constructor
      · intro free stored present clashes
        exact free stored ((agree stored (scope_of_clash _ _ inside clashes)).mpr present) clashes
      · intro free stored present clashes
        exact free stored ((agree stored (scope_of_clash _ _ inside clashes)).mp present) clashes
    have repeated : Repeats Version.recordedAt Version.content (versionsOf table row.subjectId) row ↔
        Repeats Version.recordedAt Version.content (versionsOf table' row.subjectId) row := by
      have same := latestAt_congr agree inside row.recordedAt
      unfold latestAt at same
      rw [Repeats, Repeats, same]
    rw [mem_inserted, mem_inserted, distinctInput_agreeOn agreeInput distinct distinct' row inside,
      parents _ inside, repeated, free]
  refine ⟨inserted, ?_, fun row inside => ?_⟩
  · rw [appended_rows, appended_rows]
    exact agree.append inserted
  · have sameClass : (classify hasParent table row).hasParent =
        (classify hasParent' table' row).hasParent := parents _ inside
    have sameUnchanged : (classify hasParent table row).unchanged =
        (classify hasParent' table' row).unchanged := by
      simp only [classify, parents _ inside, latestAt_congr agree inside]
    simp only [appendStatus, ClassifiedVersion.status]
    rw [sameClass, sameUnchanged]
    have sameInserted := any_clash_congr inserted inside
    rw [show (classify hasParent table row).version = row from rfl, sameInserted]
    rfl

/-! ### Statistics -/

variable {minIntervalSeconds : Int}

theorem decideStats_congr (inside : scope row.subjectId)
    (parents : ∀ subjectId, scope subjectId → hasParent subjectId = hasParent' subjectId)
    (agree : AgreeOn (fun row : Version κ => scope row.subjectId) table.rows table'.rows) :
    decideStats minIntervalSeconds hasParent table row =
      decideStats minIntervalSeconds hasParent' table' row := by
  unfold decideStats
  rw [parents _ inside, latestAt_congr agree inside]

/-- The rows a call on statistics inserts. -/
def insertedStats (minIntervalSeconds : Int) (hasParent : Int → Bool) (input : List (Version κ))
    (table : Table (Version κ)) : List (Version κ) :=
  (table.insertNew ((distinctInput input).filter fun row =>
    decide (decideStats minIntervalSeconds hasParent table row = .candidate))).1

theorem appendStats_agreeOn
    (agreeInput : AgreeOn (fun row : Version κ => scope row.subjectId) input input')
    (distinct : DistinctBy versionKey input) (distinct' : DistinctBy versionKey input')
    (parents : ∀ subjectId, scope subjectId → hasParent subjectId = hasParent' subjectId)
    (agree : AgreeOn (fun row : Version κ => scope row.subjectId) table.rows table'.rows) :
    AgreeOn (fun row => scope row.subjectId)
        (appendStatsIfChanged minIntervalSeconds hasParent input table).2.rows
        (appendStatsIfChanged minIntervalSeconds hasParent' input' table').2.rows ∧
      ∀ row : Version κ, scope row.subjectId →
        statsStatus minIntervalSeconds hasParent table
            (insertedStats minIntervalSeconds hasParent input table) row =
          statsStatus minIntervalSeconds hasParent' table'
            (insertedStats minIntervalSeconds hasParent' input' table') row := by
  have candidates : AgreeOn (fun row : Version κ => scope row.subjectId)
      ((distinctInput input).filter fun row =>
        decide (decideStats minIntervalSeconds hasParent table row = .candidate))
      ((distinctInput input').filter fun row =>
        decide (decideStats minIntervalSeconds hasParent' table' row = .candidate)) := by
    apply (distinctInput_agreeOn agreeInput distinct distinct').filter
    intro row inside
    rw [decideStats_congr inside parents agree]
  obtain ⟨inserted, tables⟩ := insertNew_agreeOn ((distinctInput_pairwise input).filter _)
    ((distinctInput_pairwise input').filter _) scope_of_clash candidates agree
  refine ⟨tables, fun row inside => ?_⟩
  unfold statsStatus
  rw [decideStats_congr inside parents agree]
  exact congrArg (fun found => StatsDecision.status found _) (any_clash_congr inserted inside)

end Versions

/-! ## Upserts -/

section Upserts

variable {newId : Search.IndexTarget → Uuid} {now : Timestamp}

theorem enqueueTargets_rows {targets : List Search.IndexTarget}
    {queue queue' : Table Search.IndexTask} {statuses : List (Search.IndexTarget × Search.EnqueueStatus)}
    (fresh : Search.FreshIds newId queue)
    (upserted : Search.enqueueTargets targets true newId now queue = some (statuses, queue')) :
    Search.FreshIds newId queue' ∧
      Search.RowsEnqueued targets true newId now queue queue' := by
  obtain ⟨statuses', queue'', upserted', freshAfter, rows⟩ : ∃ statuses queue'',
      Search.enqueueTargets targets true newId now queue = some (statuses, queue'') ∧
        Search.FreshIds newId queue'' ∧ Search.RowsEnqueued targets true newId now queue queue'' :=
    Search.enqueueTargets_fresh fresh
  rw [upserted] at upserted'
  cases upserted'
  exact ⟨freshAfter, rows⟩

/-- A refresh of the changed rows of one kind. -/
theorem enqueueChanged_agreeOn {targets : Search.IndexTarget → Prop} {kind : Search.IndexTargetKind}
    {changed changed' : List Int} {queue queue' after after' : Table Search.IndexTask}
    {statuses statuses' : List (Search.IndexTarget × Search.EnqueueStatus)}
    (agreeChanged : AgreeOn (fun id => targets ⟨kind, id⟩) changed changed')
    (fresh : Search.FreshIds newId queue) (fresh' : Search.FreshIds newId queue')
    (agree : AgreeOn (fun row : Search.IndexTask => targets row.target) queue.rows queue'.rows)
    (upserted : Search.enqueueTargets (changed.map fun id => ⟨kind, id⟩) true newId now queue =
      some (statuses, after))
    (upserted' : Search.enqueueTargets (changed'.map fun id => ⟨kind, id⟩) true newId now queue' =
      some (statuses', after')) :
    AgreeOn (fun row : Search.IndexTask => targets row.target) after.rows after'.rows := by
  have agreeTargets : AgreeOn targets (changed.map fun id => (⟨kind, id⟩ : Search.IndexTarget))
      (changed'.map fun id => ⟨kind, id⟩) := agreeChanged.map fun id inside => inside
  exact (enqueueTargets_rows fresh upserted).2.agreeOn agreeTargets agree
    (enqueueTargets_rows fresh' upserted').2

/-- The rows of `write_twitter_users`. -/
theorem mem_distinctUsers {records : List TwitterUser} (distinct : DistinctBy TwitterUser.id records)
    {record : TwitterUser} : record ∈ distinctUsers records ↔ record ∈ records := by
  rw [distinctUsers, mem_distinctOn_of_injective, mem_orderBy]
  intro a inA b inB same
  exact distinct a (mem_orderBy.mp inA) b (mem_orderBy.mp inB) same

theorem writeTwitterUsers_agreeOn {targets : Search.IndexTarget → Prop}
    {records records' : List TwitterUser} {users users' after after' : Table TwitterUser}
    {queue queue' queued queued' : Table Search.IndexTask} {changed changed' : List Int}
    (distinct : DistinctBy TwitterUser.id records) (distinct' : DistinctBy TwitterUser.id records')
    (agreeRecords : AgreeOn (fun user : TwitterUser => targets ⟨.user, user.id⟩) records records')
    (agree : AgreeOn (fun user : TwitterUser => targets ⟨.user, user.id⟩) users.rows users'.rows)
    (fresh : Search.FreshIds newId queue) (fresh' : Search.FreshIds newId queue')
    (agreeQueue : AgreeOn (fun row : Search.IndexTask => targets row.target) queue.rows queue'.rows)
    (written : writeTwitterUsers newId now records users queue = some (changed, after, queued))
    (written' : writeTwitterUsers newId now records' users' queue' =
      some (changed', after', queued')) :
    AgreeOn (fun id => targets ⟨.user, id⟩) changed changed' ∧
      AgreeOn (fun user : TwitterUser => targets ⟨.user, user.id⟩) after.rows after'.rows ∧
      AgreeOn (fun row : Search.IndexTask => targets row.target) queued.rows queued'.rows ∧
      Search.FreshIds newId queued := by
  unfold writeTwitterUsers at written written'
  obtain ⟨⟨ids, table⟩, upserted, rest⟩ := Option.bind_eq_some_iff.mp written
  obtain ⟨⟨ids', table'⟩, upserted', rest'⟩ := Option.bind_eq_some_iff.mp written'
  obtain ⟨⟨statuses, queueAfter⟩, enqueued, same⟩ := Option.map_eq_some_iff.mp rest
  obtain ⟨⟨statuses', queueAfter'⟩, enqueued', same'⟩ := Option.map_eq_some_iff.mp rest'
  cases same
  cases same'
  have agreeRows : AgreeOn (fun user : TwitterUser => targets ⟨.user, user.id⟩)
      (distinctUsers records) (distinctUsers records') := by
    intro record inside
    rw [mem_distinctUsers distinct, mem_distinctUsers distinct', agreeRecords record inside]
  obtain ⟨agreeChanged, agreeAfter⟩ := OnConflict.upsert_agreeOn (fun id => targets ⟨.user, id⟩)
    (distinctOn_pairwise _ _) (distinctOn_pairwise _ _) agreeRows agree upserted upserted'
  exact ⟨agreeChanged, agreeAfter,
    enqueueChanged_agreeOn agreeChanged fresh fresh' agreeQueue enqueued enqueued',
    (enqueueTargets_rows fresh enqueued).1⟩

/-! ### Tweets, media, places -/

theorem writeTweets_agreeOn {targets : Search.IndexTarget → Prop}
    {constraints constraints' : Constraints TweetRow} {records records' : List TweetRow}
    {tables tables' after after' : TweetTables} {changed changed' : List Int}
    (distinct : DistinctBy TweetRow.id records) (distinct' : DistinctBy TweetRow.id records')
    (agreeRecords : AgreeOn (fun tweet : TweetRow => targets ⟨.tweet, tweet.id⟩) records records')
    (agree : AgreeOn (fun tweet : TweetRow => targets ⟨.tweet, tweet.id⟩) tables.tweets.rows
      tables'.tweets.rows)
    (fresh : Search.FreshIds newId tables.indexQueue)
    (fresh' : Search.FreshIds newId tables'.indexQueue)
    (agreeQueue : AgreeOn (fun row : Search.IndexTask => targets row.target) tables.indexQueue.rows
      tables'.indexQueue.rows)
    (written : writeTweets constraints newId now records tables = some (changed, after))
    (written' : writeTweets constraints' newId now records' tables' = some (changed', after')) :
    AgreeOn (fun id => targets ⟨.tweet, id⟩) changed changed' ∧
      AgreeOn (fun tweet : TweetRow => targets ⟨.tweet, tweet.id⟩) after.tweets.rows
        after'.tweets.rows ∧
      AgreeOn (fun row : Search.IndexTask => targets row.target) after.indexQueue.rows
        after'.indexQueue.rows := by
  unfold writeTweets at written written'
  obtain ⟨⟨ids, table⟩, upserted, rest⟩ := Option.bind_eq_some_iff.mp written
  obtain ⟨⟨ids', table'⟩, upserted', rest'⟩ := Option.bind_eq_some_iff.mp written'
  obtain ⟨⟨statuses, queueAfter⟩, enqueued, same⟩ := Option.map_eq_some_iff.mp rest
  obtain ⟨⟨statuses', queueAfter'⟩, enqueued', same'⟩ := Option.map_eq_some_iff.mp rest'
  cases same
  cases same'
  obtain ⟨agreeChanged, agreeAfter⟩ := OnConflict.upsert_agreeOn (fun id => targets ⟨.tweet, id⟩)
    (distinctOn_pairwise _ _) (distinctOn_pairwise _ _) (agreeRecords.distinctOn distinct distinct')
    agree upserted upserted'
  exact ⟨agreeChanged, agreeAfter,
    enqueueChanged_agreeOn agreeChanged fresh fresh' agreeQueue enqueued enqueued'⟩

theorem writeMedia_agreeOn {constraints constraints' : Constraints Media}
    {records records' : List MediaPayload} {media media' after after' : Table Media}
    {changed changed' : List Int}
    (distinct : DistinctBy MediaPayload.id records) (distinct' : DistinctBy MediaPayload.id records')
    (agreeRecords : AgreeOn (fun item : MediaPayload => scope item.id) records records')
    (agree : AgreeOn (fun item : Media => scope item.id) media.rows media'.rows)
    (written : writeMedia constraints records media = some (changed, after))
    (written' : writeMedia constraints' records' media' = some (changed', after')) :
    AgreeOn scope changed changed' ∧
      AgreeOn (fun item : Media => scope item.id) after.rows after'.rows := by
  have agreeRows : AgreeOn (fun item : Media => scope item.id)
      ((distinctOn MediaPayload.id records).map MediaPayload.toRow)
      ((distinctOn MediaPayload.id records').map MediaPayload.toRow) :=
    (agreeRecords.distinctOn distinct distinct').map fun _ inside => inside
  have apart : ∀ records : List MediaPayload,
      ((distinctOn MediaPayload.id records).map MediaPayload.toRow).Pairwise
        fun a b => Row.key a ≠ Row.key b := by
    intro records
    rw [List.pairwise_map]
    exact distinctOn_pairwise _ _
  exact OnConflict.upsert_agreeOn scope (apart records) (apart records') agreeRows agree written
    written'

theorem writeTweetPlaces_agreeOn {scope : String → Prop}
    {constraints constraints' : Constraints TweetPlace} {records records' : List TweetPlace}
    {places places' after after' : Table TweetPlace} {changed changed' : List String}
    (distinct : DistinctBy TweetPlace.id records) (distinct' : DistinctBy TweetPlace.id records')
    (agreeRecords : AgreeOn (fun place : TweetPlace => scope place.id) records records')
    (agree : AgreeOn (fun place : TweetPlace => scope place.id) places.rows places'.rows)
    (written : writeTweetPlaces constraints records places = some (changed, after))
    (written' : writeTweetPlaces constraints' records' places' = some (changed', after')) :
    AgreeOn scope changed changed' ∧
      AgreeOn (fun place : TweetPlace => scope place.id) after.rows after'.rows :=
  OnConflict.upsert_agreeOn scope (distinctOn_pairwise _ _) (distinctOn_pairwise _ _)
    (agreeRecords.distinctOn distinct distinct') agree written written'

/-! ### Rows of a tweet -/

/-- What a call answers for a row of a tweet. -/
def childStatus {ρ : Type} [Row ρ Int] (hasTweet : Int → Bool) (changed : List Int) (row : ρ) :
    ChildStatus :=
  if !hasTweet (Row.key row) then .missingParent
  else if changed.contains (Row.key row) then .inserted
  else .unchanged

theorem writeChildren_agreeOn {ρ : Type} [Row ρ Int] {conflict : OnConflict ρ}
    {constraints constraints' : Constraints ρ} {hasTweet hasTweet' : Int → Bool}
    {input input' : List ρ} {table table' after after' : Table ρ}
    {statuses statuses' : List (Int × ChildStatus)}
    (apart : input.Pairwise fun a b => Row.key a ≠ Row.key b)
    (apart' : input'.Pairwise fun a b => Row.key a ≠ Row.key b)
    (agreeInput : AgreeOn (fun row : ρ => scope (Row.key row)) input input')
    (parents : ∀ tweetId, scope tweetId → hasTweet tweetId = hasTweet' tweetId)
    (agree : AgreeOn (fun row : ρ => scope (Row.key row)) table.rows table'.rows)
    (written : writeChildren conflict constraints hasTweet input table = some (statuses, after))
    (written' : writeChildren conflict constraints' hasTweet' input' table' =
      some (statuses', after')) :
    AgreeOn (fun row : ρ => scope (Row.key row)) after.rows after'.rows ∧
      ∃ changed changed', statuses = (input.map fun row =>
          (Row.key row, childStatus hasTweet changed row)) ∧
        statuses' = (input'.map fun row => (Row.key row, childStatus hasTweet' changed' row)) ∧
        ∀ row : ρ, scope (Row.key row) →
          childStatus hasTweet changed row = childStatus hasTweet' changed' row := by
  unfold writeChildren at written written'
  obtain ⟨⟨changed, middle⟩, upserted, same⟩ := Option.map_eq_some_iff.mp written
  obtain ⟨⟨changed', middle'⟩, upserted', same'⟩ := Option.map_eq_some_iff.mp written'
  cases same
  cases same'
  have agreeRows : AgreeOn (fun row : ρ => scope (Row.key row))
      (input.filter fun row => hasTweet (Row.key row))
      (input'.filter fun row => hasTweet' (Row.key row)) :=
    agreeInput.filter fun row inside => parents _ inside
  obtain ⟨agreeChanged, agreeAfter⟩ := OnConflict.upsert_agreeOn scope (apart.filter _)
    (apart'.filter _) agreeRows agree upserted upserted'
  refine ⟨agreeAfter, changed, changed', rfl, rfl, fun row inside => ?_⟩
  have sameChanged : changed.contains (Row.key row) = changed'.contains (Row.key row) := by
    rw [Bool.eq_iff_iff, List.contains_iff_mem, List.contains_iff_mem]
    exact agreeChanged _ inside
  simp only [childStatus, parents _ inside, sameChanged]

end Upserts

end TweetDb.Tweet
