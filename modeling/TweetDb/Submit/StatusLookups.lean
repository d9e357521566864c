import TweetDb.Submit.Execute
import TweetDb.Submit.Times
import TweetDb.Tweet.ChangeReports
import TweetDb.Tweet.Independence

/-! # Every item finds its status

The statements answer each key of their input once.  So the loops over the items
of a batch, which look every item up under its own key, find for each the status
that was computed for it.
-/

namespace TweetDb.Tweet

open Relational

/-! ## Version tables -/

section Versions

variable {κ : Type} {table : Table (Version κ)} {input : List (Version κ)} {row : Version κ}

/-- The row with the key of this one that a statement keeps of its input. -/
def keptRow (input : List (Version κ)) (row : Version κ) : Version κ :=
  ((distinctInput input).find? fun kept => decide (Row.clash kept row)).getD row

theorem keptRow_spec (member : row ∈ input) :
    keptRow input row ∈ distinctInput input ∧ Row.clash (keptRow input row) row := by
  obtain ⟨kept, isKept, same⟩ : ∃ kept ∈ distinctInput input,
      (kept.subjectId, kept.recordedAt) = (row.subjectId, row.recordedAt) :=
    exists_mem_distinctOn (mem_orderBy.mpr member)
  have isSome : ((distinctInput input).find? fun kept => decide (Row.clash kept row)).isSome :=
    List.find?_isSome.mpr ⟨kept, isKept, decide_eq_true same⟩
  obtain ⟨found, isFound⟩ := Option.isSome_iff_exists.mp isSome
  have clashes : decide (Row.clash found row) = true :=
    List.find?_some (p := fun kept => decide (Row.clash kept row)) isFound
  rw [keptRow, isFound, Option.getD_some]
  exact ⟨List.mem_of_find?_eq_some isFound, of_decide_eq_true clashes⟩

/-- A row whose key no other row has is kept itself. -/
theorem keptRow_of_alone (member : row ∈ input)
    (alone : ∀ other ∈ input, Row.clash other row → other = row) : keptRow input row = row := by
  obtain ⟨isKept, clashes⟩ := keptRow_spec member
  exact alone _ (mem_of_mem_distinctInput isKept) clashes

variable {γ : Type} (answer : Version κ → γ)

/-- The answers to the rows of an input, by key. -/
def keyedAnswers (input : List (Version κ)) : List ((Int × Timestamp) × γ) :=
  (distinctInput input).map fun row => ((row.subjectId, row.recordedAt), answer row)

theorem distinctBy_keyedAnswers : DistinctBy Prod.fst (keyedAnswers answer input) := by
  refine DistinctBy.map fun a inA b inB same => ?_
  exact distinctInput_eq inA inB (Version.clash_iff.mpr (Prod.ext_iff.mp same))

theorem mem_keyedAnswers (member : row ∈ input) :
    ((row.subjectId, row.recordedAt), answer (keptRow input row)) ∈ keyedAnswers answer input := by
  obtain ⟨isKept, clashes⟩ := keptRow_spec member
  rw [Version.clash_iff] at clashes
  refine List.mem_map.mpr ⟨keptRow input row, isKept, ?_⟩
  rw [clashes.1, clashes.2]

end Versions

/-! ## Rows of a tweet -/

section Children

variable {ρ : Type} [Row ρ Int] [DecidableEq ρ]

/-- What became of the row of a tweet. -/
def rowStatus (hasTweet : Int → Bool) (table table' : Table ρ) (tweetId : Int) : ChildStatus :=
  if !hasTweet tweetId then .missingParent
  else if table'.find tweetId = table.find tweetId then .unchanged
  else .inserted

variable {conflict : OnConflict ρ} {constraints : Constraints ρ} {hasTweet : Int → Bool}
  {input : List ρ} {table table' : Table ρ} {statuses : List (Int × ChildStatus)}

/-- Where the statement reports what it changes, it answers each row so. -/
theorem statuses_writeChildren (distinct : input.Pairwise fun a b => Row.key a ≠ Row.key b)
    (settles : ∀ stored excluded, conflict.Settles stored excluded)
    (written : writeChildren conflict constraints hasTweet input table = some (statuses, table')) :
    statuses = input.map fun row => (Row.key row, rowStatus hasTweet table table' (Row.key row)) := by
  obtain ⟨⟨changed, after⟩, upserted, same⟩ := Option.map_eq_some_iff.mp written
  cases same
  have apart := distinct.filter fun row => hasTweet (Row.key row)
  have reports := OnConflict.reportsExactly_upsert apart (fun row _ stored _ => settles stored row)
    upserted
  refine List.map_congr_left fun row _ => Prod.ext rfl ?_
  -- What is reported as changed is what the statement changes in the table.
  have isChanged : changed.contains (Row.key row) = true ↔
      table'.find (Row.key row) ≠ table.find (Row.key row) := by
    rw [List.contains_iff_mem, reports]
  dsimp only [rowStatus]
  by_cases unchanged : table'.find (Row.key row) = table.find (Row.key row)
  · have quiet : changed.contains (Row.key row) = false := by
      rw [← Bool.not_eq_true, isChanged]
      exact not_not_intro unchanged
    rw [quiet, if_pos unchanged, if_neg Bool.false_ne_true]
  · rw [isChanged.mpr unchanged, if_neg unchanged, if_pos rfl]

end Children

end TweetDb.Tweet

namespace TweetDb.Submit

open Relational TweetModel
open TweetDb.Tweet (TweetCommunityNote TweetEdit TweetPolicy TweetStats UserStats UserTables
  MediaTables Version VersionColumns keptRow keyedAnswers)

/-! ## Statuses -/

/-- The statuses have each item once under its key. -/
structure HasStatuses {α : Type} [Observed α] (items : List α) (computed : α → ConditionalWrite)
    (statuses : List ((Int × Timestamp) × ConditionalWrite)) : Prop where
  distinct : DistinctBy Prod.fst statuses
  each : ∀ item ∈ items,
    ((Observed.id item, Observed.recordedAt item), computed item) ∈ statuses

section Statuses

variable {α κ : Type} [Observed α] {items : List α} {version : α → Version κ}

/-- A status is found under the key of a row. -/
theorem HasStatuses.lookup {computed : α → ConditionalWrite}
    {statuses : List ((Int × Timestamp) × ConditionalWrite)}
    (answered : HasStatuses items computed statuses) {item : α} (member : item ∈ items) :
    statuses.lookup (Observed.id item, Observed.recordedAt item) = some (computed item) := by
  have found := answered.distinct.lookup_answers Prod.snd (answered.each item member)
  rw [List.map_id' statuses] at found
  exact found

theorem hasStatuses_keyedAnswers (answer : Version κ → ConditionalWrite)
    (keyed : ∀ item, ((version item).subjectId, (version item).recordedAt) =
      (Observed.id item, Observed.recordedAt item)) :
    HasStatuses items (fun item => answer (keptRow (items.map version) (version item)))
      (keyedAnswers answer (items.map version)) where
  distinct := Tweet.distinctBy_keyedAnswers answer
  each item member := by
    rw [← keyed item]
    exact Tweet.mem_keyedAnswers answer (List.mem_map_of_mem member)

variable (env : Environment)

/-- The status of a snapshot, of the rows a statement is given. -/
def snapshotStatus (tables : UserTables) (snapshots : List UserSnapshot)
    (item : UserSnapshot) : ConditionalWrite :=
  let input := snapshots.map fun item => item.payload.toVersion
  appendWrite (Tweet.appendStatus tables.hasUser input tables.snapshots
    (keptRow input item.payload.toVersion))

def resourceStatus (tables : MediaTables) (resources : List MediaResource)
    (item : MediaResource) : ConditionalWrite :=
  let input := resources.map MediaResource.payload
  appendWrite (Tweet.appendStatus tables.hasMedia input tables.resources
    (keptRow input item.payload))

/-- The status of a row of statistics. -/
def statsWriteOf [VersionColumns κ] (hasParent : Int → Bool) (table : Table (Version κ))
    (input : List (Version κ)) (row : Version κ) : ConditionalWrite :=
  statsWrite (Tweet.statsStatus env.statsInterval hasParent table
    (Tweet.insertedStats env.statsInterval hasParent input table) (keptRow input row))

def userStatsStatus (hasUser : Int → Bool) (table : Table (Version Tweet.UserStatsColumns))
    (stats : List UserStats) (item : UserStats) : ConditionalWrite :=
  statsWriteOf env hasUser table (stats.map Tweet.UserStats.toVersion) item.toVersion

def tweetStatsStatus (hasTweet : Int → Bool) (table : Table (Version Tweet.TweetStatsColumns))
    (stats : List TweetStats) (item : TweetStats) : ConditionalWrite :=
  statsWriteOf env hasTweet table (stats.map Tweet.TweetStats.toVersion) item.toVersion

variable {env}

theorem eq_of_send {β : Type} {refusal : Option String} {result : Except String β} {value : β}
    (sent : send refusal result = .ok value) : result = .ok value := by
  cases refusal with
  | none => exact sent
  | some error => cases sent

theorem hasStatuses_snapshots {tables tables' : UserTables} {snapshots : List UserSnapshot}
    {statuses : List ((Int × Timestamp) × ConditionalWrite)}
    (written : env.appendUserSnapshotsIfChangedMany snapshots tables = .ok (statuses, tables')) :
    HasStatuses snapshots (snapshotStatus tables snapshots) statuses := by
  have answered := eq_of_send written
  split at answered
  next => cases answered
  next found appended =>
    cases answered
    obtain ⟨_, _, same⟩ := Option.map_eq_some_iff.mp appended
    cases same
    rw [appendWrites, Tweet.appendIfChanged_statuses, List.map_map, List.map_map]
    exact hasStatuses_keyedAnswers (fun row => appendWrite (Tweet.appendStatus tables.hasUser _
      tables.snapshots row)) fun item => rfl

theorem hasStatuses_resources {tables tables' : MediaTables} {resources : List MediaResource}
    {statuses : List ((Int × Timestamp) × ConditionalWrite)}
    (written : env.appendMediaResourcesIfChangedMany resources tables =
      .ok (statuses, tables')) :
    HasStatuses resources (resourceStatus tables resources) statuses := by
  have answered := eq_of_send written
  cases answered
  rw [appendWrites, Tweet.appendIfChanged_statuses, List.map_map]
  exact hasStatuses_keyedAnswers (fun row => appendWrite (Tweet.appendStatus tables.hasMedia _
    tables.resources row)) fun item => rfl

theorem hasStatuses_stats [VersionColumns κ] {hasParent : Int → Bool} {table : Table (Version κ)}
    (keyed : ∀ item, ((version item).subjectId, (version item).recordedAt) =
      (Observed.id item, Observed.recordedAt item)) :
    HasStatuses items (fun item => statsWriteOf env hasParent table (items.map version)
        (version item))
      (statsWrites (Tweet.appendStatsIfChanged env.statsInterval hasParent (items.map version)
        table).1) := by
  rw [statsWrites, Tweet.appendStatsIfChanged, List.map_map]
  exact hasStatuses_keyedAnswers (fun row => statsWrite (Tweet.statsStatus env.statsInterval
    hasParent table _ row)) keyed

theorem hasStatuses_userStats {hasUser : Int → Bool}
    {table table' : Table (Version Tweet.UserStatsColumns)} {stats : List UserStats}
    {statuses : List ((Int × Timestamp) × ConditionalWrite)}
    (written : env.appendUserStatsIfChangedMany hasUser stats table = .ok (statuses, table')) :
    HasStatuses stats (userStatsStatus env hasUser table stats) statuses := by
  cases eq_of_send written
  exact hasStatuses_stats fun item => rfl

theorem hasStatuses_tweetStats {hasTweet : Int → Bool}
    {table table' : Table (Version Tweet.TweetStatsColumns)} {stats : List TweetStats}
    {statuses : List ((Int × Timestamp) × ConditionalWrite)}
    (written : env.appendTweetStatsIfChangedMany hasTweet stats table = .ok (statuses, table')) :
    HasStatuses stats (tweetStatsStatus env hasTweet table stats) statuses := by
  cases eq_of_send written
  exact hasStatuses_stats fun item => rfl

end Statuses

/-! ## Rows of a tweet -/

section Children

variable {env : Environment} {hasTweet : Int → Bool}

/-- Every record finds the status of its tweet, also if it is not the one that is written. -/
theorem lookup_children {π ρ : Type} [Row ρ Int] [DecidableEq ρ] {conflict : OnConflict ρ}
    {constraints : Constraints ρ} {refusal : Option String} {key : π → Int} {toRow : π → ρ}
    {records : List π} {table table' : Table ρ} {statuses : List (Int × ConditionalWrite)}
    (sameKey : ∀ record, Row.key (toRow record) = key record)
    (settles : ∀ stored excluded, conflict.Settles stored excluded)
    (written : send refusal (env.childWrites (Tweet.writeChildren conflict constraints hasTweet
      ((distinctOn key records).map toRow) table)) = .ok (statuses, table'))
    {record : π} (member : record ∈ records) :
    statuses.lookup (key record) =
      some (childWrite (Tweet.rowStatus hasTweet table table' (key record))) := by
  have answered := eq_of_send written
  unfold Environment.childWrites at answered
  split at answered
  next => cases answered
  next childStatuses after isWritten =>
    cases answered
    rw [Tweet.statuses_writeChildren (Tweet.distinct_map sameKey records) settles isWritten,
      List.map_map, List.map_map]
    -- One record with the key is kept, and its status stands for all of them.
    obtain ⟨kept, isKept, same⟩ : ∃ kept ∈ distinctOn key records, key kept = key record :=
      exists_mem_distinctOn member
    have distinct : DistinctBy key (distinctOn key records) :=
      .of_nodup (List.pairwise_map.mpr (distinctOn_pairwise key records))
    have found := distinct.lookup_answers
      (fun record => childWrite (Tweet.rowStatus hasTweet table table' (key record))) isKept
    rw [← same, ← found]
    simp only [Function.comp_def, sameKey]

theorem lookup_tweetEdits {edits : List TweetEdit} {table table' : Table TweetEdit}
    {statuses : List (Int × ConditionalWrite)}
    (written : env.upsertTweetEditsWriteStatuses hasTweet edits table = .ok (statuses, table'))
    {edit : TweetEdit} (member : edit ∈ edits) :
    statuses.lookup edit.tweetId =
      some (childWrite (Tweet.rowStatus hasTweet table table' edit.tweetId)) :=
  lookup_children (fun _ => rfl) Tweet.TweetEdit.settles written
    (List.mem_map_of_mem (f := tweetEditPayload) member)

theorem lookup_tweetPolicies {policies : List TweetPolicy} {table table' : Table TweetPolicy}
    {statuses : List (Int × ConditionalWrite)}
    (written : env.upsertTweetPoliciesWriteStatuses hasTweet policies table =
      .ok (statuses, table'))
    {policy : TweetPolicy} (member : policy ∈ policies) :
    statuses.lookup policy.tweetId =
      some (childWrite (Tweet.rowStatus hasTweet table table' policy.tweetId)) :=
  lookup_children (fun _ => rfl) Tweet.TweetPolicy.settles written
    (List.mem_map_of_mem (f := tweetPolicyPayload) member)

theorem lookup_tweetCommunityNotes {notes : List TweetCommunityNote}
    {table table' : Table TweetCommunityNote} {statuses : List (Int × ConditionalWrite)}
    (written : env.upsertTweetCommunityNotesWriteStatuses hasTweet notes table =
      .ok (statuses, table'))
    {note : TweetCommunityNote} (member : note ∈ notes) :
    statuses.lookup note.tweetId =
      some (childWrite (Tweet.rowStatus hasTweet table table' note.tweetId)) := by
  have inPayloads : tweetCommunityNotePayload note ∈ notes.map tweetCommunityNotePayload :=
    List.mem_map_of_mem member
  dsimp only [Environment.upsertTweetCommunityNotesWriteStatuses,
    Tweet.writeTweetCommunityNotes] at written
  rw [← List.map_id (distinctOn _ _)] at written
  have found := lookup_children (fun _ => rfl) Tweet.TweetCommunityNote.settles written inPayloads
  exact found

end Children

end TweetDb.Submit
