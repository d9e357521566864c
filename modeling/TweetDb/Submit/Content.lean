import TweetDb.Search.Backfill
import TweetDb.Search.IndexWorkers
import TweetDb.Submit.Stored
import TweetDb.Tweet.ChangeReports

/-! # Indexed content

Three statements of a submit call write rows that the search documents are
computed from: `write_twitter_users`, `append_user_snapshots_if_changed` and
`write_tweets`.  Each of them refreshes, in the same statement, the queue rows
of what it changed.
-/

namespace TweetDb.Submit

open Relational Transition TweetModel
open TweetDb.Search (Facts IndexTarget IndexTargetKind IndexTask UserSnapshotRow enqueueTargets)
open TweetDb.Search.Indexing (Config Synced WorkerState setRows)
open TweetDb.Tweet (ExactReports TweetRow TweetTables TwitterUser UserSnapshotColumns UserTables
  Version versionsOf)

/-! ## Content -/

/-- The columns `created_at` and `updated_at` of the two tables, by id. -/
structure Stamps where
  userUpdatedAt : Int → Timestamp
  tweetCreatedAt : Int → Timestamp
  tweetUpdatedAt : Int → Timestamp

/-- The stored rows the search documents are computed from. -/
structure Content where
  users : Table TwitterUser
  userSnapshots : Table (Version UserSnapshotColumns)
  tweets : Table TweetRow
  stamps : Stamps

def stampAll (ids : List Int) (now : Timestamp) (stamp : Int → Timestamp) : Int → Timestamp :=
  fun id => if id ∈ ids then now else stamp id

namespace Stamps

def ofUsers (stamps : Stamps) (changed : List Int) (now : Timestamp) : Stamps :=
  { stamps with userUpdatedAt := stampAll changed now stamps.userUpdatedAt }

def ofTweets (stamps : Stamps) (created changed : List Int) (now : Timestamp) : Stamps :=
  { stamps with
    tweetCreatedAt := stampAll created now stamps.tweetCreatedAt
    tweetUpdatedAt := stampAll changed now stamps.tweetUpdatedAt }

end Stamps

def searchSnapshot (row : Version UserSnapshotColumns) : UserSnapshotRow :=
  ⟨row.recordedAt, row.content.userName, row.content.displayName⟩

def searchTweet (stamps : Stamps) (row : TweetRow) : Search.TweetRow where
  authorId := row.authorId
  legacyBody := row.legacyText.body
  noteBody := row.noteText.map Tweet.AnnotatedText.body
  repostId := row.repostId
  quoteTweetId := row.quoteTweetId
  replyToTweetId := row.replyToTweetId
  publishedAt := row.publishedAt
  createdAt := stamps.tweetCreatedAt row.id
  updatedAt := stamps.tweetUpdatedAt row.id

namespace Content

def empty : Content := ⟨.empty, .empty, .empty, fun _ => 0, fun _ => 0, fun _ => 0⟩

def userRow (content : Content) (user : TwitterUser) : Search.UserRow :=
  ⟨content.stamps.userUpdatedAt user.id,
    (versionsOf content.userSnapshots user.id).map searchSnapshot⟩

def facts (content : Content) : Facts where
  tweet id := (content.tweets.find id).map (searchTweet content.stamps)
  user id := (content.users.find id).map content.userRow

end Content

/-! ## Writes -/

/-- A statement that writes content. -/
inductive ContentWrite where
  | insertUsers (env : Environment) (users : List TwitterUser)
  | appendUserSnapshots (env : Environment) (snapshots : List UserSnapshot)
  | insertTweets (env : Environment) (hasPlace : String → Bool) (tweets : List TweetRow)

/-- The content and the queue after a statement that is not refused. -/
def ContentWrite.run (content : Content) (queue : Table IndexTask) :
    ContentWrite → Except String (Content × Table IndexTask)
  | .insertUsers env users =>
    (env.insertUsersChanged users ⟨content.users, content.userSnapshots, queue⟩).map
      fun (changed, tables) =>
        ({ content with
            users := tables.users
            stamps := content.stamps.ofUsers changed env.now },
          tables.indexQueue)
  | .appendUserSnapshots env snapshots =>
    (env.appendUserSnapshotsIfChangedMany snapshots
      ⟨content.users, content.userSnapshots, queue⟩).map fun (_, tables) =>
        ({ content with userSnapshots := tables.snapshots }, tables.indexQueue)
  | .insertTweets env hasPlace tweets =>
    (env.insertTweetsChanged (fun id => (content.users.find id).isSome) hasPlace tweets
      ⟨content.tweets, queue⟩).map fun (changed, tables) =>
        let created := changed.filter fun id => (content.tweets.find id).isNone
        ({ content with
            tweets := tables.tweets
            stamps := content.stamps.ofTweets created changed env.now },
          tables.indexQueue)

/-- The statements of a call, one after the other; a refused one changes nothing. -/
def runWrites (content : Content) (queue : Table IndexTask) :
    List ContentWrite → Content × Table IndexTask
  | [] => (content, queue)
  | write :: writes =>
    match write.run content queue with
    | .error _ => runWrites content queue writes
    | .ok (content, queue) => runWrites content queue writes

/-! ## What a write leaves alone -/

section Rows

variable {α : Type} {rows rows' : Int → Option α} {ids : List Int}

/-- The rows of some ids. -/
def rowsOf (rows : Int → Option α) (ids : List Int) : List (Int × α) :=
  ids.filterMap fun id => (rows id).map fun row => (id, row)

theorem map_fst_rowsOf (stored : ∀ id ∈ ids, (rows id).isSome = true) :
    (rowsOf rows ids).map Prod.fst = ids := by
  induction ids with
  | nil => rfl
  | cons id ids inductionHypothesis =>
    obtain ⟨row, found⟩ := Option.isSome_iff_exists.mp (stored id List.mem_cons_self)
    have rest := inductionHypothesis fun other later => stored other (List.mem_cons_of_mem _ later)
    rw [rowsOf, List.filterMap_cons_some (by rw [found]; rfl), List.map_cons]
    exact congrArg (id :: ·) rest

theorem setRows_eq {changes : List (Int × α)}
    (written : ∀ change ∈ changes, rows' change.1 = some change.2)
    (untouched : ∀ id, id ∉ changes.map Prod.fst → rows' id = rows id) :
    setRows rows changes = rows' := by
  induction changes generalizing rows with
  | nil => exact funext fun id => (untouched id List.not_mem_nil).symm
  | cons change changes inductionHypothesis =>
    have rest : setRows (Function.update rows change.1 (some change.2)) changes = rows' := by
      apply inductionHypothesis
      · exact fun later member => written later (List.mem_cons_of_mem _ member)
      · intro id notLater
        by_cases same : id = change.1
        · rw [same, Function.update_self]
          exact written change List.mem_cons_self
        · rw [Function.update_of_ne same]
          apply untouched
          rw [List.map_cons, List.mem_cons, not_or]
          exact ⟨same, notLater⟩
    exact rest

theorem setRows_rowsOf (stored : ∀ id ∈ ids, (rows' id).isSome = true)
    (untouched : ∀ id, id ∉ ids → rows' id = rows id) :
    setRows rows (rowsOf rows' ids) = rows' := by
  apply setRows_eq
  · intro change member
    obtain ⟨id, _, isChange⟩ := List.mem_filterMap.mp member
    obtain ⟨row, found, rfl⟩ := Option.map_eq_some_iff.mp isChange
    exact found
  · rwa [map_fst_rowsOf stored]

end Rows

/-! ## What a write refreshes -/

/-- The new content differs from the old one in documents of these ids only, which are stored. -/
structure ChangesOnly (before after : Content) (tweetIds userIds : List Int) : Prop where
  tweetStored : ∀ id ∈ tweetIds, (after.facts.tweet id).isSome = true
  userStored : ∀ id ∈ userIds, (after.facts.user id).isSome = true
  tweet : ∀ id, id ∉ tweetIds → after.facts.tweet id = before.facts.tweet id
  user : ∀ id, id ∉ userIds → after.facts.user id = before.facts.user id

/-- The write functions of the migrations: what changed is queued in the same statement. -/
structure Refreshes (before after : Content) (queue queue' : Table IndexTask)
    (newId : IndexTarget → Uuid) (now : Timestamp) : Prop where
  changes : ∃ tweetIds userIds statuses, ChangesOnly before after tweetIds userIds ∧
    enqueueTargets (tweetIds.map (IndexTarget.mk .tweet) ++ userIds.map (IndexTarget.mk .user))
      true newId now queue = some (statuses, queue')

section Reports

variable {ρ : Type} [Row ρ Int] {before after : Table ρ} {changed : List Int} {id : Int}

theorem find_of_reportsExactly (reports : ReportsExactly changed before after)
    (unchanged : id ∉ changed) : after.find id = before.find id := by
  by_contra different
  exact unchanged ((reports id).mpr different)

theorem stored_of_reportsExactly (reports : ReportsExactly changed before after)
    (keeps : (before.find id).isSome = true → (after.find id).isSome = true)
    (isChanged : id ∈ changed) : (after.find id).isSome = true := by
  have different := (reports id).mp isChanged
  cases old : before.find id with
  | some row => exact keeps (by rw [old]; rfl)
  | none =>
    rw [old] at different
    exact Option.isSome_iff_ne_none.mpr different

end Reports

theorem stampAll_of_not_mem {ids : List Int} {now : Timestamp} {stamp : Int → Timestamp} {id : Int}
    (absent : id ∉ ids) : stampAll ids now stamp id = stamp id := if_neg absent

section Writes

variable {content content' : Content} {queue queue' : Table IndexTask} {env : Environment}

theorem isSome_user {id : Int} :
    (content.facts.user id).isSome = (content.users.find id).isSome := by
  simp [Content.facts]

theorem isSome_tweet {id : Int} :
    (content.facts.tweet id).isSome = (content.tweets.find id).isSome := by
  simp [Content.facts]

/-- The part the three statements share: the content differs in the rows of the changed ids. -/
theorem changesOnly_of_reports {tweetIds userIds : List Int}
    (users : ReportsExactly userIds content.users content'.users)
    (usersStay : ∀ id, (content.users.find id).isSome = true →
      (content'.users.find id).isSome = true)
    (tweets : ReportsExactly tweetIds content.tweets content'.tweets)
    (tweetsStay : ∀ id, (content.tweets.find id).isSome = true →
      (content'.tweets.find id).isSome = true)
    (snapshots : content'.userSnapshots = content.userSnapshots)
    (userStamps : ∀ id, id ∉ userIds →
      content'.stamps.userUpdatedAt id = content.stamps.userUpdatedAt id)
    (tweetStamps : ∀ id, id ∉ tweetIds →
      content'.stamps.tweetCreatedAt id = content.stamps.tweetCreatedAt id ∧
        content'.stamps.tweetUpdatedAt id = content.stamps.tweetUpdatedAt id) :
    ChangesOnly content content' tweetIds userIds where
  tweetStored id isChanged := by
    rw [isSome_tweet]
    exact stored_of_reportsExactly tweets (tweetsStay id) isChanged
  userStored id isChanged := by
    rw [isSome_user]
    exact stored_of_reportsExactly users (usersStay id) isChanged
  tweet id unchanged := by
    have sameRow := find_of_reportsExactly tweets unchanged
    simp only [Content.facts, sameRow]
    refine Option.map_congr fun row stored => ?_
    have sameId : row.id = id := Table.find_key stored
    obtain ⟨created, updated⟩ := tweetStamps id unchanged
    simp only [searchTweet, sameId, created, updated]
  user id unchanged := by
    have sameRow := find_of_reportsExactly users unchanged
    simp only [Content.facts, sameRow]
    refine Option.map_congr fun row stored => ?_
    have sameId : row.id = id := Table.find_key stored
    simp only [Content.userRow, sameId, snapshots, userStamps id unchanged]

theorem refreshes_insertUsers {users : List TwitterUser}
    (ran : ContentWrite.run content queue (.insertUsers env users) = .ok (content', queue')) :
    Refreshes content content' queue queue' env.newId env.now := by
  obtain ⟨⟨changed, tables⟩, inserted, result⟩ := map_eq_ok ran
  obtain ⟨rfl, rfl⟩ := Prod.mk.inj result
  have written := send_eq_ok inserted
  split at written
  next => cases written
  next changedIds stored queued wrote =>
    cases written
    obtain ⟨⟨_, _⟩, upserted, queueing⟩ := Option.bind_eq_some_iff.mp wrote
    obtain ⟨⟨statuses, _⟩, enqueued, same⟩ := Option.map_eq_some_iff.mp queueing
    cases same
    have reports := (Tweet.exactReports_upsert (Tweet.distinctUsers_pairwise users)
      TwitterUser.condition_self TwitterUser.settles _ _ _ upserted).1
    refine ⟨[], changed, statuses, changesOnly_of_reports reports ?_ ?_ ?_ rfl ?_ ?_, ?_⟩
    · exact fun id present => OnConflict.find_isSome_upsert upserted present
    · exact fun id => ⟨fun none => absurd none List.not_mem_nil, fun differs => absurd rfl differs⟩
    · exact fun id present => present
    · exact fun id unchanged => stampAll_of_not_mem unchanged
    · exact fun id _ => ⟨rfl, rfl⟩
    · exact enqueued

theorem refreshes_insertTweets {hasPlace : String → Bool} {tweets : List TweetRow}
    (ran : ContentWrite.run content queue (.insertTweets env hasPlace tweets) =
      .ok (content', queue')) :
    Refreshes content content' queue queue' env.newId env.now := by
  obtain ⟨⟨changed, tables⟩, inserted, result⟩ := map_eq_ok ran
  obtain ⟨rfl, rfl⟩ := Prod.mk.inj result
  have written := send_eq_ok inserted
  split at written
  next => cases written
  next pair wrote =>
    cases written
    obtain ⟨⟨_, _⟩, upserted, queueing⟩ := Option.bind_eq_some_iff.mp wrote
    obtain ⟨⟨statuses, _⟩, enqueued, same⟩ := Option.map_eq_some_iff.mp queueing
    cases same
    have reports := (Tweet.exactReports_upsert (distinctOn_pairwise TweetRow.id _)
      TweetRow.condition_self TweetRow.settles _ _ _ upserted).1
    refine ⟨changed, [], statuses, changesOnly_of_reports ?_ ?_ reports ?_ rfl ?_ ?_, ?_⟩
    · exact fun id => ⟨fun none => absurd none List.not_mem_nil, fun differs => absurd rfl differs⟩
    · exact fun id present => present
    · exact fun id present => OnConflict.find_isSome_upsert upserted present
    · exact fun id _ => rfl
    · intro id unchanged
      exact ⟨stampAll_of_not_mem fun created => unchanged (List.mem_of_mem_filter created),
        stampAll_of_not_mem unchanged⟩
    · simpa using enqueued

theorem versionsOf_insertNew {table : Table (Version UserSnapshotColumns)}
    {new : List (Version UserSnapshotColumns)} {userId : Int}
    (other : ∀ row ∈ (table.insertNew new).1, row.subjectId ≠ userId) :
    versionsOf (table.insertNew new).2 userId = versionsOf table userId := by
  have none : (table.insertNew new).1.filter (fun row => decide (row.subjectId = userId)) = [] := by
    rw [List.filter_eq_nil_iff]
    intro row inserted
    simpa using other row inserted
  rw [versionsOf, versionsOf, Table.insertNew_rows, List.filter_append, none, List.append_nil]

theorem hasParent_of_inserted {hasParent : Int → Bool} {input : List (Version UserSnapshotColumns)}
    {table : Table (Version UserSnapshotColumns)} {row : Version UserSnapshotColumns}
    (inserted : row ∈ (Tweet.appendIfChanged hasParent input table).inserted) :
    hasParent row.subjectId = true := by
  obtain ⟨classified, kept, rfl⟩ := List.mem_map.mp (Table.mem_of_mem_insertNew inserted)
  obtain ⟨isClassified, condition⟩ := List.mem_filter.mp kept
  obtain ⟨version, _, rfl⟩ := List.mem_map.mp isClassified
  exact (Bool.and_eq_true_iff.mp condition).1

theorem refreshes_appendUserSnapshots {snapshots : List UserSnapshot}
    (ran : ContentWrite.run content queue (.appendUserSnapshots env snapshots) =
      .ok (content', queue')) :
    Refreshes content content' queue queue' env.newId env.now := by
  obtain ⟨⟨statuses, tables⟩, inserted, result⟩ := map_eq_ok ran
  obtain ⟨rfl, rfl⟩ := Prod.mk.inj result
  have written := send_eq_ok inserted
  split at written
  next => cases written
  next answers stored wrote =>
    cases written
    obtain ⟨⟨queued, _⟩, enqueued, same⟩ := Option.map_eq_some_iff.mp wrote
    cases same
    dsimp only at enqueued ⊢
    set appended := Tweet.appendIfChanged
      (UserTables.hasUser ⟨content.users, content.userSnapshots, queue⟩)
      ((snapshots.map UserSnapshot.payload).map Tweet.UserSnapshotPayload.toVersion)
      content.userSnapshots
    refine ⟨[], appended.inserted.map Version.subjectId, queued, ⟨?_, ?_, ?_, ?_⟩, ?_⟩
    · exact fun id none => absurd none List.not_mem_nil
    · intro id isInserted
      obtain ⟨row, member, rfl⟩ := List.mem_map.mp isInserted
      rw [isSome_user]
      exact hasParent_of_inserted member
    · exact fun id _ => rfl
    · intro id others
      refine Option.map_congr fun row found => ?_
      have sameId : row.id = id := Table.find_key found
      have sameVersions : versionsOf appended.table id = versionsOf content.userSnapshots id :=
        versionsOf_insertNew fun new member same => others (List.mem_map.mpr ⟨new, member, same⟩)
      simp only [Content.userRow, sameId, sameVersions]
    · simpa [List.map_map, Function.comp_def] using enqueued

end Writes

end TweetDb.Submit
