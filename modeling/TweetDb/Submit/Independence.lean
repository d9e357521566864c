import TweetDb.Submit.RelationReport
import TweetDb.Submit.StatusLookups
import TweetDb.Submit.Stored
import TweetDb.Submit.TwoRuns
import TweetDb.Transfer.Independence
import TweetDb.Tweet.RelationIndependence

/-! # Independent statements

What two runs of a statement do for the ids of a scope, when both succeed: the
rows outside the scope decide nothing.  This holds of every statement a submit
call sends, so that a refused row is the only way one item gets at another.
-/

namespace TweetDb.Submit

open Relational TweetModel
open TweetDb.Search (FreshIds IndexTarget IndexTask)
open TweetDb.Transfer (EnqueueTransferTask TransferEnqueueStatus TransferTask)
open TweetDb.Tweet (MediaPayload MediaTables RefRow RefTarget SyncsAlike SyncStatus
  TweetCommunityNote TweetEdit TweetPlace TweetPolicy TweetRow TweetTables TwitterUser UserTables
  Version VersionColumns versionKey)

/-! ## A statement in two runs -/

section Independent

variable {π α β σ γ : Type}

/-- A statement decides what is in the scope by what is in the scope. -/
structure Independent (run : π → List α → σ → Except String (β × σ)) (contexts : π → π → Prop)
    (valid : List α → Prop) (scope : α → Prop) (sound : σ → Prop) (agree : σ → σ → Prop)
    (answer : β → α → γ) : Prop where
  contexts_refl : ∀ context, contexts context context
  valid_nil : valid []
  equivalence : Equivalence agree
  empty : ∀ context state, ∃ answers, run context [] state = .ok (answers, state)
  both : ∀ {context context' rows rows' state state' answers answers' after after'},
    contexts context context' → valid rows → valid rows' → AgreeOn scope rows rows' →
    sound state → sound state' → agree state state' →
    run context rows state = .ok (answers, after) →
    run context' rows' state' = .ok (answers', after') →
    agree after after' ∧ sound after ∧
      ∀ row ∈ rows, scope row → answer answers row = answer answers' row

variable {run : π → List α → σ → Except String (β × σ)} {contexts : π → π → Prop}
  {valid : List α → Prop} {scope : α → Prop} {sound : σ → Prop} {agree : σ → σ → Prop}
  {answer : β → α → γ}

/-- Rows outside the scope change nothing in it. -/
theorem Independent.outside (independent : Independent run contexts valid scope sound agree answer)
    {context : π} {rows : List α} {state after : σ} {answers : β} (isValid : valid rows)
    (outside : ∀ row ∈ rows, ¬ scope row) (isSound : sound state)
    (ran : run context rows state = .ok (answers, after)) : agree after state ∧ sound after := by
  obtain ⟨none, ranEmpty⟩ := independent.empty context state
  have nothing : AgreeOn scope rows [] := by
    intro row inside
    constructor
    · exact fun member => absurd inside (outside row member)
    · exact fun member => absurd member List.not_mem_nil
  obtain ⟨agrees, stays, _⟩ := independent.both (independent.contexts_refl context) isValid
    independent.valid_nil nothing isSound isSound (independent.equivalence.refl state) ran ranEmpty
  exact ⟨agrees, stays⟩

end Independent

/-! ## Scopes -/

/-- The ids that are looked at. -/
structure Scope where
  user : Int → Prop
  tweet : Int → Prop
  media : Int → Prop
  place : String → Prop

def Scope.target (scope : Scope) (target : IndexTarget) : Prop :=
  match target.kind with
  | .user => scope.user target.id
  | .tweet => scope.tweet target.id

/-- The same database, if it refused nothing. -/
def Environment.accepting (env : Environment) : Environment := { env with refusals := .nothing }

/-! ## Tables -/

structure UsersAgree (scope : Scope) (tables tables' : UserTables) : Prop where
  users : AgreeOn (fun user : TwitterUser => scope.user user.id) tables.users.rows
    tables'.users.rows
  snapshots : AgreeOn (fun row : Tweet.UserSnapshot => scope.user row.subjectId)
    tables.snapshots.rows tables'.snapshots.rows
  queue : AgreeOn (fun row : IndexTask => scope.target row.target) tables.indexQueue.rows
    tables'.indexQueue.rows

structure MediaAgree (scope : Scope) (tables tables' : MediaTables) : Prop where
  media : AgreeOn (fun item : Tweet.Media => scope.media item.id) tables.media.rows
    tables'.media.rows
  resources : AgreeOn (fun row : Tweet.MediaResource => scope.media row.subjectId)
    tables.resources.rows tables'.resources.rows

structure TweetsAgree (scope : Scope) (tables tables' : TweetTables) : Prop where
  tweets : AgreeOn (fun tweet : TweetRow => scope.tweet tweet.id) tables.tweets.rows
    tables'.tweets.rows
  queue : AgreeOn (fun row : IndexTask => scope.target row.target) tables.indexQueue.rows
    tables'.indexQueue.rows

structure RefsAgree (scope : Scope) (tables tables' : RefTables) : Prop where
  media : AgreeOn (fun ref : Tweet.MediaRef => scope.tweet ref.tweetId) tables.media.rows
    tables'.media.rows
  mention : AgreeOn (fun ref : Tweet.MentionRef => scope.tweet ref.tweetId) tables.mention.rows
    tables'.mention.rows
  hashtag : AgreeOn (fun ref : Tweet.HashtagRef => scope.tweet ref.tweetId) tables.hashtag.rows
    tables'.hashtag.rows
  symbol : AgreeOn (fun ref : Tweet.SymbolRef => scope.tweet ref.tweetId) tables.symbol.rows
    tables'.symbol.rows

theorem equivalence_of_agreeOn {α σ : Type} {scope : α → Prop} (rows : σ → List α) :
    Equivalence fun state state' => AgreeOn scope (rows state) (rows state') :=
  ⟨fun _ => .refl _ _, .symm, .trans⟩

theorem equivalence_usersAgree (scope : Scope) : Equivalence (UsersAgree scope) where
  refl _ := ⟨.refl _ _, .refl _ _, .refl _ _⟩
  symm agree := ⟨agree.users.symm, agree.snapshots.symm, agree.queue.symm⟩
  trans first second := ⟨first.users.trans second.users, first.snapshots.trans second.snapshots,
    first.queue.trans second.queue⟩

theorem equivalence_mediaAgree (scope : Scope) : Equivalence (MediaAgree scope) where
  refl _ := ⟨.refl _ _, .refl _ _⟩
  symm agree := ⟨agree.media.symm, agree.resources.symm⟩
  trans first second := ⟨first.media.trans second.media, first.resources.trans second.resources⟩

theorem equivalence_tweetsAgree (scope : Scope) : Equivalence (TweetsAgree scope) where
  refl _ := ⟨.refl _ _, .refl _ _⟩
  symm agree := ⟨agree.tweets.symm, agree.queue.symm⟩
  trans first second := ⟨first.tweets.trans second.tweets, first.queue.trans second.queue⟩

theorem equivalence_refsAgree (scope : Scope) : Equivalence (RefsAgree scope) where
  refl _ := ⟨.refl _ _, .refl _ _, .refl _ _, .refl _ _⟩
  symm agree := ⟨agree.media.symm, agree.mention.symm, agree.hashtag.symm, agree.symbol.symm⟩
  trans first second := ⟨first.media.trans second.media, first.mention.trans second.mention,
    first.hashtag.trans second.hashtag, first.symbol.trans second.symbol⟩

section Statements

variable (env : Environment) (scope : Scope)

/-! ## Users -/

theorem contains_congr {κ : Type} [BEq κ] [LawfulBEq κ] {keys : κ → Prop}
    {changed changed' : List κ} (agree : AgreeOn keys changed changed') {key : κ}
    (inside : keys key) :
    changed.contains key = changed'.contains key := by
  rw [Bool.eq_iff_iff, List.contains_iff_mem, List.contains_iff_mem]
  exact agree key inside

variable {env} in
theorem insertUsersChanged_ok {users : List TwitterUser} {tables after : UserTables}
    {changed : List Int}
    (ran : env.accepting.insertUsersChanged users tables = .ok (changed, after)) :
    ∃ table queue,
      Tweet.writeTwitterUsers env.newId env.now users tables.users tables.indexQueue =
          some (changed, table, queue) ∧
        after = { tables with users := table, indexQueue := queue } := by
  have answered := send_eq_ok ran
  split at answered
  next => cases answered
  next written =>
    cases answered
    exact ⟨_, _, written, rfl⟩

theorem independent_users :
    Independent (fun _ : Unit => env.accepting.insertUsersChanged) Eq
      (DistinctBy TwitterUser.id) (fun user => scope.user user.id)
      (fun tables => FreshIds env.newId tables.indexQueue) (UsersAgree scope)
      (fun changed user => changed.contains user.id) where
  contexts_refl _ := rfl
  valid_nil := fun _ none => absurd none List.not_mem_nil
  equivalence := equivalence_usersAgree scope
  empty _ _ := ⟨[], rfl⟩
  both := by
    intro _ _ users users' tables tables' changed changed' after after' _ distinct distinct' alike
      fresh fresh' agree ran ran'
    obtain ⟨table, queue, written, rfl⟩ := insertUsersChanged_ok ran
    obtain ⟨table', queue', written', rfl⟩ := insertUsersChanged_ok ran'
    obtain ⟨agreeChanged, agreeUsers, agreeQueue, freshAfter⟩ :=
      @Tweet.writeTwitterUsers_agreeOn _ _ scope.target _ _ _ _ _ _ _ _ _ _ _ _ distinct distinct'
        alike agree.users fresh fresh' agree.queue written written'
    exact ⟨⟨agreeUsers, agree.snapshots, agreeQueue⟩, freshAfter,
      fun user _ inside => contains_congr agreeChanged inside⟩

/-! ## Versions -/

theorem keptRow_of_distinct {κ : Type} {input : List (Version κ)} {row : Version κ}
    (distinct : DistinctBy versionKey input) (member : row ∈ input) :
    Tweet.keptRow input row = row := by
  apply Tweet.keptRow_of_alone member
  intro other isOther clashes
  rw [Version.clash_iff] at clashes
  exact distinct other isOther row member (Prod.ext clashes.1 clashes.2)

/-- The row of `p_snapshots` that a snapshot becomes. -/
def snapshotVersion (snapshot : UserSnapshot) : Tweet.UserSnapshot := snapshot.payload.toVersion

variable {env scope} in
theorem hasUser_congr {tables tables' : UserTables} (agree : UsersAgree scope tables tables')
    {userId : Int} (inside : scope.user userId) :
    tables.hasUser userId = tables'.hasUser userId := by
  unfold UserTables.hasUser
  rw [find_congr agree.users inside]

variable {env scope} in
theorem hasMedia_congr {tables tables' : MediaTables} (agree : MediaAgree scope tables tables')
    {mediaId : Int} (inside : scope.media mediaId) :
    tables.hasMedia mediaId = tables'.hasMedia mediaId := by
  unfold MediaTables.hasMedia
  rw [find_congr agree.media inside]

variable {env} in
theorem appendUserSnapshotsIfChangedMany_ok {snapshots : List UserSnapshot}
    {tables after : UserTables} {statuses : List ((Int × Timestamp) × ConditionalWrite)}
    (ran : env.accepting.appendUserSnapshotsIfChangedMany snapshots tables =
      .ok (statuses, after)) :
    let appended := Tweet.appendIfChanged tables.hasUser (snapshots.map snapshotVersion)
      tables.snapshots
    ∃ answers queue, Search.enqueueTargets
        ((appended.inserted.map Version.subjectId).map fun id => ⟨.user, id⟩) true env.newId env.now
        tables.indexQueue = some (answers, queue) ∧
      after = { tables with snapshots := appended.table, indexQueue := queue } := by
  unfold Environment.appendUserSnapshotsIfChangedMany at ran
  have answered := send_eq_ok ran
  split at answered
  next => cases answered
  next written =>
    cases answered
    obtain ⟨⟨answers, queue⟩, queued, same⟩ := Option.map_eq_some_iff.mp written
    cases same
    rw [List.map_map] at queued
    simp only [List.map_map]
    exact ⟨answers, queue, queued, rfl⟩

/-- Where the keys of the snapshots differ each has the status of its own row. -/
theorem HasStatuses.lookup_snapshot {tables : UserTables} {snapshots : List UserSnapshot}
    {statuses : List ((Int × Timestamp) × ConditionalWrite)} {snapshot : UserSnapshot}
    (answered : HasStatuses snapshots (snapshotStatus tables snapshots) statuses)
    (distinct : DistinctBy (fun snapshot => (snapshot.userId, snapshot.recordedAt)) snapshots)
    (member : snapshot ∈ snapshots) :
    statuses.lookup (snapshot.userId, snapshot.recordedAt) =
      some (appendWrite (Tweet.appendStatus tables.hasUser (snapshots.map snapshotVersion)
        tables.snapshots (snapshotVersion snapshot))) := by
  have own := keptRow_of_distinct (DistinctBy.map distinct)
    (List.mem_map_of_mem (f := snapshotVersion) member)
  refine Eq.trans (answered.lookup member) ?_
  exact congrArg (fun row => some (appendWrite (Tweet.appendStatus tables.hasUser
    (snapshots.map snapshotVersion) tables.snapshots row))) own

theorem independent_snapshots :
    Independent (fun _ : Unit => env.accepting.appendUserSnapshotsIfChangedMany) Eq
      (DistinctBy fun snapshot => (snapshot.userId, snapshot.recordedAt))
      (fun snapshot => scope.user snapshot.userId)
      (fun tables => FreshIds env.newId tables.indexQueue) (UsersAgree scope)
      (fun statuses snapshot => statuses.lookup (snapshot.userId, snapshot.recordedAt)) where
  contexts_refl _ := rfl
  valid_nil := fun _ none => absurd none List.not_mem_nil
  equivalence := equivalence_usersAgree scope
  empty _ _ := ⟨[], rfl⟩
  both := by
    intro _ _ rows rows' tables tables' statuses statuses' after after' _ distinct distinct' alike
      fresh fresh' agree ran ran'
    have answered := hasStatuses_snapshots ran
    have answered' := hasStatuses_snapshots ran'
    obtain ⟨_, _, queued, rfl⟩ := appendUserSnapshotsIfChangedMany_ok ran
    obtain ⟨_, _, queued', rfl⟩ := appendUserSnapshotsIfChangedMany_ok ran'
    have keyed : ∀ {rows : List UserSnapshot},
        DistinctBy (fun snapshot => (snapshot.userId, snapshot.recordedAt)) rows →
        DistinctBy versionKey (rows.map snapshotVersion) := fun distinct => DistinctBy.map distinct
    have agreeRows : AgreeOn (fun row : Tweet.UserSnapshot => scope.user row.subjectId)
        (rows.map snapshotVersion) (rows'.map snapshotVersion) := alike.map fun _ inside => inside
    have sameUsers : ∀ userId, scope.user userId → tables.hasUser userId = tables'.hasUser userId :=
      fun userId inside => hasUser_congr agree inside
    obtain ⟨agreeInserted, agreeSnapshots, sameStatus⟩ := Tweet.appendIfChanged_agreeOn agreeRows
      (keyed distinct) (keyed distinct') sameUsers agree.snapshots
    have agreeChanged : AgreeOn (fun id => scope.target ⟨.user, id⟩)
        ((Tweet.appendIfChanged tables.hasUser (rows.map snapshotVersion)
          tables.snapshots).inserted.map Version.subjectId)
        ((Tweet.appendIfChanged tables'.hasUser (rows'.map snapshotVersion)
          tables'.snapshots).inserted.map Version.subjectId) :=
      agreeInserted.map fun _ inside => inside
    refine ⟨⟨agree.users, agreeSnapshots, ?_⟩, (Tweet.enqueueTargets_rows fresh queued).1, ?_⟩
    · exact Tweet.enqueueChanged_agreeOn agreeChanged fresh fresh' agree.queue queued queued'
    · intro snapshot member inside
      have member' := (alike snapshot inside).mp member
      rw [answered.lookup_snapshot distinct member, answered'.lookup_snapshot distinct' member']
      exact congrArg (fun status => some (appendWrite status)) (sameStatus _ inside)

/-! ### Statistics -/

theorem independent_stats {α κ : Type} [VersionColumns κ] [Observed α] (ids : Int → Prop)
    (version : α → Version κ)
    (keyed : ∀ item, ((version item).subjectId, (version item).recordedAt) =
      (Observed.id item, Observed.recordedAt item)) :
    Independent
      (fun (hasParent : Int → Bool) (rows : List α) table => (.ok
        ((Tweet.appendStatsIfChanged env.statsInterval hasParent (rows.map version) table).map
          statsWrites id) : Except String _))
      (fun hasParent hasParent' => ∀ id, ids id → hasParent id = hasParent' id)
      (DistinctBy fun item => (Observed.id item, Observed.recordedAt item))
      (fun item => ids (Observed.id item)) (fun _ => True)
      (fun table table' =>
        AgreeOn (fun row : Version κ => ids row.subjectId) table.rows table'.rows)
      (fun statuses item => statuses.lookup (Observed.id item, Observed.recordedAt item)) where
  contexts_refl _ _ _ := rfl
  valid_nil := fun _ none => absurd none List.not_mem_nil
  equivalence := equivalence_of_agreeOn Table.rows
  empty _ _ := ⟨[], rfl⟩
  both := by
    intro hasParent hasParent' rows rows' table table' statuses statuses' after after' parents
      distinct distinct' alike _ _ agree ran ran'
    cases ran
    cases ran'
    have subject : ∀ item, (version item).subjectId = Observed.id item :=
      fun item => congrArg Prod.fst (keyed item)
    have apart : ∀ {rows : List α},
        DistinctBy (fun item => (Observed.id item, Observed.recordedAt item)) rows →
        DistinctBy versionKey (rows.map version) := by
      intro rows distinct
      apply DistinctBy.map
      intro a inA b inB same
      exact distinct a inA b inB ((keyed a).symm.trans (same.trans (keyed b)))
    have agreeRows : AgreeOn (fun row : Version κ => ids row.subjectId) (rows.map version)
        (rows'.map version) := alike.map fun item inside => subject item ▸ inside
    obtain ⟨tables, sameStatus⟩ := @Tweet.appendStats_agreeOn ids _ _ _ _ _ _ _ _
      env.statsInterval agreeRows (apart distinct) (apart distinct') parents agree
    refine ⟨tables, trivial, fun item member inside => ?_⟩
    have found : ∀ (hasParent : Int → Bool) (table : Table (Version κ)) {rows : List α},
        DistinctBy (fun item => (Observed.id item, Observed.recordedAt item)) rows → item ∈ rows →
        (statsWrites (Tweet.appendStatsIfChanged env.statsInterval hasParent (rows.map version)
          table).1).lookup (Observed.id item, Observed.recordedAt item) =
          some (statsWrite (Tweet.statsStatus env.statsInterval hasParent table
            (Tweet.insertedStats env.statsInterval hasParent (rows.map version) table)
            (version item))) := by
      intro hasParent table rows distinct member
      refine Eq.trans ((hasStatuses_stats keyed).lookup member) ?_
      rw [statsWriteOf, keptRow_of_distinct (apart distinct) (List.mem_map_of_mem member)]
    have inside' : ids (version item).subjectId := (subject item).symm ▸ inside
    have first := found hasParent table distinct member
    have second := found hasParent' table' distinct' ((alike item inside).mp member)
    refine Eq.trans first (Eq.trans ?_ second.symm)
    exact congrArg (fun status => some (statsWrite status)) (sameStatus _ inside')

/-! ## Media -/

variable {env} in
theorem upsertMediaChanged_ok {media : List Media} {table after : Table Tweet.Media}
    {changed : List Int}
    (ran : env.accepting.upsertMediaChanged media table = .ok (changed, after)) :
    Tweet.writeMedia ⟨fun _ => true, fun _ => true⟩ (media.map Media.payload) table =
      some (changed, after) := by
  unfold Environment.upsertMediaChanged at ran
  have answered := send_eq_ok ran
  split at answered
  next => cases answered
  next written =>
    cases answered
    exact written

theorem independent_media :
    Independent (fun _ : Unit => env.accepting.upsertMediaChanged) Eq
      (DistinctBy Media.id) (fun item => scope.media item.id) (fun _ => True)
      (fun table table' => AgreeOn (fun item : Tweet.Media => scope.media item.id) table.rows
        table'.rows)
      (fun changed item => changed.contains item.id) where
  contexts_refl _ := rfl
  valid_nil := fun _ none => absurd none List.not_mem_nil
  equivalence := equivalence_of_agreeOn Table.rows
  empty _ _ := ⟨[], rfl⟩
  both := by
    intro _ _ rows rows' table table' changed changed' after after' _ distinct distinct' alike
      _ _ agree ran ran'
    have agreeRows : AgreeOn (fun item : MediaPayload => scope.media item.id)
        (rows.map Media.payload) (rows'.map Media.payload) := alike.map fun _ inside => inside
    have apart : ∀ {rows : List Media}, DistinctBy Media.id rows →
        DistinctBy MediaPayload.id (rows.map Media.payload) :=
      fun distinct => DistinctBy.map distinct
    obtain ⟨agreeChanged, agreeMedia⟩ := Tweet.writeMedia_agreeOn (apart distinct) (apart distinct')
      agreeRows agree (upsertMediaChanged_ok ran) (upsertMediaChanged_ok ran')
    exact ⟨agreeMedia, trivial, fun item _ inside => contains_congr agreeChanged inside⟩

theorem HasStatuses.lookup_resource {tables : MediaTables} {resources : List MediaResource}
    {statuses : List ((Int × Timestamp) × ConditionalWrite)} {resource : MediaResource}
    (answered : HasStatuses resources (resourceStatus tables resources) statuses)
    (distinct : DistinctBy (fun resource => (resource.mediaId, resource.recordedAt)) resources)
    (member : resource ∈ resources) :
    statuses.lookup (resource.mediaId, resource.recordedAt) =
      some (appendWrite (Tweet.appendStatus tables.hasMedia (resources.map MediaResource.payload)
        tables.resources resource.payload)) := by
  have own := keptRow_of_distinct (DistinctBy.map distinct)
    (List.mem_map_of_mem (f := MediaResource.payload) member)
  refine Eq.trans (answered.lookup member) ?_
  exact congrArg (fun row => some (appendWrite (Tweet.appendStatus tables.hasMedia
    (resources.map MediaResource.payload) tables.resources row))) own

theorem independent_mediaResources :
    Independent (fun _ : Unit => env.accepting.appendMediaResourcesIfChangedMany) Eq
      (DistinctBy fun resource => (resource.mediaId, resource.recordedAt))
      (fun resource => scope.media resource.mediaId) (fun _ => True) (MediaAgree scope)
      (fun statuses resource => statuses.lookup (resource.mediaId, resource.recordedAt)) where
  contexts_refl _ := rfl
  valid_nil := fun _ none => absurd none List.not_mem_nil
  equivalence := equivalence_mediaAgree scope
  empty _ _ := ⟨[], rfl⟩
  both := by
    intro _ _ rows rows' tables tables' statuses statuses' after after' _ distinct distinct' alike
      _ _ agree ran ran'
    have answered := hasStatuses_resources ran
    have answered' := hasStatuses_resources ran'
    cases ran
    cases ran'
    have keyed : ∀ {rows : List MediaResource},
        DistinctBy (fun resource => (resource.mediaId, resource.recordedAt)) rows →
        DistinctBy versionKey (rows.map MediaResource.payload) :=
      fun distinct => DistinctBy.map distinct
    have agreeRows : AgreeOn (fun row : Tweet.MediaResource => scope.media row.subjectId)
        (rows.map MediaResource.payload) (rows'.map MediaResource.payload) :=
      alike.map fun _ inside => inside
    have sameMedia : ∀ mediaId, scope.media mediaId →
        tables.hasMedia mediaId = tables'.hasMedia mediaId :=
      fun mediaId inside => hasMedia_congr agree inside
    obtain ⟨_, agreeResources, sameStatus⟩ := Tweet.appendIfChanged_agreeOn agreeRows
      (keyed distinct) (keyed distinct') sameMedia agree.resources
    refine ⟨⟨agree.media, agreeResources⟩, trivial, fun resource member inside => ?_⟩
    have member' := (alike resource inside).mp member
    rw [answered.lookup_resource distinct member, answered'.lookup_resource distinct' member']
    exact congrArg (fun status => some (appendWrite status)) (sameStatus _ inside)

variable {env} in
theorem accepted_enqueueTasks {tasks : List EnqueueTransferTask}
    {resources : Table Tweet.MediaResource} {table after : Table TransferTask}
    {statuses : List ((Int × Timestamp) × TransferEnqueueStatus)}
    (ran : env.accepting.enqueueTasks tasks resources table = .ok (statuses, after)) :
    Transfer.enqueueTasks env.choice env.now tasks resources table = some (statuses, after) := by
  unfold Environment.enqueueTasks at ran
  have answered := send_eq_ok ran
  split at answered
  next => cases answered
  next written =>
    cases answered
    exact written

theorem independent_tasks :
    Independent (fun resources tasks => env.accepting.enqueueTasks tasks resources)
      (fun resources resources' => AgreeOn (fun row : Tweet.MediaResource =>
        scope.media row.subjectId) resources.rows resources'.rows)
      (DistinctBy EnqueueTransferTask.mediaId) (fun task => scope.media task.mediaId)
      (fun _ => True)
      (fun table table' => AgreeOn (fun row : TransferTask => scope.media row.mediaId) table.rows
        table'.rows)
      (fun statuses task => statuses.lookup (task.mediaId, task.sourceRecordedAt)) where
  contexts_refl _ := .refl _ _
  valid_nil := fun _ none => absurd none List.not_mem_nil
  equivalence := equivalence_of_agreeOn Table.rows
  empty _ _ := ⟨[], rfl⟩
  both := by
    intro _ _ rows rows' table table' statuses statuses' after after' resources distinct distinct'
      alike _ _ agree ran ran'
    obtain ⟨tables, found⟩ := Transfer.enqueueTasks_agreeOn distinct distinct' alike resources agree
      (accepted_enqueueTasks ran) (accepted_enqueueTasks ran')
    refine ⟨tables, trivial, fun task member inside => ?_⟩
    obtain ⟨status, first, second⟩ := found task member inside
    rw [first, second]

/-! ## Tweets -/

variable {env} in
theorem upsertTweetPlacesChanged_ok {places : List TweetPlace} {table after : Table TweetPlace}
    {changed : List String}
    (ran : env.accepting.upsertTweetPlacesChanged places table = .ok (changed, after)) :
    Tweet.writeTweetPlaces ⟨fun _ => true, fun _ => true⟩ (places.map tweetPlacePayload) table =
      some (changed, after) := by
  unfold Environment.upsertTweetPlacesChanged at ran
  have answered := send_eq_ok ran
  split at answered
  next => cases answered
  next written =>
    cases answered
    exact written

theorem independent_places :
    Independent (fun _ : Unit => env.accepting.upsertTweetPlacesChanged) Eq
      (DistinctBy TweetPlace.id) (fun place => scope.place place.id) (fun _ => True)
      (fun table table' => AgreeOn (fun place : TweetPlace => scope.place place.id) table.rows
        table'.rows)
      (fun changed place => changed.contains place.id) where
  contexts_refl _ := rfl
  valid_nil := fun _ none => absurd none List.not_mem_nil
  equivalence := equivalence_of_agreeOn Table.rows
  empty _ _ := ⟨[], rfl⟩
  both := by
    intro _ _ rows rows' table table' changed changed' after after' _ distinct distinct' alike
      _ _ agree ran ran'
    have agreeRows : AgreeOn (fun place : TweetPlace => scope.place place.id)
        (rows.map tweetPlacePayload) (rows'.map tweetPlacePayload) :=
      alike.map fun _ inside => inside
    have apart : ∀ {rows : List TweetPlace}, DistinctBy TweetPlace.id rows →
        DistinctBy TweetPlace.id (rows.map tweetPlacePayload) :=
      fun distinct => DistinctBy.map distinct
    obtain ⟨agreeChanged, agreePlaces⟩ := Tweet.writeTweetPlaces_agreeOn (apart distinct)
      (apart distinct') agreeRows agree (upsertTweetPlacesChanged_ok ran)
      (upsertTweetPlacesChanged_ok ran')
    exact ⟨agreePlaces, trivial, fun place _ inside => contains_congr agreeChanged inside⟩

variable {env} in
theorem insertTweetsChanged_ok {hasUser : Int → Bool} {hasPlace : String → Bool}
    {tweets : List TweetRow} {tables after : TweetTables} {changed : List Int}
    (ran : env.accepting.insertTweetsChanged hasUser hasPlace tweets tables =
      .ok (changed, after)) :
    Tweet.writeTweets (Environment.tweetConstraints hasUser hasPlace) env.newId env.now
      (tweets.map tweetPayload) tables = some (changed, after) := by
  unfold Environment.insertTweetsChanged at ran
  have answered := send_eq_ok ran
  split at answered
  next => cases answered
  next written =>
    cases answered
    exact written

theorem independent_tweets :
    Independent
      (fun parents : (Int → Bool) × (String → Bool) =>
        env.accepting.insertTweetsChanged parents.1 parents.2)
      (fun _ _ => True) (DistinctBy TweetRow.id) (fun tweet => scope.tweet tweet.id)
      (fun tables => FreshIds env.newId tables.indexQueue) (TweetsAgree scope)
      (fun changed tweet => changed.contains tweet.id) where
  contexts_refl _ := trivial
  valid_nil := fun _ none => absurd none List.not_mem_nil
  equivalence := equivalence_tweetsAgree scope
  empty _ _ := ⟨[], rfl⟩
  both := by
    intro _ _ rows rows' tables tables' changed changed' after after' _ distinct distinct' alike
      fresh fresh' agree ran ran'
    have agreeRows : AgreeOn (fun tweet : TweetRow => scope.target ⟨.tweet, tweet.id⟩)
        (rows.map tweetPayload) (rows'.map tweetPayload) := alike.map fun _ inside => inside
    have apart : ∀ {rows : List TweetRow}, DistinctBy TweetRow.id rows →
        DistinctBy TweetRow.id (rows.map tweetPayload) := fun distinct => DistinctBy.map distinct
    have written := insertTweetsChanged_ok ran
    obtain ⟨agreeChanged, agreeTweets, agreeQueue⟩ := Tweet.writeTweets_agreeOn (apart distinct)
      (apart distinct') agreeRows agree.tweets fresh fresh' agree.queue written
      (insertTweetsChanged_ok ran')
    refine ⟨⟨agreeTweets, agreeQueue⟩, ?_, fun tweet _ inside => contains_congr agreeChanged inside⟩
    unfold Tweet.writeTweets at written
    obtain ⟨_, _, rest⟩ := Option.bind_eq_some_iff.mp written
    obtain ⟨_, queued, same⟩ := Option.map_eq_some_iff.mp rest
    cases same
    exact (Tweet.enqueueTargets_rows fresh queued).1

/-! ### Rows of a tweet -/

theorem independent_children {α π ρ : Type} [Row ρ Int] [DecidableEq ρ] {conflict : OnConflict ρ}
    (ids : Int → Prop) {tweetId : α → Int} {payload : α → π} {key : π → Int} {toRow : π → ρ}
    (sameId : ∀ item, key (payload item) = tweetId item)
    (sameKey : ∀ record, Row.key (toRow record) = key record)
    (settles : ∀ stored excluded, conflict.Settles stored excluded) :
    Independent
      (fun hasTweet (rows : List α) table => env.childWrites (Tweet.writeChildren conflict
        ⟨fun _ => true, fun _ => true⟩ hasTweet ((distinctOn key (rows.map payload)).map toRow)
        table))
      (fun hasTweet hasTweet' => ∀ id, ids id → hasTweet id = hasTweet' id)
      (DistinctBy tweetId) (fun item => ids (tweetId item)) (fun _ => True)
      (fun table table' => AgreeOn (fun row : ρ => ids (Row.key row)) table.rows table'.rows)
      (fun statuses item => statuses.lookup (tweetId item)) where
  contexts_refl _ _ _ := rfl
  valid_nil := fun _ none => absurd none List.not_mem_nil
  equivalence := equivalence_of_agreeOn Table.rows
  empty _ _ := ⟨[], rfl⟩
  both := by
    intro hasTweet hasTweet' rows rows' table table' statuses statuses' after after' parents
      distinct distinct' alike _ _ agree ran ran'
    have apart : ∀ {rows : List α},
        DistinctBy tweetId rows → DistinctBy key (rows.map payload) := by
      intro rows distinct
      apply DistinctBy.map
      intro a inA b inB same
      exact distinct a inA b inB ((sameId a).symm.trans (same.trans (sameId b)))
    have agreePayloads : AgreeOn (fun record => ids (key record)) (rows.map payload)
        (rows'.map payload) := alike.map fun item inside => sameId item ▸ inside
    have agreeRows : AgreeOn (fun row : ρ => ids (Row.key row))
        ((distinctOn key (rows.map payload)).map toRow)
        ((distinctOn key (rows'.map payload)).map toRow) :=
      (agreePayloads.distinctOn (apart distinct) (apart distinct')).map
        fun record inside => sameKey record ▸ inside
    have written : ∀ {hasTweet : Int → Bool} {rows : List α} {table after : Table ρ}
        {statuses : List (Int × ConditionalWrite)},
        env.childWrites (Tweet.writeChildren conflict ⟨fun _ => true, fun _ => true⟩ hasTweet
          ((distinctOn key (rows.map payload)).map toRow) table) = .ok (statuses, after) →
        ∃ statuses, Tweet.writeChildren conflict ⟨fun _ => true, fun _ => true⟩ hasTweet
          ((distinctOn key (rows.map payload)).map toRow) table = some (statuses, after) := by
      intro hasTweet rows table after statuses ran
      unfold Environment.childWrites at ran
      split at ran
      next => cases ran
      next isWritten =>
        cases ran
        exact ⟨_, isWritten⟩
    obtain ⟨_, isWritten⟩ := written ran
    obtain ⟨_, isWritten'⟩ := written ran'
    obtain ⟨tables, _⟩ := Tweet.writeChildren_agreeOn (Tweet.distinct_map sameKey _)
      (Tweet.distinct_map sameKey _) agreeRows parents agree isWritten isWritten'
    refine ⟨tables, trivial, fun item member inside => ?_⟩
    have found := @lookup_children env _ _ _ _ _ _ _ none _ _ _ _ _ _ sameKey settles ran _
      (List.mem_map_of_mem (f := payload) member)
    have found' := @lookup_children env _ _ _ _ _ _ _ none _ _ _ _ _ _ sameKey settles ran' _
      (List.mem_map_of_mem (f := payload) ((alike item inside).mp member))
    rw [sameId] at found found'
    rw [found, found', Tweet.rowStatus, Tweet.rowStatus, parents _ inside, find_congr agree inside,
      find_congr tables inside]

theorem independent_edits :
    Independent env.accepting.upsertTweetEditsWriteStatuses
      (fun hasTweet hasTweet' => ∀ id, scope.tweet id → hasTweet id = hasTweet' id)
      (DistinctBy TweetEdit.tweetId) (fun edit => scope.tweet edit.tweetId) (fun _ => True)
      (fun table table' => AgreeOn (fun edit : TweetEdit => scope.tweet edit.tweetId) table.rows
        table'.rows)
      (fun statuses edit => statuses.lookup edit.tweetId) :=
  independent_children env scope.tweet (fun _ => rfl) (fun _ => rfl) Tweet.TweetEdit.settles

theorem independent_policies :
    Independent env.accepting.upsertTweetPoliciesWriteStatuses
      (fun hasTweet hasTweet' => ∀ id, scope.tweet id → hasTweet id = hasTweet' id)
      (DistinctBy TweetPolicy.tweetId) (fun policy => scope.tweet policy.tweetId) (fun _ => True)
      (fun table table' =>
        AgreeOn (fun policy : TweetPolicy => scope.tweet policy.tweetId) table.rows table'.rows)
      (fun statuses policy => statuses.lookup policy.tweetId) :=
  independent_children env scope.tweet (fun _ => rfl) (fun _ => rfl) Tweet.TweetPolicy.settles

theorem independent_notes :
    Independent env.accepting.upsertTweetCommunityNotesWriteStatuses
      (fun hasTweet hasTweet' => ∀ id, scope.tweet id → hasTweet id = hasTweet' id)
      (DistinctBy TweetCommunityNote.tweetId) (fun note => scope.tweet note.tweetId) (fun _ => True)
      (fun table table' => AgreeOn (fun note : TweetCommunityNote => scope.tweet note.tweetId)
        table.rows table'.rows)
      (fun statuses note => statuses.lookup note.tweetId) := by
  have asChildren := @independent_children env _ _ _ _ _ TweetCommunityNote.onConflict scope.tweet
    TweetCommunityNote.tweetId tweetCommunityNotePayload TweetCommunityNote.tweetId id
    (fun _ => rfl) (fun _ => rfl) Tweet.TweetCommunityNote.settles
  simp only [List.map_id] at asChildren
  exact asChildren

/-! ### Relations -/

/-- Each tweet's relations are its own, and those of the scope name media of the scope. -/
structure RelationsApart (scope : Scope) (relations : List TweetRelations) : Prop where
  distinct : DistinctBy TweetRelations.tweetId relations
  mediaRefs : ∀ tweet ∈ relations, ∀ ref ∈ tweet.mediaRefs, ref.tweetId = tweet.tweetId
  mentionRefs : ∀ tweet ∈ relations, ∀ ref ∈ tweet.mentionRefs, ref.tweetId = tweet.tweetId
  hashtagRefs : ∀ tweet ∈ relations, ∀ ref ∈ tweet.hashtagRefs, ref.tweetId = tweet.tweetId
  symbolRefs : ∀ tweet ∈ relations, ∀ ref ∈ tweet.symbolRefs, ref.tweetId = tweet.tweetId
  media : ∀ tweet ∈ relations, scope.tweet tweet.tweetId → ∀ ref ∈ tweet.mediaRefs,
    scope.media ref.mediaId

theorem syncsAlike_of_relations {ρ : Type} [RefRow ρ] {ids : Int → Prop}
    {target target' : RefTarget ρ} {hasTweet hasTweet' : Int → Bool}
    {relations relations' : List TweetRelations} {refs : TweetRelations → List ρ}
    (alike : AgreeOn (fun tweet : TweetRelations => ids tweet.tweetId) relations relations')
    (own : ∀ tweet ∈ relations, ∀ ref ∈ refs tweet, RefRow.tweetId ref = tweet.tweetId)
    (own' : ∀ tweet ∈ relations', ∀ ref ∈ refs tweet, RefRow.tweetId ref = tweet.tweetId)
    (exist : ∀ tweetId, ids tweetId → hasTweet tweetId = hasTweet' tweetId)
    (accepted : ∀ tweet ∈ relations, ids tweet.tweetId → ∀ ref ∈ refs tweet,
      target.accepted ref = target'.accepted ref) :
    SyncsAlike ids target target' hasTweet hasTweet' (relations.map TweetRelations.tweetId)
      (relations'.map TweetRelations.tweetId) (relations.flatMap refs)
      (relations'.flatMap refs) where
  sameTweets tweetId inside := by
    have same : AgreeOn ids (relations.map TweetRelations.tweetId)
        (relations'.map TweetRelations.tweetId) := alike.map fun _ inside => inside
    exact same tweetId inside
  sameExist := exist
  sameRefs := by
    intro ref inside
    simp only [List.mem_flatMap]
    constructor
    · intro ⟨tweet, member, isRef⟩
      have tweetInside : ids tweet.tweetId := own tweet member ref isRef ▸ inside
      exact ⟨tweet, (alike tweet tweetInside).mp member, isRef⟩
    · intro ⟨tweet, member, isRef⟩
      have tweetInside : ids tweet.tweetId := own' tweet member ref isRef ▸ inside
      exact ⟨tweet, (alike tweet tweetInside).mpr member, isRef⟩
  sameAccepted := by
    intro ref member inside
    obtain ⟨tweet, isTweet, isRef⟩ := List.mem_flatMap.mp member
    have tweetInside : ids tweet.tweetId := own tweet isTweet ref isRef ▸ inside
    exact accepted tweet isTweet tweetInside ref isRef

/-- A sync of no tweet changes nothing. -/
theorem syncTweetRefs_nil {ρ : Type} [RefRow ρ] {target : RefTarget ρ} [DecidableEq ρ]
    {hasTweet : Int → Bool} {table : Table ρ} {order : Tweet.CteOrder} :
    Tweet.syncTweetRefs target hasTweet [] [] table order = .ok ([], table) := by
  have unchanged : ∀ tweetId, tweetId ∉ Tweet.changedTweets target hasTweet [] [] table := by
    intro tweetId changed
    have existing := (Tweet.mem_changedTweets.mp changed).1
    exact absurd (Tweet.mem_existingTweets.mp existing).1 List.not_mem_nil
  unfold Tweet.syncTweetRefs
  rw [replaceRefs_unchanged unchanged]
  rfl

/-- Of entries each under its own id, the one of an id is found. -/
theorem lookup_filterMap {β : Type} {entry : Int → Option (Int × β)} {ids : List Int} {key : Int}
    {value : β} (keyed : ∀ id found, entry id = some found → found.1 = id) (member : key ∈ ids)
    (isEntry : entry key = some (key, value)) :
    (ids.filterMap entry).lookup key = some value := by
  induction ids with
  | nil => cases member
  | cons first ids inductionHypothesis =>
    by_cases same : key = first
    · subst same
      rw [List.filterMap_cons_some isEntry, List.lookup_cons, beq_self_eq_true]
    · have later := (List.mem_cons.mp member).resolve_left same
      cases given : entry first with
      | none =>
        rw [List.filterMap_cons_none given]
        exact inductionHypothesis later
      | some other =>
        have otherKey : ¬ key = other.1 := by
          rw [keyed first other given]
          exact same
        rw [List.filterMap_cons_some given, List.lookup_cons, beq_eq_false_iff_ne.mpr otherKey]
        exact inductionHypothesis later

theorem lookup_joinStatuses {tweetIds : List Int} {tweetId : Int}
    {media mention hashtag symbol : List (Int × SyncStatus)} {status : RelationSyncStatuses}
    (named : tweetId ∈ tweetIds) (isMedia : media.lookup tweetId = some status.media)
    (isMention : mention.lookup tweetId = some status.mention)
    (isHashtag : hashtag.lookup tweetId = some status.hashtag)
    (isSymbol : symbol.lookup tweetId = some status.symbol) :
    (joinStatuses tweetIds media mention hashtag symbol).lookup tweetId = some status := by
  refine lookup_filterMap ?_ (List.mem_dedup.mpr named) ?_
  · intro id found isFound
    split at isFound
    · cases isFound
      rfl
    · cases isFound
  · simp only [isMedia, isMention, isHashtag, isSymbol]

variable {env} in
theorem syncTweetRelations_ok {hasTweet hasMedia : Int → Bool} {relations : List TweetRelations}
    {tables after : RefTables} {statuses : List (Int × RelationSyncStatuses)}
    (ran : env.accepting.syncTweetRelations hasTweet hasMedia relations tables =
      .ok (statuses, after)) :
    Submit.syncTweetRelations ⟨hasTweet, hasMedia, env.hashtag, env.symbol⟩ env.orders
      (relations.map TweetRelations.tweetId) (relations.flatMap TweetRelations.mediaRefs)
      (relations.flatMap TweetRelations.mentionRefs) (relations.flatMap TweetRelations.hashtagRefs)
      (relations.flatMap TweetRelations.symbolRefs) tables = .ok (statuses, after) := by
  unfold Environment.syncTweetRelations at ran
  have answered := send_eq_ok ran
  split at answered
  next => cases answered
  next synced =>
    cases answered
    exact synced

theorem independent_relations :
    Independent
      (fun parents : (Int → Bool) × (Int → Bool) =>
        env.accepting.syncTweetRelations parents.1 parents.2)
      (fun parents parents' => (∀ id, scope.tweet id → parents.1 id = parents'.1 id) ∧
        ∀ id, scope.media id → parents.2 id = parents'.2 id)
      (RelationsApart scope) (fun tweet => scope.tweet tweet.tweetId) (fun _ => True)
      (RefsAgree scope) (fun statuses tweet => statuses.lookup tweet.tweetId) where
  contexts_refl _ := ⟨fun _ _ => rfl, fun _ _ => rfl⟩
  valid_nil :=
    { distinct := fun _ none => absurd none List.not_mem_nil
      mediaRefs := fun _ none => absurd none List.not_mem_nil
      mentionRefs := fun _ none => absurd none List.not_mem_nil
      hashtagRefs := fun _ none => absurd none List.not_mem_nil
      symbolRefs := fun _ none => absurd none List.not_mem_nil
      media := fun _ none => absurd none List.not_mem_nil }
  equivalence := equivalence_refsAgree scope
  empty parents tables := by
    have synced := syncTweetRelations_ok_iff.mpr ⟨[], [], [], [],
      @syncTweetRefs_nil _ _ (Tweet.mediaTarget ⟨parents.1, parents.2, env.hashtag, env.symbol⟩) _
        parents.1 tables.media env.orders.media,
      @syncTweetRefs_nil _ _ Tweet.mentionTarget _ parents.1 tables.mention env.orders.mention,
      @syncTweetRefs_nil _ _ (Tweet.hashtagTarget ⟨parents.1, parents.2, env.hashtag, env.symbol⟩) _
        parents.1 tables.hashtag env.orders.hashtag,
      @syncTweetRefs_nil _ _ (Tweet.symbolTarget ⟨parents.1, parents.2, env.hashtag, env.symbol⟩) _
        parents.1 tables.symbol env.orders.symbol, rfl⟩
    refine ⟨[], ?_⟩
    unfold Environment.syncTweetRelations
    simp only [List.map_nil, List.flatMap_nil]
    show send none _ = _
    have synced' : syncTweetRelations ⟨parents.1, parents.2, env.accepting.hashtag,
      env.accepting.symbol⟩ env.accepting.orders [] [] [] [] [] tables = .ok ([], tables) := synced
    rw [synced']
    rfl
  both := by
    intro parents parents' rows rows' tables tables' statuses statuses' after after' same apart
      apart' alike _ _ agree ran ran'
    obtain ⟨media, mention, hashtag, symbol, inMedia, inMention, inHashtag, inSymbol, rfl⟩ :=
      syncTweetRelations_ok_iff.mp (syncTweetRelations_ok ran)
    obtain ⟨media', mention', hashtag', symbol', inMedia', inMention', inHashtag', inSymbol',
      rfl⟩ := syncTweetRelations_ok_iff.mp (syncTweetRelations_ok ran')
    obtain ⟨agreeMedia, foundMedia⟩ := Tweet.syncTweetRefs_agreeOn
      (syncsAlike_of_relations alike apart.mediaRefs apart'.mediaRefs same.1
        fun tweet member inside ref isRef =>
          same.2 ref.mediaId (apart.media tweet member inside ref isRef))
      agree.media inMedia inMedia'
    obtain ⟨agreeMention, foundMention⟩ := Tweet.syncTweetRefs_agreeOn
      (syncsAlike_of_relations alike apart.mentionRefs apart'.mentionRefs same.1
        fun _ _ _ _ _ => rfl)
      agree.mention inMention inMention'
    obtain ⟨agreeHashtag, foundHashtag⟩ := Tweet.syncTweetRefs_agreeOn
      (syncsAlike_of_relations alike apart.hashtagRefs apart'.hashtagRefs same.1
        fun _ _ _ _ _ => rfl)
      agree.hashtag inHashtag inHashtag'
    obtain ⟨agreeSymbol, foundSymbol⟩ := Tweet.syncTweetRefs_agreeOn
      (syncsAlike_of_relations alike apart.symbolRefs apart'.symbolRefs same.1
        fun _ _ _ _ _ => rfl)
      agree.symbol inSymbol inSymbol'
    refine ⟨⟨agreeMedia, agreeMention, agreeHashtag, agreeSymbol⟩, trivial,
      fun tweet member inside => ?_⟩
    have named : tweet.tweetId ∈ rows.map TweetRelations.tweetId := List.mem_map_of_mem member
    have named' : tweet.tweetId ∈ rows'.map TweetRelations.tweetId :=
      List.mem_map_of_mem ((alike tweet inside).mp member)
    obtain ⟨mediaStatus, isMedia, isMedia'⟩ := foundMedia _ inside named
    obtain ⟨mentionStatus, isMention, isMention'⟩ := foundMention _ inside named
    obtain ⟨hashtagStatus, isHashtag, isHashtag'⟩ := foundHashtag _ inside named
    obtain ⟨symbolStatus, isSymbol, isSymbol'⟩ := foundSymbol _ inside named
    let status : RelationSyncStatuses := ⟨mediaStatus, mentionStatus, hashtagStatus, symbolStatus⟩
    have found := @lookup_joinStatuses _ _ _ _ _ _ status named isMedia isMention isHashtag isSymbol
    have found' := @lookup_joinStatuses _ _ _ _ _ _ status named' isMedia' isMention' isHashtag'
      isSymbol'
    exact found.trans found'.symm

end Statements

end TweetDb.Submit
