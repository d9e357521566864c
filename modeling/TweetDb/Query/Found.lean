import TweetDb.Query.Ensured
import TweetDb.Query.Resubmit

/-! # Stored objects are found

A process that has served submit calls resolves whatever they have stored.  So
a query of a stored object fails on a time that cannot be read, and on nothing
else.
-/

namespace TweetDb.Query

open Fallible Json Relational Submit TweetModel Transition
open TweetDb.Tweet (TweetRow TwitterUser Version)

/-! ## What is stored is resolved -/

/-- Everything that the rows of a database refer to. -/
structure Known.ResolvesDatabase (known : Known) (db : Database) : Prop where
  userSnapshots : ∀ row ∈ db.userSnapshots.rows, known.Resolves (snapshotRefs row)
  media : ∀ row ∈ db.media.rows, known.Resolves (mediaRefs row)
  mediaResources : ∀ row ∈ db.mediaResources.rows, known.Resolves (resourceRefs row)
  tweetPlaces : ∀ row ∈ db.tweetPlaces.rows, known.Resolves (.ofEntries (tweetPlaceDicts row))
  tweets : ∀ row ∈ db.tweets.rows, known.Resolves (tweetRefs row)
  tweetPolicies : ∀ row ∈ db.tweetPolicies.rows, known.Resolves (.ofEntries (tweetPolicyDicts row))
  tweetCommunityNotes : ∀ row ∈ db.tweetCommunityNotes.rows, known.Resolves (noteRefs row)

theorem resolvesDatabase_empty (known : Known) : known.ResolvesDatabase .empty := by
  constructor <;> exact fun _ none => absurd none List.not_mem_nil

theorem Known.ResolvesDatabase.mono {known known' : Known} {db : Database}
    (resolves : known.ResolvesDatabase db) (grown : known.Extends known') :
    known'.ResolvesDatabase db where
  userSnapshots row member := (resolves.userSnapshots row member).mono grown
  media row member := (resolves.media row member).mono grown
  mediaResources row member := (resolves.mediaResources row member).mono grown
  tweetPlaces row member := (resolves.tweetPlaces row member).mono grown
  tweets row member := (resolves.tweets row member).mono grown
  tweetPolicies row member := (resolves.tweetPolicies row member).mono grown
  tweetCommunityNotes row member := (resolves.tweetCommunityNotes row member).mono grown

section Execute

variable {known : Known} {env : Environment} {prepared : PreparedSubmitBatch} {db : Database}

theorem snapshots_writeCombinedUserBatch {users authors : List (Indexed TwitterUser)}
    {tables : Tweet.UserTables} {userResults tweetResults : List ObjectResult} :
    (writeCombinedUserBatch env users authors tables userResults tweetResults).1.snapshots =
      tables.snapshots := by
  let kept (after : Tweet.UserTables) : Prop := after.snapshots = tables.snapshots
  have isKept : kept (writeCombinedUserBatch env users authors tables userResults
      tweetResults).1 := writeBatch_keeps rfl fun _ _ => snapshots_insertUsersChanged
  exact isKept

/-- A call that writes a resolved batch leaves only resolved rows. -/
theorem resolvesDatabase_executePreparedSubmit (resolves : known.ResolvesDatabase db)
    (batch : env.preloadSubmitBatchDicts prepared = .ok () → known.ResolvesBatch prepared) :
    known.ResolvesDatabase (executePreparedSubmit env prepared db).1 := by
  unfold executePreparedSubmit
  split
  next => exact resolves
  next preloaded =>
    have sent := batch preloaded
    constructor
    · refine forall_writeUserSnapshotsBatch ?_ sent.userSnapshots
      rw [snapshots_writeCombinedUserBatch]
      exact resolves.userSnapshots
    · show ∀ row ∈ (executeMedia env prepared _ _).tables.media.rows, _
      have sameMedia : (executeMedia env prepared ⟨db.media, db.mediaResources⟩
          db.transferTasks).tables.media = (writeMediaBatch env prepared.media db.media
            prepared.mediaResults).1 := media_writeMediaResourcesBatch
      rw [sameMedia]
      exact forall_writeMediaBatch resolves.media sent.media fun _ _ => .set_media
    · exact forall_writeMediaResourcesBatch resolves.mediaResources sent.mediaResources
    · exact forall_writeTweetPlacesBatch resolves.tweetPlaces sent.tweetPlaces
        fun _ _ => .set_place
    · refine forall_writeTweetsBatch resolves.tweets
        (fun item member _ => sent.tweets item member) ?_
      rintro old _ isStored ⟨item, member, rfl⟩
      exact isStored.set_tweet (sent.tweets item member)
    · exact forall_writeTweetPoliciesBatch resolves.tweetPolicies sent.tweetPolicies
        fun _ _ => .set_policy
    · exact forall_writeTweetCommunityNotesBatch resolves.tweetCommunityNotes
        sent.tweetCommunityNotes fun _ _ => .set_note

end Execute

/-! ## A process that serves calls -/

/-- What is stored, and which entries the dictionary of the process caches. -/
structure Process where
  stored : Stored
  caches : DictEntry → Bool

def Process.known (process : Process) : Known := ⟨process.caches, process.stored.lookups⟩

/-- What is cached after the statement of `ensure_many`, if it succeeds: the entries it was to find
or insert, too. -/
def cachedAfter (env : Environment) (prepared : PreparedSubmitBatch) (entry : DictEntry) : Bool :=
  match env.preloadSubmitBatchDicts prepared with
  | .ok () => env.cached entry || decide (entry ∈ ensured (preloadDicts prepared))
  | .error _ => env.cached entry

/-- A call of the process.  Its cache may get other entries as well: `refresh` reads them all. -/
structure Serves (before : Process) (call : SubmitCall) (after : Process) : Prop where
  submits : Submits before.stored call after.stored
  cached : call.env.cached = before.caches
  caches : ∀ entry, cachedAfter call.env call.prepared entry = true → after.caches entry = true

theorem Serves.extends {before after : Process} {call : SubmitCall}
    (serves : Serves before call after) : before.known.Extends after.known where
  caches entry known := by
    apply serves.caches
    have cached : call.env.cached entry = true := by rw [serves.cached, ← known, Process.known]
    unfold cachedAfter
    split <;> simp [cached]
  lookups := kept_run serves.submits.lookups

/-- One call keeps what is stored resolved. -/
theorem Serves.resolves {before after : Process} {call : SubmitCall}
    (serves : Serves before call after)
    (resolves : before.known.ResolvesDatabase before.stored.db) :
    after.known.ResolvesDatabase after.stored.db := by
  rw [serves.submits.db]
  refine resolvesDatabase_executePreparedSubmit (resolves.mono serves.extends) fun preloaded => ?_
  refine resolvesBatch_of_provenance provenance_collectBatch
    (answers_of_answered serves.submits.answered) fun entry isEnsured => ?_
  apply serves.caches
  simp [cachedAfter, preloaded, isEnsured]

theorem resolvesDatabase_of_run {initial : DictEntry → Bool} {calls : List SubmitCall}
    {process : Process} (run : Run Serves ⟨.empty, initial⟩ calls process) :
    process.known.ResolvesDatabase process.stored.db := by
  let isResolved (process : Process) : Prop := process.known.ResolvesDatabase process.stored.db
  have resolved : isResolved process :=
    run.invariant (fun _ _ _ resolves serves => serves.resolves resolves)
      (resolvesDatabase_empty _)
  exact resolved

/-! ## Times that are readable -/

section Decoded

variable {context : BuildContext} {label : String} {id : Int}

theorem decodeRow_of_readable {α : Type} {times : α → List Timestamp} {row : α}
    (areReadable : ∀ time ∈ times row, readable time = true) :
    context.decodeRow label id times row = .ok row := by
  have none : (times row).find? (fun time => !readable time) = none :=
    List.find?_eq_none.mpr fun time member => by simp [areReadable time member]
  unfold BuildContext.decodeRow
  rw [none]

theorem decodeOptional_of_readable {α : Type} {times : α → List Timestamp} {row : Option α}
    (areReadable : ∀ part ∈ row, ∀ time ∈ times part, readable time = true) :
    transpose (context.decodeRow label id times) row = .ok row := by
  cases row with
  | none => rfl
  | some row =>
    rw [transpose, decodeRow_of_readable (areReadable row rfl)]
    rfl

theorem decodeLatest_of_readable {κ : Type} {table : Table (Version κ)}
    (areReadable : ∀ row ∈ latest table id, readable row.recordedAt = true) :
    context.decodeLatest label table id = .ok (latest table id) :=
  decodeOptional_of_readable fun row isLatest => by simpa using areReadable row isLatest

end Decoded

/-- The newest version of a subject, if it has any, has a readable time. -/
def ReadableLatest {κ : Type} (table : Table (Version κ)) (id : Int) : Prop :=
  ∀ row ∈ latest table id, readable row.recordedAt = true

/-- The times that a query of the user reads. -/
structure ReadableUser (db : Database) (id : Int) (user : TwitterUser) : Prop where
  registeredAt : ∀ time ∈ user.registeredAt, readable time = true
  snapshot : ReadableLatest db.userSnapshots id
  stats : ReadableLatest db.userStats id

structure ReadableTweet (db : Database) (id : Int) (tweet : TweetRow) : Prop where
  publishedAt : readable tweet.publishedAt = true
  editableUntil : ∀ edit ∈ db.tweetEdits.find id, ∀ time ∈ edit.editableUntil,
    readable time = true
  stats : ReadableLatest db.tweetStats id

/-! ## Answers -/

theorem exists_found_iff {built : Except String Value} :
    (∃ data, QueryObject.answer built = .found data) ↔ ∃ value, built = .ok value := by
  constructor
  · rintro ⟨data, found⟩
    exact ⟨data, answer_eq_found found⟩
  · rintro ⟨value, rfl⟩
    exact ⟨value, rfl⟩

namespace BuildContext

variable {context : BuildContext} {db : Database} {id : Int}

/-- What the process of this context can resolve. -/
def known (context : BuildContext) : Known := ⟨context.dict.caches, context.lookups⟩

theorem served_of_resolves {refs : References} (resolves : context.known.Resolves refs) :
    Served (fun _ => True) context refs :=
  ⟨resolves.toHasRows, fun entry member => .inl (resolves.entries entry member)⟩

theorem queryUser_found_iff (resolves : context.known.ResolvesDatabase db) :
    (∃ data, context.queryUser db id = .found data) ↔
      ∃ user, db.users.find id = some user ∧ ReadableUser db id user := by
  unfold queryUser
  cases isStored : db.users.find id with
  | none => simp
  | some user =>
    simp only [exists_found_iff, Option.some.injEq, exists_eq_left']
    constructor
    · rintro ⟨value, built⟩
      obtain ⟨_, decoded, built⟩ := bind_eq_ok built
      obtain ⟨_, snapshot, built⟩ := bind_eq_ok built
      obtain ⟨_, stats, _⟩ := bind_eq_ok built
      have areReadable := (decodeRow_eq_ok decoded).2
      have snapshotReadable := decodeOptional_eq_ok snapshot
      have statsReadable := decodeOptional_eq_ok stats
      exact ⟨by simpa using areReadable, by simpa [ReadableLatest] using snapshotReadable.2,
        by simpa [ReadableLatest] using statsReadable.2⟩
    · intro areReadable
      have decoded : context.decodeRow "user" id (fun user => user.registeredAt.toList) user =
          .ok user := decodeRow_of_readable (by simpa using areReadable.registeredAt)
      rw [decoded, decodeLatest_of_readable areReadable.snapshot,
        decodeLatest_of_readable areReadable.stats]
      refine (spares_buildUserJson_of_served (served_of_resolves ?_) user _).exists_ok
      exact Known.resolves_ofOption.mpr fun snapshot isLatest =>
        resolves.userSnapshots snapshot (latest_mem isLatest).1

theorem queryTweet_found_iff (resolves : context.known.ResolvesDatabase db) :
    (∃ data, context.queryTweet db id = .found data) ↔
      ∃ tweet, db.tweets.find id = some tweet ∧ ReadableTweet db id tweet := by
  unfold queryTweet
  cases isStored : db.tweets.find id with
  | none => simp
  | some tweet =>
    simp only [exists_found_iff, Option.some.injEq, exists_eq_left']
    constructor
    · rintro ⟨value, built⟩
      obtain ⟨_, decoded, built⟩ := bind_eq_ok built
      obtain ⟨_, edit, built⟩ := bind_eq_ok built
      obtain ⟨_, stats, _⟩ := bind_eq_ok built
      have areReadable := (decodeRow_eq_ok decoded).2
      have editReadable := (decodeOptional_eq_ok edit).2
      have statsReadable := (decodeOptional_eq_ok stats).2
      exact ⟨by simpa using areReadable, by simpa using editReadable,
        by simpa [ReadableLatest] using statsReadable⟩
    · intro areReadable
      have decoded : context.decodeRow "tweet" id (fun tweet => [tweet.publishedAt]) tweet =
          .ok tweet := decodeRow_of_readable (by simpa using areReadable.publishedAt)
      have edit : transpose (context.decodeRow "tweet edit" id fun edit =>
          edit.editableUntil.toList) (db.tweetEdits.find id) = .ok (db.tweetEdits.find id) :=
        decodeOptional_of_readable (by simpa using areReadable.editableUntil)
      rw [decoded, edit, decodeLatest_of_readable areReadable.stats]
      refine (spares_buildTweetJson_of_served (served_of_resolves ?_) _ _ _).exists_ok
      simp only [tweetPartRefs, Known.resolves_append]
      refine ⟨⟨⟨resolves.tweets tweet (Table.mem_of_find isStored), ?_⟩, ?_⟩, ?_⟩ <;>
        refine Known.resolves_ofOption.mpr fun part isPart => ?_
      · obtain ⟨placeId, _, found⟩ := Option.bind_eq_some_iff.mp isPart
        exact resolves.tweetPlaces part (Table.mem_of_find found)
      · exact resolves.tweetPolicies part (Table.mem_of_find isPart)
      · exact resolves.tweetCommunityNotes part (Table.mem_of_find isPart)

theorem queryMedia_found_iff (resolves : context.known.ResolvesDatabase db) :
    (∃ data, context.queryMedia db id = .found data) ↔
      (db.media.find id).isSome = true ∧ ReadableLatest db.mediaResources id := by
  unfold queryMedia
  cases isStored : db.media.find id with
  | none => simp
  | some media =>
    simp only [exists_found_iff, Option.isSome_some, true_and]
    constructor
    · rintro ⟨value, built⟩
      obtain ⟨_, resource, _⟩ := bind_eq_ok built
      have resourceReadable := (decodeOptional_eq_ok resource).2
      simpa [ReadableLatest] using resourceReadable
    · intro areReadable
      rw [decodeLatest_of_readable areReadable]
      refine (spares_buildMediaJson (served_of_resolves ?_)).exists_ok
      refine Known.resolves_append.mpr ⟨resolves.media media (Table.mem_of_find isStored), ?_⟩
      exact Known.resolves_ofOption.mpr fun resource isLatest =>
        resolves.mediaResources resource (latest_mem isLatest).1

end BuildContext

/-- After any calls of a process, a query finds exactly what is stored with readable times: it
never fails on an entry, a hashtag, a symbol or a category. -/
theorem stored_objects_found {initial : DictEntry → Bool} {calls : List SubmitCall}
    {process : Process} (run : Run Serves ⟨.empty, initial⟩ calls process)
    {context : BuildContext} (same : context.known = process.known) (id : Int) :
    ((∃ data, context.queryUser process.stored.db id = .found data) ↔
      ∃ user, process.stored.db.users.find id = some user ∧
        ReadableUser process.stored.db id user) ∧
    ((∃ data, context.queryTweet process.stored.db id = .found data) ↔
      ∃ tweet, process.stored.db.tweets.find id = some tweet ∧
        ReadableTweet process.stored.db id tweet) ∧
    ((∃ data, context.queryMedia process.stored.db id = .found data) ↔
      (process.stored.db.media.find id).isSome = true ∧
        ReadableLatest process.stored.db.mediaResources id) := by
  have resolves := resolvesDatabase_of_run run
  rw [← same] at resolves
  exact ⟨BuildContext.queryUser_found_iff resolves, BuildContext.queryTweet_found_iff resolves,
    BuildContext.queryMedia_found_iff resolves⟩

/-! ### The media of a process that has just started -/

/-- The call of the media, sent when no entry is cached. -/
def coldCall : SubmitCall :=
  { firstCall with env := { plainEnvironment with cached := fun _ => false } }

def coldDb : Database := (executePreparedSubmit coldCall.env coldCall.prepared .empty).1

def coldProcess : Process := ⟨⟨coldDb, .empty⟩, cachedAfter coldCall.env coldCall.prepared⟩

theorem run_cold : Run Serves ⟨.empty, fun _ => false⟩ [coldCall] coldProcess := by
  have answered : LookupTables.empty.Answered coldCall.store := by
    constructor <;> intro _ _ _ _ answer found <;> cases answer <;> cases found
  have submits : Submits .empty coldCall ⟨coldDb, .empty⟩ :=
    ⟨by rw [coldDb, Stored.empty], .nil, answered⟩
  exact .single ⟨submits, rfl, fun _ => id⟩

/-- All three are found, and the media has a size with a mode. -/
theorem stored_objects_found_cold :
    Run Serves ⟨.empty, fun _ => false⟩ [coldCall] coldProcess ∧
      (∃ data, BuildContext.queryUser ⟨plainFormats, ⟨fun _ => 1, coldProcess.caches⟩, .empty⟩
        coldDb 5 = .found data) ∧
      (∃ data, BuildContext.queryTweet ⟨plainFormats, ⟨fun _ => 1, coldProcess.caches⟩, .empty⟩
        coldDb 1 = .found data) ∧
      ∃ data, BuildContext.queryMedia ⟨plainFormats, ⟨fun _ => 1, coldProcess.caches⟩, .empty⟩
        coldDb 7 = .found data := by
  have found := @stored_objects_found _ _ _ run_cold
    ⟨plainFormats, ⟨fun _ => 1, coldProcess.caches⟩, .empty⟩ rfl
  have noTimes : ∀ {κ : Type} {table : Table (Version κ)} {id : Int}, latest table id = none →
      ReadableLatest table id := by
    intro κ table id none row isLatest
    rw [none] at isLatest
    cases isLatest
  have user : ∃ user, coldDb.users.find 5 = some user ∧ ReadableUser coldDb 5 user := by
    refine ⟨⟨5, some 0⟩, rfl, ?_, noTimes rfl, noTimes rfl⟩
    simp [readable]
  have tweet : ∃ tweet, coldDb.tweets.find 1 = some tweet ∧ ReadableTweet coldDb 1 tweet := by
    refine ⟨_, rfl, rfl, ?_, noTimes rfl⟩
    intro edit isEdit
    have noEdit : coldDb.tweetEdits.find 1 = none := rfl
    rw [noEdit] at isEdit
    cases isEdit
  exact ⟨run_cold, (found 5).1.mpr user, (found 1).2.1.mpr tweet,
    (found 7).2.2.mpr ⟨rfl, noTimes rfl⟩⟩

end TweetDb.Query
