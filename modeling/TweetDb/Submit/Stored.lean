import TweetDb.Submit.Converted
import TweetDb.Submit.Execute
import TweetDb.Submit.Provenance
import TweetDb.Submit.Regroup
import TweetDb.Tweet.VersionHistory

/-! # What every stage keeps

The rows of a database that submit calls have written are valid, its tweets
have their authors, and the media of a tweet have different places.  A batch of
valid objects keeps it so, whatever of it the database refuses.
-/

namespace TweetDb.Submit

open Relational TweetModel
open TweetDb.Tweet (AppendStatus LeavesWanted MediaRef MediaTables RefTarget TweetCommunityNote
  TweetEdit TweetRow TweetStats TweetTables TwitterUser UserStats UserTables Version
  VersionColumns)

/-! ## Version tables -/

section Versions

variable {κ : Type} [VersionColumns κ] {hasParent : Int → Bool} {input : List (Version κ)}
  {table : Table (Version κ)} {holds : Version κ → Prop}

theorem forall_appendIfChanged (stored : ∀ row ∈ table.rows, holds row)
    (valid : ∀ row ∈ input, holds row) :
    ∀ row ∈ (Tweet.appendIfChanged hasParent input table).table.rows, holds row := by
  apply Table.forall_insertNew stored
  intro row member
  obtain ⟨classified, kept, rfl⟩ := List.mem_map.mp member
  obtain ⟨distinct, isDistinct, rfl⟩ := List.mem_map.mp (List.mem_of_mem_filter kept)
  exact valid _ (Tweet.mem_of_mem_distinctInput isDistinct)

theorem forall_appendStatsIfChanged {interval : Int} (stored : ∀ row ∈ table.rows, holds row)
    (valid : ∀ row ∈ input, holds row) :
    ∀ row ∈ (Tweet.appendStatsIfChanged interval hasParent input table).2.rows, holds row := by
  apply Table.forall_insertNew stored
  exact fun row member =>
    valid row (Tweet.mem_of_mem_distinctInput (List.mem_of_mem_filter member))

end Versions

/-! ## Stages -/

section Stages

variable {α β σ : Type} {indices : α → List Nat} {record : β → α → ObjectResult → ObjectResult}
  {fail : String → ObjectResult → ObjectResult} {entries : List α}
  {statement : Except String (β × σ)} {state : σ} {results : List ObjectResult}

/-- A stage leaves the state alone or has the one its statement answered with. -/
theorem writeBatch_state :
    (writeBatch indices record fail entries statement state results).1 = state ∨
      ∃ answers, statement = .ok (answers,
        (writeBatch indices record fail entries statement state results).1) := by
  unfold writeBatch
  split
  · exact .inl rfl
  · split
    next answers state' => exact .inr ⟨answers, rfl⟩
    next => exact .inl rfl

theorem send_eq_ok {refusal : Option String} {result : Except String α} {value : α}
    (sent : send refusal result = .ok value) : result = .ok value := by
  cases refusal with
  | none => exact sent
  | some error => cases sent

theorem writeBatch_keeps {holds : σ → Prop} (before : holds state)
    (after : ∀ answers state', statement = .ok (answers, state') → holds state') :
    holds (writeBatch indices record fail entries statement state results).1 := by
  rcases @writeBatch_state _ _ _ indices record fail entries statement state results with
    same | ⟨answers, done⟩
  · rw [same]
    exact before
  · exact after answers _ done

end Stages

/-! ## What a statement leaves alone -/

section Untouched

variable {env : Environment}

theorem snapshots_insertUsersChanged {users : List TwitterUser} {tables tables' : UserTables}
    {changed : List Int} (inserted : env.insertUsersChanged users tables = .ok (changed, tables')) :
    tables'.snapshots = tables.snapshots := by
  have written := send_eq_ok inserted
  split at written <;> cases written
  rfl

theorem users_appendUserSnapshots {snapshots : List UserSnapshot} {tables tables' : UserTables}
    {statuses : List ((Int × Timestamp) × ConditionalWrite)}
    (appended : env.appendUserSnapshotsIfChangedMany snapshots tables = .ok (statuses, tables')) :
    tables'.users = tables.users := by
  have written := send_eq_ok appended
  split at written
  next => cases written
  next wrote =>
    cases written
    obtain ⟨_, _, same⟩ := Option.map_eq_some_iff.mp wrote
    cases same
    rfl

theorem media_appendMediaResources {resources : List MediaResource} {tables tables' : MediaTables}
    {statuses : List ((Int × Timestamp) × ConditionalWrite)}
    (appended : env.appendMediaResourcesIfChangedMany resources tables = .ok (statuses, tables')) :
    tables'.media = tables.media := by
  cases send_eq_ok appended
  rfl

theorem users_writeUserSnapshotsBatch {items : List (Indexed UserSnapshot)} {tables : UserTables}
    {results : List ObjectResult} :
    (writeUserSnapshotsBatch env items tables results).1.users = tables.users := by
  let kept (after : UserTables) : Prop := after.users = tables.users
  have isKept : kept (writeUserSnapshotsBatch env items tables results).1 :=
    writeBatch_keeps rfl fun _ _ => users_appendUserSnapshots
  exact isKept

theorem media_writeMediaResourcesBatch {items : List (Indexed MediaResource)} {tables : MediaTables}
    {results : List ObjectResult} :
    (writeMediaResourcesBatch env items tables results).1.media = tables.media := by
  let kept (after : MediaTables) : Prop := after.media = tables.media
  have isKept : kept (writeMediaResourcesBatch env items tables results).1 :=
    writeBatch_keeps rfl fun _ _ => media_appendMediaResources
  exact isKept

end Untouched

/-! ## Rows of a stage -/

section Rows

variable {env : Environment} {results : List ObjectResult}

theorem forall_writeUserSnapshotsBatch {holds : Tweet.UserSnapshot → Prop}
    {items : List (Indexed UserSnapshot)} {tables : UserTables}
    (stored : ∀ row ∈ tables.snapshots.rows, holds row)
    (proposed : ∀ item ∈ items, holds item.value.payload.toVersion) :
    ∀ row ∈ (writeUserSnapshotsBatch env items tables results).1.snapshots.rows, holds row := by
  let all (after : UserTables) : Prop := ∀ row ∈ after.snapshots.rows, holds row
  have kept : all (writeUserSnapshotsBatch env items tables results).1 := by
    refine writeBatch_keeps stored fun answers after done => ?_
    have written := send_eq_ok done
    split at written
    next => cases written
    next statuses after' appended =>
      cases written
      obtain ⟨_, _, same⟩ := Option.map_eq_some_iff.mp appended
      cases same
      refine forall_appendIfChanged stored fun row member => ?_
      obtain ⟨payload, isPayload, rfl⟩ := List.mem_map.mp member
      obtain ⟨snapshot, isSnapshot, rfl⟩ := List.mem_map.mp isPayload
      obtain ⟨item, isItem, rfl⟩ := List.mem_map.mp isSnapshot
      exact proposed item isItem
  exact kept

theorem forall_writeMediaBatch {holds : Tweet.Media → Prop} {items : List (Indexed Media)}
    {table : Table Tweet.Media} (stored : ∀ row ∈ table.rows, holds row)
    (proposed : ∀ item ∈ items, holds item.value.payload.toRow)
    (merged : ∀ old row, holds old → holds row → holds (Tweet.Media.onConflict.set old row)) :
    ∀ row ∈ (writeMediaBatch env items table results).1.rows, holds row := by
  let all (after : Table Tweet.Media) : Prop := ∀ row ∈ after.rows, holds row
  have kept : all (writeMediaBatch env items table results).1 := by
    refine writeBatch_keeps stored fun answers after done => ?_
    have written := send_eq_ok done
    split at written
    next => cases written
    next wrote upserted =>
      cases written
      have isProposed : ∀ row ∈ (distinctOn Tweet.MediaPayload.id
          ((items.map Indexed.value).map Media.payload)).map Tweet.MediaPayload.toRow,
          holds row := by
        intro row member
        obtain ⟨payload, kept, rfl⟩ := List.mem_map.mp member
        obtain ⟨media, isMedia, rfl⟩ := List.mem_map.mp (mem_of_mem_distinctOn kept)
        obtain ⟨item, isItem, rfl⟩ := List.mem_map.mp isMedia
        exact proposed item isItem
      exact OnConflict.forall_upsert stored (fun row member _ _ => isProposed row member)
        (fun row member old isStored => merged old row isStored (isProposed row member)) upserted
  exact kept

theorem forall_writeMediaResourcesBatch {holds : Tweet.MediaResource → Prop}
    {items : List (Indexed MediaResource)} {tables : MediaTables}
    (stored : ∀ row ∈ tables.resources.rows, holds row)
    (proposed : ∀ item ∈ items, holds item.value.payload) :
    ∀ row ∈ (writeMediaResourcesBatch env items tables results).1.resources.rows, holds row := by
  let all (after : MediaTables) : Prop := ∀ row ∈ after.resources.rows, holds row
  have kept : all (writeMediaResourcesBatch env items tables results).1 := by
    refine writeBatch_keeps stored fun answers after done => ?_
    cases send_eq_ok done
    refine forall_appendIfChanged stored fun row member => ?_
    obtain ⟨resource, isResource, rfl⟩ := List.mem_map.mp member
    obtain ⟨item, isItem, rfl⟩ := List.mem_map.mp isResource
    exact proposed item isItem
  exact kept

theorem forall_dedupePlaces {items : List (Indexed Tweet.TweetPlace)}
    {holds : Tweet.TweetPlace → Prop} (each : ∀ item ∈ items, holds item.value) :
    ∀ entry ∈ dedupePlaces items, holds entry.value := by
  apply forall_foldl_addEntry
  · exact fun entry place _ kept _ => kept
  · simp
  · intro entry member
    obtain ⟨item, isItem, rfl⟩ := List.mem_map.mp member
    exact each item isItem

theorem forall_writeTweetPlacesBatch {holds : Tweet.TweetPlace → Prop}
    {items : List (Indexed Tweet.TweetPlace)} {table : Table Tweet.TweetPlace}
    (stored : ∀ row ∈ table.rows, holds row)
    (proposed : ∀ item ∈ items, holds (tweetPlacePayload item.value))
    (merged : ∀ old row, holds old → holds row →
      holds (Tweet.TweetPlace.onConflict.set old row)) :
    ∀ row ∈ (writeTweetPlacesBatch env items table results).1.rows, holds row := by
  let all (after : Table Tweet.TweetPlace) : Prop := ∀ row ∈ after.rows, holds row
  have deduped : ∀ entry ∈ dedupePlaces items, holds (tweetPlacePayload entry.value) :=
    @forall_dedupePlaces _ (fun place => holds (tweetPlacePayload place)) proposed
  have kept : all (writeTweetPlacesBatch env items table results).1 := by
    refine writeBatch_keeps stored fun answers after done => ?_
    have written := send_eq_ok done
    split at written
    next => cases written
    next wrote upserted =>
      cases written
      have isProposed : ∀ row ∈ distinctOn Tweet.TweetPlace.id
          (((dedupePlaces items).map DedupedPlace.value).map tweetPlacePayload), holds row := by
        intro row member
        obtain ⟨place, isPlace, rfl⟩ := List.mem_map.mp (mem_of_mem_distinctOn member)
        obtain ⟨entry, isEntry, rfl⟩ := List.mem_map.mp isPlace
        exact deduped entry isEntry
      exact OnConflict.forall_upsert stored (fun row member _ _ => isProposed row member)
        (fun row member old isStored => merged old row isStored (isProposed row member)) upserted
  exact kept

theorem forall_writeTweetsBatch {holds : TweetRow → Prop} {items : List (Indexed TweetRow)}
    {hasUser : Int → Bool} {hasPlace : String → Bool} {tables : TweetTables}
    (stored : ∀ row ∈ tables.tweets.rows, holds row)
    (proposed : ∀ item ∈ items, hasUser item.value.authorId = true →
      holds (tweetPayload item.value))
    (merged : ∀ old row, holds old → (∃ item ∈ items, row = tweetPayload item.value) →
      holds (TweetRow.onConflict.set old row)) :
    ∀ row ∈ (writeTweetsBatch env items hasUser hasPlace tables results).1.tweets.rows,
      holds row := by
  let all (after : TweetTables) : Prop := ∀ row ∈ after.tweets.rows, holds row
  have kept : all (writeTweetsBatch env items hasUser hasPlace tables results).1 := by
    refine writeBatch_keeps stored fun answers after done => ?_
    have written := send_eq_ok done
    split at written
    next => cases written
    next wrote writtenTweets =>
      cases written
      obtain ⟨⟨_, _⟩, upserted, queued⟩ := Option.bind_eq_some_iff.mp writtenTweets
      obtain ⟨_, _, same⟩ := Option.map_eq_some_iff.mp queued
      cases same
      have isItem : ∀ row ∈ distinctOn TweetRow.id ((items.map Indexed.value).map tweetPayload),
          ∃ item ∈ items, row = tweetPayload item.value := by
        intro row member
        obtain ⟨tweet, isTweet, rfl⟩ := List.mem_map.mp (mem_of_mem_distinctOn member)
        obtain ⟨item, isItem, rfl⟩ := List.mem_map.mp isTweet
        exact ⟨item, isItem, rfl⟩
      -- The references of a row that is let in include its author.
      refine OnConflict.forall_upsert stored (fun row member _ refers => ?_)
        (fun row member old isStored => merged old row isStored (isItem row member)) upserted
      obtain ⟨item, isItem, rfl⟩ := isItem row member
      simp only [Environment.tweetConstraints, Bool.and_eq_true] at refers
      exact proposed item isItem refers.1
  exact kept

/-- The statements over rows of a tweet. -/
theorem forall_childWrites {ρ : Type} [Row ρ Int] {conflict : OnConflict ρ}
    {constraints : Constraints ρ} {hasTweet : Int → Bool} {input : List ρ} {table after : Table ρ}
    {answers : List (Int × ConditionalWrite)} {holds : ρ → Prop}
    (stored : ∀ row ∈ table.rows, holds row) (proposed : ∀ row ∈ input, holds row)
    (merged : ∀ old row, holds old → holds row → holds (conflict.set old row))
    (written : env.childWrites (Tweet.writeChildren conflict constraints hasTweet input table) =
      .ok (answers, after)) : ∀ row ∈ after.rows, holds row := by
  unfold Environment.childWrites at written
  split at written
  next => cases written
  next wrote =>
    cases written
    obtain ⟨⟨_, _⟩, upserted, same⟩ := Option.map_eq_some_iff.mp wrote
    cases same
    have kept : ∀ row ∈ input.filter fun row => hasTweet (Row.key row), holds row :=
      fun row member => proposed row (List.mem_of_mem_filter member)
    exact OnConflict.forall_upsert stored (fun row member _ _ => kept row member)
      (fun row member old isStored => merged old row isStored (kept row member)) upserted

theorem forall_writeTweetPoliciesBatch {holds : Tweet.TweetPolicy → Prop}
    {items : List (Indexed Tweet.TweetPolicy)} {hasTweet : Int → Bool}
    {table : Table Tweet.TweetPolicy} (stored : ∀ row ∈ table.rows, holds row)
    (proposed : ∀ item ∈ items, holds (tweetPolicyPayload item.value).toRow)
    (merged : ∀ old row, holds old → holds row →
      holds (Tweet.TweetPolicy.onConflict.set old row)) :
    ∀ row ∈ (writeTweetPoliciesBatch env items hasTweet table results).1.rows, holds row := by
  let all (after : Table Tweet.TweetPolicy) : Prop := ∀ row ∈ after.rows, holds row
  have kept : all (writeTweetPoliciesBatch env items hasTweet table results).1 := by
    refine writeBatch_keeps stored fun answers after done => ?_
    refine forall_childWrites stored (fun row member => ?_) merged (send_eq_ok done)
    obtain ⟨payload, kept, rfl⟩ := List.mem_map.mp member
    obtain ⟨policy, isPolicy, rfl⟩ := List.mem_map.mp (mem_of_mem_distinctOn kept)
    obtain ⟨item, isItem, rfl⟩ := List.mem_map.mp isPolicy
    exact proposed item isItem
  exact kept

theorem forall_writeTweetCommunityNotesBatch {holds : TweetCommunityNote → Prop}
    {items : List (Indexed TweetCommunityNote)} {hasTweet : Int → Bool}
    {table : Table TweetCommunityNote} (stored : ∀ row ∈ table.rows, holds row)
    (proposed : ∀ item ∈ items, holds (tweetCommunityNotePayload item.value))
    (merged : ∀ old row, holds old → holds row →
      holds (Tweet.TweetCommunityNote.onConflict.set old row)) :
    ∀ row ∈ (writeTweetCommunityNotesBatch env items hasTweet table results).1.rows,
      holds row := by
  let all (after : Table TweetCommunityNote) : Prop := ∀ row ∈ after.rows, holds row
  have kept : all (writeTweetCommunityNotesBatch env items hasTweet table results).1 := by
    refine writeBatch_keeps stored fun answers after done => ?_
    refine forall_childWrites stored (fun row member => ?_) merged (send_eq_ok done)
    obtain ⟨note, isNote, rfl⟩ := List.mem_map.mp (mem_of_mem_distinctOn member)
    obtain ⟨item, isItem, rfl⟩ := List.mem_map.mp isNote
    exact proposed item isItem
  exact kept

end Rows

/-! ## The media of a tweet -/

/-- Each media of a tweet has a place of its own, and both fit their columns. -/
structure Ordered (refs : List MediaRef) : Prop where
  bounds : ∀ ref ∈ refs,
    Fits 64 ref.mediaId ∧ 0 ≤ ref.displayOrder ∧ ref.displayOrder < 2 ^ 15
  apart : ∀ a ∈ refs, ∀ b ∈ refs, a.tweetId = b.tweetId → a.displayOrder = b.displayOrder → a = b

theorem Ordered.sync {target : RefTarget MediaRef} {tweetExists : Int → Bool}
    {tweetIds : List Int} {refs : List MediaRef} {table table' : Table MediaRef}
    (stored : Ordered table.rows) (wanted : Ordered refs)
    (leaves : LeavesWanted target tweetExists tweetIds refs table table') :
    Ordered table'.rows := by
  -- The refs of one tweet are all wanted or all old.
  constructor
  · intro ref member
    have left := (leaves ref).mp member
    split at left
    · exact wanted.bounds ref left.1
    · exact stored.bounds ref left
  · intro a memberA b memberB sameTweet sameOrder
    have leftA := (leaves a).mp memberA
    have leftB := (leaves b).mp memberB
    have sameId : Tweet.RefRow.tweetId a = Tweet.RefRow.tweetId b := sameTweet
    rw [sameId] at leftA
    split at leftA
    next synced =>
      rw [if_pos synced] at leftB
      exact wanted.apart a leftA.1 b leftB.1 sameTweet sameOrder
    next other =>
      rw [if_neg other] at leftB
      exact stored.apart a leftA b leftB sameTweet sameOrder

/-- The loop gives each media its index. -/
theorem ordered_convertMediaRefs {tweetId : Int} {mediaIds : List String} {refs : List MediaRef}
    (ran : convertMediaRefs tweetId mediaIds = .ok refs) :
    Ordered refs ∧ ∀ ref ∈ refs, ref.tweetId = tweetId := by
  have each : ∀ ref ∈ refs, ∃ mediaId index, (mediaId, index) ∈ mediaIds.zipIdx ∧ index < 2 ^ 15 ∧
      ref.tweetId = tweetId ∧ ref.displayOrder = (index : Int) ∧
      parseI64Id mediaId "tweet.content.mediaIds" = .ok ref.mediaId := by
    intro ref member
    obtain ⟨⟨mediaId, index⟩, isItem, ran⟩ := exists_of_forall₂ (mapM_eq_ok.mp ran) member
    obtain ⟨parsed, isParsed, ran⟩ := bind_eq_ok ran
    split at ran
    next small =>
      cases ran
      exact ⟨mediaId, index, isItem, small, rfl, rfl, isParsed⟩
    next => cases ran
  refine ⟨⟨fun ref member => ?_, fun a memberA b memberB _ sameOrder => ?_⟩, fun ref member => ?_⟩
  · obtain ⟨_, index, _, small, _, isIndex, isParsed⟩ := each ref member
    refine ⟨fits_of_parseI64Id isParsed, ?_⟩
    rw [isIndex]
    omega
  · obtain ⟨textA, indexA, itemA, _, tweetA, orderA, parsedA⟩ := each a memberA
    obtain ⟨textB, indexB, itemB, _, tweetB, orderB, parsedB⟩ := each b memberB
    have sameIndex : indexA = indexB := by omega
    rw [List.mem_zipIdx_iff_getElem?] at itemA itemB
    rw [sameIndex, itemB, Option.some.injEq] at itemA
    have sameText : textB = textA := itemA
    rw [sameText, parsedA, Except.ok.injEq] at parsedB
    obtain ⟨_, _, _⟩ := a
    obtain ⟨_, _, _⟩ := b
    simp_all
  · obtain ⟨_, _, _, _, isTweet, _, _⟩ := each ref member
    exact isTweet

theorem ordered_convertTweet {store : LookupStore} {lookupIds : Option SubmitLookupIds}
    {tweetId authorId : Int} {placeId : Option String} {value : SubmitTweet} {now : OffsetDateTime}
    {converted : ConvertedTweet}
    (ran : convertTweet store lookupIds tweetId authorId placeId value now = .ok converted) :
    Ordered converted.mediaRefs ∧ ∀ ref ∈ converted.mediaRefs, ref.tweetId = tweetId := by
  obtain ⟨_, _, _, _, mediaRefs, areRefs, areDistinct⟩ := convertTweet_ok ran
  rw [areDistinct]
  obtain ⟨ordered, isTweet⟩ := ordered_convertMediaRefs areRefs
  have kept : ∀ ref ∈ distinctOn MediaRef.mediaId mediaRefs, ref ∈ mediaRefs :=
    fun ref => mem_of_mem_distinctOn
  exact ⟨⟨fun ref member => ordered.bounds ref (kept ref member),
    fun a memberA b memberB => ordered.apart a (kept a memberA) b (kept b memberB)⟩,
    fun ref member => isTweet ref (kept ref member)⟩

/-! ## Valid batches -/

structure PreparedSubmitBatch.Valid (prepared : PreparedSubmitBatch) : Prop where
  users : ∀ item ∈ prepared.users, Fits 64 item.value.id
  tweetAuthors : ∀ item ∈ prepared.tweetAuthors, Fits 64 item.value.id
  userSnapshots : ∀ item ∈ prepared.userSnapshots, item.value.payload.toVersion.content.Valid
  userStats : ∀ item ∈ prepared.userStats, item.value.toVersion.content.Valid
  media : ∀ item ∈ prepared.media, item.value.payload.toRow.Valid
  mediaResources : ∀ item ∈ prepared.mediaResources, item.value.payload.content.Valid
  tweets : ∀ item ∈ prepared.tweets, (tweetPayload item.value).Valid
  tweetEdits : ∀ item ∈ prepared.tweetEdits, item.value.Valid
  tweetCommunityNotes : ∀ item ∈ prepared.tweetCommunityNotes,
    (tweetCommunityNotePayload item.value).Valid
  tweetStats : ∀ item ∈ prepared.tweetStats, item.value.toVersion.content.Valid
  mediaRefs : Ordered ((prepared.tweetRelations.map Indexed.value).flatMap
    TweetRelations.mediaRefs)

section Prepared

variable {context : PrepareContext} {clocks : Clocks} {payload : SubmitTweetRequest}
  {index : Nat} {converted : ConvertedTweet}

theorem valid_of_convertedFrom (from_ : ConvertedFrom context clocks payload index converted) :
    converted.Valid := by
  obtain ⟨tweet, tweetId, authorId, ⟨taken, isAuthor⟩, ran⟩ := from_
  exact valid_of_convertTweet (fits_of_parseI64Id taken.isParsed) (fits_of_parseI64Id isAuthor) ran

/-- The tweet with an id is converted at one index only. -/
theorem eq_of_convertedFrom {index' : Nat} {converted' : ConvertedTweet}
    (first : ConvertedFrom context clocks payload index converted)
    (second : ConvertedFrom context clocks payload index' converted')
    (same : converted.tweet.id = converted'.tweet.id) : converted = converted' := by
  obtain ⟨tweet, tweetId, authorId, ⟨taken, isAuthor⟩, ran⟩ := first
  obtain ⟨tweet', tweetId', authorId', ⟨taken', isAuthor'⟩, ran'⟩ := second
  rw [(convertTweet_ok ran).1, (convertTweet_ok ran').1] at same
  subst same
  have sameIndex := taken.isLast.symm.trans taken'.isLast
  simp only [Option.some.injEq] at sameIndex
  subst sameIndex
  have sameTweet := taken.isItem.symm.trans taken'.isItem
  simp only [Option.some.injEq] at sameTweet
  subst sameTweet
  have sameAuthor := isAuthor.symm.trans isAuthor'
  simp only [Except.ok.injEq] at sameAuthor
  subst sameAuthor
  exact Except.ok.inj (ran.symm.trans ran')

theorem valid_of_provenance {prepared : PreparedSubmitBatch}
    (provenance : Provenance context clocks payload prepared) : prepared.Valid where
  users := by
    intro item member
    obtain ⟨user, userId, taken, isValue⟩ := (provenance.users item.index item.value).mp member
    rw [isValue]
    exact fits_of_parseI64Id taken.isParsed
  tweetAuthors := by
    intro item member
    obtain ⟨tweet, tweetId, authorId, ⟨_, isAuthor⟩, isValue⟩ :=
      (provenance.tweetAuthors item.index item.value).mp member
    rw [isValue]
    exact fits_of_parseI64Id isAuthor
  userSnapshots := by
    intro item member
    obtain ⟨user, userId, _, profile, _, ran⟩ :=
      (provenance.userSnapshots item.index item.value).mp member
    exact valid_of_convertUserSnapshot ran
  userStats := by
    intro item member
    obtain ⟨user, userId, _, stats, _, ran⟩ :=
      (provenance.userStats item.index item.value).mp member
    exact valid_of_convertUserStats ran
  media := by
    intro item member
    obtain ⟨media, mediaId, taken, ran⟩ := (provenance.media item.index item.value).mp member
    exact valid_of_convertMedia (fits_of_parseI64Id taken.isParsed) ran
  mediaResources := by
    intro item member
    obtain ⟨media, mediaId, _, ran⟩ :=
      (provenance.mediaResources item.index item.value).mp member
    exact valid_of_convertMediaResource ran
  tweets := by
    intro item member
    obtain ⟨converted, from_, isValue⟩ := (provenance.tweets item.index item.value).mp member
    exact isValue ▸ (valid_of_convertedFrom from_).tweet
  tweetEdits := by
    intro item member
    obtain ⟨converted, from_, isEdit⟩ := (provenance.tweetEdits item.index item.value).mp member
    exact (valid_of_convertedFrom from_).edit _ isEdit
  tweetCommunityNotes := by
    intro item member
    obtain ⟨converted, from_, isNote⟩ :=
      (provenance.tweetCommunityNotes item.index item.value).mp member
    exact (valid_of_convertedFrom from_).communityNote _ isNote
  tweetStats := by
    intro item member
    obtain ⟨converted, from_, areStats⟩ := (provenance.tweetStats item.index item.value).mp member
    exact (valid_of_convertedFrom from_).stats _ areStats
  mediaRefs := by
    -- a reference comes from the conversion of the tweet it names
    have each : ∀ ref ∈ (prepared.tweetRelations.map Indexed.value).flatMap
        TweetRelations.mediaRefs, ∃ index converted,
          ConvertedFrom context clocks payload index converted ∧ ref ∈ converted.mediaRefs ∧
            ref.tweetId = converted.tweet.id ∧ Ordered converted.mediaRefs := by
      intro ref member
      obtain ⟨relations, isValue, isRef⟩ := List.mem_flatMap.mp member
      obtain ⟨item, isItem, rfl⟩ := List.mem_map.mp isValue
      obtain ⟨converted, from_, same⟩ :=
        (provenance.tweetRelations item.index item.value).mp isItem
      obtain ⟨tweet, tweetId, authorId, _, ran⟩ := id from_
      obtain ⟨ordered, isTweet⟩ := ordered_convertTweet ran
      rw [← same] at isRef
      exact ⟨item.index, converted, from_, isRef,
        (isTweet ref isRef).trans (convertTweet_ok ran).1.symm, ordered⟩
    constructor
    · intro ref member
      obtain ⟨_, converted, _, isRef, _, ordered⟩ := each ref member
      exact ordered.bounds ref isRef
    · intro a memberA b memberB sameTweet sameOrder
      obtain ⟨_, convertedA, fromA, isRefA, tweetA, ordered⟩ := each a memberA
      obtain ⟨_, convertedB, fromB, isRefB, tweetB, _⟩ := each b memberB
      -- one tweet is converted once, so two of its references come from one conversion
      have same := eq_of_convertedFrom fromA fromB (by rw [← tweetA, ← tweetB, sameTweet])
      subst same
      exact ordered.apart a isRefA b isRefB sameTweet sameOrder

end Prepared

/-! ## Valid databases -/

structure Database.Valid (db : Database) : Prop where
  users : ∀ row ∈ db.users.rows, Fits 64 row.id
  userSnapshots : ∀ row ∈ db.userSnapshots.rows, row.content.Valid
  userStats : ∀ row ∈ db.userStats.rows, row.content.Valid
  media : ∀ row ∈ db.media.rows, row.Valid
  mediaResources : ∀ row ∈ db.mediaResources.rows, row.content.Valid
  tweets : ∀ row ∈ db.tweets.rows, row.Valid
  authors : ∀ row ∈ db.tweets.rows, (db.users.find row.authorId).isSome = true
  tweetEdits : ∀ row ∈ db.tweetEdits.rows, row.Valid
  tweetCommunityNotes : ∀ row ∈ db.tweetCommunityNotes.rows, row.Valid
  tweetStats : ∀ row ∈ db.tweetStats.rows, row.content.Valid
  mediaRefs : Ordered db.refs.media.rows

theorem valid_empty : Database.empty.Valid := by
  constructor
  case mediaRefs => exact ⟨fun _ none => absurd none List.not_mem_nil,
    fun _ none => absurd none List.not_mem_nil⟩
  all_goals exact fun _ none => absurd none List.not_mem_nil

/-- The users after their stage. -/
structure UsersKept (before after : UserTables) : Prop where
  fits : ∀ row ∈ after.users.rows, Fits 64 row.id
  stays : ∀ id, (before.users.find id).isSome = true → (after.users.find id).isSome = true
  snapshots : after.snapshots = before.snapshots

/-- The relations of a batch, in place of the ones its tweets had. -/
structure RelationsSynced (parents : Tweet.RefParents) (relations : List TweetRelations)
    (before after : RefTables) : Prop where
  media : LeavesWanted (Tweet.mediaTarget parents) parents.tweet
    (relations.map TweetRelations.tweetId) (relations.flatMap TweetRelations.mediaRefs)
    before.media after.media
  mention : LeavesWanted Tweet.mentionTarget parents.tweet
    (relations.map TweetRelations.tweetId) (relations.flatMap TweetRelations.mentionRefs)
    before.mention after.mention
  hashtag : LeavesWanted (Tweet.hashtagTarget parents) parents.tweet
    (relations.map TweetRelations.tweetId) (relations.flatMap TweetRelations.hashtagRefs)
    before.hashtag after.hashtag
  symbol : LeavesWanted (Tweet.symbolTarget parents) parents.tweet
    (relations.map TweetRelations.tweetId) (relations.flatMap TweetRelations.symbolRefs)
    before.symbol after.symbol

/-- The relations after their stage: as before, or those of the batch. -/
theorem relations_replacePreparedTweetRelations {env : Environment}
    {items : List (Indexed TweetRelations)} {hasTweet hasMedia : Int → Bool} {tables : RefTables}
    {results : List ObjectResult} :
    (replacePreparedTweetRelations env items hasTweet hasMedia tables results).1 = tables ∨
      RelationsSynced ⟨hasTweet, hasMedia, env.hashtag, env.symbol⟩ (items.map Indexed.value)
        tables (replacePreparedTweetRelations env items hasTweet hasMedia tables results).1 := by
  rcases writeBatch_state with same | ⟨answers, done⟩
  · exact .inl same
  · refine .inr ?_
    have synced := send_eq_ok done
    split at synced
    next => cases synced
    next ran =>
      cases synced
      obtain ⟨⟨_, media⟩, mediaSynced, ran⟩ := bind_eq_ok ran
      obtain ⟨⟨_, mention⟩, mentionSynced, ran⟩ := bind_eq_ok ran
      obtain ⟨⟨_, hashtag⟩, hashtagSynced, ran⟩ := bind_eq_ok ran
      obtain ⟨⟨_, symbol⟩, symbolSynced, result⟩ := map_eq_ok ran
      simp only [Prod.mk.injEq] at result
      obtain ⟨_, tablesEq⟩ := result
      have after : (replacePreparedTweetRelations env items hasTweet hasMedia tables results).1 =
          ⟨media, mention, hashtag, symbol⟩ := tablesEq.symm
      rw [after]
      exact ⟨(Tweet.syncTweetRefs_ok mediaSynced).2, (Tweet.syncTweetRefs_ok mentionSynced).2,
        (Tweet.syncTweetRefs_ok hashtagSynced).2, (Tweet.syncTweetRefs_ok symbolSynced).2⟩

section Execute

variable {env : Environment} {prepared : PreparedSubmitBatch} (valid : prepared.Valid)

include valid

theorem usersKept_writeCombinedUserBatch {tables : UserTables}
    {userResults tweetResults : List ObjectResult}
    (stored : ∀ row ∈ tables.users.rows, Fits 64 row.id) :
    UsersKept tables (writeCombinedUserBatch env prepared.users prepared.tweetAuthors tables
      userResults tweetResults).1 := by
  refine writeBatch_keeps ⟨stored, fun _ present => present, rfl⟩ fun answers after done => ?_
  have written := send_eq_ok done
  split at written
  next => cases written
  next changed users queue wrote =>
    cases written
    obtain ⟨⟨_, _⟩, upserted, queued⟩ := Option.bind_eq_some_iff.mp wrote
    obtain ⟨_, _, same⟩ := Option.map_eq_some_iff.mp queued
    cases same
    have fits : ∀ user ∈ Tweet.distinctUsers
        ((combineUsers prepared.users prepared.tweetAuthors).map CombinedUserWrite.value),
        Fits 64 user.id := by
      intro user member
      have inRecords := mem_orderBy.mp (mem_of_mem_distinctOn member)
      obtain ⟨entry, isEntry, rfl⟩ := List.mem_map.mp inRecords
      exact @forall_combineUsers _ _ (fun user => Fits 64 user.id) (fun _ _ _ fits _ => fits)
        valid.users valid.tweetAuthors entry isEntry
    exact ⟨OnConflict.forall_upsert stored (fun user member _ _ => fits user member)
      (fun user _ old holds => holds) upserted,
      fun id => OnConflict.find_isSome_upsert upserted, rfl⟩

theorem snapshots_writeUserSnapshotsBatch {tables : UserTables} {results : List ObjectResult}
    (stored : ∀ row ∈ tables.snapshots.rows, row.content.Valid) :
    (writeUserSnapshotsBatch env prepared.userSnapshots tables results).1.users = tables.users ∧
      ∀ row ∈ (writeUserSnapshotsBatch env prepared.userSnapshots tables results).1.snapshots.rows,
        row.content.Valid :=
  ⟨users_writeUserSnapshotsBatch, forall_writeUserSnapshotsBatch stored valid.userSnapshots⟩

theorem valid_writeUserStatsBatch {hasUser : Int → Bool}
    {table : Table (Version Tweet.UserStatsColumns)} {results : List ObjectResult}
    (stored : ∀ row ∈ table.rows, row.content.Valid) :
    ∀ row ∈ (writeUserStatsBatch env prepared.userStats hasUser table results).1.rows,
      row.content.Valid := by
  let holds (after : Table (Version Tweet.UserStatsColumns)) : Prop :=
    ∀ row ∈ after.rows, row.content.Valid
  have kept : holds (writeUserStatsBatch env prepared.userStats hasUser table results).1 := by
    refine writeBatch_keeps stored fun answers after done => ?_
    cases send_eq_ok done
    refine forall_appendStatsIfChanged stored fun row member => ?_
    obtain ⟨stats, isStats, rfl⟩ := List.mem_map.mp member
    obtain ⟨item, isItem, rfl⟩ := List.mem_map.mp isStats
    exact valid.userStats item isItem
  exact kept

theorem valid_writeMediaBatch {table : Table Tweet.Media} {results : List ObjectResult}
    (stored : ∀ row ∈ table.rows, row.Valid) :
    ∀ row ∈ (writeMediaBatch env prepared.media table results).1.rows, row.Valid :=
  forall_writeMediaBatch stored valid.media fun _ _ old new => old.set new

theorem valid_writeMediaResourcesBatch {tables : MediaTables} {results : List ObjectResult}
    (stored : ∀ row ∈ tables.resources.rows, row.content.Valid) :
    (writeMediaResourcesBatch env prepared.mediaResources tables results).1.media = tables.media ∧
      ∀ row ∈ (writeMediaResourcesBatch env prepared.mediaResources tables
        results).1.resources.rows, row.content.Valid :=
  ⟨media_writeMediaResourcesBatch, forall_writeMediaResourcesBatch stored valid.mediaResources⟩

theorem valid_writeTweetsBatch {hasUser : Int → Bool} {hasPlace : String → Bool}
    {tables : TweetTables} {results : List ObjectResult}
    (stored : ∀ row ∈ tables.tweets.rows, row.Valid ∧ hasUser row.authorId = true) :
    ∀ row ∈ (writeTweetsBatch env prepared.tweets hasUser hasPlace tables results).1.tweets.rows,
      row.Valid ∧ hasUser row.authorId = true := by
  refine forall_writeTweetsBatch stored
    (fun item member isUser => ⟨valid.tweets item member, isUser⟩) ?_
  rintro old _ isStored ⟨item, member, rfl⟩
  exact ⟨isStored.1.set (valid.tweets item member), isStored.2⟩

theorem valid_writeTweetEditsBatch {hasTweet : Int → Bool} {table : Table TweetEdit}
    {results : List ObjectResult} (stored : ∀ row ∈ table.rows, row.Valid) :
    ∀ row ∈ (writeTweetEditsBatch env prepared.tweetEdits hasTweet table results).1.rows,
      row.Valid := by
  let holds (after : Table TweetEdit) : Prop := ∀ row ∈ after.rows, row.Valid
  have kept : holds (writeTweetEditsBatch env prepared.tweetEdits hasTweet table results).1 := by
    refine writeBatch_keeps stored fun answers after done => ?_
    refine forall_childWrites stored (fun row member => ?_)
      (fun old row => Tweet.TweetEdit.Valid.set)
      (send_eq_ok done)
    obtain ⟨payload, kept, rfl⟩ := List.mem_map.mp member
    obtain ⟨edit, isEdit, rfl⟩ := List.mem_map.mp (mem_of_mem_distinctOn kept)
    obtain ⟨item, isItem, rfl⟩ := List.mem_map.mp isEdit
    exact valid.tweetEdits item isItem
  exact kept

theorem valid_writeTweetCommunityNotesBatch {hasTweet : Int → Bool}
    {table : Table TweetCommunityNote} {results : List ObjectResult}
    (stored : ∀ row ∈ table.rows, row.Valid) :
    ∀ row ∈ (writeTweetCommunityNotesBatch env prepared.tweetCommunityNotes hasTweet table
      results).1.rows, row.Valid :=
  forall_writeTweetCommunityNotesBatch stored valid.tweetCommunityNotes fun _ _ =>
    Tweet.TweetCommunityNote.Valid.set

theorem valid_writeTweetStatsBatch {hasTweet : Int → Bool}
    {table : Table (Version Tweet.TweetStatsColumns)} {results : List ObjectResult}
    (stored : ∀ row ∈ table.rows, row.content.Valid) :
    ∀ row ∈ (writeTweetStatsBatch env prepared.tweetStats hasTweet table results).1.rows,
      row.content.Valid := by
  let holds (after : Table (Version Tweet.TweetStatsColumns)) : Prop :=
    ∀ row ∈ after.rows, row.content.Valid
  have kept : holds (writeTweetStatsBatch env prepared.tweetStats hasTweet table results).1 := by
    refine writeBatch_keeps stored fun answers after done => ?_
    cases send_eq_ok done
    refine forall_appendStatsIfChanged stored fun row member => ?_
    obtain ⟨stats, isStats, rfl⟩ := List.mem_map.mp member
    obtain ⟨item, isItem, rfl⟩ := List.mem_map.mp isStats
    exact valid.tweetStats item isItem
  exact kept

theorem ordered_replacePreparedTweetRelations {hasTweet hasMedia : Int → Bool}
    {tables : RefTables} {results : List ObjectResult} (stored : Ordered tables.media.rows) :
    Ordered (replacePreparedTweetRelations env prepared.tweetRelations hasTweet hasMedia tables
      results).1.media.rows := by
  rcases @relations_replacePreparedTweetRelations env prepared.tweetRelations hasTweet hasMedia
    tables results with same | synced
  · rw [same]
    exact stored
  · exact stored.sync valid.mediaRefs synced.media

theorem valid_executeUsers {tables : UserTables} {userStats : Table (Version Tweet.UserStatsColumns)}
    (fits : ∀ row ∈ tables.users.rows, Fits 64 row.id)
    (snapshots : ∀ row ∈ tables.snapshots.rows, row.content.Valid)
    (stats : ∀ row ∈ userStats.rows, row.content.Valid) :
    let phase := executeUsers env prepared tables userStats
    (∀ row ∈ phase.tables.users.rows, Fits 64 row.id) ∧
      (∀ id, (tables.users.find id).isSome = true →
        (phase.tables.users.find id).isSome = true) ∧
      (∀ row ∈ phase.tables.snapshots.rows, row.content.Valid) ∧
      ∀ row ∈ phase.userStats.rows, row.content.Valid := by
  intro phase
  have users : UsersKept tables (writeCombinedUserBatch env prepared.users prepared.tweetAuthors
      tables prepared.userResults prepared.tweetResults).1 :=
    usersKept_writeCombinedUserBatch valid fits
  have appended : phase.tables.users = (writeCombinedUserBatch env prepared.users
      prepared.tweetAuthors tables prepared.userResults prepared.tweetResults).1.users ∧
        ∀ row ∈ phase.tables.snapshots.rows, row.content.Valid :=
    snapshots_writeUserSnapshotsBatch valid (by rw [users.snapshots]; exact snapshots)
  rw [appended.1]
  exact ⟨users.fits, users.stays, appended.2, valid_writeUserStatsBatch valid stats⟩

theorem valid_executeMedia {tables : MediaTables} {transferTasks : Table Transfer.TransferTask}
    (media : ∀ row ∈ tables.media.rows, row.Valid)
    (resources : ∀ row ∈ tables.resources.rows, row.content.Valid) :
    let phase := executeMedia env prepared tables transferTasks
    (∀ row ∈ phase.tables.media.rows, row.Valid) ∧
      ∀ row ∈ phase.tables.resources.rows, row.content.Valid := by
  intro phase
  have written : ∀ row ∈ (writeMediaBatch env prepared.media tables.media
      prepared.mediaResults).1.rows, row.Valid := valid_writeMediaBatch valid media
  have appended : phase.tables.media = (writeMediaBatch env prepared.media tables.media
      prepared.mediaResults).1 ∧ ∀ row ∈ phase.tables.resources.rows, row.content.Valid :=
    valid_writeMediaResourcesBatch valid resources
  rw [appended.1]
  exact ⟨written, appended.2⟩

/-- A call keeps the database valid. -/
theorem valid_executePreparedSubmit {db : Database} (stored : db.Valid) :
    (executePreparedSubmit env prepared db).1.Valid := by
  unfold executePreparedSubmit
  split
  next => exact stored
  next =>
    obtain ⟨fits, stays, snapshots, userStats⟩ :=
      @valid_executeUsers env prepared valid ⟨db.users, db.userSnapshots, db.indexQueue⟩ _
        stored.users stored.userSnapshots stored.userStats
    obtain ⟨media, resources⟩ := @valid_executeMedia env prepared valid
      ⟨db.media, db.mediaResources⟩ db.transferTasks stored.media stored.mediaResources
    have tweets := fun places results => @valid_writeTweetsBatch env prepared valid
      (executeUsers env prepared ⟨db.users, db.userSnapshots, db.indexQueue⟩
        db.userStats).tables.hasUser places ⟨db.tweets, (executeUsers env prepared
          ⟨db.users, db.userSnapshots, db.indexQueue⟩ db.userStats).tables.indexQueue⟩ results
      fun row member => ⟨stored.tweets row member, stays _ (stored.authors row member)⟩
    exact
      { users := fits
        userSnapshots := snapshots
        userStats := userStats
        media := media
        mediaResources := resources
        tweets := fun row member => (tweets _ _ row member).1
        authors := fun row member => (tweets _ _ row member).2
        tweetEdits := valid_writeTweetEditsBatch valid stored.tweetEdits
        tweetCommunityNotes :=
          valid_writeTweetCommunityNotesBatch valid stored.tweetCommunityNotes
        tweetStats := valid_writeTweetStatsBatch valid stored.tweetStats
        mediaRefs := ordered_replacePreparedTweetRelations valid stored.mediaRefs }

end Execute

/-! ## Authors -/

section Authors

variable {env : Environment} {prepared : PreparedSubmitBatch} {id : Int} {row : TweetRow}

theorem author_writeTweetsBatch {hasUser : Int → Bool} {hasPlace : String → Bool}
    {tables : TweetTables} {results : List ObjectResult}
    (stored : tables.tweets.find id = some row) :
    ∃ kept, (writeTweetsBatch env prepared.tweets hasUser hasPlace tables results).1.tweets.find
      id = some kept ∧ kept.authorId = row.authorId := by
  let holds (after : TweetTables) : Prop :=
    ∃ kept, after.tweets.find id = some kept ∧ kept.authorId = row.authorId
  have kept : holds (writeTweetsBatch env prepared.tweets hasUser hasPlace tables results).1 := by
    refine writeBatch_keeps ⟨row, stored, rfl⟩ fun answers after done => ?_
    have written := send_eq_ok done
    split at written
    next => cases written
    next wrote writtenTweets =>
      cases written
      obtain ⟨⟨_, _⟩, upserted, queued⟩ := Option.bind_eq_some_iff.mp writtenTweets
      obtain ⟨_, _, same⟩ := Option.map_eq_some_iff.mp queued
      cases same
      -- The update of the conflict does not set `author_id`.
      exact OnConflict.find_upsert_column (fun _ _ => rfl) upserted stored
  exact kept

/-- Whatever a call submits, a stored tweet stays and keeps its author. -/
theorem author_executePreparedSubmit {db : Database} (stored : db.tweets.find id = some row) :
    ∃ kept, (executePreparedSubmit env prepared db).1.tweets.find id = some kept ∧
      kept.authorId = row.authorId := by
  unfold executePreparedSubmit
  split
  next => exact ⟨row, stored, rfl⟩
  next => exact author_writeTweetsBatch stored

end Authors

end TweetDb.Submit
