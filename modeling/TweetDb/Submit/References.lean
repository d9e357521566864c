import TweetDb.Submit.Prepare
import TweetDb.Transition.Run

/-! # References of submitted texts

The tweet and relation stages of a submit call whose statements succeed.  The
row of a tweet keeps its first text, and its relations are those of the newest
submission: they describe the text that was submitted last, not the stored one.
-/

namespace TweetDb.Submit

open Relational Transition TweetModel
open TweetDb.Tweet (AnnotatedText ConstraintViolation CteOrder HashtagEntity HashtagRef
  LeavesWanted MediaRef MentionEntity MentionRef RefParents RefRow RefTarget SymbolEntity
  SymbolRef SyncStatus TweetRow TweetTables Wanted hashtagTarget mentionTarget symbolTarget
  syncTweetHashtagRefs syncTweetMediaRefs syncTweetMentionRefs syncTweetRefs syncTweetRefs_ok
  syncTweetSymbolRefs writeTweets)

/-! ## The four relations at once -/

structure RefTables where
  media : Table MediaRef
  mention : Table MentionRef
  hashtag : Table HashtagRef
  symbol : Table SymbolRef

structure RefOrders where
  media : CteOrder
  mention : CteOrder
  hashtag : CteOrder
  symbol : CteOrder
deriving DecidableEq, Repr

structure RelationSyncStatuses where
  media : SyncStatus
  mention : SyncStatus
  hashtag : SyncStatus
  symbol : SyncStatus
deriving DecidableEq, Repr

/-- `tweet.sync_tweet_relations`; the statuses are joined on the distinct tweet ids. -/
def syncTweetRelations (parents : RefParents) (orders : RefOrders) (tweetIds : List Int)
    (mediaRefs : List MediaRef) (mentionRefs : List MentionRef) (hashtagRefs : List HashtagRef)
    (symbolRefs : List SymbolRef) (tables : RefTables) :
    Except ConstraintViolation (List (Int × RelationSyncStatuses) × RefTables) :=
  (syncTweetMediaRefs parents orders.media tweetIds mediaRefs tables.media).bind fun media =>
  (syncTweetMentionRefs parents orders.mention tweetIds mentionRefs tables.mention).bind
    fun mention =>
  (syncTweetHashtagRefs parents orders.hashtag tweetIds hashtagRefs tables.hashtag).bind
    fun hashtag =>
  (syncTweetSymbolRefs parents orders.symbol tweetIds symbolRefs tables.symbol).map fun symbol =>
    (tweetIds.dedup.filterMap fun tweetId =>
      match media.1.lookup tweetId, mention.1.lookup tweetId, hashtag.1.lookup tweetId,
        symbol.1.lookup tweetId with
      | some media, some mention, some hashtag, some symbol =>
        some (tweetId, ⟨media, mention, hashtag, symbol⟩)
      | _, _, _, _ => none,
      ⟨media.2, mention.2, hashtag.2, symbol.2⟩)

/-! ## A call -/

structure ReferenceTables where
  tweets : TweetTables
  refs : RefTables

def ReferenceTables.empty : ReferenceTables :=
  ⟨⟨.empty, .empty⟩, ⟨.empty, .empty, .empty, .empty⟩⟩

/-- A call with what the database decides: the ids of the dictionaries, the constraints of the
tweet table, the parents of refs, the ids and times of new rows, and the order of CTEs. -/
structure TweetCall where
  payload : SubmitTweetRequest
  store : LookupStore
  parseUuid : String → Option Uuid
  clocks : Clocks
  constraints : Constraints TweetRow
  newId : Search.IndexTarget → Uuid
  now : Timestamp
  media : Int → Bool
  hashtag : Int → Bool
  symbol : Int → Bool
  orders : RefOrders

def TweetCall.prepared (call : TweetCall) : PreparedSubmitBatch :=
  prepareSubmitBatch call.store call.parseUuid call.clocks call.payload

/-- `insert_tweets_changed`, which sends nothing for an empty list. -/
def insertTweetsChanged (call : TweetCall) (tweets : List TweetRow) (tables : TweetTables) :
    Option (List Int × TweetTables) :=
  if tweets.isEmpty then some ([], tables)
  else writeTweets call.constraints call.newId call.now (tweets.map tweetPayload) tables

/-- The refs of `replace_prepared_tweet_relations`. -/
def replaceRelations (call : TweetCall) (relations : List TweetRelations) (tables : TweetTables)
    (refs : RefTables) : Except ConstraintViolation (List (Int × RelationSyncStatuses) × RefTables) :=
  if relations.isEmpty then .ok ([], refs)
  else
    syncTweetRelations
      ⟨fun tweetId => (tables.tweets.find tweetId).isSome, call.media, call.hashtag, call.symbol⟩
      call.orders (relations.map TweetRelations.tweetId)
      (relations.flatMap TweetRelations.mediaRefs) (relations.flatMap TweetRelations.mentionRefs)
      (relations.flatMap TweetRelations.hashtagRefs) (relations.flatMap TweetRelations.symbolRefs)
      refs

/-- `write_tweets_batch` and `replace_prepared_tweet_relations`, where both succeed. -/
def submitTweets (tables : ReferenceTables) (call : TweetCall) : Option ReferenceTables :=
  (insertTweetsChanged call (call.prepared.tweets.map Indexed.value) tables.tweets).bind
    fun (_, tweets) =>
      (replaceRelations call (call.prepared.tweetRelations.map Indexed.value) tweets
        tables.refs).toOption.map fun (_, refs) => ⟨tweets, refs⟩

/-! ## What texts refer to -/

def mentionedUsers (row : TweetRow) : List Int :=
  (refTexts row.legacyText row.noteText).flatMap fun text => text.mentions.map MentionEntity.userId

def usedHashtags (row : TweetRow) : List Int :=
  (refTexts row.legacyText row.noteText).flatMap fun text =>
    text.hashtags.map HashtagEntity.hashtagId

def usedSymbols (row : TweetRow) : List Int :=
  (refTexts row.legacyText row.noteText).flatMap fun text => text.symbols.map SymbolEntity.symbolId

/-- The tweets a call writes, as converted. -/
def TweetCall.submitted (call : TweetCall) : List TweetRow :=
  call.prepared.tweets.map Indexed.value

def submissionsOf (submitted : List TweetRow) (tweetId : Int) : List TweetRow :=
  submitted.filter fun row => decide (row.id = tweetId)

/-! ## The converted tweets of a call -/

/-- The converted tweets a call prepares. -/
def TweetCall.converted (call : TweetCall) : List ConvertedTweet :=
  (preparedTweets ⟨call.store, (resolveSubmitLookupIds call.store call.payload).toOption,
    call.parseUuid⟩ call.clocks call.payload).filterMap PreparedTweet.converted

theorem map_value_collect {α β : Type} (part : α → Option β) (items : List α) :
    (collect part items).map Indexed.value = items.filterMap part := by
  have from_ : ∀ start, ((items.zipIdx start).filterMap fun entry =>
      (part entry.1).map fun value => (⟨entry.2, value⟩ : Indexed β)).map Indexed.value =
        items.filterMap part := by
    induction items with
    | nil => exact fun _ => rfl
    | cons item items inductionHypothesis =>
      intro start
      rw [List.zipIdx_cons]
      cases present : part item with
      | none =>
        rw [List.filterMap_cons_none (by simp [present]), List.filterMap_cons_none present]
        exact inductionHypothesis (start + 1)
      | some value =>
        rw [List.filterMap_cons_some (by simp [present]; rfl), List.filterMap_cons_some present,
          List.map_cons, inductionHypothesis (start + 1)]
  exact from_ 0

theorem TweetCall.submitted_eq (call : TweetCall) :
    call.submitted = call.converted.map ConvertedTweet.tweet := by
  rw [TweetCall.submitted, TweetCall.converted, List.map_filterMap]
  exact map_value_collect (fun tweet : PreparedTweet => tweet.converted.map ConvertedTweet.tweet) _

theorem TweetCall.relations_eq (call : TweetCall) :
    call.prepared.tweetRelations.map Indexed.value =
      call.converted.map ConvertedTweet.relations := by
  rw [TweetCall.converted, List.map_filterMap]
  exact map_value_collect (fun tweet : PreparedTweet => tweet.converted.map ConvertedTweet.relations) _

/-- A tweet is converted only at the last index of its id. -/
theorem prepareTweet_converted {context : PrepareContext} {now : OffsetDateTime}
    {lastIndex : Int → Option Nat} {index : Nat} {tweet : SubmitTweet}
    {converted : ConvertedTweet}
    (prepared : (prepareTweet context now lastIndex index tweet).converted = some converted) :
    lastIndex converted.tweet.id = some index ∧
      ∃ authorId placeId, convertTweet context.store context.lookupIds converted.tweet.id authorId
        placeId tweet now = .ok converted := by
  unfold prepareTweet at prepared
  split at prepared
  next => cases prepared
  next tweetId _ =>
    split at prepared
    next => cases prepared
    next isLast =>
      split at prepared
      next => cases prepared
      next authorId _ =>
        simp only [preparedPart, Option.bind_some] at prepared
        cases ran : convertTweet context.store context.lookupIds tweetId authorId
            ((tweet.place.bind convertTweetPlace).map Tweet.TweetPlace.id) tweet now with
        | error error =>
          rw [ran] at prepared
          cases prepared
        | ok value =>
          rw [ran] at prepared
          cases prepared
          rw [(convertTweet_ok ran).1]
          exact ⟨Decidable.not_not.mp isLast, authorId, _, ran⟩

/-- No call converts two tweets with one id. -/
theorem TweetCall.converted_distinct (call : TweetCall) :
    (call.converted.map fun converted => converted.tweet.id).Nodup := by
  rw [TweetCall.converted, List.Nodup, List.pairwise_map, List.pairwise_filterMap, preparedTweets, List.pairwise_map]
  have indices : call.payload.tweets.zipIdx.Pairwise fun a b => a.2 ≠ b.2 := by
    rw [← List.pairwise_map (f := Prod.snd), List.zipIdx_map_snd]
    exact List.nodup_range'
  refine indices.imp fun {a b} different first isFirst second isSecond same => different ?_
  have atFirst := (prepareTweet_converted isFirst).1
  rw [same, (prepareTweet_converted isSecond).1] at atFirst
  exact (Option.some.inj atFirst).symm

theorem TweetCall.converted_refs {call : TweetCall} {converted : ConvertedTweet}
    (member : converted ∈ call.converted) :
    (∀ ref, ref ∈ converted.mentionRefs ↔
      ref.tweetId = converted.tweet.id ∧ ref.userId ∈ mentionedUsers converted.tweet) ∧
    (∀ ref, ref ∈ converted.hashtagRefs ↔
      ref.tweetId = converted.tweet.id ∧ ref.hashtagId ∈ usedHashtags converted.tweet) ∧
    ∀ ref, ref ∈ converted.symbolRefs ↔
      ref.tweetId = converted.tweet.id ∧ ref.symbolId ∈ usedSymbols converted.tweet := by
  obtain ⟨item, prepared, isConverted⟩ := List.mem_filterMap.mp member
  obtain ⟨⟨tweet, index⟩, _, rfl⟩ := List.mem_map.mp prepared
  obtain ⟨_, authorId, placeId, ran⟩ := prepareTweet_converted isConverted
  obtain ⟨_, mentions, hashtags, symbols, _⟩ := convertTweet_ok ran
  rw [mentions, hashtags, symbols]
  refine ⟨fun ref => ?_, fun ref => ?_, fun ref => ?_⟩
  · rw [mentionRefs, mem_collectRefs fun _ => rfl]
    obtain ⟨tweetId, refId⟩ := ref
    simp only [MentionRef.mk.injEq, and_true, mentionedUsers, eq_comm]
  · rw [hashtagRefs, mem_collectRefs fun _ => rfl]
    obtain ⟨tweetId, refId⟩ := ref
    simp only [HashtagRef.mk.injEq, and_true, usedHashtags, eq_comm]
  · rw [symbolRefs, mem_collectRefs fun _ => rfl]
    obtain ⟨tweetId, refId⟩ := ref
    simp only [SymbolRef.mk.injEq, and_true, usedSymbols, eq_comm]

/-! ## The stages -/

section Sync

variable {ρ : Type} [RefRow ρ] [DecidableEq ρ] {target : RefTarget ρ} {tweetExists : Int → Bool}
  {tweetIds : List Int} {refs : List ρ} {table table' : Table ρ} {order : CteOrder}

/-- The refs of a tweet are the ids that its texts refer to. -/
def Describes (ids : TweetRow → List Int) (table : Table ρ) (row : TweetRow) : Prop :=
  ∀ ref, RefRow.tweetId ref = row.id → (ref ∈ table.rows ↔ RefRow.refId ref ∈ ids row)

omit [DecidableEq ρ] in
/-- A sync replaces the refs of the converted tweets and of no others. -/
theorem refs_after_sync (ids : TweetRow → List Int) {converted : List ConvertedTweet}
    {refsOf : ConvertedTweet → List ρ}
    (lets : ∀ ref, target.accepted ref = true)
    (unordered : ∀ a b : ρ, RefRow.displayOrder a ≤ RefRow.displayOrder b)
    (distinct : (converted.map fun tweet => tweet.tweet.id).Nodup)
    (collected : ∀ tweet ∈ converted, ∀ ref, ref ∈ refsOf tweet ↔
      RefRow.tweetId ref = tweet.tweet.id ∧ RefRow.refId ref ∈ ids tweet.tweet)
    (stored : ∀ tweet ∈ converted, tweetExists tweet.tweet.id = true)
    (leaves : LeavesWanted target tweetExists (converted.map fun tweet => tweet.tweet.id)
      (converted.flatMap refsOf) table table') :
    (∀ tweet ∈ converted, Describes ids table' tweet.tweet) ∧
      ∀ row : TweetRow, (∀ tweet ∈ converted, tweet.tweet.id ≠ row.id) →
        Describes ids table row → Describes ids table' row := by
  constructor
  · intro tweet member ref isOf
    have synced := leaves ref
    rw [if_pos ⟨isOf ▸ List.mem_map.mpr ⟨tweet, member, rfl⟩, isOf ▸ stored tweet member⟩] at synced
    rw [synced]
    constructor
    · rintro ⟨present, _, _⟩
      obtain ⟨other, isConverted, inRefs⟩ := List.mem_flatMap.mp present
      obtain ⟨isOther, used⟩ := (collected other isConverted ref).mp inRefs
      -- The refs of a tweet were collected from that tweet only.
      have same : other = tweet :=
        List.inj_on_of_nodup_map distinct isConverted member (isOther.symm.trans isOf)
      exact same ▸ used
    · intro used
      exact ⟨List.mem_flatMap.mpr ⟨tweet, member, (collected tweet member ref).mpr ⟨isOf, used⟩⟩,
        lets ref, fun other _ _ => unordered ref other⟩
  · intro row absent described ref isOf
    have kept := leaves ref
    rw [if_neg] at kept
    · exact kept.trans (described ref isOf)
    · rintro ⟨named, _⟩
      obtain ⟨tweet, member, same⟩ := List.mem_map.mp named
      exact absent tweet member (same.trans isOf)

end Sync

section Stages

variable {call : TweetCall} {tables tables' : ReferenceTables}

/-- What a stored tweet is after a tweet with its id has been written. -/
def mergedTweet (stored : Option TweetRow) (submitted : TweetRow) : TweetRow :=
  stored.elim (tweetPayload submitted) fun stored =>
    TweetRow.onConflict.merge stored (tweetPayload submitted)

theorem find_insertTweetsChanged {tweets : List TweetRow} {before after : TweetTables}
    {changed : List Int} (distinct : (tweets.map TweetRow.id).Nodup)
    (written : insertTweetsChanged call tweets before = some (changed, after)) :
    (∀ tweet ∈ tweets, after.tweets.find tweet.id =
      some (mergedTweet (before.tweets.find tweet.id) tweet)) ∧
    ∀ id, (∀ tweet ∈ tweets, tweet.id ≠ id) → after.tweets.find id = before.tweets.find id := by
  unfold insertTweetsChanged at written
  split at written
  next empty =>
    cases written
    rw [List.isEmpty_iff.mp empty]
    exact ⟨fun tweet member => absurd member List.not_mem_nil, fun _ _ => rfl⟩
  next =>
    obtain ⟨⟨changed', table⟩, upserted, written⟩ := Option.bind_eq_some_iff.mp written
    obtain ⟨queued, _, result⟩ := Option.map_eq_some_iff.mp written
    cases result
    have payloadId : ∀ tweet : TweetRow, (tweetPayload tweet).id = tweet.id := fun _ => rfl
    have kept : ∀ record, record ∈ distinctOn TweetRow.id (tweets.map tweetPayload) ↔
        record ∈ tweets.map tweetPayload := by
      intro record
      apply mem_distinctOn_of_injective
      intro a memberA b memberB same
      obtain ⟨tweetA, inTweetsA, rfl⟩ := List.mem_map.mp memberA
      obtain ⟨tweetB, inTweetsB, rfl⟩ := List.mem_map.mp memberB
      rw [List.inj_on_of_nodup_map distinct inTweetsA inTweetsB same]
    obtain ⟨written, untouched⟩ := OnConflict.find_upsert (distinctOn_pairwise _ _) upserted
    constructor
    · intro tweet member
      exact written (tweetPayload tweet) ((kept _).mpr (List.mem_map_of_mem member))
    · intro id absent
      apply untouched
      intro record member
      obtain ⟨tweet, inTweets, rfl⟩ := List.mem_map.mp ((kept record).mp member)
      exact absent tweet inTweets

/-- The three relations that describe texts. -/
structure DescribedBy (refs : RefTables) (row : TweetRow) : Prop where
  mentions : Describes mentionedUsers refs.mention row
  hashtags : Describes usedHashtags refs.hashtag row
  symbols : Describes usedSymbols refs.symbol row

theorem replaceRelations_describes {tweets : TweetTables} {refs refs' : RefTables}
    {statuses : List (Int × RelationSyncStatuses)}
    (stored : ∀ tweet ∈ call.converted, (tweets.tweets.find tweet.tweet.id).isSome = true)
    (replaced : replaceRelations call (call.converted.map ConvertedTweet.relations) tweets refs =
      .ok (statuses, refs')) :
    (∀ tweet ∈ call.converted, DescribedBy refs' tweet.tweet) ∧
      ∀ row, (∀ tweet ∈ call.converted, tweet.tweet.id ≠ row.id) →
        DescribedBy refs row → DescribedBy refs' row := by
  unfold replaceRelations at replaced
  split at replaced
  next empty =>
    cases replaced
    rw [List.map_eq_nil_iff.mp (List.isEmpty_iff.mp empty)]
    exact ⟨fun tweet member => absurd member List.not_mem_nil, fun _ _ described => described⟩
  next =>
    obtain ⟨media, _, replaced⟩ := bind_eq_ok replaced
    obtain ⟨⟨_, mention⟩, mentionSynced, replaced⟩ := bind_eq_ok replaced
    obtain ⟨⟨_, hashtag⟩, hashtagSynced, replaced⟩ := bind_eq_ok replaced
    obtain ⟨⟨_, symbol⟩, symbolSynced, result⟩ := map_eq_ok replaced
    cases result
    simp only [List.map_map, List.flatMap_map] at mentionSynced hashtagSynced symbolSynced
    have refs := fun tweet member => @TweetCall.converted_refs call tweet member
    obtain ⟨mentions, keptMentions⟩ := refs_after_sync mentionedUsers (fun _ => rfl)
      (fun _ _ => le_refl _) call.converted_distinct (fun tweet member => (refs tweet member).1)
      stored (syncTweetRefs_ok mentionSynced).2
    obtain ⟨hashtags, keptHashtags⟩ := refs_after_sync usedHashtags (fun _ => rfl)
      (fun _ _ => le_refl _) call.converted_distinct (fun tweet member => (refs tweet member).2.1)
      stored (syncTweetRefs_ok hashtagSynced).2
    obtain ⟨symbols, keptSymbols⟩ := refs_after_sync usedSymbols (fun _ => rfl)
      (fun _ _ => le_refl _) call.converted_distinct (fun tweet member => (refs tweet member).2.2)
      stored (syncTweetRefs_ok symbolSynced).2
    exact ⟨fun tweet member => ⟨mentions tweet member, hashtags tweet member, symbols tweet member⟩,
      fun row absent described => ⟨keptMentions row absent described.mentions,
        keptHashtags row absent described.hashtags, keptSymbols row absent described.symbols⟩⟩

/-! ## Every sequence of calls -/

/-- What the calls so far have submitted decides the first text and the relations of a tweet. -/
structure FollowsSubmissions (submitted : List TweetRow) (tables : ReferenceTables) : Prop where
  unstored : ∀ id, tables.tweets.tweets.find id = none → submissionsOf submitted id = []
  stored : ∀ id row, tables.tweets.tweets.find id = some row → ∃ first last,
    (submissionsOf submitted id).head? = some first ∧
      row.legacyText = annotatedTextPayload first.legacyText ∧
      (submissionsOf submitted id).getLast? = some last ∧ DescribedBy tables.refs last

theorem merge_legacyText (stored excluded : TweetRow) :
    (TweetRow.onConflict.merge stored excluded).legacyText = stored.legacyText := by
  unfold OnConflict.merge
  split
  · rfl
  · rfl

theorem submissionsOf_append (before after : List TweetRow) (id : Int) :
    submissionsOf (before ++ after) id = submissionsOf before id ++ submissionsOf after id :=
  List.filter_append ..

theorem mem_submissionsOf {submitted : List TweetRow} {id : Int} {row : TweetRow} :
    row ∈ submissionsOf submitted id ↔ row ∈ submitted ∧ row.id = id := by
  simp [submissionsOf]

/-- A call submits an id at most once. -/
theorem submissionsOf_submitted {row : TweetRow} (member : row ∈ call.submitted) :
    submissionsOf call.submitted row.id = [row] := by
  have distinct : (call.submitted.map TweetRow.id).Nodup := by
    rw [call.submitted_eq, List.map_map]
    exact call.converted_distinct
  have only : ∀ other ∈ submissionsOf call.submitted row.id, other = row := by
    intro other isOther
    obtain ⟨present, same⟩ := mem_submissionsOf.mp isOther
    exact List.inj_on_of_nodup_map distinct present member same
  have once : (submissionsOf call.submitted row.id).Nodup :=
    (List.Nodup.of_map _ distinct).filter _
  have listed : row ∈ submissionsOf call.submitted row.id := mem_submissionsOf.mpr ⟨member, rfl⟩
  cases all : submissionsOf call.submitted row.id with
  | nil =>
    rw [all] at listed
    cases listed
  | cons first others =>
    rw [all] at only once
    have isRow : first = row := only first List.mem_cons_self
    have noOthers : others = [] := by
      rw [List.eq_nil_iff_forall_not_mem]
      intro other isOther
      have same : other = first :=
        (only other (List.mem_cons_of_mem _ isOther)).trans isRow.symm
      exact (List.nodup_cons.mp once).1 (same ▸ isOther)
    rw [isRow, noOthers]

theorem FollowsSubmissions.step {submitted : List TweetRow}
    (follows : FollowsSubmissions submitted tables)
    (taken : submitTweets tables call = some tables') :
    FollowsSubmissions (submitted ++ call.submitted) tables' := by
  obtain ⟨⟨changed, tweets⟩, written, taken⟩ := Option.bind_eq_some_iff.mp taken
  obtain ⟨⟨statuses, refs⟩, replaced, result⟩ := Option.map_eq_some_iff.mp taken
  cases result
  have distinct : (call.submitted.map TweetRow.id).Nodup := by
    rw [call.submitted_eq, List.map_map]
    exact call.converted_distinct
  obtain ⟨merged, untouched⟩ := find_insertTweetsChanged distinct written
  have inSubmitted : ∀ tweet ∈ call.converted, tweet.tweet ∈ call.submitted := by
    intro tweet member
    rw [call.submitted_eq]
    exact List.mem_map_of_mem member
  have replacedOk := toOption_eq_some replaced
  rw [call.relations_eq] at replacedOk
  obtain ⟨described, kept⟩ := replaceRelations_describes (fun tweet member => by
    rw [merged _ (inSubmitted tweet member)]
    rfl) replacedOk
  have absent : ∀ id, submissionsOf call.submitted id = [] →
      ∀ tweet ∈ call.submitted, tweet.id ≠ id := by
    intro id none tweet member same
    have present := mem_submissionsOf.mpr ⟨member, same⟩
    rw [none] at present
    cases present
  constructor
  · intro id missing
    rw [submissionsOf_append]
    by_cases again : ∃ tweet ∈ call.submitted, tweet.id = id
    · obtain ⟨tweet, member, rfl⟩ := again
      rw [merged tweet member] at missing
      cases missing
    · have notAgain : ∀ tweet ∈ call.submitted, tweet.id ≠ id := fun tweet member same =>
        again ⟨tweet, member, same⟩
      rw [untouched id notAgain] at missing
      have noneNow : submissionsOf call.submitted id = [] := by
        rw [List.eq_nil_iff_forall_not_mem]
        intro tweet member
        exact notAgain tweet (mem_submissionsOf.mp member).1 (mem_submissionsOf.mp member).2
      rw [follows.unstored id missing, noneNow]
      rfl
  · intro id row found
    rw [submissionsOf_append]
    by_cases again : ∃ tweet ∈ call.submitted, tweet.id = id
    · -- The newest submission is this call's; the first one is it only if none was stored.
      obtain ⟨tweet, member, rfl⟩ := again
      rw [merged tweet member] at found
      cases found
      have now : DescribedBy refs tweet := by
        have isConverted := member
        rw [call.submitted_eq] at isConverted
        obtain ⟨converted, inCall, rfl⟩ := List.mem_map.mp isConverted
        exact described converted inCall
      rw [submissionsOf_submitted member]
      cases before : tables.tweets.tweets.find tweet.id with
      | none =>
        rw [follows.unstored _ before]
        exact ⟨tweet, tweet, rfl, rfl, rfl, now⟩
      | some stored =>
        obtain ⟨first, _, isFirst, text, _, _⟩ := follows.stored _ _ before
        refine ⟨first, tweet, ?_, ?_, List.getLast?_concat, now⟩
        · rw [List.head?_append, isFirst]
          rfl
        · rw [← text]
          exact merge_legacyText _ _
    · have notAgain : ∀ tweet ∈ call.submitted, tweet.id ≠ id := fun tweet member same =>
        again ⟨tweet, member, same⟩
      have noneNow : submissionsOf call.submitted id = [] := by
        rw [List.eq_nil_iff_forall_not_mem]
        intro tweet member
        exact notAgain tweet (mem_submissionsOf.mp member).1 (mem_submissionsOf.mp member).2
      rw [untouched id notAgain] at found
      obtain ⟨first, last, isFirst, text, isLast, describes⟩ := follows.stored id row found
      rw [noneNow, List.append_nil]
      refine ⟨first, last, isFirst, text, isLast, kept last ?_ describes⟩
      have lastId : last.id = id := (mem_submissionsOf.mp (List.mem_of_getLast? isLast)).2
      rw [lastId]
      exact fun converted member => notAgain _ (inSubmitted converted member)

theorem followsSubmissions_run {calls : List TweetCall}
    (run : Run (Takes submitTweets) .empty calls tables) :
    FollowsSubmissions (calls.flatMap TweetCall.submitted) tables := by
  induction run with
  | nil => exact ⟨fun _ _ => rfl, fun _ _ found => nomatch found⟩
  | snoc _ taken inductionHypothesis =>
    rw [List.flatMap_append]
    have step := inductionHypothesis.step taken
    simpa using step

end Stages

/-! ### Two submissions of one tweet -/

def mentioning (userIds : List String) : SubmitAnnotatedText where
  text := "hello"
  displayRange := none
  entities := ⟨[], [], [], userIds.map fun userId => ⟨userId, ⟨0, 5⟩⟩, []⟩
  styles := []

/-- A call with the one tweet 1, which mentions these users. -/
def mentionCall (userIds : List String) : TweetCall where
  payload :=
    { users := []
      tweets := [{ id := "1", fetchedAt := none, publishedAt := 0, source := none, authorId := "5"
                   place := none, content := ⟨mentioning userIds, none, [], none⟩
                   conversation := ⟨"1", none, none, none⟩, stats := none, edit := none
                   policy := none, communityNote := none }]
      media := [] }
  store := ⟨fun _ => .ok fun _ => none, fun _ => .ok fun _ => none, fun _ => .ok fun _ => none⟩
  parseUuid := fun _ => none
  clocks := ⟨fun _ => 0, fun _ => 0, fun _ => 0⟩
  constraints := ⟨fun _ => true, fun _ => true⟩
  newId := fun _ => 1
  now := 0
  media := fun _ => true
  hashtag := fun _ => true
  symbol := fun _ => true
  orders := ⟨.deletedFirst, .deletedFirst, .deletedFirst, .deletedFirst⟩

/-- Both calls succeed; the row mentions user 10, the relation has user 20. -/
theorem two_mentionCalls : ∃ tables,
    Run (Takes submitTweets) .empty [mentionCall ["10"], mentionCall ["20"]] tables ∧
      tables.tweets.tweets.rows.map mentionedUsers = [[10]] ∧
      tables.refs.mention.rows = [⟨1, 20⟩] := by
  have executed : (exec submitTweets .empty [mentionCall ["10"], mentionCall ["20"]]).map
      (fun tables => (tables.tweets.tweets.rows.map mentionedUsers, tables.refs.mention.rows)) =
        some ([[10]], [⟨1, 20⟩]) := rfl
  obtain ⟨tables, final, result⟩ := Option.map_eq_some_iff.mp executed
  obtain ⟨mentioned, refs⟩ := Prod.mk.inj result
  exact ⟨tables, run_of_exec final, mentioned, refs⟩

/-- The relations of a stored tweet are those of the texts submitted last; its own first text
is the one submitted first. -/
theorem relations_describe_last_submission {calls : List TweetCall} {tables : ReferenceTables}
    (run : Run (Takes submitTweets) .empty calls tables) :
    ∀ row ∈ tables.tweets.tweets.rows, ∃ first last,
      (submissionsOf (calls.flatMap TweetCall.submitted) row.id).head? = some first ∧
      row.legacyText = annotatedTextPayload first.legacyText ∧
      (submissionsOf (calls.flatMap TweetCall.submitted) row.id).getLast? = some last ∧
      (∀ userId, ⟨row.id, userId⟩ ∈ tables.refs.mention.rows ↔ userId ∈ mentionedUsers last) ∧
      (∀ hashtagId, ⟨row.id, hashtagId⟩ ∈ tables.refs.hashtag.rows ↔
        hashtagId ∈ usedHashtags last) ∧
      ∀ symbolId, ⟨row.id, symbolId⟩ ∈ tables.refs.symbol.rows ↔ symbolId ∈ usedSymbols last := by
  intro row present
  have found : tables.tweets.tweets.find row.id = some row := Table.find_of_mem present
  obtain ⟨first, last, isFirst, text, isLast, describes⟩ :=
    (followsSubmissions_run run).stored row.id row found
  have lastId : last.id = row.id := (mem_submissionsOf.mp (List.mem_of_getLast? isLast)).2
  refine ⟨first, last, isFirst, text, isLast, ?_, ?_, ?_⟩
  · exact fun userId => describes.mentions ⟨row.id, userId⟩ lastId.symm
  · exact fun hashtagId => describes.hashtags ⟨row.id, hashtagId⟩ lastId.symm
  · exact fun symbolId => describes.symbols ⟨row.id, symbolId⟩ lastId.symm

theorem relations_describe_last_submission_twice : ∃ tables,
    Run (Takes submitTweets) .empty [mentionCall ["10"], mentionCall ["20"]] tables ∧
      ∀ row ∈ tables.tweets.tweets.rows, ∃ first last,
        (submissionsOf ([mentionCall ["10"], mentionCall ["20"]].flatMap TweetCall.submitted)
          row.id).head? = some first ∧
        row.legacyText = annotatedTextPayload first.legacyText ∧
        (submissionsOf ([mentionCall ["10"], mentionCall ["20"]].flatMap TweetCall.submitted)
          row.id).getLast? = some last ∧
        (∀ userId, ⟨row.id, userId⟩ ∈ tables.refs.mention.rows ↔ userId ∈ mentionedUsers last) ∧
        (∀ hashtagId, ⟨row.id, hashtagId⟩ ∈ tables.refs.hashtag.rows ↔
          hashtagId ∈ usedHashtags last) ∧
        ∀ symbolId, ⟨row.id, symbolId⟩ ∈ tables.refs.symbol.rows ↔ symbolId ∈ usedSymbols last := by
  obtain ⟨tables, run, _, _⟩ := two_mentionCalls
  exact ⟨tables, run, relations_describe_last_submission run⟩

/-- The stored text mentions 10, and the relation does not. -/
theorem relations_leave_stored_text : ¬ ∀ calls tables,
    Run (Takes submitTweets) .empty calls tables → ∀ row ∈ tables.tweets.tweets.rows,
      (∀ userId, ⟨row.id, userId⟩ ∈ tables.refs.mention.rows ↔ userId ∈ mentionedUsers row) ∧
      (∀ hashtagId, ⟨row.id, hashtagId⟩ ∈ tables.refs.hashtag.rows ↔
        hashtagId ∈ usedHashtags row) ∧
      ∀ symbolId, ⟨row.id, symbolId⟩ ∈ tables.refs.symbol.rows ↔ symbolId ∈ usedSymbols row := by
  intro claim
  obtain ⟨tables, run, mentioned, refs⟩ := two_mentionCalls
  obtain ⟨row, present, mentions⟩ : ∃ row ∈ tables.tweets.tweets.rows, mentionedUsers row = [10] := by
    have listed : [10] ∈ tables.tweets.tweets.rows.map mentionedUsers := by
      rw [mentioned]
      exact List.mem_cons_self
    exact List.mem_map.mp listed
  have inRelation := ((claim _ tables run row present).1 10).mpr (by rw [mentions]; decide)
  rw [refs] at inRelation
  simp at inRelation

end TweetDb.Submit
