import TweetDb.Query.Resubmit
import TweetDb.Relational.Agree
import TweetDb.Relational.Batches
import TweetDb.Submit.Duplicates

/-! # Places in one batch and one by one

A batch sends the first place with an id and drops the others; single
submissions fill what the row still misses.
-/

namespace TweetDb.Submit

open Relational TweetModel
open TweetDb.Tweet (TweetPlace fillable coalesce)
open TweetDb.Query (SubmitCall plainEnvironment sentCall)

/-! ## Columns -/

/-- The columns of a place that may be null. -/
inductive PlaceColumn where
  | name
  | fullName
  | country
  | countryCode
  | kind
  | boundary
deriving DecidableEq, Repr

/-- The column is not null. -/
def HasColumn (place : TweetPlace) : PlaceColumn → Prop
  | .name => place.name.isSome = true
  | .fullName => place.fullName.isSome = true
  | .country => place.country.isSome = true
  | .countryCode => place.countryCode.isSome = true
  | .kind => place.kind.isSome = true
  | .boundary => place.boundary.isSome = true

theorem isSome_coalesce {α : Type} (stored excluded : Option α) :
    (coalesce stored excluded).isSome = true ↔ stored.isSome = true ∨ excluded.isSome = true := by
  cases stored <;> simp [coalesce]

theorem fillable_eq_false {α : Type} (stored excluded : Option α) :
    fillable stored excluded = false ↔ (excluded.isSome = true → stored.isSome = true) := by
  cases stored <;> cases excluded <;> simp [fillable]

/-- A place fills a row exactly if it has a column that the row misses. -/
theorem place_condition_eq_false_iff (stored excluded : TweetPlace) :
    TweetPlace.onConflict.condition stored excluded = false ↔
      ∀ column, HasColumn excluded column → HasColumn stored column := by
  simp only [TweetPlace.onConflict, Bool.or_eq_false_iff, fillable_eq_false]
  constructor
  · rintro ⟨⟨⟨⟨⟨name, fullName⟩, country⟩, countryCode⟩, kind⟩, boundary⟩ column
    cases column <;> assumption
  · intro covers
    exact ⟨⟨⟨⟨⟨covers .name, covers .fullName⟩, covers .country⟩, covers .countryCode⟩,
      covers .kind⟩, covers .boundary⟩

theorem hasColumn_merge (stored excluded : TweetPlace) (column : PlaceColumn) :
    HasColumn (TweetPlace.onConflict.merge stored excluded) column ↔
      HasColumn stored column ∨ HasColumn excluded column := by
  unfold OnConflict.merge
  split
  next => cases column <;> exact isSome_coalesce _ _
  next quiet =>
    have covers := (place_condition_eq_false_iff stored excluded).mp (by simpa using quiet)
    exact ⟨.inl, fun either => either.elim id (covers column)⟩

theorem hasColumn_foldl_merge (row : TweetPlace) (places : List TweetPlace)
    (column : PlaceColumn) :
    HasColumn (places.foldl TweetPlace.onConflict.merge row) column ↔
      HasColumn row column ∨ ∃ place ∈ places, HasColumn place column := by
  induction places generalizing row with
  | nil => simp
  | cons place places inductionHypothesis =>
    simp only [List.foldl_cons, inductionHypothesis, hasColumn_merge, List.exists_mem_cons_iff,
      or_assoc]

/-- Places leave a row as it is exactly if they have no column that it misses. -/
theorem foldl_merge_eq_self_iff (row : TweetPlace) (places : List TweetPlace) :
    places.foldl TweetPlace.onConflict.merge row = row ↔
      ∀ place ∈ places, ∀ column, HasColumn place column → HasColumn row column := by
  constructor
  · intro same place member column has
    rw [← same, hasColumn_foldl_merge]
    exact .inr ⟨place, member, has⟩
  · intro covered
    induction places with
    | nil => rfl
    | cons place places inductionHypothesis =>
      have quiet := (place_condition_eq_false_iff row place).mpr (covered place List.mem_cons_self)
      have kept : TweetPlace.onConflict.merge row place = row := by simp [OnConflict.merge, quiet]
      rw [List.foldl_cons, kept]
      exact inductionHypothesis fun other later => covered other (List.mem_cons_of_mem _ later)

/-! ## The statement of a batch -/

section Batch

variable {α κ γ : Type} [DecidableEq κ] {key : α → κ} {merge : α → α → α} {part : α → γ}

/-- What a merge keeps is, in the map, what the first value with the key has. -/
theorem find?_addEntry (sameKey : ∀ entry value, key (merge entry value) = key entry)
    (samePart : ∀ entry value, part (merge entry value) = part entry) (entries : List α)
    (value : α) (target : κ) :
    ((addEntry key merge entries value).find? fun entry => key entry = target).map part =
      ((entries ++ [value]).find? fun entry => key entry = target).map part := by
  induction entries with
  | nil => rfl
  | cons entry entries inductionHypothesis =>
    unfold addEntry
    split
    next same =>
      by_cases isTarget : key entry = target
      · simp [sameKey, samePart, isTarget]
      · have notValue : key value ≠ target := same ▸ isTarget
        cases found : entries.find? fun entry => key entry = target <;>
          simp [sameKey, isTarget, notValue, found]
    next =>
      by_cases isTarget : key entry = target
      · simp [isTarget]
      · simpa [isTarget] using inductionHypothesis

theorem find?_foldl_addEntry (sameKey : ∀ entry value, key (merge entry value) = key entry)
    (samePart : ∀ entry value, part (merge entry value) = part entry) (entries values : List α)
    (target : κ) :
    ((values.foldl (addEntry key merge) entries).find? fun entry => key entry = target).map part =
      ((entries ++ values).find? fun entry => key entry = target).map part := by
  induction values generalizing entries with
  | nil => simp
  | cons value values inductionHypothesis =>
    have step := find?_addEntry sameKey samePart entries value target
    rw [List.foldl_cons, inductionHypothesis, List.append_cons entries, List.find?_append,
      List.find?_append, Option.map_or, Option.map_or, step]

end Batch

/-- The map keeps the first place with an id. -/
theorem find?_dedupePlaces (items : List (Indexed TweetPlace)) (placeId : String) :
    ((dedupePlaces items).map DedupedPlace.value).find? (fun place => place.id = placeId) =
      (items.find? fun item => item.value.id = placeId).map Indexed.value := by
  have first := @find?_foldl_addEntry _ _ _ _ DedupedPlace.placeId DedupedPlace.add
    DedupedPlace.value (fun _ _ => rfl) (fun _ _ => rfl) [] (items.map DedupedPlace.ofItem) placeId
  rw [List.nil_append, List.find?_map, Option.map_map] at first
  rw [List.find?_map]
  exact first

variable {env : Environment} {table : Table TweetPlace}

/-- The rows of the statement. -/
def placeRows (items : List (Indexed TweetPlace)) : List TweetPlace :=
  distinctOn TweetPlace.id
    (((dedupePlaces items).map DedupedPlace.value).map tweetPlacePayload)

theorem find?_placeRows (items : List (Indexed TweetPlace)) (placeId : String) :
    (placeRows items).find? (fun place => place.id = placeId) =
      (items.find? fun item => item.value.id = placeId).map fun item =>
        tweetPlacePayload item.value := by
  have first := find?_dedupePlaces items placeId
  rw [placeRows, find?_distinctOn, List.find?_map]
  calc _ = Option.map tweetPlacePayload
        (((dedupePlaces items).map DedupedPlace.value).find? fun place => place.id = placeId) := rfl
    _ = _ := by rw [first, Option.map_map]; rfl

theorem writeTweetPlacesBatch_eq_some (accepting : env.refusals = .nothing)
    (items : List (Indexed TweetPlace)) (results : List ObjectResult) :
    ∃ changed, TweetPlace.onConflict.upsert ⟨fun _ => true, fun _ => true⟩ table
      (placeRows items) = some (changed, (writeTweetPlacesBatch env items table results).1) := by
  -- The table of places refuses no row, so the statement succeeds.
  obtain ⟨changed, after, upserted⟩ := @OnConflict.upsert_total _ _ _ TweetPlace.onConflict
    ⟨fun _ => true, fun _ => true⟩ (fun _ _ clash => clash) (fun _ => rfl) (fun _ => rfl) table
    (placeRows items)
  have sent : env.upsertTweetPlacesChanged ((dedupePlaces items).map DedupedPlace.value) table =
      .ok (changed, after) := by
    simp only [placeRows] at upserted
    simp only [Environment.upsertTweetPlacesChanged, accepting, Refusals.nothing, send,
      Tweet.writeTweetPlaces, upserted]
  refine ⟨changed, ?_⟩
  unfold writeTweetPlacesBatch writeBatch
  simp only [sent]
  split
  next none =>
    simp only [placeRows, List.isEmpty_iff.mp none, List.map_nil, distinctOn] at upserted ⊢
    cases upserted
    rfl
  next => exact upserted

/-- A batch proposes the first of its places with an id. -/
theorem find_writeTweetPlacesBatch (accepting : env.refusals = .nothing)
    (items : List (Indexed TweetPlace)) (results : List ObjectResult) (placeId : String) :
    (writeTweetPlacesBatch env items table results).1.find placeId =
      (items.find? fun item => item.value.id = placeId).elim (table.find placeId) fun item =>
        some (TweetPlace.onConflict.propose (table.find placeId) (tweetPlacePayload item.value)) := by
  obtain ⟨changed, upserted⟩ := @writeTweetPlacesBatch_eq_some _ table accepting items results
  have after := OnConflict.find_upsert_of_find? (distinctOn_pairwise TweetPlace.id _) upserted
    placeId
  have first := find?_placeRows items placeId
  rw [after]
  change ((placeRows items).find? fun place => place.id = placeId).elim _ _ = _
  rw [first]
  cases items.find? fun item => item.value.id = placeId <;> rfl

/-! ## Submissions -/

theorem tweetPlaces_executePreparedSubmit (accepting : env.refusals = .nothing)
    (prepared : PreparedSubmitBatch) (db : Database) :
    ∃ results, (executePreparedSubmit env prepared db).1.tweetPlaces =
      (writeTweetPlacesBatch env prepared.tweetPlaces db.tweetPlaces results).1 := by
  have preloaded : env.preloadSubmitBatchDicts prepared = .ok () := by
    unfold Environment.preloadSubmitBatchDicts Environment.ensureMany
    simp [accepting, Refusals.nothing, send]
  exact ⟨_, by simp only [executePreparedSubmit, preloaded]; rfl⟩

/-- Submissions one after the other, each in its own process and at its own time. -/
def submitEach (submissions : List (Environment × PreparedSubmitBatch)) (db : Database) :
    Database :=
  submissions.foldl (fun db submission => (executePreparedSubmit submission.1 submission.2 db).1) db

def placesOf (prepared : PreparedSubmitBatch) : List TweetPlace :=
  prepared.tweetPlaces.map Indexed.value

/-- The places of the batch, at most one in each submission. -/
structure OneByOne (prepared : PreparedSubmitBatch)
    (submissions : List (Environment × PreparedSubmitBatch)) : Prop where
  accepting : ∀ submission ∈ submissions, submission.1.refusals = .nothing
  single : ∀ submission ∈ submissions, (placesOf submission.2).length ≤ 1
  places : submissions.flatMap (fun submission => placesOf submission.2) = placesOf prepared

/-- One place after the other is proposed for a row. -/
def proposeEach (stored : Option TweetPlace) (places : List TweetPlace) : Option TweetPlace :=
  places.foldl
    (fun stored place => some (TweetPlace.onConflict.propose stored (tweetPlacePayload place))) stored

/-- The places with an id. -/
def withId (placeId : String) (places : List TweetPlace) : List TweetPlace :=
  places.filter fun place => place.id = placeId

theorem find_executePreparedSubmit (accepting : env.refusals = .nothing)
    (prepared : PreparedSubmitBatch) (db : Database) (placeId : String) :
    (executePreparedSubmit env prepared db).1.tweetPlaces.find placeId =
      proposeEach (db.tweetPlaces.find placeId) (withId placeId (placesOf prepared)).head?.toList := by
  obtain ⟨results, same⟩ := tweetPlaces_executePreparedSubmit accepting prepared db
  have first : (withId placeId (placesOf prepared)).head? =
      (prepared.tweetPlaces.find? fun item => item.value.id = placeId).map Indexed.value := by
    rw [withId, placesOf, List.head?_filter, List.find?_map]
    rfl
  rw [same, find_writeTweetPlacesBatch accepting, first]
  cases prepared.tweetPlaces.find? fun item => item.value.id = placeId <;> rfl

theorem find_submitEach {submissions : List (Environment × PreparedSubmitBatch)}
    (accepting : ∀ submission ∈ submissions, submission.1.refusals = .nothing)
    (single : ∀ submission ∈ submissions, (placesOf submission.2).length ≤ 1) (db : Database)
    (placeId : String) :
    (submitEach submissions db).tweetPlaces.find placeId =
      proposeEach (db.tweetPlaces.find placeId)
        (withId placeId (submissions.flatMap fun submission => placesOf submission.2)) := by
  induction submissions generalizing db with
  | nil => rfl
  | cons submission submissions inductionHypothesis =>
    -- Of at most one place the first is all there are.
    have all : (withId placeId (placesOf submission.2)).head?.toList =
        withId placeId (placesOf submission.2) := by
      have short : (withId placeId (placesOf submission.2)).length ≤ 1 :=
        (List.length_filter_le _ _).trans (single submission List.mem_cons_self)
      match withId placeId (placesOf submission.2), short with
      | [], _ => rfl
      | [_], _ => rfl
    have step := find_executePreparedSubmit (accepting submission List.mem_cons_self)
      submission.2 db placeId
    have rest := inductionHypothesis (fun other later => accepting other (List.mem_cons_of_mem _ later))
      (fun other later => single other (List.mem_cons_of_mem _ later))
      (executePreparedSubmit submission.1 submission.2 db).1
    rw [submitEach, List.foldl_cons, ← submitEach, rest, step, all, List.flatMap_cons, withId,
      withId, withId, List.filter_append, proposeEach, proposeEach, proposeEach, List.foldl_append]

theorem hasColumn_propose (stored : Option TweetPlace) (place : TweetPlace)
    (column : PlaceColumn) :
    HasColumn (TweetPlace.onConflict.propose stored place) column ↔
      HasColumn place column ∨ ∃ row ∈ stored, HasColumn row column := by
  cases stored with
  | none => simp [OnConflict.propose]
  | some row => simp [OnConflict.propose, hasColumn_merge, or_comm]

theorem proposeEach_some (row : TweetPlace) (places : List TweetPlace) :
    proposeEach (some row) places =
      some ((places.map tweetPlacePayload).foldl TweetPlace.onConflict.merge row) := by
  induction places generalizing row with
  | nil => rfl
  | cons place places inductionHypothesis => exact inductionHypothesis _

/-- The place has no column that both the stored row and the first place with its id miss. -/
def AddsNothing (table : Table TweetPlace) (places : List TweetPlace) (place : TweetPlace) : Prop :=
  ∀ column, HasColumn (tweetPlacePayload place) column →
    (∃ first ∈ (withId place.id places).head?, HasColumn (tweetPlacePayload first) column) ∨
      ∃ stored ∈ table.find place.id, HasColumn stored column

theorem proposeEach_head?_iff (stored : Option TweetPlace) (places : List TweetPlace) :
    proposeEach stored places.head?.toList = proposeEach stored places ↔
      ∀ place ∈ places, ∀ column, HasColumn (tweetPlacePayload place) column →
        (∃ first ∈ places.head?, HasColumn (tweetPlacePayload first) column) ∨
          ∃ row ∈ stored, HasColumn row column := by
  cases places with
  | nil => simp
  | cons first rest =>
    let row := TweetPlace.onConflict.propose stored (tweetPlacePayload first)
    have one : proposeEach stored [first] = some row := rfl
    have each : proposeEach stored (first :: rest) = proposeEach (some row) rest := rfl
    simp only [List.head?_cons, Option.toList_some, one, each, proposeEach_some, Option.some.injEq,
      Option.mem_def, exists_eq_left']
    -- The later places change nothing if the row the first one leaves has their columns.
    rw [eq_comm, foldl_merge_eq_self_iff, List.forall_mem_cons, List.forall_mem_map]
    simp only [row, hasColumn_propose]
    constructor
    · exact fun covered => ⟨fun column has => .inl has, covered⟩
    · exact fun covered => covered.2

/-- The rows after the batch are those after the single submissions exactly if every place of the
batch has only columns that its row or the first place with its id has. -/
theorem batched_places_iff {prepared : PreparedSubmitBatch}
    {submissions : List (Environment × PreparedSubmitBatch)} {db : Database}
    (accepting : env.refusals = .nothing) (oneByOne : OneByOne prepared submissions) :
    (∀ placeId, (executePreparedSubmit env prepared db).1.tweetPlaces.find placeId =
        (submitEach submissions db).tweetPlaces.find placeId) ↔
      ∀ place ∈ placesOf prepared, AddsNothing db.tweetPlaces (placesOf prepared) place := by
  have sameRow := fun placeId => proposeEach_head?_iff (db.tweetPlaces.find placeId)
    (withId placeId (placesOf prepared))
  simp only [find_executePreparedSubmit accepting,
    find_submitEach oneByOne.accepting oneByOne.single, oneByOne.places, sameRow]
  constructor
  · intro covered place member
    exact covered place.id place (List.mem_filter.mpr ⟨member, by simp⟩)
  · intro adds placeId place member
    obtain ⟨given, isId⟩ := List.mem_filter.mp member
    obtain rfl : place.id = placeId := by simpa using isId
    exact adds place given

/-! ## Submitted tweets -/

/-- The place a tweet carries, unless one of its ids is malformed. -/
def ownPlace (tweet : SubmitTweet) : Option TweetPlace :=
  (parseI64Id tweet.id "tweet.id").toOption.bind fun _ =>
    (parseI64Id tweet.authorId "tweet.authorId").toOption.bind fun _ =>
      tweet.place.bind convertTweetPlace

/-- No tweet is followed by another one with its id. -/
def NoneShadowed (tweets : List SubmitTweet) : Prop :=
  ∀ index tweet, tweets[index]? = some tweet → ∀ tweetId,
    parseI64Id tweet.id "tweet.id" = .ok tweetId →
      lastValidIndex "tweet.id" SubmitTweet.id tweets tweetId = some index

theorem noneShadowed_of_short {tweets : List SubmitTweet} (short : tweets.length ≤ 1) :
    NoneShadowed tweets := by
  intro index tweet isTweet tweetId isParsed
  rcases Nat.le_one_iff_eq_zero_or_eq_one.mp short with empty | one
  · simp [List.length_eq_zero_iff.mp empty] at isTweet
  · obtain ⟨only, rfl⟩ := List.length_eq_one_iff.mp one
    simp only [List.getElem?_singleton, Option.ite_none_right_eq_some, Option.some.injEq] at isTweet
    obtain ⟨rfl, rfl⟩ := isTweet
    exact lastValidIndex_single isParsed

theorem placesOf_prepared {call : SubmitCall} (unshadowed : NoneShadowed call.payload.tweets) :
    placesOf call.prepared = call.payload.tweets.filterMap ownPlace := by
  let context : PrepareContext :=
    ⟨call.store, (resolveSubmitLookupIds call.store call.payload).toOption, call.parseUuid⟩
  have each : ∀ entry ∈ call.payload.tweets.zipIdx,
      (prepareTweet context (call.clocks.tweet entry.2)
        (lastValidIndex "tweet.id" SubmitTweet.id call.payload.tweets) entry.2 entry.1).place =
          ownPlace entry.1 := by
    rintro ⟨tweet, index⟩ member
    have isTweet := List.mk_mem_zipIdx_iff_getElem?.mp member
    unfold prepareTweet ownPlace
    cases isParsed : parseI64Id tweet.id "tweet.id" with
    | error => rfl
    -- Only a tweet that another one replaces would lose its place.
    | ok tweetId =>
      have isLast := unshadowed index tweet isTweet tweetId isParsed
      cases parseI64Id tweet.authorId "tweet.authorId" <;> simp [isLast, Except.toOption]
  calc placesOf call.prepared
    _ = (preparedTweets context call.clocks call.payload).filterMap PreparedTweet.place :=
      map_value_collect _ _
    _ = call.payload.tweets.zipIdx.filterMap fun entry => ownPlace entry.1 := by
      rw [preparedTweets, List.filterMap_map]
      exact List.filterMap_congr each
    _ = (call.payload.tweets.zipIdx.map Prod.fst).filterMap ownPlace := by
      rw [List.filterMap_map]
      rfl
    _ = call.payload.tweets.filterMap ownPlace := by rw [List.zipIdx_map_fst]

theorem oneByOne_of_calls {batch : SubmitCall} {calls : List SubmitCall}
    (unshadowed : NoneShadowed batch.payload.tweets)
    (accepting : ∀ call ∈ calls, call.env.refusals = .nothing)
    (single : ∀ call ∈ calls, call.payload.tweets.length ≤ 1)
    (same : calls.flatMap (fun call => call.payload.tweets) = batch.payload.tweets) :
    OneByOne batch.prepared (calls.map fun call => (call.env, call.prepared)) := by
  have places : ∀ call ∈ calls, placesOf call.prepared = call.payload.tweets.filterMap ownPlace :=
    fun call member => placesOf_prepared (noneShadowed_of_short (single call member))
  refine ⟨by simpa using accepting, ?_, ?_⟩
  · simp only [List.forall_mem_map]
    intro call member
    rw [places call member]
    exact (List.length_filterMap_le _ _).trans (single call member)
  · rw [placesOf_prepared unshadowed, ← same, List.flatMap_map, List.filterMap_flatMap]
    exact List.flatMap_congr places

/-- A tweet at this place. -/
def placedTweet (id : String) (name fullName : Option String) : SubmitTweet :=
  { shortTweet "7" with id := id, place := some ⟨some "p", name, fullName, none, none, none, none⟩ }

def namedTweet : SubmitTweet := placedTweet "1" (some "Paris") none

def batchCall (tweets : List SubmitTweet) : SubmitCall := sentCall ⟨[], tweets, []⟩

theorem oneByOne_batchCall {tweets : List SubmitTweet} (unshadowed : NoneShadowed tweets) :
    OneByOne (batchCall tweets).prepared (tweets.map fun tweet =>
      (plainEnvironment, (batchCall [tweet]).prepared)) := by
  have calls := @oneByOne_of_calls (batchCall tweets) (tweets.map fun tweet => batchCall [tweet])
    unshadowed (by simp [batchCall, sentCall, plainEnvironment]) (by simp [batchCall, sentCall])
    (by simp [batchCall, sentCall, List.flatMap_map])
  rw [List.map_map] at calls
  exact calls

theorem noneShadowed_pair (name fullName : Option String) :
    NoneShadowed [namedTweet, placedTweet "2" name fullName] := by
  have first : parseI64Id namedTweet.id "tweet.id" = .ok 1 := by decide
  have second : parseI64Id (placedTweet "2" name fullName).id "tweet.id" = .ok 2 := by
    show parseI64Id "2" "tweet.id" = .ok 2
    decide
  intro index tweet isTweet tweetId isParsed
  match index with
  | 0 =>
    cases isTweet
    cases first.symm.trans isParsed
    simp [lastValidIndex, first, second, Except.toOption]
  | 1 =>
    cases isTweet
    cases second.symm.trans isParsed
    simp [lastValidIndex, first, second, Except.toOption]
  | _ + 2 => cases isTweet

theorem batched_places_iff_named :
    (∀ placeId, (executePreparedSubmit plainEnvironment
        (batchCall [namedTweet, placedTweet "2" (some "Paris") none]).prepared
          .empty).1.tweetPlaces.find placeId =
        (submitEach ([namedTweet, placedTweet "2" (some "Paris") none].map fun tweet =>
          (plainEnvironment, (batchCall [tweet]).prepared)) .empty).tweetPlaces.find placeId) ↔
      ∀ place ∈ placesOf (batchCall [namedTweet, placedTweet "2" (some "Paris") none]).prepared,
        AddsNothing Database.empty.tweetPlaces
          (placesOf (batchCall [namedTweet, placedTweet "2" (some "Paris") none]).prepared) place :=
  batched_places_iff rfl (oneByOne_batchCall (noneShadowed_pair (some "Paris") none))

/-- The full name that the second tweet gives is lost in the batch. -/
theorem not_batched_places :
    ¬ ∀ (env : Environment) (prepared : PreparedSubmitBatch)
      (submissions : List (Environment × PreparedSubmitBatch)) (db : Database),
      env.refusals = .nothing → OneByOne prepared submissions →
        ∀ placeId, (executePreparedSubmit env prepared db).1.tweetPlaces.find placeId =
          (submitEach submissions db).tweetPlaces.find placeId := by
  intro always
  have oneByOne := oneByOne_batchCall (noneShadowed_pair none (some "Paris, France"))
  have same := always plainEnvironment _ _ .empty rfl oneByOne "p"
  rw [find_executePreparedSubmit rfl, find_submitEach oneByOne.accepting oneByOne.single,
    oneByOne.places,
    @placesOf_prepared (batchCall _) (noneShadowed_pair none (some "Paris, France"))] at same
  exact absurd same (by decide)

end TweetDb.Submit
