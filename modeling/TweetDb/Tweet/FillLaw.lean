import TweetDb.Tweet.Fill

/-! # The fill law

What is present stays, what is absent takes the submitted value.  The `SET`
clauses follow the law column by column; the common `WHERE` clause tests
composite columns with `IS NOT NULL`, which an object with a null field fails.
-/

namespace TweetDb.Tweet

open Relational

variable {α : Type}

/-! ## Columns -/

/-- The law for one column. -/
def fillColumn (present : α → Bool) (stored submitted : α) : α :=
  if present stored then stored else submitted

/-- An array column is present when it is not empty. -/
def arrayPresent (stored : List α) : Bool := !stored.isEmpty

/-- An array column that may also be absent. -/
def nullableArrayPresent (stored : Option (List α)) : Bool := stored.any arrayPresent

def TweetRow.fill (stored submitted : TweetRow) : TweetRow :=
  { stored with
    source := fillColumn Option.isSome stored.source submitted.source
    placeId := fillColumn Option.isSome stored.placeId submitted.placeId
    noteId := fillColumn Option.isSome stored.noteId submitted.noteId
    noteText := fillColumn Option.isSome stored.noteText submitted.noteText
    language := fillColumn Option.isSome stored.language submitted.language
    replyToTweetId := fillColumn Option.isSome stored.replyToTweetId submitted.replyToTweetId
    replyToUserId := fillColumn Option.isSome stored.replyToUserId submitted.replyToUserId
    quoteTweetId := fillColumn Option.isSome stored.quoteTweetId submitted.quoteTweetId
    quotePermalink := fillColumn Option.isSome stored.quotePermalink submitted.quotePermalink
    repostId := fillColumn Option.isSome stored.repostId submitted.repostId }

def Media.fill (stored submitted : Media) : Media :=
  { stored with
    altText := fillColumn Option.isSome stored.altText submitted.altText
    grokPostId := fillColumn Option.isSome stored.grokPostId submitted.grokPostId
    geometry := fillColumn Option.isSome stored.geometry submitted.geometry
    sizeVariants := fillColumn Option.isSome stored.sizeVariants submitted.sizeVariants
    taggedUsers := fillColumn arrayPresent stored.taggedUsers submitted.taggedUsers
    sensitivityWarnings :=
      fillColumn arrayPresent stored.sensitivityWarnings submitted.sensitivityWarnings
    originTweetId := fillColumn Option.isSome stored.originTweetId submitted.originTweetId
    originUserId := fillColumn Option.isSome stored.originUserId submitted.originUserId
    details := fillColumn Option.isSome stored.details submitted.details }

def TweetPlace.fill (stored submitted : TweetPlace) : TweetPlace :=
  { stored with
    name := fillColumn Option.isSome stored.name submitted.name
    fullName := fillColumn Option.isSome stored.fullName submitted.fullName
    country := fillColumn Option.isSome stored.country submitted.country
    countryCode := fillColumn Option.isSome stored.countryCode submitted.countryCode
    kind := fillColumn Option.isSome stored.kind submitted.kind
    boundary := fillColumn nullableArrayPresent stored.boundary submitted.boundary }

def TweetEdit.fill (stored submitted : TweetEdit) : TweetEdit :=
  { stored with
    versionIds := fillColumn arrayPresent stored.versionIds submitted.versionIds
    editableUntil := fillColumn Option.isSome stored.editableUntil submitted.editableUntil
    remainingEdits := fillColumn Option.isSome stored.remainingEdits submitted.remainingEdits }

def TweetPolicy.fill (stored submitted : TweetPolicy) : TweetPolicy :=
  { stored with
    replyPolicy := fillColumn Option.isSome stored.replyPolicy submitted.replyPolicy
    followersOnly := fillColumn Option.isSome stored.followersOnly submitted.followersOnly
    isPossiblySensitive :=
      fillColumn Option.isSome stored.isPossiblySensitive submitted.isPossiblySensitive
    availableActions := fillColumn arrayPresent stored.availableActions submitted.availableActions
    isMediaVisibilityRestricted := fillColumn Option.isSome stored.isMediaVisibilityRestricted
      submitted.isMediaVisibilityRestricted
    paidPromotion := fillColumn Option.isSome stored.paidPromotion submitted.paidPromotion }

def TweetCommunityNote.fill (stored submitted : TweetCommunityNote) : TweetCommunityNote :=
  { stored with
    noteId := fillColumn Option.isSome stored.noteId submitted.noteId
    title := fillColumn Option.isSome stored.title submitted.title
    shortTitle := fillColumn Option.isSome stored.shortTitle submitted.shortTitle
    subtitle := fillColumn Option.isSome stored.subtitle submitted.subtitle
    footer := fillColumn Option.isSome stored.footer submitted.footer
    destinationUrl := fillColumn Option.isSome stored.destinationUrl submitted.destinationUrl }

/-- `COALESCE` obeys the law of a column that may be null. -/
@[simp] theorem coalesce_eq_fillColumn (stored submitted : Option α) :
    coalesce stored submitted = fillColumn Option.isSome stored submitted := by
  cases stored <;> rfl

/-- The `CASE` on `cardinality` obeys the law of an array column. -/
@[simp] theorem fillArray_eq_fillColumn (stored submitted : List α) :
    fillArray stored submitted = fillColumn arrayPresent stored submitted := by
  cases stored <;> cases submitted <;> rfl

/-- `COALESCE` sees an empty array as a value. -/
theorem coalesce_eq_fillColumn_array {stored submitted : Option (List α)} :
    fillColumn Option.isSome stored submitted =
        fillColumn nullableArrayPresent stored submitted ↔
      (stored = some [] → submitted = some []) := by
  cases stored with
  | none => simp [fillColumn, nullableArrayPresent]
  | some points =>
    cases points with
    | nil => simp [fillColumn, nullableArrayPresent, arrayPresent, eq_comm]
    | cons point points => simp [fillColumn, nullableArrayPresent, arrayPresent]

/-- A column keeps what it holds when nothing is there to fill it. -/
theorem fillColumn_eq_stored {stored submitted : Option α} :
    fillColumn Option.isSome stored submitted = stored ↔
      (stored = none → submitted = none) := by
  cases stored <;> simp [fillColumn]

theorem fillColumn_of_not_fillable {stored submitted : Option α}
    (quiet : fillable stored submitted = false) :
    fillColumn Option.isSome stored submitted = stored := by
  cases stored <;> cases submitted <;> first | rfl | cases quiet

theorem fillColumn_of_not_fillableArray {stored submitted : List α}
    (quiet : fillableArray stored submitted = false) :
    fillColumn arrayPresent stored submitted = stored := by
  cases stored <;> cases submitted <;> first | rfl | cases quiet

/-- An object without null fields is seen by `IS NOT NULL`. -/
theorem fillColumn_of_not_fillableRow [Composite α] {stored submitted : Option α}
    (whole : ∀ value : α, (Composite.fieldNulls value).all not = true)
    (quiet : fillableRow stored submitted = false) :
    fillColumn Option.isSome stored submitted = stored := by
  cases stored with
  | some value => rfl
  | none =>
    cases submitted with
    | none => rfl
    | some value =>
      simp [fillableRow, rowIsNull, rowIsNotNull, whole value] at quiet

/-! ## Rows -/

theorem TweetRow.set_eq_fill (stored submitted : TweetRow) :
    TweetRow.onConflict.set stored submitted = stored.fill submitted := by
  simp [TweetRow.onConflict, TweetRow.fill]

theorem Media.set_eq_fill (stored submitted : Media) :
    Media.onConflict.set stored submitted = stored.fill submitted := by
  simp [Media.onConflict, Media.fill]

theorem TweetEdit.set_eq_fill (stored submitted : TweetEdit) :
    TweetEdit.onConflict.set stored submitted = stored.fill submitted := by
  simp [TweetEdit.onConflict, TweetEdit.fill]

theorem TweetPolicy.set_eq_fill (stored submitted : TweetPolicy) :
    TweetPolicy.onConflict.set stored submitted = stored.fill submitted := by
  simp [TweetPolicy.onConflict, TweetPolicy.fill]

theorem TweetCommunityNote.set_eq_fill (stored submitted : TweetCommunityNote) :
    TweetCommunityNote.onConflict.set stored submitted = stored.fill submitted := by
  simp [TweetCommunityNote.onConflict, TweetCommunityNote.fill]

theorem TweetPlace.set_eq_fill_iff (stored submitted : TweetPlace) :
    TweetPlace.onConflict.set stored submitted = stored.fill submitted ↔
      (stored.boundary = some [] → submitted.boundary = some []) := by
  simp [TweetPlace.onConflict, TweetPlace.fill, coalesce_eq_fillColumn_array]

/-! ### Rows the `WHERE` clause leaves alone -/

theorem TweetRow.fill_of_quiet {stored submitted : TweetRow}
    (quiet : TweetRow.onConflict.condition stored submitted = false) :
    stored.fill submitted = stored ↔ (stored.noteText = none → submitted.noteText = none) := by
  simp only [TweetRow.onConflict, Bool.or_eq_false_iff] at quiet
  obtain ⟨⟨⟨⟨⟨⟨⟨⟨⟨source, place⟩, note⟩, _⟩, language⟩, replyTweet⟩, replyUser⟩, quote⟩,
    permalink⟩, repost⟩ := quiet
  rw [← fillColumn_eq_stored]
  constructor
  · intro same
    exact congrArg TweetRow.noteText same
  · intro noteText
    simp only [TweetRow.fill, fillColumn_of_not_fillable source, fillColumn_of_not_fillable place,
      fillColumn_of_not_fillable note, fillColumn_of_not_fillable language,
      fillColumn_of_not_fillable replyTweet, fillColumn_of_not_fillable replyUser,
      fillColumn_of_not_fillable quote, fillColumn_of_not_fillable repost,
      fillColumn_of_not_fillableRow (fun _ => rfl) permalink, noteText]

theorem Media.fill_of_quiet {stored submitted : Media}
    (quiet : Media.onConflict.condition stored submitted = false) :
    stored.fill submitted = stored ↔
      (stored.sizeVariants = none → submitted.sizeVariants = none) ∧
        (stored.details = none → submitted.details = none) := by
  simp only [Media.onConflict, Bool.or_eq_false_iff] at quiet
  obtain ⟨⟨⟨⟨⟨⟨⟨⟨altText, grokPost⟩, geometry⟩, _⟩, tagged⟩, warnings⟩, originTweet⟩,
    originUser⟩, _⟩ := quiet
  rw [← fillColumn_eq_stored, ← fillColumn_eq_stored]
  constructor
  · intro same
    exact ⟨congrArg Media.sizeVariants same, congrArg Media.details same⟩
  · rintro ⟨sizeVariants, details⟩
    simp only [Media.fill, fillColumn_of_not_fillable altText,
      fillColumn_of_not_fillable grokPost, fillColumn_of_not_fillableRow (fun _ => rfl) geometry,
      fillColumn_of_not_fillableArray tagged, fillColumn_of_not_fillableArray warnings,
      fillColumn_of_not_fillable originTweet, fillColumn_of_not_fillable originUser,
      sizeVariants, details]

theorem TweetCommunityNote.fill_of_quiet {stored submitted : TweetCommunityNote}
    (quiet : TweetCommunityNote.onConflict.condition stored submitted = false) :
    stored.fill submitted = stored ↔
      (stored.subtitle = none → submitted.subtitle = none) ∧
        (stored.footer = none → submitted.footer = none) := by
  simp only [TweetCommunityNote.onConflict, Bool.or_eq_false_iff] at quiet
  obtain ⟨⟨⟨⟨⟨note, title⟩, shortTitle⟩, _⟩, _⟩, destination⟩ := quiet
  rw [← fillColumn_eq_stored, ← fillColumn_eq_stored]
  constructor
  · intro same
    exact ⟨congrArg TweetCommunityNote.subtitle same, congrArg TweetCommunityNote.footer same⟩
  · rintro ⟨subtitle, footer⟩
    simp only [TweetCommunityNote.fill, fillColumn_of_not_fillable note,
      fillColumn_of_not_fillable title, fillColumn_of_not_fillable shortTitle,
      fillColumn_of_not_fillable destination, subtitle, footer]

theorem TweetPlace.fill_of_quiet {stored submitted : TweetPlace}
    (quiet : TweetPlace.onConflict.condition stored submitted = false) :
    stored.fill submitted = stored ↔
      (stored.boundary = some [] → submitted.boundary = some []) := by
  simp only [TweetPlace.onConflict, Bool.or_eq_false_iff] at quiet
  obtain ⟨⟨⟨⟨⟨name, fullName⟩, country⟩, countryCode⟩, kind⟩, boundary⟩ := quiet
  rw [← coalesce_eq_fillColumn_array, fillColumn_of_not_fillable boundary]
  constructor
  · intro same
    exact (congrArg TweetPlace.boundary same).symm
  · intro boundaryKept
    simp only [TweetPlace.fill, fillColumn_of_not_fillable name,
      fillColumn_of_not_fillable fullName, fillColumn_of_not_fillable country,
      fillColumn_of_not_fillable countryCode, fillColumn_of_not_fillable kind, ← boundaryKept]

theorem TweetEdit.fill_of_quiet {stored submitted : TweetEdit}
    (quiet : TweetEdit.onConflict.condition stored submitted = false) :
    stored.fill submitted = stored := by
  simp only [TweetEdit.onConflict, Bool.or_eq_false_iff] at quiet
  obtain ⟨⟨versions, until_⟩, remaining⟩ := quiet
  simp only [TweetEdit.fill, fillColumn_of_not_fillableArray versions,
    fillColumn_of_not_fillable until_, fillColumn_of_not_fillable remaining]

theorem TweetPolicy.fill_of_quiet {stored submitted : TweetPolicy}
    (quiet : TweetPolicy.onConflict.condition stored submitted = false) :
    stored.fill submitted = stored := by
  simp only [TweetPolicy.onConflict, Bool.or_eq_false_iff] at quiet
  obtain ⟨⟨⟨⟨⟨reply, followers⟩, sensitive⟩, actions⟩, restricted⟩, promotion⟩ := quiet
  simp only [TweetPolicy.fill, fillColumn_of_not_fillable reply,
    fillColumn_of_not_fillable followers, fillColumn_of_not_fillable sensitive,
    fillColumn_of_not_fillableArray actions, fillColumn_of_not_fillable restricted,
    fillColumn_of_not_fillable promotion]

/-! ### Merged rows -/

/-- Where the `SET` clause fills, a row obeys the law if it is updated or already full. -/
theorem merge_eq_fill_iff {ρ κ : Type} [Row ρ κ] {conflict : OnConflict ρ}
    {fill : ρ → ρ → ρ} {stored submitted : ρ} {full : Prop}
    (set_eq : conflict.set stored submitted = fill stored submitted)
    (quiet : conflict.condition stored submitted = false →
      (fill stored submitted = stored ↔ full)) :
    conflict.merge stored submitted = fill stored submitted ↔
      conflict.condition stored submitted = true ∨ full := by
  unfold OnConflict.merge
  cases fires : conflict.condition stored submitted with
  | true => simp [set_eq]
  | false =>
    rw [← quiet fires]
    simp [eq_comm]

theorem merge_eq_fill {ρ κ : Type} [Row ρ κ] {conflict : OnConflict ρ} {fill : ρ → ρ → ρ}
    {stored submitted : ρ} (set_eq : conflict.set stored submitted = fill stored submitted)
    (quiet : conflict.condition stored submitted = false → fill stored submitted = stored) :
    conflict.merge stored submitted = fill stored submitted := by
  unfold OnConflict.merge
  cases fires : conflict.condition stored submitted with
  | true => rw [if_pos rfl, set_eq]
  | false =>
    rw [quiet fires]
    rfl

theorem TweetPlace.merge_eq_fill_iff (stored submitted : TweetPlace) :
    TweetPlace.onConflict.merge stored submitted = stored.fill submitted ↔
      (stored.boundary = some [] → submitted.boundary = some []) := by
  unfold OnConflict.merge
  cases fires : TweetPlace.onConflict.condition stored submitted with
  | true =>
    rw [if_pos rfl]
    exact TweetPlace.set_eq_fill_iff stored submitted
  | false =>
    rw [← TweetPlace.fill_of_quiet fires]
    simp [eq_comm]

/-! ## Statements -/

section Statements

theorem distinct_map {ρ ι : Type} [Row ρ ι] {π : Type} {key : π → ι} {toRow : π → ρ}
    (sameKey : ∀ record, Row.key (toRow record) = key record) [DecidableEq ι] (records : List π) :
    ((distinctOn key records).map toRow).Pairwise fun a b => Row.key a ≠ Row.key b := by
  rw [List.pairwise_map]
  simp only [sameKey]
  exact distinctOn_pairwise key records

/-- A stored row after one of the three functions for rows of a tweet. -/
theorem find_writeChildren {ρ : Type} [Row ρ Int] {conflict : OnConflict ρ}
    {constraints : Constraints ρ} {hasTweet : Int → Bool} {input : List ρ} {table table' : Table ρ}
    {statuses : List (Int × ChildStatus)} {stored row : ρ}
    (written : writeChildren conflict constraints hasTweet input table = some (statuses, table'))
    (distinct : input.Pairwise fun a b => Row.key a ≠ Row.key b) (submitted : row ∈ input)
    (found : table.find (Row.key row) = some stored) (parent : hasTweet (Row.key row) = true) :
    table'.find (Row.key row) = some (conflict.merge stored row) := by
  unfold writeChildren at written
  rw [Option.map_eq_some_iff] at written
  obtain ⟨⟨changed, middle⟩, upserted, result⟩ := written
  cases result
  have passes : row ∈ input.filter fun row => hasTweet (Row.key row) := by
    simp [submitted, parent]
  rw [(OnConflict.find_upsert (distinct.filter _) upserted).1 row passes, found, Option.elim_some]

theorem writeTweets_fills_iff {constraints : Constraints TweetRow}
    {newId : Search.IndexTarget → Uuid} {now : Timestamp} {records : List TweetRow}
    {tables tables' : TweetTables} {changed : List Int} {stored submitted : TweetRow}
    (written : writeTweets constraints newId now records tables = some (changed, tables'))
    (kept : submitted ∈ distinctOn TweetRow.id records)
    (found : tables.tweets.find submitted.id = some stored) :
    tables'.tweets.find submitted.id = some (stored.fill submitted) ↔
      TweetRow.onConflict.condition stored submitted = true ∨
        (stored.noteText = none → submitted.noteText = none) := by
  unfold writeTweets at written
  obtain ⟨⟨_, tweets⟩, upserted, queued⟩ := Option.bind_eq_some_iff.mp written
  obtain ⟨_, _, result⟩ := Option.map_eq_some_iff.mp queued
  cases result
  have after : tweets.find submitted.id =
      some (((tables.tweets.find submitted.id).elim submitted) fun stored =>
        TweetRow.onConflict.merge stored submitted) :=
    (OnConflict.find_upsert (distinctOn_pairwise _ _) upserted).1 submitted kept
  show tweets.find submitted.id = _ ↔ _
  rw [after, found, Option.elim_some, Option.some.injEq]
  exact merge_eq_fill_iff (TweetRow.set_eq_fill _ _) TweetRow.fill_of_quiet

theorem writeMedia_fills_iff {constraints : Constraints Media} {records : List MediaPayload}
    {media media' : Table Media} {changed : List Int} {stored : Media} {submitted : MediaPayload}
    (written : writeMedia constraints records media = some (changed, media'))
    (kept : submitted ∈ distinctOn MediaPayload.id records)
    (found : media.find submitted.id = some stored) :
    media'.find submitted.id = some (stored.fill submitted.toRow) ↔
      Media.onConflict.condition stored submitted.toRow = true ∨
        (stored.sizeVariants = none → submitted.sizeVariants = none) ∧
          (stored.details = none → submitted.details = none) := by
  have after : media'.find submitted.id =
      some (((media.find submitted.id).elim submitted.toRow) fun stored =>
        Media.onConflict.merge stored submitted.toRow) :=
    (OnConflict.find_upsert (distinct_map (fun _ => rfl) records) written).1 _
      (List.mem_map_of_mem kept)
  rw [after, found, Option.elim_some, Option.some.injEq]
  exact merge_eq_fill_iff (Media.set_eq_fill _ _) Media.fill_of_quiet

theorem writeTweetPlaces_fills_iff {constraints : Constraints TweetPlace}
    {records : List TweetPlace} {places places' : Table TweetPlace} {changed : List String}
    {stored submitted : TweetPlace}
    (written : writeTweetPlaces constraints records places = some (changed, places'))
    (kept : submitted ∈ distinctOn TweetPlace.id records)
    (found : places.find submitted.id = some stored) :
    places'.find submitted.id = some (stored.fill submitted) ↔
      (stored.boundary = some [] → submitted.boundary = some []) := by
  have after : places'.find submitted.id =
      some (((places.find submitted.id).elim submitted) fun stored =>
        TweetPlace.onConflict.merge stored submitted) :=
    (OnConflict.find_upsert (distinctOn_pairwise _ _) written).1 submitted kept
  rw [after, found, Option.elim_some, Option.some.injEq]
  exact TweetPlace.merge_eq_fill_iff stored submitted

theorem writeTweetEdits_fills {constraints : Constraints TweetEdit} {hasTweet : Int → Bool}
    {records : List TweetEditPayload} {edits edits' : Table TweetEdit}
    {statuses : List (Int × ChildStatus)} {stored : TweetEdit} {submitted : TweetEditPayload}
    (written : writeTweetEdits constraints hasTweet records edits = some (statuses, edits'))
    (kept : submitted ∈ distinctOn TweetEditPayload.tweetId records)
    (found : edits.find submitted.tweetId = some stored)
    (parent : hasTweet submitted.tweetId = true) :
    edits'.find submitted.tweetId = some (stored.fill submitted.toRow) := by
  have after : edits'.find submitted.tweetId =
      some (TweetEdit.onConflict.merge stored submitted.toRow) :=
    find_writeChildren written (distinct_map (fun _ => rfl) records) (List.mem_map_of_mem kept)
      found parent
  rw [after, merge_eq_fill (TweetEdit.set_eq_fill _ _) TweetEdit.fill_of_quiet]

theorem writeTweetPolicies_fills {constraints : Constraints TweetPolicy} {hasTweet : Int → Bool}
    {records : List TweetPolicyPayload} {policies policies' : Table TweetPolicy}
    {statuses : List (Int × ChildStatus)} {stored : TweetPolicy} {submitted : TweetPolicyPayload}
    (written : writeTweetPolicies constraints hasTweet records policies =
      some (statuses, policies'))
    (kept : submitted ∈ distinctOn TweetPolicyPayload.tweetId records)
    (found : policies.find submitted.tweetId = some stored)
    (parent : hasTweet submitted.tweetId = true) :
    policies'.find submitted.tweetId = some (stored.fill submitted.toRow) := by
  have after : policies'.find submitted.tweetId =
      some (TweetPolicy.onConflict.merge stored submitted.toRow) :=
    find_writeChildren written (distinct_map (fun _ => rfl) records) (List.mem_map_of_mem kept)
      found parent
  rw [after, merge_eq_fill (TweetPolicy.set_eq_fill _ _) TweetPolicy.fill_of_quiet]

theorem writeTweetCommunityNotes_fills_iff {constraints : Constraints TweetCommunityNote}
    {hasTweet : Int → Bool} {records : List TweetCommunityNote}
    {notes notes' : Table TweetCommunityNote} {statuses : List (Int × ChildStatus)}
    {stored submitted : TweetCommunityNote}
    (written : writeTweetCommunityNotes constraints hasTweet records notes =
      some (statuses, notes'))
    (kept : submitted ∈ distinctOn TweetCommunityNote.tweetId records)
    (found : notes.find submitted.tweetId = some stored)
    (parent : hasTweet submitted.tweetId = true) :
    notes'.find submitted.tweetId = some (stored.fill submitted) ↔
      TweetCommunityNote.onConflict.condition stored submitted = true ∨
        (stored.subtitle = none → submitted.subtitle = none) ∧
          (stored.footer = none → submitted.footer = none) := by
  have after : notes'.find submitted.tweetId =
      some (TweetCommunityNote.onConflict.merge stored submitted) :=
    find_writeChildren written (distinctOn_pairwise _ _) kept found parent
  rw [after, Option.some.injEq]
  exact merge_eq_fill_iff (TweetCommunityNote.set_eq_fill _ _) TweetCommunityNote.fill_of_quiet

end Statements

/-- A stored row obeys the law after a submission of its id exactly when the `WHERE` clause
lets the row be updated or no composite column with a null field is left to fill; the
array that may be absent is not filled once it is stored empty.  Edits and policies
always obey it. -/
theorem fill_law_holds_iff (newId : Search.IndexTarget → Uuid) (now : Timestamp)
    (hasTweet : Int → Bool) :
    (∀ (constraints : Constraints TweetRow) (records : List TweetRow)
      (tables tables' : TweetTables) (changed : List Int) (stored submitted : TweetRow),
      writeTweets constraints newId now records tables = some (changed, tables') →
      submitted ∈ distinctOn TweetRow.id records →
      tables.tweets.find submitted.id = some stored →
      (tables'.tweets.find submitted.id = some (stored.fill submitted) ↔
        TweetRow.onConflict.condition stored submitted = true ∨
          (stored.noteText = none → submitted.noteText = none))) ∧
    (∀ (constraints : Constraints Media) (records : List MediaPayload) (media media' : Table Media)
      (changed : List Int) (stored : Media) (submitted : MediaPayload),
      writeMedia constraints records media = some (changed, media') →
      submitted ∈ distinctOn MediaPayload.id records → media.find submitted.id = some stored →
      (media'.find submitted.id = some (stored.fill submitted.toRow) ↔
        Media.onConflict.condition stored submitted.toRow = true ∨
          (stored.sizeVariants = none → submitted.sizeVariants = none) ∧
            (stored.details = none → submitted.details = none))) ∧
    (∀ (constraints : Constraints TweetPlace) (records : List TweetPlace)
      (places places' : Table TweetPlace) (changed : List String) (stored submitted : TweetPlace),
      writeTweetPlaces constraints records places = some (changed, places') →
      submitted ∈ distinctOn TweetPlace.id records → places.find submitted.id = some stored →
      (places'.find submitted.id = some (stored.fill submitted) ↔
        (stored.boundary = some [] → submitted.boundary = some []))) ∧
    (∀ (constraints : Constraints TweetEdit) (records : List TweetEditPayload)
      (edits edits' : Table TweetEdit)
      (statuses : List (Int × ChildStatus)) (stored : TweetEdit) (submitted : TweetEditPayload),
      writeTweetEdits constraints hasTweet records edits = some (statuses, edits') →
      submitted ∈ distinctOn TweetEditPayload.tweetId records →
      edits.find submitted.tweetId = some stored → hasTweet submitted.tweetId = true →
      edits'.find submitted.tweetId = some (stored.fill submitted.toRow)) ∧
    (∀ (constraints : Constraints TweetPolicy) (records : List TweetPolicyPayload)
      (policies policies' : Table TweetPolicy)
      (statuses : List (Int × ChildStatus)) (stored : TweetPolicy)
      (submitted : TweetPolicyPayload),
      writeTweetPolicies constraints hasTweet records policies = some (statuses, policies') →
      submitted ∈ distinctOn TweetPolicyPayload.tweetId records →
      policies.find submitted.tweetId = some stored → hasTweet submitted.tweetId = true →
      policies'.find submitted.tweetId = some (stored.fill submitted.toRow)) ∧
    (∀ (constraints : Constraints TweetCommunityNote) (records : List TweetCommunityNote)
      (notes notes' : Table TweetCommunityNote)
      (statuses : List (Int × ChildStatus)) (stored submitted : TweetCommunityNote),
      writeTweetCommunityNotes constraints hasTweet records notes = some (statuses, notes') →
      submitted ∈ distinctOn TweetCommunityNote.tweetId records →
      notes.find submitted.tweetId = some stored → hasTweet submitted.tweetId = true →
      (notes'.find submitted.tweetId = some (stored.fill submitted) ↔
        TweetCommunityNote.onConflict.condition stored submitted = true ∨
          (stored.subtitle = none → submitted.subtitle = none) ∧
            (stored.footer = none → submitted.footer = none))) := by
  refine ⟨?_, ?_, ?_, ?_, ?_, ?_⟩
  · intro constraints records tables tables' changed stored submitted
    exact writeTweets_fills_iff
  · intro constraints records media media' changed stored submitted
    exact writeMedia_fills_iff
  · intro constraints records places places' changed stored submitted
    exact writeTweetPlaces_fills_iff
  · intro constraints records edits edits' statuses stored submitted
    exact writeTweetEdits_fills
  · intro constraints records policies policies' statuses stored submitted
    exact writeTweetPolicies_fills
  · intro constraints records notes notes' statuses stored submitted
    exact writeTweetCommunityNotes_fills_iff

/-! ## Concrete submissions -/

/-- A text without a display range. -/
def plainText (body : String) : AnnotatedText := ⟨body, none, none, [], [], [], [], [], []⟩

def plainTweet (language : Option String) (noteText : Option AnnotatedText) : TweetRow where
  id := 1
  publishedAt := 0
  source := none
  authorId := 2
  placeId := none
  legacyText := plainText "text"
  noteId := none
  noteText := noteText
  language := language
  conversationId := 1
  replyToTweetId := none
  replyToUserId := none
  quoteTweetId := none
  quotePermalink := none
  repostId := none

def unconstrained {ρ : Type} : Constraints ρ := ⟨fun _ => true, fun _ => true⟩

def single {ρ κ : Type} [Row ρ κ] (row : ρ) : Table ρ := ⟨[row], List.pairwise_singleton _ _⟩

/-- One submission to each of the six functions. -/
theorem fill_law_holds_filled :
    (∃ changed tables, writeTweets unconstrained (fun _ => 7) 0
        [plainTweet (some "en") (some (plainText "note"))] ⟨single (plainTweet none none), .empty⟩ =
          some (changed, tables) ∧
      tables.tweets.find 1 = some ((plainTweet none none).fill
        (plainTweet (some "en") (some (plainText "note"))))) ∧
    (∃ changed media, writeMedia unconstrained
        [⟨5, .photo, some "alt", none, none, none, none, none, none, none, none⟩]
        (single ⟨5, .photo, none, none, none, none, [], [], none, none, none⟩) =
          some (changed, media) ∧
      media.find 5 = some ⟨5, .photo, some "alt", none, none, none, [], [], none, none, none⟩) ∧
    (∃ changed places, writeTweetPlaces unconstrained
        [⟨"p", some "new", none, none, none, none, none⟩]
        (single ⟨"p", some "old", none, none, none, none, none⟩) = some (changed, places) ∧
      places.find "p" = some ⟨"p", some "old", none, none, none, none, none⟩) ∧
    (∃ statuses edits, writeTweetEdits unconstrained (fun _ => true) [⟨1, some [1, 2], none, none⟩]
        (single ⟨1, [], none, none⟩) = some (statuses, edits) ∧
      edits.find 1 = some ⟨1, [1, 2], none, none⟩) ∧
    (∃ statuses policies, writeTweetPolicies unconstrained (fun _ => true)
        [⟨1, some "everyone", some false, none, none, none, none⟩]
        (single ⟨1, none, some true, none, [], none, none⟩) = some (statuses, policies) ∧
      policies.find 1 = some ⟨1, some "everyone", some true, none, [], none, none⟩) ∧
    (∃ statuses notes, writeTweetCommunityNotes unconstrained (fun _ => true)
        [⟨1, some 9, none, none, some (plainText "subtitle"), none, none⟩]
        (single ⟨1, none, none, none, none, none, none⟩) = some (statuses, notes) ∧
      notes.find 1 = some ⟨1, some 9, none, none, some (plainText "subtitle"), none, none⟩) := by
  obtain ⟨tweets, media, places, edits, policies, notes⟩ :=
    fill_law_holds_iff (fun _ => 7) 0 fun _ => true
  refine ⟨⟨_, _, rfl, ?_⟩, ⟨_, _, rfl, ?_⟩, ⟨_, _, rfl, ?_⟩, ⟨_, _, rfl, ?_⟩, ⟨_, _, rfl, ?_⟩,
    ⟨_, _, rfl, ?_⟩⟩
  · exact (tweets unconstrained [plainTweet (some "en") (some (plainText "note"))]
      ⟨single (plainTweet none none), .empty⟩ _ _ (plainTweet none none) _ rfl
      List.mem_cons_self rfl).mpr (.inl rfl)
  · exact (media unconstrained
      [⟨5, .photo, some "alt", none, none, none, none, none, none, none, none⟩]
      (single ⟨5, .photo, none, none, none, none, [], [], none, none, none⟩) _ _ _ _ rfl
      List.mem_cons_self rfl).mpr (.inl rfl)
  · exact (places unconstrained [⟨"p", some "new", none, none, none, none, none⟩]
      (single ⟨"p", some "old", none, none, none, none, none⟩) _ _ _ _ rfl
      List.mem_cons_self rfl).mpr (by decide)
  · exact edits unconstrained [⟨1, some [1, 2], none, none⟩]
      (single ⟨1, [], none, none⟩) _ _ _ _ rfl List.mem_cons_self rfl rfl
  · exact policies unconstrained
      [⟨1, some "everyone", some false, none, none, none, none⟩]
      (single ⟨1, none, some true, none, [], none, none⟩) _ _ _ _ rfl List.mem_cons_self rfl rfl
  · exact (notes unconstrained
      [⟨1, some 9, none, none, some (plainText "subtitle"), none, none⟩]
      (single ⟨1, none, none, none, none, none, none⟩) _ _ _ _ rfl List.mem_cons_self rfl
      rfl).mpr (.inl rfl)

/-- A note text without display range is the only column to fill: the row is not updated. -/
theorem note_text_without_range_not_filled :
    ∃ tables, writeTweets unconstrained (fun _ => 7) 0
        [plainTweet none (some (plainText "note"))] ⟨single (plainTweet none none), .empty⟩ =
          some ([], tables) ∧
      tables.tweets.find 1 = some (plainTweet none none) ∧
      tables.tweets.find 1 ≠
        some ((plainTweet none none).fill (plainTweet none (some (plainText "note")))) :=
  ⟨_, rfl, rfl, by decide⟩

end TweetDb.Tweet
