import TweetDb.Relational.Reports
import TweetDb.Tweet.FillLaw

/-! # Reports of change

Which ids the write functions report.  In six of the seven the `WHERE` clause
asks for what the `SET` clause changes.  In `tweet.write_media` an object whose
fields are all null counts as null for the one and as a value for the other.
-/

namespace TweetDb.Tweet

open Relational

variable {α : Type}

/-! ## Columns -/

@[simp] theorem fillable_coalesce (stored excluded : Option α) :
    fillable (coalesce stored excluded) excluded = false := by
  cases stored <;> cases excluded <;> rfl

@[simp] theorem fillableArray_fillArray (stored excluded : List α) :
    fillableArray (fillArray stored excluded) excluded = false := by
  cases stored <;> cases excluded <;> rfl

@[simp] theorem fillable_self (value : Option α) : fillable value value = false := by
  cases value <;> rfl

@[simp] theorem fillableArray_self (value : List α) : fillableArray value value = false := by
  cases value <;> rfl

section Composite

variable [Composite α] (hasFields : ∀ value : α, Composite.fieldNulls value ≠ [])

include hasFields

/-- A value is not null in all fields and in none. -/
theorem fillableRow_self (value : Option α) : fillableRow value value = false := by
  cases value with
  | none => rfl
  | some value =>
    obtain ⟨first, rest, fields⟩ := List.exists_cons_of_ne_nil (hasFields value)
    cases first <;> simp [fillableRow, rowIsNull, rowIsNotNull, fields]

/-- `COALESCE` keeps an object whose fields are all null, and the column stays fillable. -/
theorem fillableRow_coalesce_iff (stored excluded : Option α) :
    fillableRow (coalesce stored excluded) excluded = true ↔
      stored.isSome = true ∧ rowIsNull stored = true ∧ rowIsNotNull excluded = true := by
  cases stored with
  | none => simp [coalesce, fillableRow_self hasFields]
  | some value => simp [coalesce, fillableRow]

end Composite

theorem fieldNulls_annotatedText (text : AnnotatedText) : Composite.fieldNulls text ≠ [] :=
  List.cons_ne_nil _ _

theorem fieldNulls_resolvedUrl (url : ResolvedUrl) : Composite.fieldNulls url ≠ [] :=
  List.cons_ne_nil _ _

theorem fieldNulls_mediaGeometry (geometry : MediaGeometry) :
    Composite.fieldNulls geometry ≠ [] := List.cons_ne_nil _ _

theorem fieldNulls_mediaSizeVariants (variants : MediaSizeVariants) :
    Composite.fieldNulls variants ≠ [] := List.cons_ne_nil _ _

theorem fieldNulls_mediaDetails (details : MediaDetails) : Composite.fieldNulls details ≠ [] :=
  List.cons_ne_nil _ _

@[simp] theorem fillableRow_coalesce_annotatedText (stored excluded : Option AnnotatedText) :
    fillableRow (coalesce stored excluded) excluded = false := by
  rw [← Bool.not_eq_true, fillableRow_coalesce_iff fieldNulls_annotatedText]
  cases stored <;> simp [rowIsNull, Composite.fieldNulls]

@[simp] theorem fillableRow_coalesce_resolvedUrl (stored excluded : Option ResolvedUrl) :
    fillableRow (coalesce stored excluded) excluded = false := by
  rw [← Bool.not_eq_true, fillableRow_coalesce_iff fieldNulls_resolvedUrl]
  cases stored <;> simp [rowIsNull, Composite.fieldNulls]

@[simp] theorem fillableRow_coalesce_mediaGeometry (stored excluded : Option MediaGeometry) :
    fillableRow (coalesce stored excluded) excluded = false := by
  rw [← Bool.not_eq_true, fillableRow_coalesce_iff fieldNulls_mediaGeometry]
  cases stored <;> simp [rowIsNull, Composite.fieldNulls]

/-! ## Rows -/

theorem settles_of_set {ρ κ : Type} [Row ρ κ] {conflict : OnConflict ρ} {stored excluded : ρ}
    (quiet : conflict.condition (conflict.set stored excluded) excluded = false) :
    conflict.Settles stored excluded := by
  rw [OnConflict.Settles, OnConflict.merge]
  cases fires : conflict.condition stored excluded with
  | true => simpa using quiet
  | false => simpa using fires

theorem TwitterUser.settles (stored excluded : TwitterUser) :
    TwitterUser.onConflict.Settles stored excluded :=
  settles_of_set (by simp [TwitterUser.onConflict])

theorem TweetRow.settles (stored excluded : TweetRow) :
    TweetRow.onConflict.Settles stored excluded :=
  settles_of_set (by simp [TweetRow.onConflict, -coalesce_eq_fillColumn])

theorem TweetPlace.settles (stored excluded : TweetPlace) :
    TweetPlace.onConflict.Settles stored excluded :=
  settles_of_set (by simp [TweetPlace.onConflict, -coalesce_eq_fillColumn])

theorem TweetEdit.settles (stored excluded : TweetEdit) :
    TweetEdit.onConflict.Settles stored excluded :=
  settles_of_set (by
    simp [TweetEdit.onConflict, -coalesce_eq_fillColumn, -fillArray_eq_fillColumn])

theorem TweetPolicy.settles (stored excluded : TweetPolicy) :
    TweetPolicy.onConflict.Settles stored excluded :=
  settles_of_set (by
    simp [TweetPolicy.onConflict, -coalesce_eq_fillColumn, -fillArray_eq_fillColumn])

theorem TweetCommunityNote.settles (stored excluded : TweetCommunityNote) :
    TweetCommunityNote.onConflict.Settles stored excluded :=
  settles_of_set (by simp [TweetCommunityNote.onConflict, -coalesce_eq_fillColumn])

/-- A stored object has only null fields, the submitted one has none. -/
def StaysNull [Composite α] (stored excluded : Option α) : Prop :=
  stored.isSome = true ∧ rowIsNull stored = true ∧ rowIsNotNull excluded = true

theorem Media.condition_set (stored excluded : Media) :
    Media.onConflict.condition (Media.onConflict.set stored excluded) excluded = true ↔
      StaysNull stored.sizeVariants excluded.sizeVariants ∨
        StaysNull stored.details excluded.details := by
  simp [Media.onConflict, StaysNull, fillableRow_coalesce_iff fieldNulls_mediaSizeVariants,
    fillableRow_coalesce_iff fieldNulls_mediaDetails, -coalesce_eq_fillColumn,
    -fillArray_eq_fillColumn]

theorem Media.condition_of_staysNull {stored excluded : Media}
    (stays : StaysNull stored.sizeVariants excluded.sizeVariants ∨
      StaysNull stored.details excluded.details) :
    Media.onConflict.condition stored excluded = true := by
  rcases stays with ⟨-, isNull, isNotNull⟩ | ⟨-, isNull, isNotNull⟩ <;>
    simp [Media.onConflict, fillableRow, isNull, isNotNull]

theorem Media.settles_iff (stored excluded : Media) :
    Media.onConflict.Settles stored excluded ↔
      ¬ (StaysNull stored.sizeVariants excluded.sizeVariants ∨
        StaysNull stored.details excluded.details) := by
  constructor
  · intro settles stays
    rw [OnConflict.Settles, OnConflict.merge, if_pos (condition_of_staysNull stays),
      (condition_set stored excluded).mpr stays] at settles
    cases settles
  · intro fills
    apply settles_of_set
    rw [← Bool.not_eq_true, condition_set]
    exact fills

/-! ## A proposed row and itself -/

theorem TwitterUser.condition_self (row : TwitterUser) :
    TwitterUser.onConflict.condition row row = false := by
  simp [TwitterUser.onConflict]

theorem TweetRow.condition_self (row : TweetRow) :
    TweetRow.onConflict.condition row row = false := by
  simp [TweetRow.onConflict, fillableRow_self fieldNulls_annotatedText,
    fillableRow_self fieldNulls_resolvedUrl]

theorem TweetPlace.condition_self (row : TweetPlace) :
    TweetPlace.onConflict.condition row row = false := by
  simp [TweetPlace.onConflict]

theorem TweetEdit.condition_self (row : TweetEdit) :
    TweetEdit.onConflict.condition row row = false := by
  simp [TweetEdit.onConflict]

theorem TweetPolicy.condition_self (row : TweetPolicy) :
    TweetPolicy.onConflict.condition row row = false := by
  simp [TweetPolicy.onConflict]

theorem TweetCommunityNote.condition_self (row : TweetCommunityNote) :
    TweetCommunityNote.onConflict.condition row row = false := by
  simp [TweetCommunityNote.onConflict, fillableRow_self fieldNulls_annotatedText]

theorem Media.condition_self (row : Media) : Media.onConflict.condition row row = false := by
  simp [Media.onConflict, fillableRow_self fieldNulls_mediaGeometry,
    fillableRow_self fieldNulls_mediaSizeVariants, fillableRow_self fieldNulls_mediaDetails]

/-! ## Statements -/

/-- A statement that succeeds reports the ids whose rows it created or changed, and if it is
repeated it succeeds, reports none and changes nothing. -/
def ExactReports {ρ κ : Type} [Row ρ κ] (write again : Table ρ → Option (List κ × Table ρ)) :
    Prop :=
  ∀ before reported after, write before = some (reported, after) →
    ReportsExactly reported before after ∧ again after = some ([], after)

/-- The ids that are reported as inserted or filled. -/
def insertedIds (statuses : List (Int × ChildStatus)) : List Int :=
  (statuses.filter fun entry => decide (entry.2 = .inserted)).map Prod.fst

theorem exactReports_upsert {ρ κ : Type} [Row ρ κ] {conflict : OnConflict ρ}
    {constraints : Constraints ρ} {rows : List ρ}
    (distinct : rows.Pairwise fun a b => Row.key a ≠ Row.key b)
    (self : ∀ row, conflict.condition row row = false)
    (settles : ∀ stored excluded, conflict.Settles stored excluded) :
    ExactReports (fun table => conflict.upsert constraints table rows)
      (fun table => conflict.upsert constraints table rows) := by
  intro before reported after upserted
  exact (OnConflict.exact_and_again_iff distinct (fun row _ => self row) upserted).mpr
    fun row _ stored _ => settles stored row

theorem mem_insertedIds {ρ : Type} [Row ρ Int] {hasTweet : Int → Bool} {changed : List Int}
    {input : List ρ} {id : Int} :
    id ∈ insertedIds (input.map fun row => (Row.key row,
        if !hasTweet (Row.key row) then ChildStatus.missingParent
        else if changed.contains (Row.key row) then .inserted
        else .unchanged)) ↔
      id ∈ changed ∧ ∃ row ∈ input.filter fun row => hasTweet (Row.key row), Row.key row = id := by
  simp only [insertedIds, List.mem_map, List.mem_filter, decide_eq_true_eq, Prod.exists,
    exists_and_right, exists_eq_right]
  constructor
  · rintro ⟨row, member, same⟩
    obtain ⟨rfl, isInserted⟩ := Prod.mk.inj same
    split at isInserted
    · cases isInserted
    · next parent =>
      split at isInserted
      · next isChanged =>
        exact ⟨by simpa using isChanged, row, ⟨member, by simpa using parent⟩, rfl⟩
      · cases isInserted
  · rintro ⟨isChanged, row, ⟨member, parent⟩, rfl⟩
    exact ⟨row, member, by simp [parent, isChanged]⟩

theorem exactReports_writeChildren {ρ : Type} [Row ρ Int] {conflict : OnConflict ρ}
    {constraints : Constraints ρ} {hasTweet : Int → Bool} {input : List ρ}
    (distinct : input.Pairwise fun a b => Row.key a ≠ Row.key b)
    (self : ∀ row, conflict.condition row row = false)
    (settles : ∀ stored excluded, conflict.Settles stored excluded) :
    ExactReports
      (fun table => (writeChildren conflict constraints hasTweet input table).map
        fun (statuses, table) => (insertedIds statuses, table))
      (fun table => (writeChildren conflict constraints hasTweet input table).map
        fun (statuses, table) => (insertedIds statuses, table)) := by
  intro before reported after written
  simp only [writeChildren, Option.map_map, Option.map_eq_some_iff, Function.comp_apply] at written ⊢
  obtain ⟨⟨changed, table⟩, upserted, result⟩ := written
  obtain ⟨rfl, rfl⟩ := Prod.mk.inj result
  have apart := distinct.filter fun row => hasTweet (Row.key row)
  obtain ⟨exact_, again⟩ := exactReports_upsert apart self settles _ _ _ upserted
  constructor
  · intro id
    rw [mem_insertedIds, ← exact_ id]
    -- What changed is one of the rows whose tweet exists.
    refine and_iff_left_of_imp fun isChanged => ?_
    obtain ⟨row, member, same, -⟩ := (OnConflict.mem_returned_upsert apart upserted).mp isChanged
    exact ⟨row, member, same⟩
  · refine ⟨([], table), again, ?_⟩
    have none : ∀ id, id ∉ insertedIds (input.map fun row => (Row.key row,
        if !hasTweet (Row.key row) then ChildStatus.missingParent
        else if ([] : List Int).contains (Row.key row) then .inserted
        else .unchanged)) := by
      intro id given
      exact List.not_mem_nil (mem_insertedIds.mp given).1
    rw [List.eq_nil_iff_forall_not_mem.mpr none]

/-! ## The write functions -/

theorem distinctUsers_pairwise (records : List TwitterUser) :
    (distinctUsers records).Pairwise fun a b => Row.key a ≠ Row.key b :=
  distinctOn_pairwise TwitterUser.id _

theorem exactReports_writeTwitterUsers (records : List TwitterUser)
    (newId newId' : Search.IndexTarget → Uuid) (now now' : Timestamp)
    (queue queue' : Table Search.IndexTask) :
    ExactReports
      (fun users => (writeTwitterUsers newId now records users queue).map
        fun (changed, users, _) => (changed, users))
      (fun users => (writeTwitterUsers newId' now' records users queue').map
        fun (changed, users, _) => (changed, users)) := by
  intro before reported after written
  simp only [writeTwitterUsers, Option.map_bind, Option.bind_eq_some_iff, Function.comp_apply,
    Option.map_map, Option.map_eq_some_iff] at written ⊢
  obtain ⟨⟨changed, users⟩, upserted, queued, -, result⟩ := written
  obtain ⟨rfl, rfl⟩ := Prod.mk.inj result
  obtain ⟨isExact, again⟩ := exactReports_upsert (distinctUsers_pairwise records)
    TwitterUser.condition_self TwitterUser.settles _ _ _ upserted
  exact ⟨isExact, ([], users), again, ([], queue'), rfl, rfl⟩

theorem exactReports_writeTweets (constraints : Constraints TweetRow) (records : List TweetRow)
    (newId newId' : Search.IndexTarget → Uuid) (now now' : Timestamp)
    (queue queue' : Table Search.IndexTask) :
    ExactReports
      (fun tweets => (writeTweets constraints newId now records ⟨tweets, queue⟩).map
        fun (changed, tables) => (changed, tables.tweets))
      (fun tweets => (writeTweets constraints newId' now' records ⟨tweets, queue'⟩).map
        fun (changed, tables) => (changed, tables.tweets)) := by
  intro before reported after written
  simp only [writeTweets, Option.map_bind, Option.bind_eq_some_iff, Function.comp_apply,
    Option.map_map, Option.map_eq_some_iff] at written ⊢
  obtain ⟨⟨changed, tweets⟩, upserted, queued, -, result⟩ := written
  obtain ⟨rfl, rfl⟩ := Prod.mk.inj result
  obtain ⟨isExact, again⟩ := exactReports_upsert (distinctOn_pairwise TweetRow.id records)
    TweetRow.condition_self TweetRow.settles _ _ _ upserted
  exact ⟨isExact, ([], tweets), again, ([], queue'), rfl, rfl⟩

/-- A record finds an object with only null fields where it has one without. -/
def FindsNullObject (records : List MediaPayload) (media : Table Media) : Prop :=
  ∃ submitted ∈ distinctOn MediaPayload.id records, ∃ stored, media.find submitted.id = some stored ∧
    (StaysNull stored.sizeVariants submitted.sizeVariants ∨
      StaysNull stored.details submitted.details)

/-- The reports of six functions are exact, those of `write_media` unless a record finds an object
with only null fields. -/
theorem change_reports_exact_iff {constraints : Constraints Media} {records : List MediaPayload}
    {media media' : Table Media} {reported : List Int}
    (written : writeMedia constraints records media = some (reported, media')) :
    (∀ records newId newId' now now' queue queue', ExactReports
      (fun users => (writeTwitterUsers newId now records users queue).map
        fun (changed, users, _) => (changed, users))
      (fun users => (writeTwitterUsers newId' now' records users queue').map
        fun (changed, users, _) => (changed, users))) ∧
    (∀ constraints records newId newId' now now' queue queue', ExactReports
      (fun tweets => (writeTweets constraints newId now records ⟨tweets, queue⟩).map
        fun (changed, tables) => (changed, tables.tweets))
      (fun tweets => (writeTweets constraints newId' now' records ⟨tweets, queue'⟩).map
        fun (changed, tables) => (changed, tables.tweets))) ∧
    (∀ constraints records, ExactReports (writeTweetPlaces constraints records)
      (writeTweetPlaces constraints records)) ∧
    (∀ constraints hasTweet records, ExactReports
      (fun edits => (writeTweetEdits constraints hasTweet records edits).map
        fun (statuses, edits) => (insertedIds statuses, edits))
      (fun edits => (writeTweetEdits constraints hasTweet records edits).map
        fun (statuses, edits) => (insertedIds statuses, edits))) ∧
    (∀ constraints hasTweet records, ExactReports
      (fun policies => (writeTweetPolicies constraints hasTweet records policies).map
        fun (statuses, policies) => (insertedIds statuses, policies))
      (fun policies => (writeTweetPolicies constraints hasTweet records policies).map
        fun (statuses, policies) => (insertedIds statuses, policies))) ∧
    (∀ constraints hasTweet records, ExactReports
      (fun notes => (writeTweetCommunityNotes constraints hasTweet records notes).map
        fun (statuses, notes) => (insertedIds statuses, notes))
      (fun notes => (writeTweetCommunityNotes constraints hasTweet records notes).map
        fun (statuses, notes) => (insertedIds statuses, notes))) ∧
    ((ReportsExactly reported media media' ∧
        writeMedia constraints records media' = some ([], media')) ↔
      ¬ FindsNullObject records media) := by
  refine ⟨exactReports_writeTwitterUsers, exactReports_writeTweets, fun constraints records => ?_,
    fun constraints hasTweet records => ?_, fun constraints hasTweet records => ?_,
    fun constraints hasTweet records => ?_, ?_⟩
  · exact exactReports_upsert (distinctOn_pairwise TweetPlace.id records)
      TweetPlace.condition_self TweetPlace.settles
  · exact exactReports_writeChildren (distinct_map (fun _ => rfl) records)
      TweetEdit.condition_self TweetEdit.settles
  · exact exactReports_writeChildren (distinct_map (fun _ => rfl) records)
      TweetPolicy.condition_self TweetPolicy.settles
  · exact exactReports_writeChildren (distinctOn_pairwise TweetCommunityNote.tweetId records)
      TweetCommunityNote.condition_self TweetCommunityNote.settles
  · have settled := OnConflict.exact_and_again_iff (distinct_map (fun _ => rfl) records)
      (fun row _ => Media.condition_self row) written
    refine settled.trans ?_
    simp only [Media.settles_iff, FindsNullObject, List.mem_map, forall_exists_index, and_imp,
      forall_apply_eq_imp_iff₂]
    constructor
    · rintro fills ⟨submitted, kept, stored, found, stays⟩
      exact fills submitted kept stored found stays
    · intro none submitted kept stored found stays
      exact none ⟨submitted, kept, stored, found, stays⟩

/-! ## A photo without sizes -/

def sizedPhoto : MediaPayload :=
  ⟨7, .photo, none, none, none,
    some ⟨some ⟨800, 600, none⟩, some ⟨400, 300, none⟩, some ⟨200, 150, none⟩, some ⟨80, 60, none⟩⟩,
    none, none, none, none, none⟩

/-- It was stored with four sizes that are all null. -/
def unsizedPhotos : Table Media :=
  ⟨[⟨7, .photo, none, none, none, some ⟨none, none, none, none⟩, [], [], none, none, none⟩],
    by decide⟩

theorem change_reports_exact_iff_photo :
    writeMedia ⟨fun _ => true, fun _ => true⟩ [sizedPhoto] .empty =
        some ([7], ⟨[sizedPhoto.toRow], by decide⟩) ∧
      ((ReportsExactly [7] .empty ⟨[sizedPhoto.toRow], by decide⟩ ∧
          writeMedia ⟨fun _ => true, fun _ => true⟩ [sizedPhoto] ⟨[sizedPhoto.toRow], by decide⟩ =
            some ([], ⟨[sizedPhoto.toRow], by decide⟩)) ↔
        ¬ FindsNullObject [sizedPhoto] .empty) :=
  ⟨rfl, (change_reports_exact_iff rfl).2.2.2.2.2.2⟩

/-- The sizes are reported as filled, but the row stays as it is. -/
theorem unsized_photo_reported :
    writeMedia ⟨fun _ => true, fun _ => true⟩ [sizedPhoto] unsizedPhotos =
        some ([7], unsizedPhotos) ∧
      ¬ ReportsExactly [7] unsizedPhotos unsizedPhotos := by
  refine ⟨rfl, fun isExact => ?_⟩
  exact (isExact 7).mp (by simp) rfl

end TweetDb.Tweet
