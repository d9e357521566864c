import TweetDb.Query.Collected
import TweetDb.Submit.Stored

/-! # What a process can resolve

The entries its dictionary caches and the rows of the lookup tables.  What is
converted and ensured is resolved, what is merged from resolved rows is too, and
whatever a process resolves it goes on resolving.
-/

namespace TweetDb.Query

open Relational Submit
open TweetDb.Tweet (AnnotatedText MediaSizeVariants MediaTag TextStyleRange TweetCommunityNote
  TweetPlace TweetPolicy TweetRow UserProfessional coalesce fillArray)

/-! ## The lookup tables -/

/-- An id that has a row keeps one. -/
structure LookupsKept (before after : LookupTables) : Prop where
  hashtags : ∀ id, (before.hashtag id).isSome = true → (after.hashtag id).isSome = true
  symbols : ∀ id, (before.symbol id).isSome = true → (after.symbol id).isSome = true
  categories : ∀ id, (before.userCategory id).isSome = true →
    (after.userCategory id).isSome = true

section Lookups

variable {tables tables' : LookupTables}

theorem LookupsKept.refl (tables : LookupTables) : LookupsKept tables tables :=
  ⟨fun _ => id, fun _ => id, fun _ => id⟩

theorem LookupsKept.trans {after : LookupTables} (first : LookupsKept tables tables')
    (rest : LookupsKept tables' after) : LookupsKept tables after :=
  ⟨fun id present => rest.hashtags id (first.hashtags id present),
    fun id present => rest.symbols id (first.symbols id present),
    fun id present => rest.categories id (first.categories id present)⟩

theorem find_id_isSome {ρ : Type} {id : ρ → Int} {rows : List ρ} {wanted : Int} :
    (rows.find? fun row => decide (id row = wanted)).isSome = true ↔
      ∃ row ∈ rows, id row = wanted := by
  simp [List.find?_isSome]

/-- An upsert that does not set the ids keeps them. -/
theorem find_id_of_upsert {ρ κ : Type} [DecidableEq κ] [Row ρ κ] {conflict : OnConflict ρ}
    {constraints : Constraints ρ} {table after : Table ρ} {rows : List ρ} {changed : List κ}
    {id : ρ → Int} (fixed : ∀ old excluded, id (conflict.set old excluded) = id old)
    (upserted : conflict.upsert constraints table rows = some (changed, after)) {wanted : Int}
    (present : (table.rows.find? fun row => decide (id row = wanted)).isSome = true) :
    (after.rows.find? fun row => decide (id row = wanted)).isSome = true := by
  obtain ⟨row, isRow, rfl⟩ := find_id_isSome.mp present
  obtain ⟨kept, found, same⟩ :=
    OnConflict.find_upsert_column fixed upserted (Table.find_of_mem isRow)
  exact find_id_isSome.mpr ⟨kept, Table.mem_of_find found, same⟩

theorem kept_next {call : LookupCall} (ran : tables.next call = some tables') :
    LookupsKept tables tables' := by
  cases call with
  | userCategories newIds categories =>
    obtain ⟨⟨_, _⟩, resolved, same⟩ := Option.map_eq_some_iff.mp ran
    obtain ⟨⟨_, _⟩, upserted, same'⟩ := Option.map_eq_some_iff.mp resolved
    cases same'
    cases same
    exact ⟨fun _ => id, fun _ => id,
      fun _ => find_id_of_upsert (fun _ _ => rfl) upserted⟩
  | hashtags newIds hashtags =>
    cases ran
    refine ⟨fun id present => ?_, fun _ => id, fun _ => id⟩
    obtain ⟨row, isRow, sameId⟩ := find_id_isSome.mp present
    refine find_id_isSome.mpr ⟨row, ?_, sameId⟩
    rw [NewLookupIds.resolveHashtags, Table.insertNew_rows]
    exact List.mem_append_left _ isRow
  | symbols newIds symbols =>
    obtain ⟨⟨_, _⟩, resolved, same⟩ := Option.map_eq_some_iff.mp ran
    obtain ⟨⟨_, _⟩, upserted, same'⟩ := Option.map_eq_some_iff.mp resolved
    cases same'
    cases same
    exact ⟨fun _ => id, fun _ => find_id_of_upsert (fun _ _ => rfl) upserted,
      fun _ => id⟩

theorem kept_run {calls : List LookupCall}
    (run : Transition.Run (Transition.Takes LookupTables.next) tables calls tables') :
    LookupsKept tables tables' := by
  induction run with
  | nil => exact .refl _
  | snoc _ ran inductionHypothesis => exact inductionHypothesis.trans (kept_next ran)

end Lookups

/-- The dictionary entries and the lookup rows that a process finds. -/
structure Known where
  caches : DictEntry → Bool
  lookups : LookupTables

/-- Everything these references name is found. -/
structure Known.Resolves (known : Known) (refs : References) : Prop
    extends HasRows refs known.lookups where
  entries : ∀ entry ∈ refs.entries, known.caches entry = true

namespace Known

variable {known : Known}

@[simp] theorem resolves_append {refs refs' : References} :
    known.Resolves (refs ++ refs') ↔ known.Resolves refs ∧ known.Resolves refs' := by
  constructor
  · intro both
    exact ⟨⟨both.toHasRows.left,
        fun entry member => both.entries entry (List.mem_append_left _ member)⟩,
      ⟨both.toHasRows.right,
        fun entry member => both.entries entry (List.mem_append_right _ member)⟩⟩
  · rintro ⟨left, right⟩
    refine ⟨⟨fun id member => ?_, fun id member => ?_, fun id member => ?_⟩,
      fun entry member => ?_⟩ <;> rcases List.mem_append.mp member with first | second
    · exact left.hashtags id first
    · exact right.hashtags id second
    · exact left.symbols id first
    · exact right.symbols id second
    · exact left.categories id first
    · exact right.categories id second
    · exact left.entries entry first
    · exact right.entries entry second

@[simp] theorem resolves_ofEntries {entries : List DictEntry} :
    known.Resolves (.ofEntries entries) ↔ ∀ entry ∈ entries, known.caches entry = true :=
  ⟨fun resolves => resolves.entries, fun cached =>
    ⟨⟨fun _ none => absurd none List.not_mem_nil, fun _ none => absurd none List.not_mem_nil,
      fun _ none => absurd none List.not_mem_nil⟩, cached⟩⟩

theorem resolves_none : known.Resolves .none :=
  resolves_ofEntries.mpr fun _ none => absurd none List.not_mem_nil

@[simp] theorem resolves_ofOption {α : Type} {refs : α → References} {value : Option α} :
    known.Resolves (.ofOption refs value) ↔ ∀ part ∈ value, known.Resolves (refs part) := by
  cases value with
  | none => simp [References.ofOption, resolves_none]
  | some part => simp [References.ofOption]

@[simp] theorem resolves_ofList {α : Type} {refs : α → References} {values : List α} :
    known.Resolves (.ofList refs values) ↔ ∀ value ∈ values, known.Resolves (refs value) := by
  constructor
  · intro all value member
    exact ⟨⟨fun id isId => all.hashtags id (List.mem_flatMap.mpr ⟨value, member, isId⟩),
        fun id isId => all.symbols id (List.mem_flatMap.mpr ⟨value, member, isId⟩),
        fun id isId => all.categories id (List.mem_flatMap.mpr ⟨value, member, isId⟩)⟩,
      fun entry isEntry => all.entries entry (List.mem_flatMap.mpr ⟨value, member, isEntry⟩)⟩
  · intro each
    refine ⟨⟨fun id member => ?_, fun id member => ?_, fun id member => ?_⟩,
      fun entry member => ?_⟩ <;> obtain ⟨value, isValue, isPart⟩ := List.mem_flatMap.mp member
    · exact (each value isValue).hashtags id isPart
    · exact (each value isValue).symbols id isPart
    · exact (each value isValue).categories id isPart
    · exact (each value isValue).entries entry isPart

@[simp] theorem forall_optionalEntry {holds : DictEntry → Prop} {semantic : StringSemantic}
    {value : Option String} :
    (∀ entry ∈ optionalEntry semantic value, holds entry) ↔
      ∀ part ∈ value, holds ⟨semantic, part⟩ := by
  cases value <;> simp [optionalEntry]

/-- The other finds all that this one finds. -/
structure Extends (before after : Known) : Prop where
  caches : ∀ entry, before.caches entry = true → after.caches entry = true
  lookups : LookupsKept before.lookups after.lookups

theorem Resolves.mono {before after : Known} {refs : References} (resolves : before.Resolves refs)
    (grown : before.Extends after) : after.Resolves refs where
  hashtags id member := grown.lookups.hashtags id (resolves.hashtags id member)
  symbols id member := grown.lookups.symbols id (resolves.symbols id member)
  categories id member := grown.lookups.categories id (resolves.categories id member)
  entries entry member := grown.caches entry (resolves.entries entry member)

/-! ## Merged rows -/

section Merged

theorem forall_coalesce {α : Type} {holds : α → Prop} {stored excluded : Option α}
    (old : ∀ part ∈ stored, holds part) (new : ∀ part ∈ excluded, holds part) :
    ∀ part ∈ coalesce stored excluded, holds part := by
  cases stored with
  | none => exact new
  | some part => exact old

theorem forall_fillArray {α : Type} {holds : α → Prop} {stored excluded : List α}
    (old : ∀ part ∈ stored, holds part) (new : ∀ part ∈ excluded, holds part) :
    ∀ part ∈ fillArray stored excluded, holds part := by
  unfold fillArray
  split
  · exact new
  · exact old

theorem Resolves.set_tweet {stored excluded : TweetRow} (old : known.Resolves (tweetRefs stored))
    (new : known.Resolves (tweetRefs excluded)) :
    known.Resolves (tweetRefs (TweetRow.onConflict.set stored excluded)) := by
  simp only [tweetRefs, resolves_append, resolves_ofEntries, forall_optionalEntry,
    resolves_ofOption] at old new ⊢
  obtain ⟨⟨⟨source, text⟩, note⟩, language⟩ := old
  obtain ⟨⟨⟨source', _⟩, note'⟩, language'⟩ := new
  exact ⟨⟨⟨forall_coalesce source source', text⟩, forall_coalesce note note'⟩,
    forall_coalesce language language'⟩

theorem Resolves.set_note {stored excluded : TweetCommunityNote}
    (old : known.Resolves (noteRefs stored)) (new : known.Resolves (noteRefs excluded)) :
    known.Resolves (noteRefs (TweetCommunityNote.onConflict.set stored excluded)) := by
  simp only [noteRefs, resolves_append, resolves_ofOption] at old new ⊢
  exact ⟨forall_coalesce old.1 new.1, forall_coalesce old.2 new.2⟩

theorem Resolves.set_place {stored excluded : TweetPlace}
    (old : known.Resolves (.ofEntries (tweetPlaceDicts stored)))
    (new : known.Resolves (.ofEntries (tweetPlaceDicts excluded))) :
    known.Resolves (.ofEntries (tweetPlaceDicts (TweetPlace.onConflict.set stored excluded))) := by
  simp only [resolves_ofEntries, tweetPlaceDicts, List.forall_mem_append,
    forall_optionalEntry] at old new ⊢
  exact ⟨⟨forall_coalesce old.1.1 new.1.1, forall_coalesce old.1.2 new.1.2⟩,
    forall_coalesce old.2 new.2⟩

theorem Resolves.set_policy {stored excluded : TweetPolicy}
    (old : known.Resolves (.ofEntries (tweetPolicyDicts stored)))
    (new : known.Resolves (.ofEntries (tweetPolicyDicts excluded))) :
    known.Resolves
      (.ofEntries (tweetPolicyDicts (TweetPolicy.onConflict.set stored excluded))) := by
  simp only [resolves_ofEntries, tweetPolicyDicts, List.forall_mem_append, forall_optionalEntry,
    List.forall_mem_map] at old new ⊢
  exact ⟨forall_coalesce old.1 new.1, forall_fillArray old.2 new.2⟩

theorem Resolves.set_media {stored excluded : Tweet.Media}
    (old : known.Resolves (mediaRefs stored)) (new : known.Resolves (mediaRefs excluded)) :
    known.Resolves (mediaRefs (Tweet.Media.onConflict.set stored excluded)) := by
  simp only [mediaRefs, resolves_append, resolves_ofOption, resolves_ofList, resolves_ofEntries,
    List.forall_mem_map] at old new ⊢
  exact ⟨⟨forall_coalesce old.1.1 new.1.1, forall_fillArray old.1.2 new.1.2⟩,
    forall_fillArray old.2 new.2⟩

end Merged

end Known

end TweetDb.Query
