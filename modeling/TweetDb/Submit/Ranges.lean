import TweetDb.Submit.Converted

/-! # Ranges

The ranges of a submitted text and those of the text it is converted to.  Six
of the seven kinds are checked on the way; the display range is copied.
-/

namespace TweetDb.Submit

open TweetDb.Tweet (AnnotatedText HashtagEntity MediaEntity MentionEntity SymbolEntity
  TextStyleRange UrlEntity)

def SubmitTextRange.InOrder (range : SubmitTextRange) : Prop :=
  Submit.InOrder range.start range.stop

/-- All ranges of a submitted text, those that may be missing as far as they are there. -/
def SubmitAnnotatedText.ranges (value : SubmitAnnotatedText) : List SubmitTextRange :=
  value.displayRange.toList ++
    value.entities.hashtags.map SubmitHashtagEntity.range ++
    value.entities.symbols.filterMap SubmitSymbolEntity.range ++
    value.entities.urls.map SubmitUrlEntity.range ++
    value.entities.mentions.map SubmitMentionEntity.range ++
    value.entities.media.filterMap SubmitMediaEntity.range ++
    value.styles.map SubmitTextStyleRange.range

/-- All ranges of a stored text. -/
def storedRanges (text : AnnotatedText) : List SubmitTextRange :=
  (text.displayRangeStart.bind fun start => text.displayRangeEnd.map fun stop =>
      (⟨start, stop⟩ : SubmitTextRange)).toList ++
    text.hashtags.map (fun entity => ⟨entity.rangeStart, entity.rangeEnd⟩) ++
    text.symbols.map (fun entity => ⟨entity.rangeStart, entity.rangeEnd⟩) ++
    text.urls.map (fun entity => ⟨entity.rangeStart, entity.rangeEnd⟩) ++
    text.mentions.map (fun entity => ⟨entity.rangeStart, entity.rangeEnd⟩) ++
    text.mediaRefs.map (fun entity => ⟨entity.rangeStart, entity.rangeEnd⟩) ++
    text.styles.map fun style => ⟨style.rangeStart, style.rangeEnd⟩

section Ranges

variable {store : LookupStore} {lookupIds : Option SubmitLookupIds} {value : SubmitAnnotatedText}
  {text : AnnotatedText}

/-- What a conversion asks of every item it asked of these. -/
theorem forall_items_of_mapM {α β : Type} {convert : α → Except String β} {holds : α → Prop}
    (checks : ∀ {item result}, convert item = .ok result → holds item)
    {items : List α} {results : List β} (ran : items.mapM convert = .ok results) :
    ∀ item ∈ items, holds item := by
  have each := mapM_eq_ok.mp ran
  clear ran
  induction each with
  | nil => exact fun item none => absurd none List.not_mem_nil
  | cons first _ ih =>
    intro item member
    rcases List.mem_cons.mp member with rfl | later
    · exact checks first
    · exact ih item later

theorem displayRange_of_convert (ran : convertAnnotatedText store lookupIds value = .ok text) :
    (text.displayRangeStart.bind fun start => text.displayRangeEnd.map fun stop =>
      (⟨start, stop⟩ : SubmitTextRange)) = value.displayRange := by
  have parts := convertsText_of_convert ran
  rw [parts.displayRangeStart, parts.displayRangeEnd]
  cases value.displayRange <;> rfl

/-- Of what is stored only the display range may be out of order. -/
theorem storedRanges_inOrder_iff (ran : convertAnnotatedText store lookupIds value = .ok text) :
    (∀ range ∈ storedRanges text, range.InOrder) ↔
      ∀ range ∈ value.displayRange, range.InOrder := by
  have valid := valid_of_convertAnnotatedText ran
  rw [storedRanges, displayRange_of_convert ran]
  simp only [List.mem_append, List.mem_map, Option.mem_toList]
  constructor
  · intro all range isDisplay
    exact all range (.inl (.inl (.inl (.inl (.inl (.inl isDisplay))))))
  -- The other six kinds were checked when they were converted.
  · rintro display range ((((((isDisplay | isHashtag) | isSymbol) | isUrl) | isMention) | isMedia) |
      isStyle)
    · exact display range isDisplay
    · obtain ⟨entity, member, rfl⟩ := isHashtag
      exact valid.hashtags entity member
    · obtain ⟨entity, member, rfl⟩ := isSymbol
      exact valid.symbols entity member
    · obtain ⟨entity, member, rfl⟩ := isUrl
      exact valid.urls entity member
    · obtain ⟨entity, member, rfl⟩ := isMention
      exact (valid.mentions entity member).1
    · obtain ⟨entity, member, rfl⟩ := isMedia
      exact (valid.mediaRefs entity member).1
    · obtain ⟨style, member, rfl⟩ := isStyle
      exact valid.styles style member

/-- Of what is accepted only the display range may be out of order. -/
theorem ranges_inOrder_iff (ran : convertAnnotatedText store lookupIds value = .ok text) :
    (∀ range ∈ value.ranges, range.InOrder) ↔ ∀ range ∈ value.displayRange, range.InOrder := by
  have parts := convertsText_of_convert ran
  obtain ⟨_, _, areHashtags⟩ := parts.hashtags
  obtain ⟨_, _, areSymbols⟩ := parts.symbols
  have hashtags := forall_items_of_mapM (fun ran => (checked_range ran).1) areHashtags
  have symbols := forall_items_of_mapM (fun ran => (checked_range ran).1) areSymbols
  have urls := forall_items_of_mapM (fun ran => (checked_range ran).1) parts.urls
  have mentions := forall_items_of_mapM (fun ran => (checked_range ran).1) parts.mentions
  have styles := forall_items_of_mapM (fun ran => (checked_range ran).1) parts.styles
  -- A media entity may do without a range; one that it has is checked.
  have media : ∀ entity ∈ value.entities.media, ∀ range ∈ entity.range, range.InOrder := by
    refine forall_items_of_mapM (fun {entity _} ran => ?_) parts.mediaRefs
    obtain ⟨_, isChecked, _⟩ := bind_eq_ok ran
    have ranges := transpose_eq_ok.mp isChecked
    generalize entity.range = given at ranges
    intro range isRange
    cases ranges with
    | none => cases isRange
    | some isChecked =>
      cases isRange
      exact (validateRange_eq_ok.mp isChecked).2
  simp only [SubmitAnnotatedText.ranges, List.mem_append, List.mem_map, List.mem_filterMap,
    Option.mem_toList]
  constructor
  · intro all range isDisplay
    exact all range (.inl (.inl (.inl (.inl (.inl (.inl isDisplay))))))
  · rintro display range ((((((isDisplay | isHashtag) | isSymbol) | isUrl) | isMention) | isMedia) |
      isStyle)
    · exact display range isDisplay
    · obtain ⟨entity, member, rfl⟩ := isHashtag
      exact hashtags entity member
    · obtain ⟨entity, member, isRange⟩ := isSymbol
      refine symbols (entity, range) (List.mem_filterMap.mpr ⟨entity, member, ?_⟩)
      simp [isRange]
    · obtain ⟨entity, member, rfl⟩ := isUrl
      exact urls entity member
    · obtain ⟨entity, member, rfl⟩ := isMention
      exact mentions entity member
    · obtain ⟨entity, member, isRange⟩ := isMedia
      exact media entity member range isRange
    · obtain ⟨style, member, rfl⟩ := isStyle
      exact styles style member

/-- Every stored range is a range, and every accepted one, exactly if the display range is one. -/
theorem converted_ranges_inOrder_iff
    (ran : convertAnnotatedText store lookupIds value = .ok text) :
    ((∀ range ∈ storedRanges text, range.InOrder) ∧ ∀ range ∈ value.ranges, range.InOrder) ↔
      ∀ range ∈ value.displayRange, range.InOrder := by
  rw [storedRanges_inOrder_iff ran, ranges_inOrder_iff ran, and_self_iff]

end Ranges

/-- A text with a hashtag and a style, and a display range. -/
def taggedText (displayRange : SubmitTextRange) : SubmitAnnotatedText where
  text := "hello #rust"
  displayRange := some displayRange
  entities := ⟨[⟨"rust", ⟨6, 11⟩⟩], [], [], [], []⟩
  styles := [⟨⟨0, 5⟩, ["Bold"]⟩]

/-- A store that numbers every hashtag with 3. -/
def taggedStore : LookupStore :=
  ⟨fun _ => .ok fun _ => none, fun _ => .ok fun _ => some 3, fun _ => .ok fun _ => none⟩

def storedTaggedText (displayRange : SubmitTextRange) : AnnotatedText where
  body := "hello #rust"
  displayRangeStart := some displayRange.start
  displayRangeEnd := some displayRange.stop
  hashtags := [⟨3, 6, 11⟩]
  symbols := []
  urls := []
  mentions := []
  mediaRefs := []
  styles := [⟨0, 5, ["Bold"]⟩]

theorem converted_ranges_inOrder_iff_tagged :
    ((∀ range ∈ storedRanges (storedTaggedText ⟨0, 11⟩), range.InOrder) ∧
      ∀ range ∈ (taggedText ⟨0, 11⟩).ranges, range.InOrder) ↔
      ∀ range ∈ (taggedText ⟨0, 11⟩).displayRange, range.InOrder :=
  @converted_ranges_inOrder_iff taggedStore none (taggedText ⟨0, 11⟩) (storedTaggedText ⟨0, 11⟩) rfl

/-- A display range from 5 to 2 is accepted and stored. -/
theorem not_storedRanges_inOrder :
    ¬ ∀ (store : LookupStore) (lookupIds : Option SubmitLookupIds) (value : SubmitAnnotatedText)
      (text : AnnotatedText), convertAnnotatedText store lookupIds value = .ok text →
        ∀ range ∈ storedRanges text, range.InOrder := by
  intro always
  have inOrder := always taggedStore none (taggedText ⟨5, 2⟩) (storedTaggedText ⟨5, 2⟩) rfl ⟨5, 2⟩
    (by simp [storedRanges, storedTaggedText])
  exact absurd inOrder.2 (by decide)

end TweetDb.Submit
