import TweetDb.Browse.RenderedText

/-! # Hidden media links

With `hideMediaEntities` the loop passes over the media entities, white space at
the end is trimmed, and where nothing is left the whole body is rendered.  The
parts are followed here together with the slices of the body they come from.
-/

namespace TweetDb.Browse

open Intervals

/-- A part with the slice of the body that it is rendered from. -/
structure Shown extends TextPart where
  span : Span
deriving DecidableEq, Repr

/-- `trimFromLast`, with the slices. -/
def trimShownFromLast : List Shown → List Shown
  | [] => []
  | last :: before =>
    let nextText := last.text.rdropWhile isWhiteSpace
    if nextText = [] then trimShownFromLast before else { last with text := nextText } :: before

theorem trimShownFromLast_parts (shown : List Shown) :
    (trimShownFromLast shown).map Shown.toTextPart =
      Props.trimFromLast (shown.map Shown.toTextPart) := by
  induction shown with
  | nil => rfl
  | cons last before inductionHypothesis =>
    rw [trimShownFromLast, List.map_cons, Props.trimFromLast]
    split
    next => exact inductionHypothesis
    next => rfl

theorem span_of_mem_trimShownFromLast {shown : List Shown} {part : Shown}
    (member : part ∈ trimShownFromLast shown) : ∃ whole ∈ shown, whole.span = part.span := by
  induction shown with
  | nil => cases member
  | cons last before inductionHypothesis =>
    rw [trimShownFromLast] at member
    split at member
    next =>
      obtain ⟨whole, isShown, same⟩ := inductionHypothesis member
      exact ⟨whole, List.mem_cons_of_mem _ isShown, same⟩
    next =>
      cases member with
      | head => exact ⟨last, List.mem_cons_self, rfl⟩
      | tail _ member => exact ⟨part, List.mem_cons_of_mem _ member, rfl⟩

/-- A character that can be seen. -/
def SeenIn (text : Text) : Prop := ∃ c ∈ text, isWhiteSpace c = false

theorem rdropWhile_eq_nil {text : Text} : text.rdropWhile isWhiteSpace = [] ↔ ¬ SeenIn text := by
  rw [List.rdropWhile_eq_nil_iff, SeenIn]
  simp

theorem trimShownFromLast_eq_nil {shown : List Shown} :
    trimShownFromLast shown = [] ↔ ∀ part ∈ shown, ¬ SeenIn part.text := by
  induction shown with
  | nil => simp [trimShownFromLast]
  | cons last before inductionHypothesis =>
    rw [trimShownFromLast, List.forall_mem_cons, ← rdropWhile_eq_nil]
    split
    next blank => simp [blank, inductionHypothesis]
    next seen => simp [seen]

namespace Props

variable {props : Props} {entity : TextEntity}

def shownPieces (props : Props) : List Shown :=
  props.pieces.filterMap fun piece => (props.partOf piece).map fun part => ⟨part, piece.span⟩

/-- The rendered parts with their slices; the text that replaces an empty output is the body. -/
def shown (props : Props) : List Shown :=
  let trimmed :=
    if props.hideMediaEntities then (trimShownFromLast props.shownPieces.reverse).reverse
    else props.shownPieces
  if trimmed.length > 0 then trimmed else [⟨.plain props.body, ⟨0, props.body.length⟩⟩]

theorem shownPieces_parts (props : Props) :
    props.shownPieces.map Shown.toTextPart = props.output := by
  rw [output_eq, shownPieces, List.map_filterMap]
  congr 1
  funext piece
  cases props.partOf piece <;> rfl

theorem shown_parts (props : Props) : props.shown.map Shown.toTextPart = props.parts := by
  have trimmed : ((trimShownFromLast props.shownPieces.reverse).reverse).map Shown.toTextPart =
      trimTrailingWhitespace props.output := by
    rw [List.map_reverse, trimShownFromLast_parts, List.map_reverse, shownPieces_parts]
    rfl
  have whole : (if props.hideMediaEntities then
        (trimShownFromLast props.shownPieces.reverse).reverse
      else props.shownPieces).map Shown.toTextPart =
      if props.hideMediaEntities then trimTrailingWhitespace props.output else props.output := by
    split
    next => exact trimmed
    next => exact shownPieces_parts props
  have fallback : ∀ trimmed : List Shown,
      (if trimmed.length > 0 then trimmed
        else [⟨.plain props.body, ⟨0, props.body.length⟩⟩]).map Shown.toTextPart =
      if (trimmed.map Shown.toTextPart).length > 0 then trimmed.map Shown.toTextPart
      else [.plain props.body] := by
    intro trimmed
    cases trimmed <;> rfl
  rw [shown, fallback, whole]
  rfl

/-! ## What is left without the media -/

def keptEntities (props : Props) : List TextEntity :=
  kept TextEntity.start TextEntity.stop props.body.length 0 (collectEntities props.text)

/-- A kept entity other than a media entity, or the body outside the kept entities, has a character
that can be seen. -/
def Visible (props : Props) : Prop :=
  (∃ entity ∈ props.keptEntities, entity.kind ≠ .media ∧
      SeenIn (props.entityPart entity ((props.spanOf entity).slice props.body)).text) ∨
    ∃ position c, props.body[position]? = some c ∧ isWhiteSpace c = false ∧
      ∀ entity ∈ props.keptEntities, ¬ (props.spanOf entity).Holds position

theorem mem_shownPieces {part : Shown} : part ∈ props.shownPieces ↔
    ∃ piece ∈ props.pieces, props.partOf piece = some part.toTextPart ∧
      piece.span = part.span := by
  simp only [shownPieces, List.mem_filterMap, Option.map_eq_some_iff]
  constructor
  · rintro ⟨piece, isPiece, made, isPart, rfl⟩
    exact ⟨piece, isPiece, isPart, rfl⟩
  · intro ⟨piece, isPiece, isPart, same⟩
    exact ⟨piece, isPiece, part.toTextPart, isPart, by rw [same]⟩

theorem gap_holds {position : Nat} :
    (∃ span, Piece.gap span ∈ props.pieces ∧ span.Holds position) ↔
      position < props.body.length ∧
        ∀ entity ∈ props.keptEntities, ¬ (props.spanOf entity).Holds position := by
  have holds := @gap_holds_iff _ TextEntity.start TextEntity.stop props.body.length 0
    (collectEntities props.text) (Nat.zero_le _) position
  rw [pieces, holds]
  simp only [Nat.zero_le, true_and]
  rfl

theorem visible_iff (hides : props.hideMediaEntities = true) :
    props.Visible ↔ ∃ part ∈ props.shownPieces, SeenIn part.text := by
  constructor
  · intro visible
    cases visible with
    | inl inEntity =>
      obtain ⟨entity, isKept, notMedia, c, inText, isSeen⟩ := inEntity
      have nonempty : (props.entityPart entity
          ((props.spanOf entity).slice props.body)).text ≠ [] := List.ne_nil_of_mem inText
      have isPart : props.partOf (.item entity (props.spanOf entity)) =
          some (props.entityPart entity ((props.spanOf entity).slice props.body)) := by
        rw [partOf, if_neg]
        simp [notMedia, nonempty]
      exact ⟨⟨_, props.spanOf entity⟩, mem_shownPieces.mpr ⟨.item entity (props.spanOf entity),
        item_mem_cut.mpr ⟨isKept, rfl⟩, isPart, rfl⟩, c, inText, isSeen⟩
    | inr inGap =>
      obtain ⟨position, c, found, isSeen, outside⟩ := inGap
      have inBody := (List.getElem?_eq_some_iff.mp found).1
      obtain ⟨span, isPiece, holds⟩ := gap_holds.mpr ⟨inBody, outside⟩
      exact ⟨⟨.plain (span.slice props.body), span⟩,
        mem_shownPieces.mpr ⟨.gap span, isPiece, rfl, rfl⟩, c,
        mem_slice.mpr ⟨position, holds, found⟩, isSeen⟩
  · rintro ⟨part, isShown, c, inText, isSeen⟩
    obtain ⟨piece, isPiece, isPart, same⟩ := mem_shownPieces.mp isShown
    cases piece with
    | gap span =>
      simp only [partOf, Option.some.injEq] at isPart
      rw [← isPart] at inText
      obtain ⟨position, holds, found⟩ := mem_slice.mp inText
      exact .inr ⟨position, c, found, isSeen, (gap_holds.mp ⟨span, isPiece, holds⟩).2⟩
    | item entity span =>
      obtain ⟨isKept, rfl⟩ := item_mem_cut.mp isPiece
      simp only [partOf, hides, true_and, Option.ite_none_left_eq_some, not_or,
        Option.some.injEq] at isPart
      obtain ⟨⟨notMedia, _⟩, isPart⟩ := isPart
      rw [← isPart] at inText
      exact .inl ⟨entity, isKept, notMedia, c, inText, isSeen⟩

/-- With something to be seen the parts come from pieces, without it the body is rendered. -/
theorem shown_of_visible (hides : props.hideMediaEntities = true) (visible : props.Visible)
    {part : Shown} (isShown : part ∈ props.shown) :
    ∃ whole ∈ props.shownPieces, whole.span = part.span := by
  have seen : (trimShownFromLast props.shownPieces.reverse).reverse ≠ [] := by
    rw [ne_eq, List.reverse_eq_nil_iff, trimShownFromLast_eq_nil]
    intro blank
    obtain ⟨part, isPart, isSeen⟩ := (visible_iff hides).mp visible
    exact blank part (List.mem_reverse.mpr isPart) isSeen
  rw [shown, if_pos hides, if_pos (List.length_pos_iff.mpr seen), List.mem_reverse] at isShown
  obtain ⟨whole, isPart, same⟩ := span_of_mem_trimShownFromLast isShown
  exact ⟨whole, List.mem_reverse.mp isPart, same⟩

theorem shown_of_not_visible (hides : props.hideMediaEntities = true)
    (nothing : ¬ props.Visible) :
    props.shown = [⟨.plain props.body, ⟨0, props.body.length⟩⟩] := by
  have empty : (trimShownFromLast props.shownPieces.reverse).reverse = [] := by
    rw [List.reverse_eq_nil_iff, trimShownFromLast_eq_nil]
    intro part isPart isSeen
    exact nothing ((visible_iff hides).mpr ⟨part, List.mem_reverse.mp isPart, isSeen⟩)
  rw [shown, if_pos hides, empty]
  rfl

/-! ## Media links -/

/-- A media entity with a range that is not empty, lies in the body and is not overlapped by an
entity that starts earlier. -/
structure MediaLink (props : Props) (entity : TextEntity) : Prop where
  listed : entity ∈ collectEntities props.text
  isMedia : entity.kind = .media
  nonempty : entity.start < entity.stop
  inside : 0 ≤ entity.start ∧ entity.stop ≤ props.body.length
  free : ∀ other ∈ collectEntities props.text, other.start < entity.start →
    other.stop ≤ entity.start

/-- The text of the entity appears in a rendered part. -/
def Appears (props : Props) (entity : TextEntity) : Prop :=
  ∃ part ∈ props.shown, part.span.start ≤ (props.spanOf entity).start ∧
    (props.spanOf entity).stop ≤ part.span.stop

/-- A character of the entity is in a slice that is rendered. -/
def AppearsInPart (props : Props) (entity : TextEntity) : Prop :=
  ∃ part ∈ props.shown, ∃ position, (props.spanOf entity).Holds position ∧
    part.span.Holds position

/-- At the place of a media link a media entity is kept, and nothing it covers is put out. -/
theorem exists_kept_media (link : MediaLink props entity) : ∃ first ∈ props.keptEntities,
    first ∈ collectEntities props.text ∧ first.kind = .media ∧ first.start = entity.start := by
  have lies : LiesFrom TextEntity.start TextEntity.stop props.body.length 0 entity := by
    have nonempty := link.nonempty
    have inside := link.inside
    exact ⟨inside.1, nonempty, by omega⟩
  obtain ⟨first, isKept, sameStart, precedes⟩ := exists_kept
    (collectEntities_sorted props.text) (fun _ _ => Before.start_le) link.listed lies link.free
  refine ⟨first, isKept, kept_sublist.subset isKept, ?_, sameStart⟩
  cases precedes with
  | inl same => rw [same, link.isMedia]
  | inr before =>
    cases before with
    | inl below => exact absurd sameStart (Int.ne_of_lt below)
    | inr same => exact same.2 link.isMedia

theorem not_holds_of_kept_media (hides : props.hideMediaEntities = true)
    (isKept : entity ∈ props.keptEntities) (isMedia : entity.kind = .media) {part : Shown}
    (isPart : part ∈ props.shownPieces) {position : Nat}
    (covered : (props.spanOf entity).Holds position) : ¬ part.span.Holds position := by
  intro holds
  obtain ⟨piece, isPiece, rendered, same⟩ := mem_shownPieces.mp isPart
  have samePiece : piece = .item entity (props.spanOf entity) :=
    eq_of_holds (Nat.zero_le _) isPiece (item_mem_cut.mpr ⟨isKept, rfl⟩) (same ▸ holds) covered
  subst samePiece
  simp [partOf, hides, isMedia] at rendered

/-- Media links stay hidden exactly if something else can be seen. -/
theorem media_hidden_iff (props : Props) (hides : props.hideMediaEntities = true)
    {entity : TextEntity} (link : MediaLink props entity) :
    props.shown.map Shown.toTextPart = props.parts ∧
      (¬ Appears props entity ↔ props.Visible) ∧
      ((∀ other ∈ collectEntities props.text, other.kind = .media → other.start = entity.start →
          other.start < other.stop → entity.stop ≤ other.stop) →
        (¬ AppearsInPart props entity ↔ props.Visible)) := by
  have nonempty := link.nonempty
  have inside := link.inside
  -- The first character of the link is in its span.
  have holdsStart : (props.spanOf entity).Holds entity.start.toNat := by
    simp only [Span.Holds, spanOf, itemSpan]
    omega
  obtain ⟨first, isKept, firstListed, firstMedia, sameStart⟩ := exists_kept_media link
  obtain ⟨_, firstProper, _⟩ := liesFrom_of_mem_kept isKept
  -- With something to be seen, what is rendered lies beside the kept media entity.
  have beside : props.Visible → ∀ part ∈ props.shown, ∀ position,
      (props.spanOf first).Holds position → ¬ part.span.Holds position := by
    intro visible part isShown position covered
    obtain ⟨whole, isPart, same⟩ := shown_of_visible hides visible isShown
    rw [← same]
    exact not_holds_of_kept_media hides isKept firstMedia isPart covered
  have firstHoldsStart : (props.spanOf first).Holds entity.start.toNat := by
    simp only [Span.Holds, spanOf, itemSpan]
    omega
  -- With nothing to be seen, the body is rendered, the link with it.
  have restored : ¬ props.Visible → ∃ part ∈ props.shown,
      part.span = ⟨0, props.body.length⟩ := by
    intro nothing
    rw [shown_of_not_visible hides nothing]
    exact ⟨_, List.mem_singleton_self _, rfl⟩
  refine ⟨shown_parts props, ⟨fun hidden => ?_, fun visible => ?_⟩, fun longest =>
    ⟨fun hidden => ?_, fun visible => ?_⟩⟩
  · by_contra nothing
    obtain ⟨part, isShown, whole⟩ := restored nothing
    refine hidden ⟨part, isShown, ?_⟩
    rw [whole]
    exact ⟨Nat.zero_le _, Nat.min_le_right _ _⟩
  · rintro ⟨part, isShown, startsBefore, endsAfter⟩
    exact beside visible part isShown _ firstHoldsStart
      ⟨startsBefore.trans holdsStart.1, Nat.lt_of_lt_of_le holdsStart.2 endsAfter⟩
  · by_contra nothing
    obtain ⟨part, isShown, whole⟩ := restored nothing
    refine hidden ⟨part, isShown, _, holdsStart, ?_⟩
    rw [whole]
    exact ⟨Nat.zero_le _, Nat.lt_of_lt_of_le holdsStart.2 (Nat.min_le_right _ _)⟩
  · rintro ⟨part, isShown, position, inLink, holds⟩
    have reaches := longest first firstListed firstMedia sameStart firstProper
    refine beside visible part isShown position ?_ holds
    simp only [Span.Holds, spanOf, itemSpan] at inLink ⊢
    omega

def photoLink (start stop : Int) : TextEntity :=
  ⟨some ⟨some start, some stop⟩, none, none, none, none, .media⟩

/-- A caption `a ` before a photo's link. -/
def captioned : Props where
  text := ⟨some [0x61, 0x20, 0x74, 0x2E, 0x63, 0x6F], none, ⟨[], [], [], [], [photoLink 2 6]⟩⟩
  hideMediaEntities := true
  routeBasePath := []

/-- The link alone. -/
def uncaptioned : Props where
  text := ⟨some [0x74, 0x2E, 0x63, 0x6F], none, ⟨[], [], [], [], [photoLink 0 4]⟩⟩
  hideMediaEntities := true
  routeBasePath := []

theorem media_hidden_iff_captioned : captioned.parts = [.plain [0x61]] ∧
    ¬ Appears captioned (photoLink 2 6) ∧ ¬ AppearsInPart captioned (photoLink 2 6) := by
  have link : MediaLink captioned (photoLink 2 6) :=
    ⟨by decide, rfl, by decide, by decide, by decide⟩
  obtain ⟨_, whole, characters⟩ := media_hidden_iff captioned rfl link
  have visible : captioned.Visible := .inr ⟨0, 0x61, rfl, by decide, by decide⟩
  exact ⟨by decide, whole.mpr visible, (characters (by decide)).mpr visible⟩

/-- Where a text is only a media link, the link is rendered. -/
theorem not_media_hidden : uncaptioned.parts = [.plain uncaptioned.body] ∧
    ¬ ∀ (props : Props) (entity : TextEntity), props.hideMediaEntities = true →
      MediaLink props entity → ¬ Appears props entity := by
  have rendered : uncaptioned.shown = [⟨.plain uncaptioned.body, ⟨0, 4⟩⟩] := by decide
  have link : MediaLink uncaptioned (photoLink 0 4) :=
    ⟨by decide, rfl, by decide, by decide, by decide⟩
  refine ⟨by decide, fun hidden => hidden uncaptioned (photoLink 0 4) rfl link ?_⟩
  rw [Appears, rendered]
  exact ⟨_, List.mem_singleton_self _, by decide, by decide⟩

end Props

end TweetDb.Browse
