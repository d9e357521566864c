import TweetDb.Browse.TweetText

/-! # What is rendered

The loop of `TweetText.vue` cuts the body into the kept entities and the gaps
between them, and puts out a part for each piece.
-/

namespace TweetDb.Browse

open Intervals

namespace Props

variable {props : Props}

/-- The slices of the body that the loop consumes, in its order. -/
def pieces (props : Props) : List (Piece TextEntity) :=
  cut TextEntity.start TextEntity.stop props.body.length 0 (collectEntities props.text)

/-- The part of an entity's range that is in the body. -/
def spanOf (props : Props) (entity : TextEntity) : Span :=
  itemSpan TextEntity.start TextEntity.stop props.body.length entity

/-- The part put out for a piece. -/
def partOf (props : Props) : Piece TextEntity → Option TextPart
  | .gap span => some (.plain (span.slice props.body))
  | .item entity span =>
    let part := props.entityPart entity (span.slice props.body)
    if (props.hideMediaEntities = true ∧ entity.kind = .media) ∨ part.text = [] then none
    else some part

theorem slice_eq (source : Text) {start stop : Nat} (ordered : start ≤ stop)
    (inside : stop ≤ source.length) :
    slice source start stop = Span.slice source ⟨start, stop⟩ := by
  have index : ∀ n : Nat, n ≤ source.length → sliceIndex source.length n = n := by
    intro n within
    have positive : ¬ (n : Int) < 0 := by omega
    rw [sliceIndex, if_neg positive, Int.toNat_natCast, Nat.min_eq_left within]
  rw [slice, index start (ordered.trans inside), index stop inside]
  rfl

variable {cursor : Nat} {output : List TextPart} {entity : TextEntity}

theorem renderEntity_skips
    (skipped : ¬ LiesFrom TextEntity.start TextEntity.stop props.body.length cursor entity) :
    props.renderEntity props.body ⟨cursor, output⟩ entity = ⟨cursor, output⟩ := by
  unfold LiesFrom at skipped
  rw [renderEntity, if_pos]
  simp only
  omega

/-- A turn puts out the gap before the entity and the entity. -/
theorem renderEntity_takes
    (lies : LiesFrom TextEntity.start TextEntity.stop props.body.length cursor entity) :
    props.renderEntity props.body ⟨cursor, output⟩ entity =
      ⟨(props.spanOf entity).stop, output ++ (gapTo cursor (props.spanOf entity).start ++
        [Piece.item entity (props.spanOf entity)]).filterMap props.partOf⟩ := by
  obtain ⟨after, proper, within⟩ := lies.itemSpan
  unfold LiesFrom at lies
  rw [← spanOf] at after proper within
  have isStart : entity.start = (props.spanOf entity).start := by
    simp only [spanOf, itemSpan]
    omega
  have isStop : min entity.stop (props.body.length : Int) = (props.spanOf entity).stop := by
    simp only [spanOf, itemSpan]
    omega
  have goesOn : ¬ (entity.start < (cursor : Int) ∨ entity.stop ≤ entity.start ∨
      (props.body.length : Int) < entity.start) := by omega
  have rawText : slice props.body entity.start (min entity.stop (props.body.length : Int)) =
      (props.spanOf entity).slice props.body := by
    rw [isStart, isStop]
    exact slice_eq _ proper within
  have gap : (if (cursor : Int) < entity.start then
        output ++ [TextPart.plain (slice props.body cursor entity.start)] else output) =
      output ++ (gapTo cursor (props.spanOf entity).start).filterMap props.partOf := by
    simp only [isStart, Int.ofNat_lt, gapTo]
    split
    next =>
      rw [slice_eq _ after (proper.trans within)]
      rfl
    next => simp
  rw [renderEntity, if_neg goesOn, gap, rawText, isStop, List.filterMap_append, ← List.append_assoc]
  -- The entity itself has no part where it is hidden or has no text.
  by_cases hidden : props.hideMediaEntities = true ∧ entity.kind = .media
  · simp [partOf, hidden]
  · by_cases empty : (props.entityPart entity ((props.spanOf entity).slice props.body)).text = []
    · simp [partOf, hidden, empty]
    · simp [partOf, hidden, empty]

/-- From the cursor on, the loop and the text behind it put out a part for each piece. -/
theorem foldl_renderEntity (entities : List TextEntity) (inside : cursor ≤ props.body.length) :
    let loop := entities.foldl (props.renderEntity props.body) ⟨cursor, output⟩
    (if loop.cursor < props.body.length then
        loop.output ++ [.plain (slice props.body loop.cursor props.body.length)]
      else loop.output) =
    output ++ (cut TextEntity.start TextEntity.stop props.body.length cursor entities).filterMap
      props.partOf := by
  induction entities generalizing cursor output with
  | nil =>
    -- The text behind the last entity is the last gap.
    simp only [List.foldl_nil, cut, gapTo, Int.ofNat_lt]
    split
    next =>
      rw [slice_eq _ inside (Nat.le_refl _)]
      rfl
    next => simp
  | cons entity entities inductionHypothesis =>
    rw [List.foldl_cons, cut]
    split
    next lies =>
      obtain ⟨_, _, within⟩ := lies.itemSpan
      rw [renderEntity_takes lies]
      refine (inductionHypothesis within).trans ?_
      rw [List.append_assoc, ← List.filterMap_append, List.append_assoc, List.singleton_append]
      rfl
    next skipped =>
      rw [renderEntity_skips skipped]
      exact inductionHypothesis inside

/-- The loop puts out a part for each piece. -/
theorem output_eq (props : Props) : props.output = props.pieces.filterMap props.partOf := by
  exact foldl_renderEntity (collectEntities props.text) (Nat.zero_le _)

theorem pieces_tile (props : Props) :
    Tiles 0 (props.pieces.map Piece.span) props.body.length :=
  tiles_cut _ _ _ (Nat.zero_le _)

/-- The part of an entity has a text where the entity has one. -/
theorem entityPart_text_eq_nil {rawText : Text}
    (empty : (props.entityPart entity rawText).text = []) : rawText = [] := by
  have display : orText (optionalText entity.displayText) rawText = [] → rawText = [] := by
    intro nothing
    unfold orText at nothing
    split at nothing
    next => exact nothing
    next shown => exact absurd nothing shown
  unfold entityPart at empty
  cases isKind : entity.kind with
  | url | media =>
    simp only [isKind] at empty
    split at empty <;> exact display empty
  | mention =>
    simp only [isKind] at empty
    split at empty <;> exact empty
  | hashtag | symbol =>
    simp only [isKind] at empty
    exact empty

/-- Without hiding, a piece that has no part is empty. -/
theorem slice_of_partOf_none (shows : props.hideMediaEntities = false) {piece : Piece TextEntity}
    (nothing : props.partOf piece = none) : piece.span.slice props.body = [] := by
  cases piece with
  | gap span => cases nothing
  | item entity span =>
    simp only [partOf, shows, Bool.false_eq_true, false_and, false_or, ite_eq_left_iff,
      reduceCtorEq, imp_false, Decidable.not_not] at nothing
    exact entityPart_text_eq_nil nothing

/-- Every character of the body is in one of the slices that the loop consumes, and in only one;
each slice is rendered, or is empty. -/
theorem text_rendered_completely (props : Props) (shows : props.hideMediaEntities = false) :
    (props.pieces.map Piece.span).Pairwise (fun before after => before.stop ≤ after.start) ∧
      (props.pieces.map fun piece => piece.span.slice props.body).flatten = props.body ∧
      props.output = props.pieces.filterMap props.partOf ∧
      (∀ piece ∈ props.pieces, props.partOf piece = none → piece.span.slice props.body = []) ∧
      (props.parts = props.output ∨ props.body = [] ∧ props.parts = [.plain []]) := by
  have covers : (props.pieces.map fun piece => piece.span.slice props.body).flatten =
      props.body := by
    have slices := (pieces_tile props).flatten_slices props.body
    rwa [List.map_map, slice_whole] at slices
  have dropped : ∀ piece ∈ props.pieces, props.partOf piece = none →
      piece.span.slice props.body = [] :=
    fun piece _ => slice_of_partOf_none shows
  refine ⟨(pieces_tile props).ordered, covers, output_eq props, dropped, ?_⟩
  unfold parts
  simp only [shows, Bool.false_eq_true, if_false]
  split
  next => exact .inl rfl
  next none =>
    -- Nothing was put out, so there was no character to put out.
    have nothing : props.output = [] := List.length_eq_zero_iff.mp (by omega)
    have empty : props.body = [] := by
      rw [← covers, List.flatten_eq_nil_iff]
      intro text member
      obtain ⟨piece, isPiece, rfl⟩ := List.mem_map.mp member
      rw [output_eq, List.filterMap_eq_nil_iff] at nothing
      exact dropped piece isPiece (nothing piece isPiece)
    exact .inr ⟨empty, by rw [empty]⟩

/-- `go t.co`, with a link that reaches behind the end and a mention inside it. -/
def linked : Props where
  text := ⟨some [0x67, 0x6F, 0x20, 0x74, 0x2E, 0x63, 0x6F], none,
    ⟨[⟨some ⟨some 3, some 9⟩, none, some [0x78], none, none, .url⟩],
      [⟨some ⟨some 4, some 6⟩, none, none, none, some [0x31], .mention⟩], [], [], []⟩⟩
  hideMediaEntities := false
  routeBasePath := []

theorem text_rendered_completely_linked :
    (linked.pieces.map fun piece => piece.span.slice linked.body).flatten = linked.body ∧
      linked.parts = [.plain [0x67, 0x6F, 0x20],
        ⟨[0x74, 0x2E, 0x63, 0x6F], some [0x78], none⟩] :=
  ⟨(text_rendered_completely linked rfl).2.1, by decide⟩

end Props

end TweetDb.Browse
