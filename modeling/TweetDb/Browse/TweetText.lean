import Mathlib.Data.List.DropRight
import Mathlib.Data.List.Sort
import TweetDb.Intervals.Cutting

/-! # Tweet text

`TweetText.vue`: the parts a text is rendered to.  The component walks through
the sorted entities with a cursor into the code points of the body; a text in
JavaScript may hold unpaired surrogates, so code points are not Lean's `Char`.
-/

namespace TweetDb.Browse

open Intervals

abbrev CodePoint := Fin 0x110000

instance neZero_codePoints : NeZero 0x110000 := ⟨Nat.succ_ne_zero _⟩

abbrev Text := List CodePoint

def codePoint (c : Char) : CodePoint :=
  ⟨c.toNat, by
    have valid := c.valid
    simp only [UInt32.isValidChar, Nat.isValidChar] at valid
    show c.val.toNat < 0x110000
    omega⟩

def ofString (text : String) : Text := text.toList.map codePoint

/-- `\s` in a regular expression. -/
def isWhiteSpace (c : CodePoint) : Bool :=
  decide (9 ≤ c.val ∧ c.val ≤ 13) || decide (0x2000 ≤ c.val ∧ c.val ≤ 0x200A) ||
    [0x20, 0xA0, 0x1680, 0x2028, 0x2029, 0x202F, 0x205F, 0x3000, 0xFEFF].contains c.val

/-! ## Entities -/

structure EntityRange where
  start : Option Int
  stop : Option Int
deriving DecidableEq, Repr

inductive EntityKind where
  | url
  | mention
  | hashtag
  | symbol
  | media
deriving DecidableEq, Repr

/-- A `TextEntity`; its other fields are `none` where they are null or missing. -/
structure TextEntity where
  range : Option EntityRange
  displayText : Option Text
  expandedUrl : Option Text
  url : Option Text
  userId : Option Text
  kind : EntityKind
deriving DecidableEq, Repr

/-- `entity.range?.start ?? 0`. -/
def TextEntity.start (entity : TextEntity) : Int := (entity.range.bind EntityRange.start).getD 0

/-- `entity.range?.end ?? start`. -/
def TextEntity.stop (entity : TextEntity) : Int :=
  (entity.range.bind EntityRange.stop).getD entity.start

structure TextEntities where
  urls : List TextEntity
  mentions : List TextEntity
  hashtags : List TextEntity
  symbols : List TextEntity
  media : List TextEntity
deriving DecidableEq, Repr

structure TextRecord where
  text : Option Text
  body : Option Text
  entities : TextEntities
deriving DecidableEq, Repr

structure Props where
  text : TextRecord
  hideMediaEntities : Bool
  routeBasePath : Text
deriving DecidableEq, Repr

def optionalText (value : Option Text) : Text := value.getD []

def entityPriority (entity : TextEntity) : Int := if entity.kind = .media then 0 else 1

/-- The comparison that the entities are sorted by. -/
def compareEntities (a b : TextEntity) : Int :=
  let startDelta := a.start - b.start
  if startDelta ≠ 0 then startDelta else entityPriority a - entityPriority b

/-- `{ ...item, kind }`. -/
def TextEntity.withKind (kind : EntityKind) (item : TextEntity) : TextEntity :=
  { item with kind := kind }

def collectEntities (text : TextRecord) : List TextEntity :=
  (text.entities.urls.map (TextEntity.withKind .url) ++
    text.entities.mentions.map (TextEntity.withKind .mention) ++
    text.entities.hashtags.map (TextEntity.withKind .hashtag) ++
    text.entities.symbols.map (TextEntity.withKind .symbol) ++
    text.entities.media.map (TextEntity.withKind .media)).insertionSort
      fun a b => compareEntities a b ≤ 0

/-! ## Parts -/

/-- `routeTo` is the field `to`. -/
structure TextPart where
  text : Text
  href : Option Text
  routeTo : Option Text
deriving DecidableEq, Repr

def TextPart.plain (text : Text) : TextPart := ⟨text, none, none⟩

/-- Where `Array.prototype.slice` puts an index. -/
def sliceIndex (length : Nat) (index : Int) : Nat :=
  if index < 0 then (length + index).toNat else min index.toNat length

def slice (source : Text) (start stop : Int) : Text :=
  (source.drop (sliceIndex source.length start)).take
    (sliceIndex source.length stop - sliceIndex source.length start)

/-- `a || b` of two texts. -/
def orText (a b : Text) : Text := if a = [] then b else a

namespace Props

def body (props : Props) : Text := optionalText (props.text.text.or props.text.body)

def entityPart (props : Props) (entity : TextEntity) (rawText : Text) : TextPart :=
  match entity.kind with
  | .url | .media =>
    let display := orText (optionalText entity.displayText) rawText
    let href := orText (optionalText entity.expandedUrl) (optionalText entity.url)
    if href = [] then .plain display else ⟨display, some href, none⟩
  | .mention =>
    let userId := optionalText entity.userId
    if userId = [] then .plain rawText
    else ⟨rawText, none, some (props.routeBasePath ++ ofString "/users/" ++ userId)⟩
  | .hashtag | .symbol => .plain rawText

/-- The variables of the loop over the entities. -/
structure Loop where
  cursor : Int
  output : List TextPart
deriving DecidableEq, Repr

def renderEntity (props : Props) (source : Text) (loop : Loop) (entity : TextEntity) : Loop :=
  let start := entity.start
  let stop := entity.stop
  -- An entity is passed over if it overlaps a taken one, is empty or starts behind the text.
  if start < loop.cursor ∨ stop ≤ start ∨ (source.length : Int) < start then loop
  else
    let output :=
      if loop.cursor < start then loop.output ++ [.plain (slice source loop.cursor start)]
      else loop.output
    let rawText := slice source start (min stop source.length)
    if props.hideMediaEntities = true ∧ entity.kind = .media then
      ⟨min stop source.length, output⟩
    else
      let part := props.entityPart entity rawText
      ⟨min stop source.length, if part.text = [] then output else output ++ [part]⟩

/-- `while (output.length > 0)`, on the reversed parts. -/
def trimFromLast : List TextPart → List TextPart
  | [] => []
  | last :: before =>
    let nextText := last.text.rdropWhile isWhiteSpace
    if nextText = [] then trimFromLast before else { last with text := nextText } :: before

def trimTrailingWhitespace (parts : List TextPart) : List TextPart :=
  (trimFromLast parts.reverse).reverse

/-- What the loop and the text behind the last entity put out. -/
def output (props : Props) : List TextPart :=
  let source := props.body
  let loop := (collectEntities props.text).foldl (props.renderEntity source) ⟨0, []⟩
  if loop.cursor < source.length then
    loop.output ++ [.plain (slice source loop.cursor source.length)]
  else loop.output

def parts (props : Props) : List TextPart :=
  let trimmed :=
    if props.hideMediaEntities then trimTrailingWhitespace props.output else props.output
  -- The fallback does not ask why nothing is left.
  if trimmed.length > 0 then trimmed else [.plain props.body]

end Props

/-! ## The order of the entities -/

/-- In the order of the starts, the media first where several start at one place. -/
def Before (a b : TextEntity) : Prop :=
  a.start < b.start ∨ a.start = b.start ∧ (b.kind = .media → a.kind = .media)

theorem compareEntities_le {a b : TextEntity} : compareEntities a b ≤ 0 ↔ Before a b := by
  unfold compareEntities entityPriority Before
  by_cases same : a.start = b.start
  · by_cases first : a.kind = .media <;> by_cases second : b.kind = .media <;>
      simp [same, first, second]
  · have differ : a.start - b.start ≠ 0 := by omega
    simp only [differ, ne_eq, not_false_eq_true, if_true, same, false_and, or_false]
    omega

theorem Before.start_le {a b : TextEntity} (before : Before a b) : a.start ≤ b.start :=
  before.elim Int.le_of_lt fun same => Int.le_of_eq same.1

theorem Before.total (a b : TextEntity) : Before a b ∨ Before b a := by
  unfold Before
  rcases lt_trichotomy a.start b.start with below | same | above
  · exact .inl (.inl below)
  -- At one place a media entity comes before the others; two of a rank are in either order.
  · by_cases first : a.kind = .media
    · exact .inl (.inr ⟨same, fun _ => first⟩)
    · exact .inr (.inr ⟨same.symm, fun isMedia => absurd isMedia first⟩)
  · exact .inr (.inl above)

theorem Before.trans {a b c : TextEntity} (first : Before a b) (second : Before b c) :
    Before a c := by
  cases first with
  | inl below => exact .inl (lt_of_lt_of_le below second.start_le)
  | inr same =>
    cases second with
    | inl below => exact .inl (same.1 ▸ below)
    | inr same' => exact .inr ⟨same.1.trans same'.1, fun isMedia => same.2 (same'.2 isMedia)⟩

theorem collectEntities_sorted (text : TextRecord) : (collectEntities text).Pairwise Before := by
  have total : Std.Total fun a b : TextEntity => compareEntities a b ≤ 0 :=
    ⟨fun a b => (Before.total a b).imp compareEntities_le.mpr compareEntities_le.mpr⟩
  have transitive : IsTrans TextEntity fun a b => compareEntities a b ≤ 0 :=
    ⟨fun a b c first second =>
      compareEntities_le.mpr ((compareEntities_le.mp first).trans (compareEntities_le.mp second))⟩
  have sorted := List.pairwise_insertionSort (fun a b : TextEntity => compareEntities a b ≤ 0)
  exact (sorted _).imp compareEntities_le.mp

end TweetDb.Browse
