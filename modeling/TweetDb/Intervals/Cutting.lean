import Mathlib.Data.List.Pairwise
import TweetDb.Intervals.Tiling

/-! # Cutting a line by items

Items with a range are gone through in a given order.  An item is kept if it
starts on the line, is not empty and does not start before the end of the last
one kept; the line is then cut into the kept items and the gaps between them.
`kept` and `cut` are the two views of this.
-/

namespace Intervals

universe u

inductive Piece (ε : Type u) where
  | gap (span : Span)
  | item (item : ε) (span : Span)
deriving DecidableEq, Repr

variable {ε : Type u}

def Piece.span : Piece ε → Span
  | .gap span => span
  | .item _ span => span

section Ranges

variable (lo hi : ε → Int) (length : Nat)

/-- The item can be kept when the line is cut up to the cursor. -/
def LiesFrom (cursor : Nat) (e : ε) : Prop :=
  (cursor : Int) ≤ lo e ∧ lo e < hi e ∧ lo e ≤ (length : Int)

instance (cursor : Nat) (e : ε) : Decidable (LiesFrom lo hi length cursor e) :=
  inferInstanceAs (Decidable (_ ∧ _ ∧ _))

/-- The part of an item's range that is on the line. -/
def itemSpan (e : ε) : Span := ⟨(lo e).toNat, min (hi e).toNat length⟩

def kept : Nat → List ε → List ε
  | _, [] => []
  | cursor, e :: items =>
    if LiesFrom lo hi length cursor e then e :: kept (itemSpan lo hi length e).stop items
    else kept cursor items

def gapTo (cursor start : Nat) : List (Piece ε) :=
  if cursor < start then [.gap ⟨cursor, start⟩] else []

def cut : Nat → List ε → List (Piece ε)
  | cursor, [] => gapTo cursor length
  | cursor, e :: items =>
    let span := itemSpan lo hi length e
    if LiesFrom lo hi length cursor e then
      gapTo cursor span.start ++ .item e span :: cut span.stop items
    else cut cursor items

end Ranges

variable {lo hi : ε → Int} {length cursor : Nat} {items : List ε} {e : ε} {span : Span}

theorem mem_gapTo {start : Nat} {piece : Piece ε} :
    piece ∈ gapTo cursor start ↔ cursor < start ∧ piece = .gap ⟨cursor, start⟩ := by
  unfold gapTo
  split <;> simp [*]

theorem tiles_gapTo {start : Nat} (before : cursor ≤ start) :
    Tiles cursor ((gapTo cursor start : List (Piece ε)).map Piece.span) start := by
  unfold gapTo
  split
  next => exact ⟨rfl, before, rfl⟩
  next none => exact Nat.le_antisymm before (Nat.le_of_not_lt none)

theorem LiesFrom.itemSpan (lies : LiesFrom lo hi length cursor e) :
    cursor ≤ (itemSpan lo hi length e).start ∧
      (itemSpan lo hi length e).start ≤ (itemSpan lo hi length e).stop ∧
      (itemSpan lo hi length e).stop ≤ length := by
  obtain ⟨after, proper, inside⟩ := lies
  simp only [Intervals.itemSpan]
  omega

/-- The pieces tile the rest of the line. -/
theorem tiles_cut (lo hi : ε → Int) (items : List ε) (inside : cursor ≤ length) :
    Tiles cursor ((cut lo hi length cursor items).map Piece.span) length := by
  induction items generalizing cursor with
  | nil => exact tiles_gapTo inside
  | cons e items inductionHypothesis =>
    rw [cut]
    split
    next lies =>
      obtain ⟨after, proper, within⟩ := lies.itemSpan
      rw [List.map_append, List.map_cons]
      exact (tiles_gapTo after).append ⟨rfl, proper, inductionHypothesis within⟩
    next => exact inductionHypothesis inside

theorem kept_sublist : (kept lo hi length cursor items).Sublist items := by
  induction items generalizing cursor with
  | nil => exact .refl _
  | cons e items inductionHypothesis =>
    rw [kept]
    split
    next => exact inductionHypothesis.cons_cons e
    next => exact inductionHypothesis.cons e

theorem liesFrom_of_mem_kept (member : e ∈ kept lo hi length cursor items) :
    LiesFrom lo hi length cursor e := by
  induction items generalizing cursor with
  | nil => cases member
  | cons first items inductionHypothesis =>
    rw [kept] at member
    split at member
    next lies =>
      cases member with
      | head => exact lies
      | tail _ member =>
        obtain ⟨after, rest⟩ := inductionHypothesis member
        have ordered := lies.itemSpan
        exact ⟨by omega, rest⟩
    next => exact inductionHypothesis member

/-- The items among the pieces are the kept ones, each on its own span. -/
theorem item_mem_cut : .item e span ∈ cut lo hi length cursor items ↔
    e ∈ kept lo hi length cursor items ∧ span = itemSpan lo hi length e := by
  induction items generalizing cursor with
  | nil => simp [cut, kept, mem_gapTo]
  | cons first items inductionHypothesis =>
    rw [cut, kept]
    split
    next =>
      rw [List.mem_append, mem_gapTo, List.mem_cons, inductionHypothesis, List.mem_cons,
        Piece.item.injEq]
      constructor
      · intro member
        obtain ⟨_, isGap⟩ | ⟨rfl, rfl⟩ | ⟨later, isSpan⟩ := member
        · cases isGap
        · exact ⟨.inl rfl, rfl⟩
        · exact ⟨.inr later, isSpan⟩
      · intro ⟨member, isSpan⟩
        cases member with
        | inl same => exact .inr (.inl ⟨same, same ▸ isSpan⟩)
        | inr later => exact .inr (.inr ⟨later, isSpan⟩)
    next => exact inductionHypothesis

/-- A position is in one piece. -/
theorem eq_of_holds (inside : cursor ≤ length) {a b : Piece ε} {position : Nat}
    (memberA : a ∈ cut lo hi length cursor items) (memberB : b ∈ cut lo hi length cursor items)
    (holdsA : a.span.Holds position) (holdsB : b.span.Holds position) : a = b := by
  have ordered := List.pairwise_map.mp (tiles_cut lo hi items inside).ordered
  -- Two pieces in order cannot both hold the position, nor can they in the other order.
  have symmetric : Std.Symm fun a b : Piece ε =>
      ¬ (a.span.Holds position ∧ b.span.Holds position) :=
    ⟨fun a b apart both => apart ⟨both.2, both.1⟩⟩
  have apart : (cut lo hi length cursor items).Pairwise fun a b =>
      ¬ (a.span.Holds position ∧ b.span.Holds position) := by
    apply ordered.imp
    rintro a b before ⟨⟨_, early⟩, late, _⟩
    omega
  by_contra differ
  exact apart.forall memberA memberB differ ⟨holdsA, holdsB⟩

/-- The gaps hold what is outside the kept items. -/
theorem gap_holds_iff (inside : cursor ≤ length) {position : Nat} :
    (∃ span, .gap span ∈ cut lo hi length cursor items ∧ span.Holds position) ↔
      (cursor ≤ position ∧ position < length) ∧
        ∀ e ∈ kept lo hi length cursor items, ¬ (itemSpan lo hi length e).Holds position := by
  have tiles := tiles_cut lo hi items inside
  constructor
  · intro ⟨span, member, holds⟩
    refine ⟨tiles.holds_iff.mp ⟨span, List.mem_map_of_mem member, holds⟩, fun e isKept inItem => ?_⟩
    cases eq_of_holds inside member (item_mem_cut.mpr ⟨isKept, rfl⟩) holds inItem
  · intro ⟨onLine, outside⟩
    obtain ⟨span, member, holds⟩ := tiles.holds_iff.mpr onLine
    obtain ⟨piece, isPiece, rfl⟩ := List.mem_map.mp member
    cases piece with
    | gap span => exact ⟨span, isPiece, holds⟩
    | item e span =>
      obtain ⟨isKept, rfl⟩ := item_mem_cut.mp isPiece
      exact absurd holds (outside e isKept)

/-- Where no earlier item overlaps an item, it is kept, or one that comes before it and starts at
the same place. -/
theorem exists_kept {before : ε → ε → Prop} (sorted : items.Pairwise before)
    (monotone : ∀ a b, before a b → lo a ≤ lo b) (member : e ∈ items)
    (lies : LiesFrom lo hi length cursor e)
    (free : ∀ other ∈ items, lo other < lo e → hi other ≤ lo e) :
    ∃ first ∈ kept lo hi length cursor items, lo first = lo e ∧ (first = e ∨ before first e) := by
  induction items generalizing cursor with
  | nil => cases member
  | cons other items inductionHypothesis =>
    have later := fun other member => free other (List.mem_cons_of_mem _ member)
    rw [kept]
    cases member with
    | head =>
      rw [if_pos lies]
      exact ⟨e, List.mem_cons_self, rfl, .inl rfl⟩
    | tail _ member =>
      have precedes := List.rel_of_pairwise_cons sorted member
      split
      -- The item kept here starts where `e` does, or ends before `e` and leaves it free.
      next =>
        by_cases same : lo other = lo e
        · exact ⟨other, List.mem_cons_self, same, .inr precedes⟩
        · have ends := free other List.mem_cons_self (by have := monotone _ _ precedes; omega)
          obtain ⟨_, proper⟩ := lies
          have behind : ((itemSpan lo hi length other).stop : Int) ≤ lo e := by
            simp only [itemSpan]
            omega
          obtain ⟨first, isKept, rest⟩ :=
            inductionHypothesis sorted.of_cons member ⟨behind, proper⟩ later
          exact ⟨first, List.mem_cons_of_mem _ isKept, rest⟩
      next => exact inductionHypothesis sorted.of_cons member lies later

end Intervals
