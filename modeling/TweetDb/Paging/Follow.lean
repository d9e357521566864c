import Mathlib.Data.List.Basic

/-! # Following cursors

A listing answers a request for a cursor with a page and perhaps a next cursor.
`follow` asks again with each next cursor until there is none.  Where every
cursor stands for a list of which the page is the first part and the next
cursor the rest, following terminates and visits the list once, in order.
-/

namespace Paging

universe u v w

variable {α : Type u} {ρ : Type v} {ε : Type w}

structure Page (α : Type u) (ρ : Type v) where
  data : List α
  nextCursor : Option ρ
deriving DecidableEq, Repr

/-- The pages from a first cursor on, or the first refusal; `none` where the requests made have
not come to an end. -/
def follow (list : Option ρ → Except ε (Page α ρ)) :
    Nat → Option ρ → Option (Except ε (List (Page α ρ)))
  | 0, _ => none
  | requests + 1, cursor =>
    match list cursor with
    | .error error => some (.error error)
    | .ok page =>
      match page.nextCursor with
      | none => some (.ok [page])
      | some next => (follow list requests (some next)).map fun others =>
          others.map fun pages => page :: pages

/-- A page holds the first rows of what its cursor stands for; there is a next cursor if that is
not all, and it stands for the rest. -/
structure Serves (list : Option ρ → Except ε (Page α ρ)) (limit : Nat)
    (remaining : Option ρ → List α → Prop) : Prop where
  page : ∀ cursor rest, remaining cursor rest → ∃ next,
    list cursor = .ok ⟨rest.take limit, next⟩ ∧ (next = none ↔ rest.length ≤ limit) ∧
      (next ≠ none → remaining next (rest.drop limit))

variable {list : Option ρ → Except ε (Page α ρ)} {limit : Nat}
  {remaining : Option ρ → List α → Prop}

theorem follow_of_serves (positive : 0 < limit) (serves : Serves list limit remaining)
    {requests : Nat} {cursor : Option ρ} {rest : List α} (starts : remaining cursor rest)
    (enough : rest.length < requests) :
    ∃ pages, follow list requests cursor = some (.ok pages) ∧ pages.flatMap Page.data = rest := by
  induction requests generalizing cursor rest with
  | zero => omega
  | succ requests inductionHypothesis =>
    obtain ⟨next, answered, isLast, continues⟩ := serves.page cursor rest starts
    cases next with
    | none =>
      have all : rest.take limit = rest := List.take_of_length_le (isLast.mp rfl)
      exact ⟨[⟨rest.take limit, none⟩], by simp [follow, answered], by simp [all]⟩
    | some next =>
      have notLast : limit < rest.length := by
        by_contra short
        cases isLast.mpr (by omega)
      -- A page is not empty, so less is left.
      obtain ⟨pages, followed, concatenated⟩ :=
        inductionHypothesis (continues (by simp)) (by simp; omega)
      refine ⟨⟨rest.take limit, some next⟩ :: pages, ?_, ?_⟩
      · simp [follow, answered, followed, Except.map]
      · rw [List.flatMap_cons, concatenated, List.take_append_drop]

/-! ## One row more than the page -/

section Rows

variable {κ : Type v} {encode : κ → Except ε ρ} {cursorOf : α → κ}

/-- The cursor of the last row; every row of the page has its cursor encoded. -/
def lastCursor (encode : κ → Except ε ρ) (cursorOf : α → κ) (rows : List α) :
    Except ε (Option ρ) :=
  rows.foldlM (fun _ row => (encode (cursorOf row)).map some) none

/-- `paginate_rows`, of the limit and one row more. -/
def paginateRows (encode : κ → Except ε ρ) (cursorOf : α → κ) (limit : Nat) (rows : List α) :
    Except ε (Page α ρ) :=
  let hasMore := decide (limit < rows.length)
  let data := if hasMore then rows.take limit else rows
  (lastCursor encode cursorOf data).map fun last => ⟨data, if hasMore then last else none⟩

theorem lastCursor_ok {rows : List α}
    (encodes : ∀ row ∈ rows, ∃ text, encode (cursorOf row) = .ok text) :
    ∃ last, lastCursor encode cursorOf rows = .ok last := by
  unfold lastCursor
  generalize (none : Option ρ) = start
  induction rows generalizing start with
  | nil => exact ⟨start, rfl⟩
  | cons row rows inductionHypothesis =>
    obtain ⟨text, encoded⟩ := encodes row List.mem_cons_self
    simp only [List.foldlM_cons, encoded]
    exact inductionHypothesis (fun other later => encodes other (List.mem_cons_of_mem _ later)) _

theorem lastCursor_append {rows : List α} {row : α} {text : ρ}
    (encodes : ∀ row ∈ rows, ∃ text, encode (cursorOf row) = .ok text)
    (encoded : encode (cursorOf row) = .ok text) :
    lastCursor encode cursorOf (rows ++ [row]) = .ok (some text) := by
  obtain ⟨last, before⟩ := lastCursor_ok encodes
  simp only [lastCursor] at before ⊢
  rw [List.foldlM_append, before]
  simp [encoded, bind, Except.bind, Except.map, pure, Except.pure]

/-- The page of `limit` and one row more of what is left. -/
theorem paginateRows_take {rest : List α} {limit : Nat} (positive : 0 < limit)
    (encodes : ∀ row ∈ rest, ∃ text, encode (cursorOf row) = .ok text) :
    ∃ next, paginateRows encode cursorOf limit (rest.take (limit + 1)) =
        .ok ⟨rest.take limit, next⟩ ∧ (next = none ↔ rest.length ≤ limit) ∧
      ∀ text, next = some text → ∃ before row after, rest = before ++ row :: after ∧
        (before ++ [row]).length = limit ∧ encode (cursorOf row) = .ok text := by
  by_cases short : rest.length ≤ limit
  · obtain ⟨last, ok⟩ := lastCursor_ok encodes
    refine ⟨none, ?_, by simp [short], nofun⟩
    have whole : rest.take (limit + 1) = rest := List.take_of_length_le (by omega)
    rw [List.take_of_length_le short]
    have noMore : ¬ limit < rest.length := by omega
    simp [paginateRows, whole, noMore, ok, Except.map]
  · obtain ⟨limit, rfl⟩ : ∃ n, limit = n + 1 := ⟨limit - 1, by omega⟩
    -- The page ends with the row whose cursor is the next one.
    obtain ⟨row, after, atLimit⟩ : ∃ row after, rest.drop limit = row :: after :=
      List.exists_cons_of_length_pos (by simp; omega)
    have split : rest = rest.take limit ++ row :: after := by
      rw [← atLimit, List.take_append_drop]
    have page : rest.take (limit + 1) = rest.take limit ++ [row] := by
      rw [List.take_add, atLimit]
      rfl
    have member : row ∈ rest := by
      rw [split]
      simp
    obtain ⟨text, encoded⟩ := encodes row member
    refine ⟨some text, ?_, by simp; omega, ?_⟩
    · have more : limit + 1 < (rest.take (limit + 1 + 1)).length := by simp; omega
      have taken : (rest.take (limit + 1 + 1)).take (limit + 1) = rest.take limit ++ [row] := by
        rw [List.take_take, Nat.min_eq_left (by omega), page]
      have last : lastCursor encode cursorOf (rest.take limit ++ [row]) = .ok (some text) :=
        lastCursor_append (fun row inPage => encodes row (List.mem_of_mem_take inPage)) encoded
      simp only [paginateRows, more, decide_true, if_true, taken, page, last, Except.map]
    · intro text' isText
      cases isText
      refine ⟨rest.take limit, row, after, split, ?_, encoded⟩
      simp
      omega

end Rows

/-! ## Keysets -/

/-- In a strictly sorted list the rows after a row are those that follow it. -/
theorem filter_after {before : α → α → Prop} [DecidableRel before] {first after : List α} {row : α}
    (asymmetric : ∀ a b, before a b → ¬ before b a)
    (sorted : (first ++ row :: after).Pairwise before) :
    (first ++ row :: after).filter (fun other => before row other) = after := by
  rw [List.pairwise_append, List.pairwise_cons] at sorted
  obtain ⟨_, ⟨rowFirst, _⟩, crossing⟩ := sorted
  have dropped : first.filter (fun other => before row other) = [] := by
    rw [List.filter_eq_nil_iff]
    intro other member
    have ordered := crossing other member row List.mem_cons_self
    simpa using asymmetric other row ordered
  have kept : after.filter (fun other => before row other) = after := by
    rw [List.filter_eq_self]
    intro other member
    simpa using rowFirst other member
  have notSelf : ¬ before row row := fun self => asymmetric row row self self
  rw [List.filter_append, dropped, List.filter_cons, kept]
  simp [notSelf]

end Paging
