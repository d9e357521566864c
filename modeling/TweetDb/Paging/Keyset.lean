import Mathlib.Data.List.Sort
import TweetDb.Paging.Follow

/-! # Keyset listings of rows that change

A page is read after the key of the last row of the page before.  The rows may
have changed by then: what was there all the time is visited once nevertheless,
and no key is visited twice.
-/

namespace Paging

universe u v w x

variable {σ : Type x} {α : Type u} {ρ κ : Type v} {ε : Type w}

/-- The pages of a listing, each answered from the state that its request meets. -/
def walk (list : σ → Option ρ → Except ε (Page α ρ)) :
    List σ → Option ρ → Except ε (List (Page α ρ))
  | [], _ => .ok []
  | state :: states, cursor =>
    match list state cursor with
    | .error error => .error error
    | .ok page =>
      match page.nextCursor with
      | none => .ok [page]
      | some next => (walk list states (some next)).map fun pages => page :: pages

/-- The last page is among them. -/
def Complete (pages : List (Page α ρ)) : Prop := ∃ page ∈ pages, page.nextCursor = none

section Keys

variable [LinearOrder κ] (key : α → κ)

/-- `NOT use_cursor OR key < bound`. -/
def isBelow (bound : Option κ) (key : κ) : Bool := bound.all fun bound => decide (key < bound)

def below (bound : Option κ) (row : α) : Bool := isBelow bound (key row)

/-- `ORDER BY key DESC`. -/
def descending (rows : List α) : List α := rows.insertionSort fun a b => key b ≤ key a

/-- What is left to read below a bound. -/
def remaining (rows : List α) (bound : Option κ) : List α :=
  descending key (rows.filter (below key bound))

/-- A cursor stands for the bound it is read as. -/
def Stands (isRead : ρ → κ → Prop) : Option ρ → Option κ → Prop
  | none, none => True
  | some text, some bound => isRead text bound
  | _, _ => False

variable {key} {rows : List α} {bound : Option κ}

theorem mem_descending {row : α} : row ∈ descending key rows ↔ row ∈ rows :=
  List.mem_insertionSort _

theorem mem_remaining {row : α} :
    row ∈ remaining key rows bound ↔ row ∈ rows ∧ below key bound row = true := by
  rw [remaining, mem_descending, List.mem_filter]

theorem remaining_sorted (distinct : rows.Pairwise fun a b => key a ≠ key b) :
    (remaining key rows bound).Pairwise fun a b => key b < key a := by
  have total : Std.Total fun a b : α => key b ≤ key a := ⟨fun a b => le_total (key b) (key a)⟩
  have transitive : IsTrans α fun a b => key b ≤ key a :=
    ⟨fun a b c first second => le_trans second first⟩
  have sorted : (remaining key rows bound).Pairwise fun a b => key b ≤ key a :=
    List.pairwise_insertionSort _ _
  have perm : (remaining key rows bound).Perm (rows.filter (below key bound)) :=
    List.perm_insertionSort _ _
  have apart : (remaining key rows bound).Pairwise fun a b => key a ≠ key b :=
    perm.symm.pairwise (distinct.filter _) fun different => Ne.symm different
  exact (sorted.and apart).imp fun both => lt_of_le_of_ne both.1 (Ne.symm both.2)

/-! ## One page -/

variable {encode : κ → Except ε ρ} {limit : Nat}

/-- A page and the rows below its last key are all that was left. -/
theorem paginateRows_remaining (positive : 0 < limit)
    (distinct : rows.Pairwise fun a b => key a ≠ key b)
    (encodes : ∀ row ∈ rows, ∃ text, encode (key row) = .ok text) :
    ∃ next, paginateRows encode key limit ((remaining key rows bound).take (limit + 1)) =
        .ok ⟨(remaining key rows bound).take limit, next⟩ ∧
      (next = none → (remaining key rows bound).take limit = remaining key rows bound) ∧
      ∀ text, next = some text → ∃ last ∈ (remaining key rows bound).take limit,
        encode (key last) = .ok text ∧
          (∀ row ∈ (remaining key rows bound).take limit, key last ≤ key row) ∧
          ∀ row ∈ remaining key rows bound,
            row ∈ (remaining key rows bound).take limit ∨ key row < key last := by
  have encodesRest : ∀ row ∈ remaining key rows bound, ∃ text, encode (key row) = .ok text :=
    fun row member => encodes row (mem_remaining.mp member).1
  obtain ⟨next, paginated, isLast, continues⟩ := paginateRows_take positive encodesRest
  refine ⟨next, paginated, fun none => List.take_of_length_le (isLast.mp none), ?_⟩
  intro text isText
  obtain ⟨before, last, after, split, atLimit, encoded⟩ := continues text isText
  have sorted := @remaining_sorted _ _ _ _ _ bound distinct
  have page : (remaining key rows bound).take limit = before ++ [last] := by
    have moved : before ++ last :: after = (before ++ [last]) ++ after := by simp
    rw [split, moved, ← atLimit, List.take_left]
  rw [page, split]
  rw [split, List.pairwise_append, List.pairwise_cons] at sorted
  obtain ⟨_, ⟨rest, _⟩, crossing⟩ := sorted
  refine ⟨last, by simp, encoded, fun row member => ?_, fun row member => ?_⟩
  · rcases List.mem_append.mp member with earlier | same
    · exact le_of_lt (crossing row earlier last List.mem_cons_self)
    · rw [List.mem_singleton.mp same]
  · rcases List.mem_append.mp member with earlier | later
    · exact .inl (List.mem_append_left _ earlier)
    · rcases List.mem_cons.mp later with rfl | later
      · exact .inl (by simp)
      · exact .inr (rest row later)

/-! ## The whole walk -/

/-- What the pages below a bound visit while the selected rows change from request to request.  The
requests meet the first of the states, one for each page. -/
structure Visits (key : α → κ) (selected : σ → List α) (states : List σ) (bound : Option κ)
    (pages : List (Page α ρ)) : Prop where
  descends : (pages.flatMap Page.data).Pairwise fun a b => key b < key a
  inside : ∀ row ∈ pages.flatMap Page.data, below key bound row = true
  /-- Each row of a page is selected in the state that its request meets. -/
  found : List.Forall₂ (fun state page => ∀ row ∈ page.data, row ∈ selected state)
    (states.take pages.length) pages
  /-- A key that is selected at every request. -/
  visited : Complete pages → ∀ wanted, isBelow bound wanted = true →
    (∀ state ∈ states.take pages.length, ∃ row ∈ selected state, key row = wanted) →
      ∃ row ∈ pages.flatMap Page.data, key row = wanted
  /-- The requests are more than the keys that are ever selected. -/
  completes : ∀ keys : List κ, (∀ state ∈ states, ∀ row ∈ selected state, key row ∈ keys) →
    (keys.filter (isBelow bound)).length < states.length → Complete pages

variable {list : σ → Option ρ → Except ε (Page α ρ)} {selected : σ → List α} {states : List σ}

theorem isBelow_of_lower {last : κ} (inside : isBelow bound last = true) {lower : κ}
    (isLower : isBelow (some last) lower = true) : isBelow bound lower = true := by
  cases bound with
  | none => rfl
  | some bound =>
    simp only [isBelow, Option.all_some, decide_eq_true_eq] at inside isLower ⊢
    exact lt_trans isLower inside

/-- The last key of a page is left behind. -/
theorem length_filter_isBelow_lt {keys : List κ} {last : κ} (member : last ∈ keys)
    (inside : isBelow bound last = true) :
    (keys.filter (isBelow (some last))).length < (keys.filter (isBelow bound)).length := by
  have again : keys.filter (isBelow (some last)) =
      (keys.filter (isBelow bound)).filter (isBelow (some last)) := by
    rw [List.filter_filter]
    refine List.filter_congr fun lower _ => ?_
    rw [eq_comm, Bool.and_eq_left_iff_imp]
    exact isBelow_of_lower inside
  rw [again, List.length_filter_lt_length_iff_exists]
  exact ⟨last, List.mem_filter.mpr ⟨member, inside⟩, by simp [isBelow]⟩

theorem Visits.nil : Visits key selected [] bound ([] : List (Page α ρ)) where
  descends := .nil
  inside _ none := absurd none List.not_mem_nil
  found := .nil
  visited := by
    rintro ⟨page, none, _⟩
    exact absurd none List.not_mem_nil
  completes _ _ short := absurd short (Nat.not_lt_zero _)

section Step

variable {state : σ}

theorem Visits.last {page : Page α ρ} (isLast : page.nextCursor = none)
    (distinct : (selected state).Pairwise fun a b => key a ≠ key b)
    (all : page.data = remaining key (selected state) bound) :
    Visits key selected (state :: states) bound [page] := by
  have data : [page].flatMap Page.data = remaining key (selected state) bound := by simp [all]
  have complete : Complete [page] := ⟨page, List.mem_singleton_self page, isLast⟩
  constructor <;> try rw [data]
  · exact remaining_sorted distinct
  · exact fun row member => (mem_remaining.mp member).2
  · refine .cons (fun row member => ?_) .nil
    rw [all] at member
    exact (mem_remaining.mp member).1
  · rintro _ wanted inside always
    obtain ⟨row, isSelected, rfl⟩ := always state List.mem_cons_self
    exact ⟨row, mem_remaining.mpr ⟨isSelected, inside⟩, rfl⟩
  · exact fun _ _ _ => complete

theorem Visits.cons {page : Page α ρ} {pages : List (Page α ρ)} {last : α}
    (more : page.nextCursor ≠ none)
    (distinct : (selected state).Pairwise fun a b => key a ≠ key b)
    (first : page.data = (remaining key (selected state) bound).take limit)
    (member : last ∈ page.data) (least : ∀ row ∈ page.data, key last ≤ key row)
    (rest : ∀ row ∈ remaining key (selected state) bound,
      row ∈ page.data ∨ key row < key last)
    (visits : Visits key selected states (some (key last)) pages) :
    Visits key selected (state :: states) bound (page :: pages) := by
  have isRemaining : ∀ row ∈ page.data, row ∈ remaining key (selected state) bound := by
    intro row inPage
    rw [first] at inPage
    exact List.mem_of_mem_take inPage
  have inside : below key bound last = true := (mem_remaining.mp (isRemaining last member)).2
  constructor
  · rw [List.flatMap_cons, List.pairwise_append]
    refine ⟨?_, visits.descends, fun a inPage b later => ?_⟩
    · rw [first]
      exact (remaining_sorted distinct).sublist (List.take_sublist _ _)
    · have lower := visits.inside b later
      simp only [below, isBelow, Option.all_some, decide_eq_true_eq] at lower
      exact lt_of_lt_of_le lower (least a inPage)
  · intro row found
    rcases List.mem_append.mp (List.flatMap_cons ▸ found) with inPage | later
    · exact (mem_remaining.mp (isRemaining row inPage)).2
    · exact isBelow_of_lower inside (visits.inside row later)
  · exact .cons (fun row inPage => (mem_remaining.mp (isRemaining row inPage)).1) visits.found
  · rintro ⟨page', isPage, isLast⟩ wanted isInside always
    have complete : Complete pages := by
      rcases List.mem_cons.mp isPage with rfl | later
      · exact absurd isLast more
      · exact ⟨page', later, isLast⟩
    obtain ⟨row, isSelected, rfl⟩ := always state List.mem_cons_self
    -- Either the row is on this page, or the key is left to the next ones.
    rcases rest row (mem_remaining.mpr ⟨isSelected, isInside⟩) with inPage | lower
    · exact ⟨row, List.mem_append_left _ inPage, rfl⟩
    · obtain ⟨other, isVisited, same⟩ := visits.visited complete (key row)
        (by simpa [isBelow] using lower) fun other isState =>
          always other (List.mem_cons_of_mem _ isState)
      exact ⟨other, List.mem_append_right _ isVisited, same⟩
  · intro keys ever short
    have fewer := length_filter_isBelow_lt
      (ever state List.mem_cons_self last (mem_remaining.mp (isRemaining last member)).1) inside
    obtain ⟨page', isPage, isLast⟩ := visits.completes keys
      (fun other isState => ever other (List.mem_cons_of_mem _ isState))
      (by rw [List.length_cons] at short; omega)
    exact ⟨page', List.mem_cons_of_mem _ isPage, isLast⟩

end Step

/-- In this state a request reads the limit and one row more of what is left below its bound, and
the cursors that it makes are read as the keys they were made of. -/
structure ReadsKeyset (list : σ → Option ρ → Except ε (Page α ρ)) (encode : κ → Except ε ρ)
    (isRead : ρ → κ → Prop) (key : α → κ) (limit : Nat) (selected : σ → List α) (state : σ) :
    Prop where
  distinct : (selected state).Pairwise fun a b => key a ≠ key b
  encodes : ∀ row ∈ selected state, ∃ text, encode (key row) = .ok text ∧ isRead text (key row)
  answers : ∀ cursor bound, Stands isRead cursor bound → list state cursor =
    paginateRows encode key limit ((remaining key (selected state) bound).take (limit + 1))

theorem walk_visits {isRead : ρ → κ → Prop} (positive : 0 < limit)
    (reads : ∀ state ∈ states, ReadsKeyset list encode isRead key limit selected state)
    {cursor : Option ρ} (stands : Stands isRead cursor bound) :
    ∃ pages, walk list states cursor = .ok pages ∧ Visits key selected states bound pages := by
  induction states generalizing cursor bound with
  | nil => exact ⟨[], rfl, .nil⟩
  | cons state states inductionHypothesis =>
    have current := reads state List.mem_cons_self
    have encodes : ∀ row ∈ selected state, ∃ text, encode (key row) = .ok text := by
      intro row member
      obtain ⟨text, encoded, _⟩ := current.encodes row member
      exact ⟨text, encoded⟩
    obtain ⟨next, paginated, isLast, continues⟩ :=
      @paginateRows_remaining _ _ _ _ _ _ _ bound _ _ positive current.distinct encodes
    rw [← current.answers cursor bound stands] at paginated
    cases next with
    | none =>
      refine ⟨[⟨(remaining key (selected state) bound).take limit, none⟩], ?_,
        .last rfl current.distinct (isLast rfl)⟩
      simp [walk, paginated]
    | some text =>
      obtain ⟨last, member, encoded, least, rest⟩ := continues text rfl
      -- The next request reads the text as the last key of this page.
      have next : isRead text (key last) := by
        obtain ⟨text', encoded', next⟩ :=
          current.encodes last (mem_remaining.mp (List.mem_of_mem_take member)).1
        rw [encoded] at encoded'
        cases encoded'
        exact next
      obtain ⟨pages, walked, visits⟩ :=
        @inductionHypothesis (some (key last))
          (fun other isState => reads other (List.mem_cons_of_mem _ isState)) (some text) next
      refine ⟨⟨_, some text⟩ :: pages, ?_,
        .cons (by simp) current.distinct rfl member least rest visits⟩
      simp [walk, paginated, walked, Except.map]

end Keys

end Paging
