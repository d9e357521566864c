import TweetDb.Paging.Follow

/-! # Lists that are loaded page by page

A client keeps the items and the next cursor.  A first page replaces both, a
further page is put behind the items.  `Loaded` says that the items are pages
of one listing, each taken where the page before it ended.
-/

namespace Paging

universe u v

variable {α : Type u} {ρ : Type v} {pageAt : Nat → Page α ρ → Prop} {advance : Nat → Nat}

inductive Loaded (pageAt : Nat → Page α ρ → Prop) (advance : Nat → Nat) :
    Nat → List α → Option ρ → Prop where
  | first {page : Page α ρ} (starts : pageAt 0 page) :
      Loaded pageAt advance (advance 0) page.data page.nextCursor
  | more {position : Nat} {items : List α} {cursor : ρ} {page : Page α ρ}
      (before : Loaded pageAt advance position items (some cursor))
      (continues : pageAt position page) :
      Loaded pageAt advance (advance position) (items ++ page.data) page.nextCursor

variable {position : Nat} {items : List α} {cursor : ρ}

/-- The cursor a list stands at is the one its last page gave for what comes after it. -/
theorem Loaded.carried (carries : Nat → ρ → Prop) {next : Option ρ}
    (given : ∀ position page cursor, pageAt position page → page.nextCursor = some cursor →
      carries (advance position) cursor)
    (loaded : Loaded pageAt advance position items next) (isNext : next = some cursor) :
    carries position cursor := by
  cases loaded with
  | first starts => exact given _ _ _ starts isNext
  | more _ continues => exact given _ _ _ continues isNext

end Paging
