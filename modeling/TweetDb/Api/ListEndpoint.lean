import TweetDb.Api.Common
import TweetDb.Paging.Keyset
import TweetDb.Relational.Table

/-! # List endpoints

What the list endpoints of `internal_api/v2` have in common: the filters are
parsed, a cursor must have been made under the same ones, and one query reads on
from its key.
-/

namespace TweetDb.Api

open Paging Relational

/-- The errors of a list request, which may name a parent that does not exist. -/
inductive ListError where
  | notFound (message : String)
  | request (error : ApiError)
deriving DecidableEq, Repr

/-- The query parameters that all endpoints have, and those of one of them. -/
structure ListRequest (π : Type) where
  list : ListQuery
  params : π

/-- The same request with another cursor. -/
def ListRequest.withCursor {π : Type} (request : ListRequest π) (cursor : Option String) :
    ListRequest π :=
  { request with list := { request.list with cursor } }

/-- The filters of the request that made it, and the key of the last row of the page. -/
structure ListCursor (φ κ : Type) where
  v : Nat
  filters : φ
  key : κ
deriving DecidableEq, Repr

/-- An endpoint with parameters `π`, filters `φ` and rows that are ordered by `κ`.  No two rows of
one selection have the same key. -/
structure ListEndpoint (σ π φ α κ : Type) [LinearOrder κ] where
  ensureExists : σ → π → Except ListError Unit
  filters : Option String → π → Except ApiError φ
  /-- The checks of the filters of a cursor against those of the request. -/
  ensureMatch : φ → φ → Except ApiError Unit
  isSqlText : φ → Bool
  rows : σ → List α
  /-- The `WHERE` clause without the cursor. -/
  selects : φ → α → Bool
  key : α → κ
  ensureMatch_self : ∀ filters, ensureMatch filters filters = .ok ()
  distinct : ∀ state filters,
    ((rows state).filter (selects filters)).Pairwise fun a b => key a ≠ key b

namespace ListEndpoint

variable {σ π φ α κ : Type} [LinearOrder κ] (endpoint : ListEndpoint σ π φ α κ)

def selected (filters : φ) (state : σ) : List α :=
  (endpoint.rows state).filter (endpoint.selects filters)

/-- The checks of a cursor, and the bound it stands for. -/
def acceptCursor (filters : φ) (cursor : ListCursor φ κ) : Except ApiError κ := do
  ensureCursorVersion cursor.v
  endpoint.ensureMatch cursor.filters filters
  return cursor.key

/-- `WHERE … AND (NOT use_cursor OR key < bound) ORDER BY key DESC LIMIT limit`. -/
def selectPage (state : σ) (filters : φ) (bound : Option κ) (limit : Nat) :
    Except ApiError (List α) :=
  if endpoint.isSqlText filters then
    .ok ((descending endpoint.key ((endpoint.rows state).filter fun row =>
      endpoint.selects filters row && below endpoint.key bound row)).take limit)
  else .error .database

/-- The text of the cursor of a row with this key. -/
def encodeKey (codec : CursorCodec (ListCursor φ κ)) (filters : φ) (key : κ) :
    Except ListError String :=
  (codec.encodeCursor ⟨cursorVersion, filters, key⟩).mapError .request

/-- The page that a session with the capability gets. -/
def answer (codec : CursorCodec (ListCursor φ κ)) (state : σ) (request : ListRequest π) :
    Except ListError (Page α String) := do
  endpoint.ensureExists state request.params
  let limit := resolveLimit request.list.limit
  let filters ← (endpoint.filters request.list.q request.params).mapError .request
  let cursor ← (request.list.cursor.mapM codec.decodeCursor).mapError .request
  let bound ← (cursor.mapM (endpoint.acceptCursor filters)).mapError .request
  let rows ← (endpoint.selectPage state filters bound (limit + 1)).mapError .request
  paginateRows (encodeKey codec filters) endpoint.key limit rows

/-! ## Following the cursors -/

variable {endpoint} {codec : CursorCodec (ListCursor φ κ)} {request : ListRequest π} {filters : φ}
  {state : σ}

theorem selectPage_eq (sqlText : endpoint.isSqlText filters = true) (bound : Option κ)
    (limit : Nat) : endpoint.selectPage state filters bound limit =
      .ok ((remaining endpoint.key (endpoint.selected filters state) bound).take limit) := by
  have both : (endpoint.rows state).filter (fun row =>
      endpoint.selects filters row && below endpoint.key bound row) =
      (endpoint.selected filters state).filter (below endpoint.key bound) := by
    rw [selected, List.filter_filter]
    exact List.filter_congr fun row _ => Bool.and_comm _ _
  rw [selectPage, if_pos sqlText, both, remaining]

/-- A cursor that this endpoint has made under these filters. -/
def IsRead (codec : CursorCodec (ListCursor φ κ)) (filters : φ) (text : String) (key : κ) : Prop :=
  codec.decodeCursor text = .ok ⟨cursorVersion, filters, key⟩

theorem acceptCursor_made (key : κ) :
    endpoint.acceptCursor filters ⟨cursorVersion, filters, key⟩ = .ok key := by
  simp [acceptCursor, ensureCursorVersion, endpoint.ensureMatch_self, bind, Except.bind, pure,
    Except.pure]

theorem answer_reads (parent : endpoint.ensureExists state request.params = .ok ())
    (parsed : endpoint.filters request.list.q request.params = .ok filters)
    (sqlText : endpoint.isSqlText filters = true)
    (survives : ∀ row ∈ endpoint.selected filters state,
      codec.Survives ⟨cursorVersion, filters, endpoint.key row⟩) :
    ReadsKeyset (fun state cursor => endpoint.answer codec state (request.withCursor cursor))
      (encodeKey codec filters) (IsRead codec filters) endpoint.key
      (resolveLimit request.list.limit) (endpoint.selected filters) state where
  distinct := endpoint.distinct state filters
  encodes row member := by
    obtain ⟨text, encoded, decoded⟩ := survives row member
    exact ⟨text, by rw [encodeKey, encoded]; rfl, decoded⟩
  answers cursor bound stands := by
    cases cursor with
    | none =>
      cases bound with
      | some bound => cases stands
      | none =>
        simp [answer, ListRequest.withCursor, parent, parsed, selectPage_eq sqlText,
          Except.mapError, bind, Except.bind, pure, Except.pure]
    | some text =>
      cases bound with
      | none => cases stands
      | some bound =>
        have decoded : codec.decodeCursor text = .ok ⟨cursorVersion, filters, bound⟩ := stands
        simp [answer, ListRequest.withCursor, parent, parsed, selectPage_eq sqlText, decoded,
          acceptCursor_made, Except.mapError, bind, Except.bind]

/-- Requests with each next cursor, while the tables change in any way: a page has rows that are
selected when it is asked for, the pages go down the keys without a repetition, a key that is
selected all the time is on one of them, and they come to an end unless rows keep coming.  Only the
parent has to stay, and the cursors have to survive. -/
def VisitsOnce (endpoint : ListEndpoint σ π φ α κ) : Prop :=
  ∀ (codec : CursorCodec (ListCursor φ κ)) (request : ListRequest π) (filters : φ)
    (states : List σ),
    endpoint.filters request.list.q request.params = .ok filters →
    endpoint.isSqlText filters = true →
    (∀ state ∈ states, endpoint.ensureExists state request.params = .ok ()) →
    (∀ state ∈ states, ∀ row ∈ endpoint.selected filters state,
      codec.Survives ⟨cursorVersion, filters, endpoint.key row⟩) →
    ∃ pages, walk (fun state cursor => endpoint.answer codec state (request.withCursor cursor))
        states none = .ok pages ∧
      Visits endpoint.key (endpoint.selected filters) states none pages

theorem visitsOnce (endpoint : ListEndpoint σ π φ α κ) : endpoint.VisitsOnce :=
  fun _ request _ _ parsed sqlText parent survives =>
    walk_visits (resolveLimit_pos request.list.limit) (fun state isState =>
      answer_reads (parent state isState) parsed sqlText (survives state isState)) trivial

end ListEndpoint

/-! ## Rows of a table -/

/-- Rows that are read off the rows of a table, at most one off each, and whose keys tell the rows
of the table apart. -/
theorem distinct_filterMap {β α κ ι : Type} [Row β ι] {table : Table β} {join : β → Option α}
    {selects : α → Bool} {key : α → κ}
    (determined : ∀ a b row row', join a = some row → join b = some row' → selects row = true →
      selects row' = true → key row = key row' → Row.key a = Row.key b) :
    ((table.rows.filterMap join).filter selects).Pairwise fun a b => key a ≠ key b := by
  rw [List.pairwise_filter, List.pairwise_filterMap]
  refine table.unique.imp fun {a b} distinct row isRow row' isRow' isSelected isSelected' same => ?_
  exact distinct (Row.clash_of_key
    (determined a b row row' isRow isRow' isSelected isSelected' same))

theorem distinct_rows {α κ ι : Type} [Row α ι] {table : Table α} {selects : α → Bool}
    {key : α → κ}
    (determined : ∀ a b, selects a = true → selects b = true → key a = key b →
      Row.key a = Row.key b) :
    (table.rows.filter selects).Pairwise fun a b => key a ≠ key b := by
  rw [List.pairwise_filter]
  exact table.unique.imp fun {a b} distinct isSelected isSelected' same =>
    distinct (Row.clash_of_key (determined a b isSelected isSelected' same))

theorem distinct_map {β α κ ι : Type} [Row β ι] {table : Table β} {join : β → α}
    {selects : α → Bool} {key : α → κ}
    (determined : ∀ a b, selects (join a) = true → selects (join b) = true →
      key (join a) = key (join b) → Row.key a = Row.key b) :
    ((table.rows.map join).filter selects).Pairwise fun a b => key a ≠ key b := by
  rw [List.pairwise_filter, List.pairwise_map]
  exact table.unique.imp fun {a b} distinct isSelected isSelected' same =>
    distinct (Row.clash_of_key (determined a b isSelected isSelected' same))

end TweetDb.Api
