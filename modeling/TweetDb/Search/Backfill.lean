import Mathlib.Algebra.Group.Nat.Defs
import TweetDb.Paging.Follow
import TweetDb.Relational.Select
import TweetDb.Search.Targets
import TweetDb.Transition.Loop
import TweetDb.Tweet.Types

/-! # Backfill

`enqueue_existing_targets` goes through the ids of a table page by page.  The
content of the table is fixed; what has been enqueued up to a turn is a first
part of the sorted ids, and the last id of it is the cursor.
-/

namespace TweetDb.Search

open Leasing Paging Relational Transition

/-- The tables with an index; PostgreSQL counts the rows of a table in a `BIGINT`. -/
structure IndexedTables where
  users : Table Tweet.TwitterUser
  tweets : Table Tweet.TweetRow
  counted : users.rows.length < 2 ^ 63 ∧ tweets.rows.length < 2 ^ 63

def IndexedTables.ids (tables : IndexedTables) : IndexTargetKind → List Int
  | .user => tables.users.rows.map Tweet.TwitterUser.id
  | .tweet => tables.tweets.rows.map Tweet.TweetRow.id

/-- `SELECT id … WHERE ($1 IS NULL OR id > $1) ORDER BY id LIMIT $2`. -/
def selectIds (ids : List Int) (lastId : Option Int) (limit : Nat) : List Int :=
  (orderBy (fun id => [id]) (ids.filter fun id => lastId.all fun last => decide (last < id))).take
    limit

/-- The variables of the loop, with the queue and the calls of `enqueue_targets` so far. -/
structure BackfillState where
  lastId : Option Int
  queued : Nat
  queue : Table IndexTask
  requests : List (List IndexTarget)

/-- One turn of the loop; an error of a statement is passed on. -/
def backfillTurn (ids : List Int) (kind : IndexTargetKind) (limit : Nat)
    (newId : IndexTarget → Uuid) (now : Nat → Timestamp) (state : BackfillState) :
    Turn BackfillState (Option BackfillState) :=
  let page := selectIds ids state.lastId limit
  if page.isEmpty then .leave (some state)
  else
    let targets := page.map (IndexTarget.mk kind)
    match enqueueTargets targets true newId (now state.requests.length) state.queue with
    | none => .leave none
    | some (_, queue) => .next
      { lastId := page.getLast?
        queued := min (state.queued + targets.length) (2 ^ 64 - 1)
        queue := queue
        requests := state.requests ++ [targets] }

/-- The loop of `enqueue_existing_targets` on a table and a queue. -/
def EnqueuesExisting (tables : IndexedTables) (kind : IndexTargetKind) (batchSize : Nat)
    (newId : IndexTarget → Uuid) (now : Nat → Timestamp) (queue : Table IndexTask)
    (result : Option BackfillState) : Prop :=
  Leaves (backfillTurn (tables.ids kind) kind (min batchSize (2 ^ 63 - 1)) newId now)
    ⟨none, 0, queue, []⟩ result

/-! ## Pages -/

variable {ids first rest : List Int} {limit : Nat}

/-- The ids behind the last one of a first part of the sorted ids are the others. -/
theorem selectIds_eq (distinct : ids.Nodup) (split : orderBy (fun id => [id]) ids = first ++ rest) :
    selectIds ids first.getLast? limit = rest.take limit := by
  have injective : ∀ a ∈ ids, ∀ b ∈ ids, [a] = [b] → a = b := fun a _ b _ => List.singleton_inj.mp
  rw [selectIds, orderBy_filter _ injective, split]
  congr 1
  cases isLast : first.getLast? with
  | none =>
    rw [List.getLast?_eq_none_iff.mp isLast]
    simp
  | some last =>
    obtain ⟨before, rfl⟩ := List.getLast?_eq_some_iff.mp isLast
    have sorted : (before ++ last :: rest).Pairwise (· < ·) := by
      -- Sorted without repetition, so strictly.
      have weakly := orderBy_sorted (fun id : Int => [id]) ids
      have nodup := nodup_orderBy (fun id => [id]) distinct
      rw [split, List.append_assoc] at weakly nodup
      refine (weakly.and nodup).imp fun {a b} both => ?_
      have le := columnsLe_cons.mp both.1
      have differ := both.2
      omega
    rw [List.append_assoc, List.singleton_append, List.filter_append, List.filter_cons]
    have after := filter_after (fun a b => Int.lt_asymm) sorted
    rw [List.filter_append, List.filter_cons] at after
    exact after

/-! ## The loop -/

/-- After some turns: `first` has been enqueued, `rest` has not. -/
structure Progress (kind : IndexTargetKind) (newId : IndexTarget → Uuid)
    (start : Table IndexTask) (state : BackfillState) (first rest : List Int) : Prop where
  last : state.lastId = first.getLast?
  queued : state.queued = min first.length (2 ^ 64 - 1)
  requested : state.requests.flatten = first.map (IndexTarget.mk kind)
  fresh : FreshIds newId state.queue
  pending : ∀ id ∈ first, ∃ row ∈ state.queue.rows,
    row.target = ⟨kind, id⟩ ∧ row.status = .pending
  untouched : ∀ row : IndexTask, row.target ∉ first.map (IndexTarget.mk kind) →
    (row ∈ state.queue.rows ↔ row ∈ start.rows)

variable {kind : IndexTargetKind} {newId : IndexTarget → Uuid} {now : Timestamp}
  {queue queue' : Table IndexTask} {targets : List IndexTarget}

/-- A refresh leaves a pending row for each of its targets. -/
theorem RowsEnqueued.pending (rows : RowsEnqueued targets true newId now queue queue')
    {target : IndexTarget} (named : target ∈ targets) :
    ∃ row ∈ queue'.rows, row.target = target ∧ row.status = .pending := by
  by_cases stored : ∃ old ∈ queue.rows, old.target = target
  · obtain ⟨old, present, rfl⟩ := stored
    refine ⟨_, (rows _).mpr (.inl ⟨old, present, rfl⟩), refreshRow_target old, ?_⟩
    rw [refreshRow_of_mem named]
    rfl
  · refine ⟨⟨newId target, target, .created now⟩, (rows _).mpr (.inr ⟨target, named, ?_, rfl⟩),
      rfl, rfl⟩
    exact fun old present same => stored ⟨old, present, same⟩

/-- A refresh leaves the rows of other targets alone. -/
theorem RowsEnqueued.untouched (rows : RowsEnqueued targets true newId now queue queue')
    {row : IndexTask} (other : row.target ∉ targets) : row ∈ queue'.rows ↔ row ∈ queue.rows := by
  rw [rows row]
  constructor
  · intro member
    obtain ⟨old, present, rfl⟩ | ⟨target, named, _, rfl⟩ := member
    · rw [refreshRow_target] at other
      rwa [refreshRow_of_not_mem other]
    · exact absurd named other
  · exact fun present => .inl ⟨row, present, refreshRow_of_not_mem other⟩

theorem mem_targets {id : Int} {page : List Int} :
    (⟨kind, id⟩ : IndexTarget) ∈ page.map (IndexTarget.mk kind) ↔ id ∈ page := by
  simp

/-- One turn: the next page is enqueued, or there is none and the loop leaves. -/
theorem backfillTurn_cases {clock : Nat → Timestamp} {start : Table IndexTask}
    {state : BackfillState} (distinct : ids.Nodup) (positive : 1 ≤ limit)
    (split : orderBy (fun id => [id]) ids = first ++ rest)
    (progress : Progress kind newId start state first rest) :
    rest = [] ∧ backfillTurn ids kind limit newId clock state = .leave (some state) ∨
      rest ≠ [] ∧ ∃ next, backfillTurn ids kind limit newId clock state = .next next ∧
        Progress kind newId start next (first ++ rest.take limit) (rest.drop limit) := by
  have page_eq : selectIds ids state.lastId limit = rest.take limit := by
    rw [progress.last, selectIds_eq distinct split]
  by_cases empty : rest = []
  · refine .inl ⟨empty, ?_⟩
    simp [backfillTurn, page_eq, empty]
  · have nonempty : rest.take limit ≠ [] := by
      rw [ne_eq, List.take_eq_nil_iff]
      simp only [empty, or_false]
      omega
    obtain ⟨statuses, queue', enqueued, freshAfter, rows⟩ :=
      @enqueueTargets_fresh state.queue ((rest.take limit).map (IndexTarget.mk kind)) true newId
        (clock state.requests.length) progress.fresh
    -- No id of the page has been enqueued before.
    have apart : ∀ id ∈ first, id ∉ rest.take limit := by
      intro id inFirst inPage
      have nodup := nodup_orderBy (fun id => [id]) distinct
      rw [split] at nodup
      exact List.disjoint_of_nodup_append nodup inFirst (List.mem_of_mem_take inPage)
    let targets := (rest.take limit).map (IndexTarget.mk kind)
    refine .inr ⟨empty, ⟨(rest.take limit).getLast?,
      min (state.queued + targets.length) (2 ^ 64 - 1), queue', state.requests ++ [targets]⟩, ?_, ?_⟩
    · have goesOn : ¬ (rest.take limit).isEmpty = true := by simpa using nonempty
      simp only [backfillTurn, page_eq, enqueued, goesOn, if_false, Bool.false_eq_true, targets]
    constructor
    case last => exact (List.getLast?_append_of_ne_nil first nonempty).symm
    case queued =>
      simp only [progress.queued, targets, List.length_map, List.length_append]
      omega
    case requested =>
      rw [List.flatten_append, progress.requested, List.map_append]
      simp [targets]
    case fresh => exact freshAfter
    case pending =>
      -- The rows of earlier pages are not touched again.
      intro id member
      cases List.mem_append.mp member with
      | inl earlier =>
        obtain ⟨row, present, isTarget, isPending⟩ := progress.pending id earlier
        refine ⟨row, (rows.untouched ?_).mpr present, isTarget, isPending⟩
        rw [isTarget, mem_targets]
        exact apart id earlier
      | inr inPage => exact rows.pending (mem_targets.mpr inPage)
    case untouched =>
      intro row other
      rw [List.map_append, List.mem_append, not_or] at other
      exact (rows.untouched other.2).trans (progress.untouched row other.1)

/-- The loop leaves with all ids enqueued; the variant is the number of those that are not. -/
theorem exists_backfilled {clock : Nat → Timestamp} {start : Table IndexTask}
    (distinct : ids.Nodup) (positive : 1 ≤ limit) (fresh : FreshIds newId start) :
    ∃ result, Leaves (backfillTurn ids kind limit newId clock) ⟨none, 0, start, []⟩ result ∧
      ∃ final, result = some final ∧
        Progress kind newId start final (orderBy (fun id => [id]) ids) [] := by
  have initially : Progress kind newId start ⟨none, 0, start, []⟩ []
      (orderBy (fun id => [id]) ids) :=
    ⟨rfl, rfl, rfl, fresh, fun _ none => absurd none List.not_mem_nil, fun _ _ => Iff.rfl⟩
  refine @leaves_of_variant _ _ _ _
    (fun state => ∃ first rest, orderBy (fun id => [id]) ids = first ++ rest ∧
      Progress kind newId start state first rest) _
    (fun state => ids.length - state.requests.flatten.length) ?_ ?_ ⟨[], _, rfl, initially⟩
  · intro state next ⟨first, rest, split, progress⟩ taken
    rcases backfillTurn_cases distinct positive split progress with
      ⟨_, left⟩ | ⟨nonempty, next', went, progress'⟩
    · rw [left] at taken
      cases taken
    · rw [went] at taken
      cases taken
      refine ⟨⟨_, _, ?_, progress'⟩, ?_⟩
      · rw [split, List.append_assoc, List.take_append_drop]
      -- The page is not empty, so there are fewer ids left.
      · have whole := congrArg List.length split
        have some_left : 0 < rest.length := List.length_pos_iff.mpr nonempty
        rw [(orderBy_perm _ ids).length_eq, List.length_append] at whole
        rw [progress.requested, progress'.requested, List.length_map, List.length_map,
          List.length_append, List.length_take]
        omega
  · intro state result ⟨first, rest, split, progress⟩ taken
    rcases backfillTurn_cases distinct positive split progress with
      ⟨rfl, left⟩ | ⟨_, next', went, _⟩
    · rw [left] at taken
      cases taken
      rw [List.append_nil] at split
      exact ⟨state, rfl, split ▸ progress⟩
    · rw [went] at taken
      cases taken

/-! ## The tables -/

theorem IndexedTables.ids_nodup (tables : IndexedTables) (kind : IndexTargetKind) :
    (tables.ids kind).Nodup := by
  cases kind with
  | user => exact List.pairwise_map.mpr tables.users.unique
  | tweet => exact List.pairwise_map.mpr tables.tweets.unique

theorem IndexedTables.length_ids (tables : IndexedTables) (kind : IndexTargetKind) :
    (tables.ids kind).length < 2 ^ 63 := by
  cases kind with
  | user => simpa [ids] using tables.counted.1
  | tweet => simpa [ids] using tables.counted.2

/-- The backfill ends with every id of the table enqueued once, no other target enqueued, and the
number of rows as its result. -/
theorem backfill_enumerates_rows (tables : IndexedTables) (kind : IndexTargetKind)
    (clock : Nat → Timestamp) {batchSize : Nat} (positive : 1 ≤ batchSize)
    (fresh : FreshIds newId queue) :
    ∃ final : BackfillState,
      (∀ result, EnqueuesExisting tables kind batchSize newId clock queue result ↔
        result = some final) ∧
      final.requests.flatten.Perm ((tables.ids kind).map (IndexTarget.mk kind)) ∧
      final.requests.flatten.Nodup ∧
      final.queued = (tables.ids kind).length ∧
      (∀ id ∈ tables.ids kind, ∃ row ∈ final.queue.rows,
        row.target = ⟨kind, id⟩ ∧ row.status = .pending) ∧
      ∀ row : IndexTask, row.target ∉ (tables.ids kind).map (IndexTarget.mk kind) →
        (row ∈ final.queue.rows ↔ row ∈ queue.rows) := by
  have distinct := tables.ids_nodup kind
  have sorted := orderBy_perm (fun id : Int => [id]) (tables.ids kind)
  obtain ⟨_, leaves, final, rfl, progress⟩ :=
    @exists_backfilled _ (min batchSize (2 ^ 63 - 1)) kind newId clock queue distinct
      (by omega) fresh
  have enqueued : final.requests.flatten.Perm ((tables.ids kind).map (IndexTarget.mk kind)) := by
    rw [progress.requested]
    exact sorted.map _
  have counted : final.queued = (tables.ids kind).length := by
    have fits := tables.length_ids kind
    rw [progress.queued, sorted.length_eq]
    omega
  refine ⟨final, fun result => leaves.iff_eq, enqueued, ?_, counted, fun id member => ?_,
    fun row other => ?_⟩
  · exact enqueued.nodup_iff.mpr (distinct.map fun a b same => (IndexTarget.mk.inj same).2)
  · exact progress.pending id (sorted.mem_iff.mpr member)
  · exact progress.untouched row (mt (sorted.map _).mem_iff.mp other)

/-- Three users, one of them with a negative id. -/
def threeUsers : IndexedTables where
  users := ⟨[⟨9, none⟩, ⟨-5, none⟩, ⟨3, none⟩], by decide⟩
  tweets := .empty
  counted := ⟨by decide, by decide⟩

/-- An id for each target. -/
def targetId (target : IndexTarget) : Uuid :=
  4 * target.id.natAbs + (if target.id < 0 then 2 else 0) + if target.kind = .user then 1 else 0

theorem targetId_injective : Function.Injective targetId := by
  intro ⟨kind, id⟩ ⟨kind', id'⟩ same
  have sameId : id = id' := by
    simp only [targetId] at same
    grind
  subst sameId
  cases kind <;> cases kind' <;> simp [targetId] at same ⊢

theorem backfill_enumerates_rows_users : ∃ final : BackfillState,
    EnqueuesExisting threeUsers .user 2 targetId (fun calls => calls) .empty (some final) ∧
      final.requests.flatten.Perm [⟨.user, 9⟩, ⟨.user, -5⟩, ⟨.user, 3⟩] ∧ final.queued = 3 := by
  have fresh : FreshIds targetId .empty :=
    ⟨targetId_injective, fun _ none => absurd none List.not_mem_nil⟩
  obtain ⟨final, leaves, enqueued, _, counted, _⟩ :=
    backfill_enumerates_rows threeUsers .user (fun calls => calls) (by decide : 1 ≤ 2) fresh
  exact ⟨final, (leaves _).mpr rfl, enqueued, counted⟩

end TweetDb.Search
