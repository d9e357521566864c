import TweetDb.Relational.BiMap
import TweetDb.Relational.Select
import TweetDb.Submit.Checks
import TweetDb.Submit.Statements
import TweetDb.Transition.Run

/-! # The dictionary cache

`StringDictCache` of one process under any number of calls that look a text up,
ask the database for its id and insert the answer, each step on its own.  Other
processes add rows meanwhile, and a call may be given up between two steps.
`tweet.dict_id` answers with the id that is stored when it commits.
-/

namespace TweetDb.Submit

open Relational Transition
open TweetModel (normalizeValue)

/-- A row of `tweet.string_dict`. -/
structure DictRow where
  id : Int
  entry : DictEntry
deriving DecidableEq, Repr

instance : Row DictRow Int where
  key := DictRow.id
  clash a b := a.id = b.id ∨ a.entry = b.entry
  clash_of_key := .inl
  clash_symm := Or.imp Eq.symm Eq.symm
  decidableKey := inferInstance
  decidableClash := fun a b => inferInstanceAs (Decidable (a.id = b.id ∨ a.entry = b.entry))

/-- The table as a relation. -/
def Stored (table : Table DictRow) (entry : DictEntry) (id : Int) : Prop :=
  ⟨id, entry⟩ ∈ table.rows

theorem stored_oneToOne (table : Table DictRow) : OneToOne (Stored table) := by
  constructor
  · intro entry id id' stored stored'
    have same : (⟨id, entry⟩ : DictRow) = ⟨id', entry⟩ :=
      Table.eq_of_clash stored stored' (.inr rfl)
    exact congrArg DictRow.id same
  · intro entry entry' id stored stored'
    have same : (⟨id, entry⟩ : DictRow) = ⟨id, entry'⟩ :=
      Table.eq_of_clash stored stored' (.inl rfl)
    exact congrArg DictRow.entry same

/-! ## The cache -/

abbrev CacheState := BiMap DictEntry Int

namespace CacheState

/-- `refresh`, of the rows that its `SELECT` returned. -/
def refresh (rows : List DictRow) : CacheState :=
  (orderBy (fun row => [row.id]) rows).foldl (fun next row => next.insert row.entry row.id) .empty

variable (cache : CacheState)

def getId (semantic : StringSemantic) (value : String) : Option Int :=
  (normalizeValue value).bind fun value => cache.byKey ⟨semantic, value⟩

def getEntry (id : Int) : Option DictEntry := cache.byId id

/-- `resolve_string`. -/
def resolveString (id : Int) (semantic : StringSemantic) (field : String) :
    Except String String :=
  match cache.getEntry id with
  | none => .error s!"missing string dictionary entry {id} for {field}"
  | some entry =>
    if entry.semantic = semantic then .ok entry.value
    else .error s!"dictionary semantic mismatch for {field}: expected {reprStr semantic}, got {
      reprStr entry.semantic}"

end CacheState

theorem normalizeValue_eq {value normalized : String}
    (isNormalized : normalizeValue value = some normalized) :
    normalizeValue normalized = some normalized := by
  unfold normalizeValue at isNormalized
  simp only [Option.ite_none_left_eq_some, Option.some.injEq] at isNormalized
  obtain ⟨notEmpty, isTrimmed⟩ := isNormalized
  subst isTrimmed
  unfold normalizeValue
  rw [trim_trim]
  simp [notEmpty]

/-- A normalised text is looked up as it is. -/
theorem getId_normalized {cache : CacheState} {semantic : StringSemantic}
    {value normalized : String} (isNormalized : normalizeValue value = some normalized) :
    cache.getId semantic normalized = cache.byKey ⟨semantic, normalized⟩ := by
  rw [CacheState.getId, normalizeValue_eq isNormalized, Option.bind_some]

theorem refresh_faithful (table : Table DictRow) :
    (CacheState.refresh table.rows).Faithful (Stored table) := by
  have inserts : ∀ (rows : List DictRow) (cache : CacheState), cache.Faithful (Stored table) →
      (∀ row ∈ rows, row ∈ table.rows) →
      (rows.foldl (fun next row => next.insert row.entry row.id) cache).Faithful
        (Stored table) := by
    intro rows
    -- Each row of the table is inserted into the cache that the rows before it have left.
    induction rows with
    | nil => exact fun _ faithful _ => faithful
    | cons row rows inductionHypothesis =>
      intro cache faithful stored
      have isStored : Stored table row.entry row.id := stored row List.mem_cons_self
      exact inductionHypothesis _ (faithful.insert (stored_oneToOne table) isStored)
        fun other later => stored other (List.mem_cons_of_mem _ later)
  exact inserts _ _ (BiMap.faithful_empty _) fun row listed => mem_orderBy.mp listed

/-! ## The database -/

/-- `tweet.dict_id`; `newId` is what the identity column would give a new row. -/
def dictId (table : Table DictRow) (entry : DictEntry) (newId : Int) :
    Option (Int × Table DictRow) :=
  match table.rows.find? fun row => row.entry == entry with
  | some row => some (row.id, table)
  | none => (table.insert ⟨newId, entry⟩).map fun table => (newId, table)

/-- `btrim`. -/
def btrim (value : String) : String :=
  trimEndMatches (· == ' ') (trimStartMatches (· == ' ') value)

/-- The rows of `input` in the statement of `ensure_many`. -/
def ensureManyInput (missing : List DictEntry) : List DictEntry :=
  distinctOn id ((missing.map fun entry => ⟨entry.semantic, btrim entry.value⟩).filter
    fun entry => !entry.value.isEmpty)

/-- `tweet.dict_id` for one row of `input` after the other. -/
def dictIds (table : Table DictRow) :
    List (DictEntry × Int) → Option (List DictRow × Table DictRow)
  | [] => some ([], table)
  | (entry, newId) :: input =>
    (dictId table entry newId).bind fun (id, table) =>
      (dictIds table input).map fun (rows, table) => (⟨id, entry⟩ :: rows, table)

theorem dictId_stored {table table' : Table DictRow} {entry : DictEntry} {newId id : Int}
    (answered : dictId table entry newId = some (id, table')) :
    Stored table' entry id ∧ ∀ row ∈ table.rows, row ∈ table'.rows := by
  unfold dictId at answered
  split at answered
  -- The function looks for a row of the text before it inserts one.
  next row found =>
    cases answered
    have isEntry : row.entry = entry := by simpa using List.find?_some found
    subst isEntry
    exact ⟨List.mem_of_find?_eq_some found, fun _ present => present⟩
  next =>
    obtain ⟨inserted, isInserted, same⟩ := Option.map_eq_some_iff.mp answered
    cases same
    have rows := Table.insert_rows isInserted
    constructor
    · rw [Stored, rows]
      exact List.mem_append_right _ List.mem_cons_self
    · intro row present
      rw [rows]
      exact List.mem_append_left _ present

theorem dictIds_stored {table table' : Table DictRow} {input : List (DictEntry × Int)}
    {rows : List DictRow} (answered : dictIds table input = some (rows, table')) :
    (∀ row ∈ rows, row ∈ table'.rows) ∧ ∀ row ∈ table.rows, row ∈ table'.rows := by
  -- Rows found or inserted for the first entries are still there after the others.
  induction input generalizing table rows with
  | nil =>
    cases answered
    exact ⟨nofun, fun _ present => present⟩
  | cons first input inductionHypothesis =>
    obtain ⟨entry, newId⟩ := first
    unfold dictIds at answered
    obtain ⟨⟨id, middle⟩, firstAnswered, answered⟩ := Option.bind_eq_some_iff.mp answered
    obtain ⟨⟨others, finish⟩, othersAnswered, same⟩ := Option.map_eq_some_iff.mp answered
    cases same
    obtain ⟨isStored, kept⟩ := dictId_stored firstAnswered
    obtain ⟨othersStored, keptLater⟩ := inductionHypothesis othersAnswered
    constructor
    · intro row listed
      rcases List.mem_cons.mp listed with rfl | later
      · exact keptLater _ isStored
      · exact othersStored row later
    · intro row present
      exact keptLater row (kept row present)

/-! ## Calls -/

/-- How far a call has come.  `ensure_ids` asks for one value after the other, each as `ensure_id`
does; `ensure_many` first collects what is not cached. -/
inductive DictCall where
  | idle
  | ensuring (semantic : StringSemantic) (values : List String) (ids : List Int)
      (todo : List String)
  | asking (semantic : StringSemantic) (values : List String) (ids : List Int) (value : String)
      (todo : List String)
  | inserting (semantic : StringSemantic) (values : List String) (ids : List Int) (id : Int)
      (value : String) (todo : List String)
  | returned (semantic : StringSemantic) (values : List String) (ids : List Int)
  | collecting (seen missing todo : List DictEntry)
  | resolving (missing : List DictEntry)
  | insertingMany (rows : List DictRow)
  | ended
deriving DecidableEq, Repr

/-- The table, the cache of this process, its calls, and the ids it has put into write payloads
with the semantic it has ensured them for. -/
structure DictServer where
  table : Table DictRow
  cache : CacheState
  calls : Nat → DictCall
  payloads : List (StringSemantic × Int)

inductive DictAction where
  /-- Another process adds a row. -/
  | elsewhere (row : DictRow)
  | ensureId (call : Nat) (semantic : StringSemantic) (value : Option String)
  | ensureIds (call : Nat) (semantic : StringSemantic) (values : List String)
  | getId (call : Nat)
  | dictId (call : Nat) (newId : Int)
  | insertCached (call : Nat)
  | putInPayload (call : Nat)
  | ensureMany (call : Nat) (values : List DictEntry)
  | collect (call : Nat)
  | resolveMany (call : Nat) (input : List (DictEntry × Int))
  | insertCachedMany (call : Nat)
  /-- A statement fails, or the call is cancelled. -/
  | drop (call : Nat)
deriving DecidableEq, Repr

namespace DictServer

/-- The process after `load`. -/
def start (table : Table DictRow) : DictServer where
  table := table
  cache := .refresh table.rows
  calls := fun _ => .idle
  payloads := []

def become (s : DictServer) (call : Nat) (stage : DictCall) : DictServer :=
  { s with calls := Function.update s.calls call stage }

end DictServer

/-- The lookup of the next value. -/
def ensureNext (cache : CacheState) (semantic : StringSemantic) (values : List String)
    (ids : List Int) : List String → DictCall
  | [] => .returned semantic values ids
  | value :: todo =>
    match normalizeValue value with
    | none => .ensuring semantic values ids todo
    | some value =>
      match cache.getId semantic value with
      | some id => .ensuring semantic values (ids ++ [id]) todo
      | none => .asking semantic values ids value todo

/-- One turn of the first loop of `ensure_many`. -/
def collectNext (cache : CacheState) (seen missing : List DictEntry) : List DictEntry → DictCall
  | [] => if missing.isEmpty then .ended else .resolving missing
  | entry :: todo =>
    match normalizeValue entry.value with
    | none => .collecting seen missing todo
    | some value =>
      if ⟨entry.semantic, value⟩ ∈ seen then .collecting seen missing todo
      else if (cache.getId entry.semantic value).isSome then
        .collecting (⟨entry.semantic, value⟩ :: seen) missing todo
      else
        .collecting (⟨entry.semantic, value⟩ :: seen) (missing ++ [⟨entry.semantic, value⟩]) todo

def dictNext (s : DictServer) : DictAction → Option DictServer
  | .elsewhere row => (s.table.insert row).map fun table => { s with table := table }
  | .ensureId call semantic value =>
    match s.calls call with
    | .idle => some (s.become call (.ensuring semantic value.toList [] value.toList))
    | _ => none
  | .ensureIds call semantic values =>
    match s.calls call with
    | .idle => some (s.become call (.ensuring semantic values [] values))
    | _ => none
  | .getId call =>
    match s.calls call with
    | .ensuring semantic values ids todo =>
      some (s.become call (ensureNext s.cache semantic values ids todo))
    | _ => none
  | .dictId call newId =>
    match s.calls call with
    | .asking semantic values ids value todo =>
      match dictId s.table ⟨semantic, value⟩ newId with
      | none => some (s.become call .ended)
      | some (id, table) =>
        some ({ s with table := table }.become call (.inserting semantic values ids id value todo))
    | _ => none
  | .insertCached call =>
    match s.calls call with
    | .inserting semantic values ids id value todo =>
      some ({ s with cache := s.cache.insert ⟨semantic, value⟩ id }.become call
        (.ensuring semantic values (ids ++ [id]) todo))
    | _ => none
  | .putInPayload call =>
    match s.calls call with
    | .returned semantic _ ids =>
      some { s with payloads := s.payloads ++ ids.map fun id => (semantic, id) }
    | _ => none
  | .ensureMany call values =>
    match s.calls call with
    | .idle => some (s.become call (.collecting [] [] values))
    | _ => none
  | .collect call =>
    match s.calls call with
    | .collecting seen missing todo =>
      some (s.become call (collectNext s.cache seen missing todo))
    | _ => none
  | .resolveMany call input =>
    match s.calls call with
    | .resolving missing =>
      if (input.map Prod.fst).Perm (ensureManyInput missing) then
        match dictIds s.table input with
        | none => some (s.become call .ended)
        | some (rows, table) =>
          some ({ s with table := table }.become call (.insertingMany rows))
      else none
    | _ => none
  | .insertCachedMany call =>
    match s.calls call with
    | .insertingMany (row :: rows) =>
      some ({ s with cache := s.cache.insert row.entry row.id }.become call (.insertingMany rows))
    | .insertingMany [] => some (s.become call .ended)
    | _ => none
  | .drop call =>
    match s.calls call with
    | .idle | .returned .. => none
    | _ => some (s.become call .ended)

abbrev DictStep : DictServer → DictAction → DictServer → Prop :=
  Takes dictNext

/-! ## The invariant -/

/-- The values asked for up to here have the ids found, all of them cached. -/
def Ensured (cache : CacheState) (semantic : StringSemantic) (values : List String)
    (ids : List Int) (todo : List String) : Prop :=
  ∃ asked, values = asked ++ todo ∧
    List.Forall₂ (fun value id => cache.byKey ⟨semantic, value⟩ = some id)
      (asked.filterMap normalizeValue) ids

/-- The text a call is busy with is a normalised value. -/
def Busy (cache : CacheState) (semantic : StringSemantic) (values : List String) (ids : List Int)
    (value : String) (todo : List String) : Prop :=
  ∃ raw, normalizeValue raw = some value ∧ Ensured cache semantic values ids (raw :: todo)

/-- What the calls in flight know. -/
def DictCall.Sound (table : Table DictRow) (cache : CacheState) : DictCall → Prop
  | .ensuring semantic values ids todo => Ensured cache semantic values ids todo
  | .asking semantic values ids value todo => Busy cache semantic values ids value todo
  | .inserting semantic values ids id value todo =>
    Busy cache semantic values ids value todo ∧ Stored table ⟨semantic, value⟩ id
  | .returned semantic values ids => Ensured cache semantic values ids []
  | .insertingMany rows => ∀ row ∈ rows, row ∈ table.rows
  | _ => True

/-- The table and the cache only grow. -/
structure Grows (table table' : Table DictRow) (cache cache' : CacheState) : Prop where
  rows : ∀ row ∈ table.rows, row ∈ table'.rows
  cached : ∀ entry id, cache.byKey entry = some id → cache'.byKey entry = some id

section Growth

variable {table table' : Table DictRow} {cache cache' : CacheState} {semantic : StringSemantic}
  {values : List String} {ids : List Int} {todo : List String}

theorem Grows.refl (table : Table DictRow) (cache : CacheState) :
    Grows table table cache cache :=
  ⟨fun _ present => present, fun _ _ cached => cached⟩

theorem Ensured.mono (ensured : Ensured cache semantic values ids todo)
    (grows : Grows table table' cache cache') : Ensured cache' semantic values ids todo := by
  obtain ⟨asked, isValues, found⟩ := ensured
  exact ⟨asked, isValues, found.imp fun value id cached => grows.cached _ id cached⟩

theorem Busy.mono {value : String} (busy : Busy cache semantic values ids value todo)
    (grows : Grows table table' cache cache') : Busy cache' semantic values ids value todo := by
  obtain ⟨raw, isNormalized, ensured⟩ := busy
  exact ⟨raw, isNormalized, ensured.mono grows⟩

theorem DictCall.Sound.mono {call : DictCall} (sound : call.Sound table cache)
    (grows : Grows table table' cache cache') : call.Sound table' cache' := by
  cases call with
  | ensuring | returned => exact Ensured.mono sound grows
  | asking => exact Busy.mono sound grows
  | inserting => exact ⟨Busy.mono sound.1 grows, grows.rows _ sound.2⟩
  | insertingMany rows => exact fun row listed => grows.rows row (sound row listed)
  | idle | collecting | resolving | ended => trivial

theorem Ensured.skip {raw : String} (ensured : Ensured cache semantic values ids (raw :: todo))
    (blank : normalizeValue raw = none) : Ensured cache semantic values ids todo := by
  obtain ⟨asked, isValues, found⟩ := ensured
  refine ⟨asked ++ [raw], by simp [isValues], ?_⟩
  rw [List.filterMap_append]
  simpa [blank] using found

/-- The next value has its id. -/
theorem Busy.answer {value : String} {id : Int} (busy : Busy cache semantic values ids value todo)
    (cached : cache.byKey ⟨semantic, value⟩ = some id) :
    Ensured cache semantic values (ids ++ [id]) todo := by
  obtain ⟨raw, isNormalized, asked, isValues, found⟩ := busy
  refine ⟨asked ++ [raw], by simp [isValues], ?_⟩
  rw [List.filterMap_append]
  have last : [raw].filterMap normalizeValue = [value] := by simp [isNormalized]
  rw [last]
  exact List.rel_append found (.cons cached .nil)

theorem ensureNext_sound (ensured : Ensured cache semantic values ids todo) :
    (ensureNext cache semantic values ids todo).Sound table cache := by
  -- A blank value is passed over, a cached one answered, and any other asked for.
  cases todo with
  | nil => exact ensured
  | cons raw todo =>
    cases isNormalized : normalizeValue raw with
    | none =>
      have next : ensureNext cache semantic values ids (raw :: todo) =
          .ensuring semantic values ids todo := by
        simp only [ensureNext, isNormalized]
      rw [next]
      exact ensured.skip isNormalized
    | some value =>
      have busy : Busy cache semantic values ids value todo := ⟨raw, isNormalized, ensured⟩
      have isLookup := @getId_normalized cache semantic raw value isNormalized
      cases found : cache.byKey ⟨semantic, value⟩ with
      | none =>
        have next : ensureNext cache semantic values ids (raw :: todo) =
            .asking semantic values ids value todo := by
          simp only [ensureNext, isNormalized, isLookup, found]
        rw [next]
        exact busy
      | some id =>
        have next : ensureNext cache semantic values ids (raw :: todo) =
            .ensuring semantic values (ids ++ [id]) todo := by
          simp only [ensureNext, isNormalized, isLookup, found]
        rw [next]
        exact busy.answer found

/-- Collecting needs no invariant: what is missing is looked up in the table. -/
theorem collectNext_sound {seen missing entries : List DictEntry} {call : DictCall}
    (isNext : collectNext cache seen missing entries = call) : call.Sound table cache := by
  unfold collectNext at isNext
  split at isNext
  next => split at isNext <;> subst isNext <;> trivial
  next =>
    split at isNext
    next => subst isNext; trivial
    next =>
      split at isNext
      next => subst isNext; trivial
      next => split at isNext <;> subst isNext <;> trivial

end Growth

/-- The cache is faithful to the table, and what calls hold and payloads contain is cached. -/
structure DictServer.Sound (s : DictServer) : Prop where
  faithful : s.cache.Faithful (Stored s.table)
  calls : ∀ call, (s.calls call).Sound s.table s.cache
  payloads : ∀ item ∈ s.payloads, ∃ value, s.cache.byKey ⟨item.1, value⟩ = some item.2

section Steps

variable {s t : DictServer} {action : DictAction}

theorem DictServer.start_sound (table : Table DictRow) : (DictServer.start table).Sound :=
  ⟨refresh_faithful table, fun _ => trivial, nofun⟩

/-- The table and the cache grow, and one call comes to a stage that is sound afterwards. -/
theorem DictServer.Sound.advance (sound : s.Sound) {table : Table DictRow} {cache : CacheState}
    {call : Nat} {stage : DictCall} (faithful : cache.Faithful (Stored table))
    (grows : Grows s.table table s.cache cache) (isSound : stage.Sound table cache) :
    ({ s with table := table, cache := cache }.become call stage).Sound := by
  constructor
  · exact faithful
  · intro other
    by_cases same : other = call
    · subst same
      simpa [DictServer.become] using isSound
    · simp only [DictServer.become, Function.update_of_ne same]
      exact (sound.calls other).mono grows
  · intro item listed
    obtain ⟨value, cached⟩ := sound.payloads item listed
    exact ⟨value, grows.cached _ _ cached⟩

/-- A step of one call alone. -/
theorem DictServer.Sound.become (sound : s.Sound) {call : Nat} {stage : DictCall}
    (isSound : stage.Sound s.table s.cache) : (s.become call stage).Sound :=
  sound.advance sound.faithful (.refl _ _) isSound

/-- Inserting a stored row into the cache. -/
theorem DictServer.Sound.insertCached (sound : s.Sound) {call : Nat} {stage : DictCall}
    {entry : DictEntry} {id : Int} (stored : Stored s.table entry id)
    (isSound : Grows s.table s.table s.cache (s.cache.insert entry id) →
      stage.Sound s.table (s.cache.insert entry id)) :
    ({ s with cache := s.cache.insert entry id }.become call stage).Sound := by
  have oneToOne := stored_oneToOne s.table
  have grows : Grows s.table s.table s.cache (s.cache.insert entry id) :=
    ⟨fun _ present => present, fun _ _ => sound.faithful.byKey_insert oneToOne stored⟩
  exact sound.advance (sound.faithful.insert oneToOne stored) grows (isSound grows)

/-- Rows are added to the table. -/
theorem DictServer.Sound.grow (sound : s.Sound) {table : Table DictRow} {call : Nat}
    {stage : DictCall} (kept : ∀ row ∈ s.table.rows, row ∈ table.rows)
    (isSound : Grows s.table table s.cache s.cache → stage.Sound table s.cache) :
    ({ s with table := table }.become call stage).Sound := by
  have grows : Grows s.table table s.cache s.cache := ⟨kept, fun _ _ cached => cached⟩
  exact sound.advance (sound.faithful.mono fun _ _ stored => kept _ stored) grows (isSound grows)

theorem DictServer.Sound.step (sound : s.Sound) (taken : DictStep s action t) : t.Sound := by
  cases action with
  -- Another process only adds rows, which this cache need not know.
  | elsewhere row =>
    obtain ⟨table, inserted, rfl⟩ := Option.map_eq_some_iff.mp taken
    have kept : ∀ row ∈ s.table.rows, row ∈ table.rows := by
      intro row present
      rw [Table.insert_rows inserted]
      exact List.mem_append_left _ present
    have grows : Grows s.table table s.cache s.cache := ⟨kept, fun _ _ cached => cached⟩
    exact ⟨sound.faithful.mono fun _ _ stored => kept _ stored,
      fun call => (sound.calls call).mono grows, sound.payloads⟩
  | ensureId call semantic value | ensureIds call semantic value =>
    simp only [DictStep, Takes, dictNext] at taken
    split at taken <;> cases taken
    exact sound.become ⟨[], rfl, .nil⟩
  | ensureMany call values =>
    simp only [DictStep, Takes, dictNext] at taken
    split at taken <;> cases taken
    exact sound.become trivial
  | getId call =>
    simp only [DictStep, Takes, dictNext] at taken
    split at taken <;> cases taken
    next semantic values ids todo ensuring =>
      have ensured := sound.calls call
      rw [ensuring] at ensured
      exact sound.become (ensureNext_sound ensured)
  | dictId call newId =>
    simp only [DictStep, Takes, dictNext] at taken
    split at taken
    next semantic values ids value todo asking =>
      split at taken <;> cases taken
      · exact sound.become trivial
      · next id table answered =>
        have busy := sound.calls call
        rw [asking] at busy
        obtain ⟨stored, kept⟩ := dictId_stored answered
        exact sound.grow kept fun grows => ⟨Busy.mono busy grows, stored⟩
    next => cases taken
  | insertCached call =>
    simp only [DictStep, Takes, dictNext] at taken
    split at taken <;> cases taken
    next semantic values ids id value todo inserting =>
      have held := sound.calls call
      rw [inserting] at held
      -- The id is one the database has answered, however long ago: its row is still there.
      refine sound.insertCached held.2 fun grows => ?_
      exact (Busy.mono held.1 grows).answer (BiMap.byKey_insert_self _ _ _)
  | putInPayload call =>
    simp only [DictStep, Takes, dictNext] at taken
    split at taken <;> cases taken
    next semantic values ids returned =>
      have held := sound.calls call
      rw [returned] at held
      -- A payload gets ids that have been returned, each cached for a value of the semantic.
      obtain ⟨asked, _, found⟩ := held
      refine ⟨sound.faithful, sound.calls, ?_⟩
      intro item listed
      rcases List.mem_append.mp listed with earlier | isNew
      · exact sound.payloads item earlier
      · obtain ⟨id, isId, rfl⟩ := List.mem_map.mp isNew
        obtain ⟨value, _, cached⟩ := exists_of_forall₂ found isId
        exact ⟨value, cached⟩
  | collect call =>
    simp only [DictStep, Takes, dictNext] at taken
    split at taken <;> cases taken
    exact sound.become (collectNext_sound rfl)
  | resolveMany call input =>
    simp only [DictStep, Takes, dictNext] at taken
    split at taken
    next missing _ =>
      split at taken
      next =>
        split at taken <;> cases taken
        · exact sound.become trivial
        · next rows table answered =>
          obtain ⟨stored, kept⟩ := dictIds_stored answered
          exact sound.grow kept fun _ => stored
      next => cases taken
    next => cases taken
  | insertCachedMany call =>
    simp only [DictStep, Takes, dictNext] at taken
    split at taken <;> cases taken
    · next row rows insertingMany =>
      have held := sound.calls call
      rw [insertingMany] at held
      refine sound.insertCached (held row List.mem_cons_self) fun _ => ?_
      exact fun other later => held other (List.mem_cons_of_mem _ later)
    · exact sound.become trivial
  | drop call =>
    simp only [DictStep, Takes, dictNext] at taken
    split at taken <;> cases taken
    exact sound.become trivial

end Steps

theorem resolveString_of_cached {cache : CacheState} {id : Int} {semantic : StringSemantic}
    {value : String} (cached : cache.byId id = some ⟨semantic, value⟩) (field : String) :
    cache.resolveString id semantic field = .ok value := by
  simp [CacheState.resolveString, CacheState.getEntry, cached]

/-- The two maps are inverse to each other and part of the table; the ids that calls have returned
are those of the trimmed values, and every id in a payload is resolved under its semantic. -/
theorem dictionary_cache_faithful {table : Table DictRow} {actions : List DictAction}
    {s : DictServer} (ran : Run DictStep (.start table) actions s) :
    (∀ entry id, s.cache.byKey entry = some id ↔ s.cache.byId id = some entry) ∧
    (∀ entry id, s.cache.byKey entry = some id → ⟨id, entry⟩ ∈ s.table.rows) ∧
    (∀ entry id, s.cache.byId id = some entry → ⟨id, entry⟩ ∈ s.table.rows) ∧
    (∀ call semantic values ids, s.calls call = .returned semantic values ids →
      List.Forall₂ (fun value id => ⟨id, ⟨semantic, value⟩⟩ ∈ s.table.rows)
        (values.filterMap normalizeValue) ids) ∧
    ∀ semantic id, (semantic, id) ∈ s.payloads → ∃ value,
      s.cache.byId id = some ⟨semantic, value⟩ ∧
        ∀ field, s.cache.resolveString id semantic field = .ok value := by
  have sound : s.Sound :=
    ran.invariant (fun _ _ _ sound taken => sound.step taken) (DictServer.start_sound table)
  refine ⟨sound.faithful.inverse, sound.faithful.related, ?_, ?_, ?_⟩
  · intro entry id cached
    exact sound.faithful.related entry id ((sound.faithful.inverse entry id).mpr cached)
  · intro call semantic values ids returned
    have ensured := sound.calls call
    rw [returned] at ensured
    obtain ⟨asked, isValues, found⟩ := ensured
    rw [List.append_nil] at isValues
    subst isValues
    exact found.imp fun value id cached => sound.faithful.related _ id cached
  · intro semantic id listed
    obtain ⟨value, cached⟩ := sound.payloads (semantic, id) listed
    have known := (sound.faithful.inverse _ id).mp cached
    exact ⟨value, known, resolveString_of_cached known⟩

def webOnly : Table DictRow :=
  ⟨[⟨1, ⟨.tweetSource, "web"⟩⟩], List.pairwise_singleton _ _⟩

/-- Another process stores the text while the second call is about to ask for its id. -/
def racingSources : List DictAction :=
  [.ensureId 0 .tweetSource (some " web "), .ensureIds 1 .tweetSource ["phone ", " "], .getId 1,
    .elsewhere ⟨2, ⟨.tweetSource, "phone"⟩⟩, .getId 0, .getId 0, .dictId 1 9, .insertCached 1,
    .getId 1, .getId 1, .putInPayload 0, .putInPayload 1]

theorem dictionary_cache_faithful_racing : ∃ s,
    exec dictNext (.start webOnly) racingSources = some s ∧
      s.calls 0 = .returned .tweetSource [" web "] [1] ∧
      s.calls 1 = .returned .tweetSource ["phone ", " "] [2] ∧
      ∀ semantic id, (semantic, id) ∈ s.payloads → ∃ value,
        s.cache.byId id = some ⟨semantic, value⟩ ∧
          ∀ field, s.cache.resolveString id semantic field = .ok value := by
  refine ⟨_, rfl, rfl, rfl, ?_⟩
  exact (@dictionary_cache_faithful webOnly racingSources _ (run_of_exec rfl)).2.2.2.2

end TweetDb.Submit
