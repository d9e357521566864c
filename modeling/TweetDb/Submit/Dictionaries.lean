import TweetDb.Relational.ConcurrentUpsert
import TweetDb.Relational.Select
import TweetDb.Submit.Convert

/-! # Concurrent dictionary resolution

`tweet.resolve_user_categories`, `tweet.resolve_hashtags` and
`tweet.resolve_symbols`, called any number of times over one table, and beside
them `tweet.dict_id`, whose statements each read a snapshot of their own.
-/

namespace TweetDb.Submit

open Relational Transition

/-- A resolve function: the key of an item, the rows of its `input`, the `ON CONFLICT` action and
the largest id of the table's identity column. -/
structure ResolveFunction (ρ κ γ : Type) where
  key : ρ → κ
  input : List ρ → List (κ × γ)
  action : ConflictAction γ
  maxId : Nat

/-- `btrim(name) = ''`. -/
def isBlank (name : String) : Bool :=
  name.toList.all fun c => c == ' '

/-- `false` sorts before `true`. -/
def boolColumn (value : Bool) : Int :=
  if value then 1 else 0

def resolveUserCategories : ResolveFunction UserCategory Int String where
  key := UserCategory.sourceCategoryCode
  input categories :=
    (distinctOn UserCategory.sourceCategoryCode
      (orderBy (fun item => [item.sourceCategoryCode, boolColumn (isBlank item.name)])
        categories)).map fun item => (item.sourceCategoryCode, item.name)
  action := .doUpdate (fun stored excluded => decide (stored = "" ∧ excluded ≠ ""))
    fun _ excluded => excluded
  maxId := 32767

section Texts

-- The collation of the database.
variable (collate : String → String → Bool)

def resolveHashtags : ResolveFunction Hashtag String Unit where
  key := Hashtag.tag
  input hashtags :=
    (distinctOn Hashtag.tag (hashtags.insertionSort fun a b => collate a.tag b.tag = true)).map
      fun item => (item.tag, ())
  action := .doNothing
  maxId := 2147483647

/-- The columns of `tweet.symbol` beside its key. -/
structure SymbolContent where
  ticker : Option String
  name : Option String
deriving DecidableEq, Repr

/-- `ORDER BY item.symbol, item.ticker IS NULL, item.name IS NULL`. -/
def symbolBefore (a b : Symbol) : Bool :=
  if a.symbol = b.symbol then
    columnsLe [boolColumn a.ticker.isNone, boolColumn a.name.isNone]
      [boolColumn b.ticker.isNone, boolColumn b.name.isNone]
  else collate a.symbol b.symbol

def resolveSymbols : ResolveFunction Symbol String SymbolContent where
  key := Symbol.symbol
  input symbols :=
    (distinctOn Symbol.symbol
      (symbols.insertionSort fun a b => symbolBefore collate a b = true)).map
        fun item => (item.symbol, ⟨item.ticker, item.name⟩)
  action := .doUpdate
    (fun stored excluded => (stored.ticker.isNone && excluded.ticker.isSome) ||
      (stored.name.isNone && excluded.name.isSome))
    fun stored excluded => ⟨stored.ticker.or excluded.ticker, stored.name.or excluded.name⟩
  maxId := 2147483647

end Texts

section Calls

variable {ρ κ γ : Type} [DecidableEq κ]

/-- The steps of the calls of a resolve function, each with its own argument. -/
def ResolveFunction.next (function : ResolveFunction ρ κ γ) (arguments : Nat → List ρ) :
    DictionaryState κ γ → UpsertEvent → Option (DictionaryState κ γ) :=
  upsertNext function.action function.maxId fun call => function.input (arguments call)

/-- Each call that has succeeded returns an id for every key it was given. -/
def ResolveFunction.Complete (function : ResolveFunction ρ κ γ) (arguments : Nat → List ρ)
    (state : DictionaryState κ γ) : Prop :=
  ∀ call answer, state.calls call = .done answer →
    ∀ item ∈ arguments call, ∃ id, (function.key item, id) ∈ answer

/-- Calls that have succeeded return one id for one key. -/
def Agree (state : DictionaryState κ γ) : Prop :=
  ∀ first second firstAnswer secondAnswer, state.calls first = .done firstAnswer →
    state.calls second = .done secondAnswer → ∀ key firstId secondId,
      (key, firstId) ∈ firstAnswer → (key, secondId) ∈ secondAnswer → firstId = secondId

/-- In every run the calls agree; they are complete in every run whose proposed rows are visible
to the call that proposes them. -/
structure ResolveFunction.Resolves (function : ResolveFunction ρ κ γ) : Prop where
  agree : ∀ committed nextId arguments events state,
    Run (Takes (function.next arguments)) (.initial committed nextId) events state → Agree state
  complete : ∀ committed nextId arguments events state,
    Run (Restrict (Takes (function.next arguments)) (Visible function.action))
      (.initial committed nextId) events state → function.Complete arguments state

theorem resolves_of_keeps {function : ResolveFunction ρ κ γ}
    (keeps : ∀ items, ∀ item ∈ items, ∃ row ∈ function.input items, row.1 = function.key item) :
    function.Resolves := by
  constructor
  · intro committed nextId arguments events state run first second
      firstAnswer secondAnswer firstDone secondDone key firstId secondId
    exact answers_agree run firstDone secondDone
  · intro committed nextId arguments events state run call answer isDone item given
    obtain ⟨row, inInput, sameKey⟩ := keeps (arguments call) item given
    obtain ⟨id, answered⟩ := answers_complete run isDone inInput
    exact ⟨id, sameKey ▸ answered⟩

/-- The input has a row for every key of the argument. -/
theorem exists_input_row {items sorted : List ρ} (key : ρ → κ) (content : ρ → γ)
    (sameItems : ∀ item, item ∈ sorted ↔ item ∈ items) {item : ρ} (given : item ∈ items) :
    ∃ row ∈ (distinctOn key sorted).map fun item => (key item, content item),
      row.1 = key item := by
  have sortedItem : item ∈ sorted := (sameItems item).mpr given
  obtain ⟨kept, member, sameKey⟩ : ∃ kept ∈ distinctOn key sorted, key kept = key item :=
    exists_mem_distinctOn sortedItem
  exact ⟨(key kept, content kept), List.mem_map_of_mem member, sameKey⟩

end Calls

/-- Calls of each of the three functions agree about every id, and are complete wherever a
proposed key is in the snapshot, is not stored, or has its row changed. -/
theorem resolve_functions_complete (collate : String → String → Bool) :
    resolveUserCategories.Resolves ∧ (resolveHashtags collate).Resolves ∧
      (resolveSymbols collate).Resolves := by
  refine ⟨resolves_of_keeps ?_, resolves_of_keeps ?_, resolves_of_keeps ?_⟩
  · intro items item given
    exact exists_input_row UserCategory.sourceCategoryCode UserCategory.name
      (fun _ => mem_orderBy) given
  · intro items item given
    exact exists_input_row Hashtag.tag (fun _ => ()) (fun _ => List.mem_insertionSort _) given
  · intro items item given
    exact exists_input_row Symbol.symbol (fun item => SymbolContent.mk item.ticker item.name)
      (fun _ => List.mem_insertionSort _) given

/-- Both calls start before either key is stored; the second one proposes its row after the first
has committed. -/
def overlapping : List UpsertEvent :=
  [.start 0, .start 1, .propose 0, .commit 0, .propose 1, .commit 1]

theorem not_complete_of_empty {ρ κ γ : Type} {function : ResolveFunction ρ κ γ}
    {arguments : Nat → List ρ} {state : DictionaryState κ γ} (call : Nat) {item : ρ}
    (isDone : state.calls call = .done []) (given : item ∈ arguments call) :
    ¬ function.Complete arguments state := by
  intro complete
  obtain ⟨id, answered⟩ := complete call [] isDone item given
  cases answered

def byLength (a b : String) : Bool :=
  decide (a.length ≤ b.length)

/-- The second call meets a row that its snapshot does not have and that it does not change. -/
theorem second_resolve_misses_key :
    (∃ state, exec ((resolveHashtags byLength).next fun _ => [⟨"lean"⟩])
        (.initial (fun _ => none) 1) overlapping = some state ∧
      state.calls 0 = .done [("lean", 1)] ∧
      ¬ (resolveHashtags byLength).Complete (fun _ => [⟨"lean"⟩]) state) ∧
    (∃ state, exec ((resolveSymbols byLength).next fun _ => [⟨"LEAN", some "L", none⟩])
        (.initial (fun _ => none) 1) overlapping = some state ∧
      state.calls 0 = .done [("LEAN", 1)] ∧
      ¬ (resolveSymbols byLength).Complete (fun _ => [⟨"LEAN", some "L", none⟩]) state) ∧
    ∃ state, exec (resolveUserCategories.next fun _ => [⟨7, "Sports"⟩])
        (.initial (fun _ => none) 1) overlapping = some state ∧
      state.calls 0 = .done [(7, 1)] ∧
      ¬ resolveUserCategories.Complete (fun _ => [⟨7, "Sports"⟩]) state := by
  refine ⟨⟨_, rfl, rfl, ?_⟩, ⟨_, rfl, rfl, ?_⟩, _, rfl, rfl, ?_⟩
  · exact not_complete_of_empty 1 rfl List.mem_cons_self
  · exact not_complete_of_empty 1 rfl List.mem_cons_self
  · exact not_complete_of_empty 1 rfl List.mem_cons_self

def namedSecond (call : Nat) : List UserCategory :=
  [⟨7, if call = 0 then "" else "Sports"⟩]

/-- A second call that has a name where the first had none changes the row and so gets its id. -/
theorem resolve_functions_complete_naming : ∃ state,
    exec (resolveUserCategories.next namedSecond) (.initial (fun _ => none) 1) overlapping =
        some state ∧
      state.calls 1 = .done [(7, 1)] ∧ resolveUserCategories.Complete namedSecond state := by
  refine ⟨_, rfl, rfl, ?_⟩
  apply (resolve_functions_complete byLength).1.complete (fun _ => none) 1 namedSecond overlapping
  refine .cons ⟨trivial, rfl⟩ (.cons ⟨trivial, rfl⟩ (.cons ⟨?_, rfl⟩ (.cons ⟨trivial, rfl⟩
    (.cons ⟨?_, rfl⟩ (.cons ⟨trivial, rfl⟩ .nil)))))
  · intro attempt key excluded rest running todo
    exact .inr nofun
  · intro attempt key excluded rest running todo
    cases running
    cases todo
    refine .inr fun entry stored => ?_
    cases stored
    rfl

/-! ## `tweet.dict_id` -/

/-- How far a call for one semantic and value has come: its first `SELECT` found nothing, its
`INSERT` met a conflict, or it is about to return. -/
inductive DictIdCall where
  | begun
  | missed
  | conflicted
  | answering (id : Option Nat)
  | returned (id : Option Nat)
  | failed
deriving DecidableEq, Repr

/-- The committed id of the value, and the call that has inserted it and not ended. -/
structure DictIdState where
  stored : Option Nat
  nextId : Nat
  inserted : Option (Nat × Nat)
  calls : Nat → DictIdCall

inductive DictIdEvent where
  | select (call : Nat)
  | insert (call : Nat)
  | reselect (call : Nat)
  | commit (call : Nat)
  | fail (call : Nat)
deriving DecidableEq, Repr

def DictIdState.becomes (state : DictIdState) (call : Nat) (now : DictIdCall) : DictIdState :=
  { state with calls := Function.update state.calls call now }

/-- The id that the call has inserted. -/
def DictIdState.own (state : DictIdState) (call : Nat) : Option Nat :=
  (state.inserted.filter fun row => row.1 == call).map Prod.snd

def DictIdState.release (state : DictIdState) (call : Nat) : Option (Nat × Nat) :=
  state.inserted.filter fun row => row.1 != call

/-- `INSERT` waits while another call has inserted the value. -/
def dictIdNext (state : DictIdState) : DictIdEvent → Option DictIdState
  | .select call =>
    match state.calls call with
    | .begun => some (state.becomes call
        (if state.stored.isSome then .answering state.stored else .missed))
    | _ => none
  | .insert call =>
    match state.calls call, state.inserted, state.stored with
    | .missed, none, none =>
      some ({ state with
        nextId := state.nextId + 1
        inserted := some (call, state.nextId) }.becomes call (.answering (some state.nextId)))
    | .missed, none, some _ =>
      some ({ state with nextId := state.nextId + 1 }.becomes call .conflicted)
    | _, _, _ => none
  | .reselect call =>
    match state.calls call with
    | .conflicted => some (state.becomes call (.answering state.stored))
    | _ => none
  | .commit call =>
    match state.calls call with
    | .answering id =>
      some ({ state with
        stored := (state.own call).or state.stored
        inserted := state.release call }.becomes call (.returned id))
    | _ => none
  | .fail call =>
    match state.calls call with
    | .returned _ | .failed => none
    | _ => some ({ state with inserted := state.release call }.becomes call .failed)

/-- A value is inserted only while it is not stored, by the call about to return its id; every
answer is the stored id or the one just inserted. -/
structure DictIdState.Sound (state : DictIdState) : Prop where
  inserted : ∀ call id, state.inserted = some (call, id) →
    state.stored = none ∧ state.calls call = .answering (some id)
  conflicted : ∀ call, state.calls call = .conflicted → state.stored ≠ none
  answering : ∀ call id, state.calls call = .answering id →
    ∃ id', id = some id' ∧ (state.stored = some id' ∨ state.inserted = some (call, id'))
  returned : ∀ call id, state.calls call = .returned id → id ≠ none ∧ state.stored = id

section DictId

variable {state state' : DictIdState} {event : DictIdEvent}

def DictIdState.initial (stored : Option Nat) (nextId : Nat) : DictIdState :=
  ⟨stored, nextId, none, fun _ => .begun⟩

theorem dictId_initial (stored : Option Nat) (nextId : Nat) :
    (DictIdState.initial stored nextId).Sound := by
  constructor <;> simp [DictIdState.initial]

theorem calls_becomes {call other : Nat} {now seen : DictIdCall}
    (isSeen : (state.becomes call now).calls other = seen) :
    (other = call ∧ now = seen) ∨ (other ≠ call ∧ state.calls other = seen) := by
  by_cases same : other = call
  · subst same
    exact .inl ⟨rfl, by simpa [DictIdState.becomes] using isSeen⟩
  · exact .inr ⟨same, by simpa [DictIdState.becomes, same] using isSeen⟩

namespace DictIdState.Sound

/-- A call that has inserted nothing reads the stored id, or learns of a conflict with it. -/
theorem becomes {call : Nat} {now : DictIdCall} (sound : state.Sound) (nextId : Nat)
    (noAnswer : ∀ id, state.calls call ≠ .answering id)
    (conflicted : now = .conflicted → state.stored ≠ none)
    (answering : ∀ id, now = .answering id → id ≠ none ∧ state.stored = id)
    (notReturned : ∀ id, now ≠ .returned id) :
    ({ state with nextId := nextId }.becomes call now).Sound := by
  constructor
  · intro other id isInserted
    obtain ⟨notStored, isAnswering⟩ := sound.inserted other id isInserted
    have different : other ≠ call := by
      intro same
      rw [same] at isAnswering
      exact noAnswer _ isAnswering
    exact ⟨notStored, by simpa [DictIdState.becomes, different] using isAnswering⟩
  · intro other isConflicted
    obtain ⟨_, isNow⟩ | ⟨_, before⟩ := calls_becomes isConflicted
    · exact conflicted isNow
    · exact sound.conflicted other before
  · intro other id isAnswering
    obtain ⟨_, isNow⟩ | ⟨_, before⟩ := calls_becomes isAnswering
    · obtain ⟨isSome, isStored⟩ := answering id isNow
      obtain ⟨id', rfl⟩ := Option.ne_none_iff_exists'.mp isSome
      exact ⟨id', rfl, .inl isStored⟩
    · exact sound.answering other id before
  · intro other id isReturned
    obtain ⟨_, isNow⟩ | ⟨_, before⟩ := calls_becomes isReturned
    · exact absurd isNow (notReturned id)
    · exact sound.returned other id before

theorem insert {call : Nat} (sound : state.Sound) (free : state.inserted = none)
    (notStored : state.stored = none) :
    ({ state with
      nextId := state.nextId + 1
      inserted := some (call, state.nextId) }.becomes call
        (.answering (some state.nextId))).Sound := by
  constructor
  · intro other id isInserted
    cases isInserted
    exact ⟨notStored, by simp [DictIdState.becomes]⟩
  · intro other isConflicted
    obtain ⟨_, isNow⟩ | ⟨_, before⟩ := calls_becomes isConflicted
    · cases isNow
    · exact sound.conflicted other before
  · intro other id isAnswering
    obtain ⟨rfl, isNow⟩ | ⟨_, before⟩ := calls_becomes isAnswering
    · cases isNow
      exact ⟨_, rfl, .inr rfl⟩
    · -- Nobody else can be answering: the value is neither stored nor inserted.
      obtain ⟨id', _, isStored | isInserted⟩ := sound.answering other id before
      · rw [notStored] at isStored
        cases isStored
      · rw [free] at isInserted
        cases isInserted
  · intro other id isReturned
    obtain ⟨_, isNow⟩ | ⟨_, before⟩ := calls_becomes isReturned
    · cases isNow
    · exact sound.returned other id before

/-- A commit stores what the call answers, unless it is stored already. -/
theorem stored_commit {call : Nat} {id : Option Nat} (sound : state.Sound)
    (isAnswering : state.calls call = .answering id) :
    id ≠ none ∧ (state.own call).or state.stored = id ∧ state.release call = none ∧
      (state.stored ≠ none → state.stored = id) := by
  obtain ⟨id', rfl, isStored | isInserted⟩ := sound.answering call id isAnswering
  · have free : state.inserted = none := by
      by_contra isInserted
      obtain ⟨⟨other, inserted⟩, isInserted⟩ := Option.ne_none_iff_exists'.mp isInserted
      have notStored := (sound.inserted other inserted isInserted).1
      rw [isStored] at notStored
      cases notStored
    simp [own, release, free, isStored]
  · have notStored := (sound.inserted call id' isInserted).1
    simp [own, release, isInserted, notStored]

theorem commit {call : Nat} {id : Option Nat} (sound : state.Sound)
    (isAnswering : state.calls call = .answering id) :
    ({ state with
      stored := (state.own call).or state.stored
      inserted := state.release call }.becomes call (.returned id)).Sound := by
  obtain ⟨isSome, isStored, isFree, kept⟩ := sound.stored_commit isAnswering
  rw [isStored, isFree]
  constructor
  · nofun
  · intro _ _
    exact isSome
  · intro other id' otherAnswering
    obtain ⟨_, isNow⟩ | ⟨different, before⟩ := calls_becomes otherAnswering
    · cases isNow
    · obtain ⟨other', isId, stored' | inserted'⟩ := sound.answering other id' before
      · have sameId := kept (by simp [stored'])
        exact ⟨other', isId, .inl (sameId.symm.trans stored')⟩
      · -- Only the committing call can have inserted the value.
        have holder := sound.answering call id isAnswering
        obtain ⟨own, _, ownStored | ownInserted⟩ := holder
        · have notStored := (sound.inserted other other' inserted').1
          rw [ownStored] at notStored
          cases notStored
        · rw [inserted'] at ownInserted
          cases ownInserted
          exact absurd rfl different
  · intro other id' isReturned
    obtain ⟨_, isNow⟩ | ⟨_, before⟩ := calls_becomes isReturned
    · cases isNow
      exact ⟨isSome, rfl⟩
    · obtain ⟨isSome', stored'⟩ := sound.returned other id' before
      exact ⟨isSome', (kept (by rw [stored']; exact isSome')).symm.trans stored'⟩

theorem fail {call : Nat} (sound : state.Sound) :
    ({ state with inserted := state.release call }.becomes call .failed).Sound := by
  constructor
  · intro other id isInserted
    obtain ⟨before, different⟩ := Option.filter_eq_some_iff.mp isInserted
    obtain ⟨notStored, isAnswering⟩ := sound.inserted other id before
    have notCall : other ≠ call := by simpa using different
    exact ⟨notStored, by simpa [DictIdState.becomes, notCall] using isAnswering⟩
  · intro other isConflicted
    obtain ⟨_, isNow⟩ | ⟨_, before⟩ := calls_becomes isConflicted
    · cases isNow
    · exact sound.conflicted other before
  · intro other id isAnswering
    obtain ⟨_, isNow⟩ | ⟨different, before⟩ := calls_becomes isAnswering
    · cases isNow
    · obtain ⟨id', isId, isStored | isInserted⟩ := sound.answering other id before
      · exact ⟨id', isId, .inl isStored⟩
      · exact ⟨id', isId, .inr (by simp [DictIdState.becomes, release, isInserted, different])⟩
  · intro other id isReturned
    obtain ⟨_, isNow⟩ | ⟨_, before⟩ := calls_becomes isReturned
    · cases isNow
    · exact sound.returned other id before

theorem step (sound : state.Sound) (taken : dictIdNext state event = some state') :
    state'.Sound := by
  cases event with
  | select call =>
    simp only [dictIdNext] at taken
    split at taken
    next begun =>
      cases taken
      refine sound.becomes state.nextId (by simp [begun]) ?_ ?_ ?_
      · split <;> nofun
      · intro id isNow
        split at isNow
        next isSome =>
          cases isNow
          exact ⟨Option.isSome_iff_ne_none.mp isSome, rfl⟩
        next => cases isNow
      · intro id
        split <;> nofun
    next => cases taken
  | insert call =>
    simp only [dictIdNext] at taken
    split at taken
    next missed free notStored =>
      cases taken
      exact sound.insert free notStored
    next id missed free isStored =>
      cases taken
      exact sound.becomes _ (by simp [missed]) (fun _ => by simp [isStored]) nofun nofun
    next => cases taken
  | reselect call =>
    simp only [dictIdNext] at taken
    split at taken
    next isConflicted =>
      cases taken
      refine sound.becomes state.nextId (by simp [isConflicted]) nofun ?_ nofun
      intro id isNow
      cases isNow
      exact ⟨sound.conflicted call isConflicted, rfl⟩
    next => cases taken
  | commit call =>
    simp only [dictIdNext] at taken
    split at taken
    next id isAnswering =>
      cases taken
      exact sound.commit isAnswering
    next => cases taken
  | fail call =>
    simp only [dictIdNext] at taken
    split at taken
    next => cases taken
    next => cases taken
    next =>
      cases taken
      exact sound.fail

end DictIdState.Sound

/-- Every call of `dict_id` that returns has the stored id, in every interleaving. -/
theorem dictId_returns_stored {stored : Option Nat} {nextId : Nat} {events : List DictIdEvent}
    (run : Run (Takes dictIdNext) (.initial stored nextId) events state) {call : Nat}
    {id : Option Nat} (isReturned : state.calls call = .returned id) :
    id ≠ none ∧ state.stored = id := by
  have sound : state.Sound :=
    run.invariant (fun _ _ _ before taken => before.step taken) (dictId_initial _ _)
  exact sound.returned call id isReturned

end DictId

end TweetDb.Submit
