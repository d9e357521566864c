import Mathlib.Data.List.Dedup
import Mathlib.Logic.Function.Basic
import TweetDb.Transition.Run

/-! # Concurrent upserts of a dictionary

Any number of calls of one statement of the form

  INSERT … SELECT … FROM input ON CONFLICT (key) DO … RETURNING key, id
  UNION SELECT key, id FROM dictionary JOIN input USING (key)

under READ COMMITTED.  The statement reads the dictionary in the snapshot taken
when it starts; a proposed row meets what is committed when it is proposed, and
waits while another call holds its key.
-/

namespace Relational

open Transition

universe u v

variable {κ : Type u} {γ : Type v}

/-- A row of the dictionary beside its key. -/
structure Entry (γ : Type v) where
  id : Nat
  content : γ
deriving DecidableEq, Repr

inductive ConflictAction (γ : Type v) where
  | doNothing
  | doUpdate (condition : γ → γ → Bool) (set : γ → γ → γ)

/-- Whether a proposed row changes the stored one; the second argument is `EXCLUDED`. -/
def ConflictAction.fires : ConflictAction γ → γ → γ → Bool
  | .doNothing, _, _ => false
  | .doUpdate condition _, stored, excluded => condition stored excluded

/-- `DO UPDATE` locks the stored row also where its `WHERE` is false. -/
def ConflictAction.locks : ConflictAction γ → Bool
  | .doNothing => false
  | .doUpdate _ _ => true

/-- The row that `RETURNING` sees, if any. -/
def ConflictAction.proposed (action : ConflictAction γ) (stored : Option (Entry γ)) (id : Nat)
    (excluded : γ) : Option (Entry γ) :=
  match stored, action with
  | none, _ => some ⟨id, excluded⟩
  | some _, .doNothing => none
  | some stored, .doUpdate condition set =>
    if condition stored.content excluded then some ⟨stored.id, set stored.content excluded⟩
    else none

/-- A statement under way: its snapshot, the input rows not yet proposed, and the rows it has
inserted or updated. -/
structure Attempt (κ : Type u) (γ : Type v) where
  snapshot : κ → Option (Entry γ)
  todo : List (κ × γ)
  written : κ → Option (Entry γ)

inductive UpsertCall (κ : Type u) (γ : Type v) where
  | idle
  | running (attempt : Attempt κ γ)
  | done (answer : List (κ × Nat))
  | failed

/-- `holder` is the call that has the key locked. -/
structure DictionaryState (κ : Type u) (γ : Type v) where
  committed : κ → Option (Entry γ)
  nextId : Nat
  holder : κ → Option Nat
  calls : Nat → UpsertCall κ γ

inductive UpsertEvent where
  | start (call : Nat)
  | propose (call : Nat)
  | commit (call : Nat)
  | fail (call : Nat)
deriving DecidableEq, Repr

/-- The id under which a key is stored for all. -/
def DictionaryState.storedId (state : DictionaryState κ γ) (key : κ) : Option Nat :=
  (state.committed key).map Entry.id

/-- The ids a list of keys has among the given rows. -/
def idsAmong (rows : κ → Option (Entry γ)) (input : List (κ × γ)) : List (κ × Nat) :=
  input.filterMap fun row => (rows row.1).map fun entry => (row.1, entry.id)

def DictionaryState.release (state : DictionaryState κ γ) (call : Nat) (key : κ) : Option Nat :=
  if state.holder key = some call then none else state.holder key

variable [DecidableEq κ]

def Attempt.answer (attempt : Attempt κ γ) (input : List (κ × γ)) : List (κ × Nat) :=
  (idsAmong attempt.written input ++ idsAmong attempt.snapshot input).dedup

def DictionaryState.start (state : DictionaryState κ γ) (input : List (κ × γ)) (call : Nat) :
    DictionaryState κ γ :=
  { state with
    calls := Function.update state.calls call (.running ⟨state.committed, input, fun _ => none⟩) }

def DictionaryState.propose (action : ConflictAction γ) (state : DictionaryState κ γ) (call : Nat)
    (attempt : Attempt κ γ) (key : κ) (excluded : γ) (rest : List (κ × γ)) :
    DictionaryState κ γ :=
  { state with
    nextId := state.nextId + 1
    holder := if action.locks || (state.committed key).isNone then
        Function.update state.holder key (some call)
      else state.holder
    calls := Function.update state.calls call (.running
      { attempt with
        todo := rest
        written := Function.update attempt.written key
          (action.proposed (state.committed key) state.nextId excluded) }) }

def DictionaryState.commit (state : DictionaryState κ γ) (input : List (κ × γ)) (call : Nat)
    (attempt : Attempt κ γ) : DictionaryState κ γ :=
  { state with
    committed := fun key => (attempt.written key).or (state.committed key)
    holder := state.release call
    calls := Function.update state.calls call (.done (attempt.answer input)) }

def DictionaryState.fail (state : DictionaryState κ γ) (call : Nat) : DictionaryState κ γ :=
  { state with
    holder := state.release call
    calls := Function.update state.calls call .failed }

/-- A proposed row takes an id from the sequence, whether it is stored or not. -/
def upsertNext (action : ConflictAction γ) (maxId : Nat) (input : Nat → List (κ × γ))
    (state : DictionaryState κ γ) : UpsertEvent → Option (DictionaryState κ γ)
  | .start call =>
    match state.calls call with
    | .idle => some (state.start (input call) call)
    | _ => none
  | .propose call =>
    match state.calls call with
    | .running attempt =>
      match attempt.todo with
      | [] => none
      | (key, excluded) :: rest =>
        if state.holder key = none ∧ state.nextId ≤ maxId then
          some (state.propose action call attempt key excluded rest)
        else none
    | _ => none
  | .commit call =>
    match state.calls call with
    | .running attempt =>
      if attempt.todo.isEmpty then some (state.commit (input call) call attempt) else none
    | _ => none
  | .fail call =>
    match state.calls call with
    | .running _ => some (state.fail call)
    | _ => none

/-- Nothing has been called yet. -/
def DictionaryState.initial (committed : κ → Option (Entry γ)) (nextId : Nat) :
    DictionaryState κ γ :=
  ⟨committed, nextId, fun _ => none, fun _ => .idle⟩

section Answers

omit [DecidableEq κ] in
theorem mem_idsAmong {rows : κ → Option (Entry γ)} {input : List (κ × γ)} {key : κ} {id : Nat} :
    (key, id) ∈ idsAmong rows input ↔
      key ∈ input.map Prod.fst ∧ ∃ entry, rows key = some entry ∧ entry.id = id := by
  simp only [idsAmong, List.mem_filterMap, Option.map_eq_some_iff, Prod.mk.injEq, List.mem_map]
  constructor
  · intro ⟨row, member, entry, found, sameKey, sameId⟩
    subst sameKey
    exact ⟨⟨row, member, rfl⟩, entry, found, sameId⟩
  · intro ⟨⟨row, member, sameKey⟩, entry, found, sameId⟩
    subst sameKey
    exact ⟨row, member, entry, found, rfl, sameId⟩

theorem Attempt.mem_answer {attempt : Attempt κ γ} {input : List (κ × γ)} {key : κ} {id : Nat} :
    (key, id) ∈ attempt.answer input ↔ key ∈ input.map Prod.fst ∧
      ∃ entry, (attempt.written key = some entry ∨ attempt.snapshot key = some entry) ∧
        entry.id = id := by
  simp only [answer, List.mem_dedup, List.mem_append, mem_idsAmong]
  constructor
  · rintro (⟨given, entry, written, sameId⟩ | ⟨given, entry, seen, sameId⟩)
    · exact ⟨given, entry, .inl written, sameId⟩
    · exact ⟨given, entry, .inr seen, sameId⟩
  · rintro ⟨given, entry, written | seen, sameId⟩
    · exact .inl ⟨given, entry, written, sameId⟩
    · exact .inr ⟨given, entry, seen, sameId⟩

theorem ConflictAction.proposed_none {action : ConflictAction γ} {stored : Option (Entry γ)}
    {id : Nat} {excluded : γ} (skipped : action.proposed stored id excluded = none) :
    ∃ entry, stored = some entry ∧ action.fires entry.content excluded = false := by
  cases stored with
  | none => cases skipped
  | some entry =>
    refine ⟨entry, rfl, ?_⟩
    cases action with
    | doNothing => rfl
    | doUpdate condition set =>
      simp only [proposed, ite_eq_right_iff, reduceCtorEq, imp_false] at skipped
      simpa [fires] using skipped

/-- An update keeps the id. -/
theorem ConflictAction.proposed_id {action : ConflictAction γ} {entry proposal : Entry γ}
    {id : Nat} {excluded : γ} (fired : action.proposed (some entry) id excluded = some proposal) :
    action.locks = true ∧ proposal.id = entry.id := by
  cases action with
  | doNothing => cases fired
  | doUpdate condition set =>
    simp only [proposed, Option.ite_none_right_eq_some, Option.some.injEq] at fired
    exact ⟨rfl, by rw [← fired.2]⟩

end Answers

/-! ## What each event does -/

section Steps

variable {action : ConflictAction γ} {maxId : Nat} {input : Nat → List (κ × γ)}
  {state state' : DictionaryState κ γ} {event : UpsertEvent}

/-- Everything a step can be. -/
theorem upsertNext_cases (taken : upsertNext action maxId input state event = some state') :
    (∃ call, event = .start call ∧ state.calls call = .idle ∧
      state' = state.start (input call) call) ∨
    (∃ call attempt key excluded rest, event = .propose call ∧
      state.calls call = .running attempt ∧ attempt.todo = (key, excluded) :: rest ∧
      state.holder key = none ∧ state' = state.propose action call attempt key excluded rest) ∨
    (∃ call attempt, event = .commit call ∧ state.calls call = .running attempt ∧
      attempt.todo = [] ∧ state' = state.commit (input call) call attempt) ∨
    ∃ call attempt, event = .fail call ∧ state.calls call = .running attempt ∧
      state' = state.fail call := by
  cases event with
  | start call =>
    simp only [upsertNext] at taken
    split at taken
    next idle =>
      cases taken
      exact .inl ⟨call, rfl, idle, rfl⟩
    next => cases taken
  | propose call =>
    simp only [upsertNext] at taken
    split at taken
    next attempt running =>
      split at taken
      next => cases taken
      next key excluded rest todo =>
        simp only [Option.ite_none_right_eq_some, Option.some.injEq] at taken
        obtain ⟨⟨free, _⟩, rfl⟩ := taken
        exact .inr (.inl ⟨call, attempt, key, excluded, rest, rfl, running, todo, free, rfl⟩)
    next => cases taken
  | commit call =>
    simp only [upsertNext] at taken
    split at taken
    next attempt running =>
      simp only [Option.ite_none_right_eq_some, Option.some.injEq, List.isEmpty_iff] at taken
      obtain ⟨finished, rfl⟩ := taken
      exact .inr (.inr (.inl ⟨call, attempt, rfl, running, finished, rfl⟩))
    next => cases taken
  | fail call =>
    simp only [upsertNext] at taken
    split at taken
    next attempt running =>
      cases taken
      exact .inr (.inr (.inr ⟨call, attempt, rfl, running, rfl⟩))
    next => cases taken

end Steps

/-! ## Every answer names the stored id -/

/-- The call holds what it has written, and under the id the key has for all, if it has one; what
it has seen is stored under that id. -/
structure Attempt.Coherent (attempt : Attempt κ γ) (state : DictionaryState κ γ) (call : Nat) :
    Prop where
  held : ∀ key entry, attempt.written key = some entry → state.holder key = some call
  written : ∀ key entry, attempt.written key = some entry →
    ∀ id, state.storedId key = some id → entry.id = id
  seen : ∀ key entry, attempt.snapshot key = some entry → state.storedId key = some entry.id

def UpsertCall.Coherent (state : DictionaryState κ γ) (call : Nat) : UpsertCall κ γ → Prop
  | .running attempt => attempt.Coherent state call
  | .done answer => ∀ key id, (key, id) ∈ answer → state.storedId key = some id
  | .idle | .failed => True

def DictionaryState.Coherent (state : DictionaryState κ γ) : Prop :=
  ∀ call, (state.calls call).Coherent state call

section Coherence

variable {action : ConflictAction γ} {maxId : Nat} {input : Nat → List (κ × γ)}
  {state state' : DictionaryState κ γ} {event : UpsertEvent}

omit [DecidableEq κ] in
theorem coherent_initial (committed : κ → Option (Entry γ)) (nextId : Nat) :
    (DictionaryState.initial committed nextId).Coherent :=
  fun _ => trivial

omit [DecidableEq κ] in
/-- What a call may rely on: stored ids stay, and its locks keep others from its keys. -/
theorem UpsertCall.Coherent.transfer {call : Nat} {upsertCall : UpsertCall κ γ}
    (coherent : upsertCall.Coherent state call)
    (stays : ∀ key id, state.storedId key = some id → state'.storedId key = some id)
    (kept : ∀ key, state.holder key = some call → state'.holder key = some call)
    (protected_ : ∀ key, state.holder key = some call →
      state'.storedId key = state.storedId key) :
    upsertCall.Coherent state' call := by
  cases upsertCall with
  | idle => trivial
  | failed => trivial
  | done answer =>
    intro key id member
    exact stays key id (coherent key id member)
  | running attempt =>
    refine ⟨fun key entry isWritten => ?_, fun key entry isWritten id stored => ?_,
      fun key entry isSeen => ?_⟩
    · exact kept key (coherent.held key entry isWritten)
    · rw [protected_ key (coherent.held key entry isWritten)] at stored
      exact coherent.written key entry isWritten id stored
    · exact stays key entry.id (coherent.seen key entry isSeen)

omit [DecidableEq κ] in
theorem DictionaryState.release_of_ne {call other : Nat} {key : κ} (different : other ≠ call)
    (held : state.holder key = some other) : state.release call key = some other := by
  simp [release, held, different]

namespace DictionaryState.Coherent

omit [DecidableEq κ] in
theorem start {call : Nat} {rows : List (κ × γ)} (coherent : state.Coherent) :
    (state.start rows call).Coherent := by
  intro other
  by_cases same : other = call
  · subst same
    simp only [DictionaryState.start, Function.update_self]
    refine ⟨nofun, nofun, fun key entry isSeen => ?_⟩
    replace isSeen : state.committed key = some entry := isSeen
    simp [storedId, isSeen]
  · simp only [DictionaryState.start, Function.update_of_ne same]
    exact (coherent other).transfer (fun _ _ stored => stored) (fun _ held => held) fun _ _ => rfl

theorem propose {call : Nat} {attempt : Attempt κ γ} {key : κ} {excluded : γ}
    {rest : List (κ × γ)} (coherent : state.Coherent)
    (running : state.calls call = .running attempt) (free : state.holder key = none) :
    (state.propose action call attempt key excluded rest).Coherent := by
  -- A lock that was there is still there: the key was free.
  have kept : ∀ key' holder, state.holder key' = some holder →
      (state.propose action call attempt key excluded rest).holder key' = some holder := by
    intro key' holder held
    have different : key' ≠ key := by
      intro same
      rw [same, free] at held
      cases held
    simp only [DictionaryState.propose]
    split <;> simp [different, held]
  intro other
  by_cases same : other = call
  · subst same
    have ofCall := coherent other
    rw [running] at ofCall
    simp only [DictionaryState.propose, Function.update_self]
    refine ⟨fun key' entry isWritten => ?_, fun key' entry isWritten id stored => ?_,
      fun key' entry isSeen => ofCall.seen key' entry isSeen⟩
    · by_cases this : key' = key
      · subst this
        simp only [Function.update_self] at isWritten
        have locked : (action.locks || (state.committed key').isNone) = true := by
          cases found : state.committed key' with
          | none => simp
          | some stored =>
            rw [found] at isWritten
            simp [(ConflictAction.proposed_id isWritten).1]
        simp [locked]
      · simp only [Function.update_of_ne this] at isWritten
        exact kept key' other (ofCall.held key' entry isWritten)
    · by_cases this : key' = key
      · subst this
        simp only [Function.update_self] at isWritten
        obtain ⟨found, committed, sameId⟩ := Option.map_eq_some_iff.mp stored
        replace committed : state.committed key' = some found := committed
        rw [committed] at isWritten
        rw [(ConflictAction.proposed_id isWritten).2, sameId]
      · simp only [Function.update_of_ne this] at isWritten
        exact ofCall.written key' entry isWritten id stored
  · simp only [DictionaryState.propose, Function.update_of_ne same]
    exact (coherent other).transfer (fun _ _ stored => stored)
      (fun key' held => kept key' other held) fun _ _ => rfl

/-- A commit changes no stored id. -/
theorem storedId_commit {call : Nat} {attempt : Attempt κ γ} {rows : List (κ × γ)} {key : κ}
    {id : Nat} (coherent : state.Coherent) (running : state.calls call = .running attempt)
    (stored : state.storedId key = some id) :
    (state.commit rows call attempt).storedId key = some id := by
  have ofCall := coherent call
  rw [running] at ofCall
  simp only [storedId, DictionaryState.commit]
  cases isWritten : attempt.written key with
  | none => simpa [storedId] using stored
  | some entry =>
    have sameId := ofCall.written key entry isWritten id stored
    simp [sameId]

theorem commit {call : Nat} {attempt : Attempt κ γ} {rows : List (κ × γ)}
    (coherent : state.Coherent) (running : state.calls call = .running attempt) :
    (state.commit rows call attempt).Coherent := by
  have ofCall := coherent call
  rw [running] at ofCall
  intro other
  by_cases same : other = call
  · subst same
    simp only [DictionaryState.commit, Function.update_self]
    intro key id member
    obtain ⟨_, entry, isWritten | isSeen, sameId⟩ := Attempt.mem_answer.mp member
    · simp [storedId, isWritten, sameId]
    · subst sameId
      exact coherent.storedId_commit running (ofCall.seen key entry isSeen)
  · have transferred : (state.calls other).Coherent (state.commit rows call attempt) other := by
      refine (coherent other).transfer
        (fun _ _ stored => coherent.storedId_commit running stored)
        (fun _ held => release_of_ne same held) fun key held => ?_
      -- The committing call has not written a key that another call holds.
      have notWritten : attempt.written key = none := by
        cases isWritten : attempt.written key with
        | none => rfl
        | some entry =>
          have holds := ofCall.held key entry isWritten
          rw [held, Option.some.injEq] at holds
          exact absurd holds same
      simp [storedId, DictionaryState.commit, notWritten]
    simpa only [DictionaryState.commit, Function.update_of_ne same] using transferred

omit [DecidableEq κ] in
theorem fail {call : Nat} (coherent : state.Coherent) : (state.fail call).Coherent := by
  intro other
  by_cases same : other = call
  · subst same
    simp only [DictionaryState.fail, Function.update_self]
    trivial
  · simp only [DictionaryState.fail, Function.update_of_ne same]
    exact (coherent other).transfer (fun _ _ stored => stored)
      (fun _ held => release_of_ne same held) fun _ _ => rfl

theorem step (coherent : state.Coherent)
    (taken : upsertNext action maxId input state event = some state') : state'.Coherent := by
  obtain ⟨call, _, _, rfl⟩ | ⟨call, attempt, key, excluded, rest, _, running, _, free, rfl⟩ |
    ⟨call, attempt, _, running, _, rfl⟩ | ⟨call, attempt, _, _, rfl⟩ := upsertNext_cases taken
  · exact coherent.start
  · exact coherent.propose running free
  · exact coherent.commit running
  · exact coherent.fail

end DictionaryState.Coherent

end Coherence

/-! ## When an answer has every key -/

/-- A proposed row is one the snapshot has, or it is inserted, or it changes the stored one. -/
def Visible (action : ConflictAction γ) (state : DictionaryState κ γ) : UpsertEvent → Prop
  | .propose call => ∀ attempt key excluded rest, state.calls call = .running attempt →
      attempt.todo = (key, excluded) :: rest →
      attempt.snapshot key ≠ none ∨
        ∀ entry, state.committed key = some entry → action.fires entry.content excluded = true
  | _ => True

/-- Each input row is still to be proposed, written or seen; a call that is done has answered. -/
def UpsertCall.Covers (rows : List (κ × γ)) : UpsertCall κ γ → Prop
  | .running attempt => ∀ row ∈ rows,
      row ∈ attempt.todo ∨ attempt.written row.1 ≠ none ∨ attempt.snapshot row.1 ≠ none
  | .done answer => ∀ row ∈ rows, ∃ id, (row.1, id) ∈ answer
  | .idle | .failed => True

def DictionaryState.Covers (input : Nat → List (κ × γ)) (state : DictionaryState κ γ) : Prop :=
  ∀ call, (state.calls call).Covers (input call)

section Coverage

variable {action : ConflictAction γ} {maxId : Nat} {input : Nat → List (κ × γ)}
  {state state' : DictionaryState κ γ} {event : UpsertEvent}

theorem Attempt.answer_covers {attempt : Attempt κ γ} {rows : List (κ × γ)}
    (covers : (UpsertCall.running attempt).Covers rows) (finished : attempt.todo = []) :
    (UpsertCall.done (γ := γ) (attempt.answer rows)).Covers rows := by
  intro row member
  have given : row.1 ∈ rows.map Prod.fst := List.mem_map_of_mem member
  obtain waiting | isWritten | isSeen := covers row member
  · rw [finished] at waiting
    cases waiting
  · obtain ⟨entry, isEntry⟩ := Option.ne_none_iff_exists'.mp isWritten
    exact ⟨entry.id, Attempt.mem_answer.mpr ⟨given, entry, .inl isEntry, rfl⟩⟩
  · obtain ⟨entry, isEntry⟩ := Option.ne_none_iff_exists'.mp isSeen
    exact ⟨entry.id, Attempt.mem_answer.mpr ⟨given, entry, .inr isEntry, rfl⟩⟩

theorem UpsertCall.Covers.propose {attempt : Attempt κ γ} {key : κ} {excluded : γ}
    {rest rows : List (κ × γ)} (covers : (UpsertCall.running attempt).Covers rows)
    (todo : attempt.todo = (key, excluded) :: rest)
    (visible : attempt.snapshot key ≠ none ∨
      ∀ entry, state.committed key = some entry → action.fires entry.content excluded = true) :
    (UpsertCall.running { attempt with
      todo := rest
      written := Function.update attempt.written key
        (action.proposed (state.committed key) state.nextId excluded) }).Covers rows := by
  have proposed : attempt.snapshot key = none →
      action.proposed (state.committed key) state.nextId excluded ≠ none := by
    intro unseen skipped
    obtain ⟨entry, stored, quiet⟩ := ConflictAction.proposed_none skipped
    have fires := (visible.resolve_left fun seen => seen unseen) entry stored
    rw [quiet] at fires
    cases fires
  intro row member
  by_cases same : row.1 = key
  · by_cases unseen : attempt.snapshot key = none
    · refine .inr (.inl ?_)
      simp only [same, Function.update_self]
      exact proposed unseen
    · refine .inr (.inr ?_)
      simp only [same]
      exact unseen
  · simp only [Function.update_of_ne same]
    refine (covers row member).imp_left fun waiting => ?_
    rw [todo, List.mem_cons] at waiting
    exact waiting.resolve_left fun isThis => same (by rw [isThis])

theorem DictionaryState.Covers.step (covers : state.Covers input)
    (visible : Visible action state event)
    (taken : upsertNext action maxId input state event = some state') : state'.Covers input := by
  -- Only the call that acts changes.
  have others : ∀ call acted other, (other = call → acted.Covers (input other)) →
      (Function.update state.calls call acted other).Covers (input other) := by
    intro call acted other ofCall
    by_cases same : other = call
    · subst same
      simpa using ofCall rfl
    · rw [Function.update_of_ne same]
      exact covers other
  obtain ⟨call, _, _, rfl⟩ | ⟨call, attempt, key, excluded, rest, rfl, running, todo, _, rfl⟩ |
    ⟨call, attempt, _, running, finished, rfl⟩ | ⟨call, attempt, _, _, rfl⟩ :=
    upsertNext_cases taken
  · refine fun other => others call _ other fun same row member => .inl ?_
    rw [← same]
    exact member
  · refine fun other => others call _ other fun same => ?_
    have before := covers call
    rw [running] at before
    rw [same]
    exact before.propose todo (visible attempt key excluded rest running todo)
  · refine fun other => others call _ other fun same => ?_
    have before := covers call
    rw [running] at before
    rw [same]
    exact Attempt.answer_covers before finished
  · exact fun other => others call _ other fun _ => trivial

end Coverage

/-! ## Over whole runs -/

section Runs

variable {action : ConflictAction γ} {maxId nextId : Nat} {input : Nat → List (κ × γ)}
  {committed : κ → Option (Entry γ)} {events : List UpsertEvent} {state : DictionaryState κ γ}

/-- Calls never disagree about the id of a key. -/
theorem answers_agree
    (run : Run (Takes (upsertNext action maxId input)) (.initial committed nextId) events state)
    {first second : Nat} {firstAnswer secondAnswer : List (κ × Nat)}
    (firstDone : state.calls first = .done firstAnswer)
    (secondDone : state.calls second = .done secondAnswer) {key : κ} {firstId secondId : Nat}
    (inFirst : (key, firstId) ∈ firstAnswer) (inSecond : (key, secondId) ∈ secondAnswer) :
    firstId = secondId := by
  have coherent : state.Coherent :=
    run.invariant (fun _ _ _ before taken => before.step taken) (coherent_initial _ _)
  have ofFirst := coherent first
  have ofSecond := coherent second
  rw [firstDone] at ofFirst
  rw [secondDone] at ofSecond
  have stored := ofFirst key firstId inFirst
  rw [ofSecond key secondId inSecond, Option.some.injEq] at stored
  exact stored.symm

/-- Where every proposed row is visible, every answer is complete. -/
theorem answers_complete
    (run : Run (Restrict (Takes (upsertNext action maxId input)) (Visible action))
      (.initial committed nextId) events state)
    {call : Nat} {answer : List (κ × Nat)} (isDone : state.calls call = .done answer)
    {row : κ × γ} (given : row ∈ input call) : ∃ id, (row.1, id) ∈ answer := by
  have covered : state.Covers input :=
    run.invariant (fun _ _ _ before step => before.step step.1 step.2) fun _ => trivial
  have covers := covered call
  rw [isDone] at covers
  exact covers row given

end Runs

end Relational
