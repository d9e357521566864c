import Mathlib.Logic.Function.Basic
import TweetDb.Basic
import TweetDb.Transition.Run

/-! # Consuming a pending login

`consume_pending_sso_login` under any number of callbacks with one state id.
The `SELECT` reads the committed row and takes no lock; a `DELETE` waits while
another call has deleted the row and not ended.  What a call returns is what
it has read, whatever its `DELETE` affects.
-/

namespace TweetDb.Auth

open Transition

structure PendingSsoLogin where
  codeVerifier : String
  expiresAt : Timestamp
deriving DecidableEq, Repr

/-- How far a call has come, with the row its `SELECT` returned. -/
inductive ConsumeCall where
  | begun
  | selected (row : Option PendingSsoLogin)
  | deleted (row : Option PendingSsoLogin)
  | ended
deriving DecidableEq, Repr

/-- The row a call has read and may still return. -/
def ConsumeCall.row : ConsumeCall → Option PendingSsoLogin
  | .begun | .ended => none
  | .selected row | .deleted row => row

@[simp] theorem ConsumeCall.row_begun : ConsumeCall.begun.row = none := rfl

@[simp] theorem ConsumeCall.row_ended : ConsumeCall.ended.row = none := rfl

@[simp] theorem ConsumeCall.row_selected (row : Option PendingSsoLogin) :
    (ConsumeCall.selected row).row = row := rfl

@[simp] theorem ConsumeCall.row_deleted (row : Option PendingSsoLogin) :
    (ConsumeCall.deleted row).row = row := rfl

/-- The committed row of the state id, the call whose `DELETE` has affected it and that has not
ended, and the calls that have committed, in order, with what they return. -/
structure PendingLogins where
  stored : Option PendingSsoLogin
  deleter : Option Nat
  calls : Nat → ConsumeCall
  committed : List (Nat × Option PendingSsoLogin)

inductive ConsumeEvent where
  | select (call : Nat)
  | delete (call : Nat)
  | commit (call : Nat)
  | rollback (call : Nat)
deriving DecidableEq, Repr

/-- The row is deleted for all when the call that deleted it commits. -/
def PendingLogins.commitDelete (logins : PendingLogins) (call : Nat) : Option PendingSsoLogin :=
  if logins.deleter = some call then none else logins.stored

def PendingLogins.release (logins : PendingLogins) (call : Nat) : Option Nat :=
  if logins.deleter = some call then none else logins.deleter

/-- The statements of `consume_pending_sso_login`; `now` is the time each call was given. -/
def consumeNext (now : Nat → Timestamp) (logins : PendingLogins) :
    ConsumeEvent → Option PendingLogins
  | .select call =>
    match logins.calls call with
    | .begun => some { logins with
        calls := Function.update logins.calls call (.selected logins.stored) }
    | _ => none
  | .delete call =>
    match logins.calls call, logins.deleter with
    | .selected row, none => some { logins with
        deleter := logins.stored.map fun _ => call
        calls := Function.update logins.calls call (.deleted row) }
    | _, _ => none
  | .commit call =>
    match logins.calls call with
    | .deleted row => some
        { stored := logins.commitDelete call
          deleter := logins.release call
          calls := Function.update logins.calls call .ended
          committed := logins.committed ++
            [(call, row.filter fun row => decide (now call < row.expiresAt))] }
    | _ => none
  | .rollback call =>
    match logins.calls call with
    | .ended => none
    | _ => some { logins with
        deleter := logins.release call
        calls := Function.update logins.calls call .ended }

/-- Any number of callbacks with the state id of one pending login. -/
def callbacks (stored : Option PendingSsoLogin) : PendingLogins :=
  ⟨stored, none, fun _ => .begun, []⟩

/-- At most one call returns the login, and none after one has committed. -/
def PendingLogins.UsedOnce (logins : PendingLogins) : Prop :=
  ∀ entry ∈ logins.committed.tail, entry.2 = none

/-! ## Calls that read alone -/

/-- A `SELECT` does not find the row while a call that has found it has not ended. -/
def ReadsAlone (logins : PendingLogins) : ConsumeEvent → Prop
  | .select _ => logins.stored ≠ none → ∀ other, (logins.calls other).row = none
  | _ => True

/-- A call that has found the row is the only one, and the row is still there. -/
structure OneReader (logins : PendingLogins) : Prop where
  alone : ∀ call other, (logins.calls call).row ≠ none → (logins.calls other).row ≠ none →
    call = other
  held : ∀ call, (logins.calls call).row ≠ none → logins.stored ≠ none
  missed : ∀ call, logins.calls call = .selected none ∨ logins.calls call = .deleted none →
    logins.stored = none
  deleter : ∀ call, logins.deleter = some call ↔
    ∃ row, logins.calls call = .deleted (some row)
  unused : logins.stored ≠ none → logins.committed = []

section Reader

variable {now : Nat → Timestamp} {logins logins' : PendingLogins} {event : ConsumeEvent}
  {stored : Option PendingSsoLogin}

theorem oneReader_start (stored : Option PendingSsoLogin) : OneReader (callbacks stored) := by
  constructor <;> simp [callbacks]

theorem OneReader.select {call : Nat} (reader : OneReader logins)
    (begun : logins.calls call = .begun)
    (alone : logins.stored ≠ none → ∀ other, (logins.calls other).row = none) :
    OneReader { logins with
      calls := Function.update logins.calls call (.selected logins.stored) } := by
  have others : logins.stored ≠ none → ∀ other, other ≠ call →
      (Function.update logins.calls call (.selected logins.stored) other).row = none := by
    intro found other different
    rw [Function.update_of_ne different]
    exact alone found other
  have sees : ∀ other,
      (Function.update logins.calls call (.selected logins.stored) other).row ≠ none →
      logins.stored ≠ none := by
    intro other reads
    by_cases same : other = call
    · subst same
      simpa using reads
    · rw [Function.update_of_ne same] at reads
      exact reader.held other reads
  constructor
  · intro a b aReads bReads
    by_cases aSame : a = call
    · by_cases bSame : b = call
      · rw [aSame, bSame]
      · exact absurd (others (sees a aReads) b bSame) bReads
    · exact absurd (others (sees a aReads) a aSame) aReads
  · exact sees
  · intro other misses
    by_cases same : other = call
    · subst same
      simpa using misses
    · simp only [Function.update_of_ne same] at misses
      exact reader.missed other misses
  · intro other
    by_cases same : other = call
    · subst same
      simp [reader.deleter, begun]
    · simp [reader.deleter, same]
  · exact reader.unused

theorem OneReader.delete {call : Nat} {row : Option PendingSsoLogin} (reader : OneReader logins)
    (selected : logins.calls call = .selected row) (free : logins.deleter = none) :
    OneReader { logins with
      deleter := logins.stored.map fun _ => call
      calls := Function.update logins.calls call (.deleted row) } := by
  -- The call has read what it deletes.
  have row_iff : row = none ↔ logins.stored = none := by
    constructor
    · intro nothing
      subst nothing
      exact reader.missed call (.inl selected)
    · intro gone
      by_contra found
      exact reader.held call (by simpa [selected] using found) gone
  have rows : ∀ other, (Function.update logins.calls call (.deleted row) other).row =
      (logins.calls other).row := by
    intro other
    by_cases same : other = call
    · subst same
      simp [selected]
    · rw [Function.update_of_ne same]
  constructor
  · intro a b
    simp only [rows]
    exact reader.alone a b
  · intro other
    simp only [rows]
    exact reader.held other
  · intro other misses
    by_cases same : other = call
    · subst same
      have nothing : row = none := by simpa using misses
      exact row_iff.mp nothing
    · simp only [Function.update_of_ne same] at misses
      exact reader.missed other misses
  · intro other
    have noOther := reader.deleter other
    rw [free] at noOther
    by_cases same : other = call
    · subst same
      cases kept : logins.stored with
      | none => simp [row_iff.mpr kept]
      | some pending =>
        obtain ⟨read, isRow⟩ := Option.ne_none_iff_exists'.mp
          (mt row_iff.mp (by simp [kept]))
        simp [isRow]
    · have notDeleted : ¬ ∃ row, logins.calls other = .deleted (some row) :=
        fun deleted => absurd (noOther.mpr deleted) (by simp)
      cases kept : logins.stored <;>
        simp [Function.update_of_ne same, notDeleted, Ne.symm same]
  · exact reader.unused

/-- A call that ends gives up what it has read. -/
theorem row_ended {calls : Nat → ConsumeCall} {call other : Nat}
    (reads : (Function.update calls call .ended other).row ≠ none) :
    other ≠ call ∧ (calls other).row ≠ none := by
  by_cases same : other = call
  · subst same
    simp at reads
  · rw [Function.update_of_ne same] at reads
    exact ⟨same, reads⟩

theorem OneReader.commit {call : Nat} {row result : Option PendingSsoLogin}
    (reader : OneReader logins) (deleted : logins.calls call = .deleted row) :
    OneReader
      { stored := logins.commitDelete call
        deleter := logins.release call
        calls := Function.update logins.calls call .ended
        committed := logins.committed ++ [(call, result)] } := by
  -- After the commit the row is gone, whether this call found it or an earlier one took it.
  have gone : logins.commitDelete call = none := by
    unfold PendingLogins.commitDelete
    split
    next => rfl
    next notDeleter =>
      cases row with
      | none => exact reader.missed call (.inr deleted)
      | some row => exact absurd ((reader.deleter call).mpr ⟨row, deleted⟩) notDeleter
  have noReader : ∀ other, (Function.update logins.calls call .ended other).row = none := by
    intro other
    by_contra reads
    obtain ⟨different, reads⟩ := row_ended reads
    have kept := reader.held other reads
    cases row with
    | none => exact kept (reader.missed call (.inr deleted))
    | some row =>
      exact different (reader.alone other call reads (by simp [deleted]))
  constructor
  · intro a b aReads
    exact absurd (noReader a) aReads
  · intro other reads
    exact absurd (noReader other) reads
  · intro _ _
    exact gone
  · intro other
    have nothing := noReader other
    by_cases same : other = call
    · subst same
      simp only [PendingLogins.release]
      by_cases isDeleter : logins.deleter = some other <;> simp [isDeleter]
    · rw [Function.update_of_ne same] at nothing
      simp only [Function.update_of_ne same, PendingLogins.release]
      have iffOther := reader.deleter other
      by_cases isDeleter : logins.deleter = some call
      · simp only [isDeleter, if_true]
        constructor
        · intro impossible
          cases impossible
        · intro ⟨row, deletedToo⟩
          rw [deletedToo] at nothing
          cases nothing
      · simp only [isDeleter, if_false]
        exact iffOther
  · intro present
    exact absurd gone present

theorem OneReader.rollback {call : Nat} (reader : OneReader logins) :
    OneReader { logins with
      deleter := logins.release call
      calls := Function.update logins.calls call .ended } := by
  constructor
  · intro a b aReads bReads
    exact reader.alone a b (row_ended aReads).2 (row_ended bReads).2
  · intro other reads
    exact reader.held other (row_ended reads).2
  · intro other misses
    by_cases same : other = call
    · subst same
      simp at misses
    · simp only [Function.update_of_ne same] at misses
      exact reader.missed other misses
  · intro other
    have iffOther := reader.deleter other
    simp only [PendingLogins.release]
    by_cases same : other = call
    · subst same
      by_cases isDeleter : logins.deleter = some other <;> simp [isDeleter]
    · simp only [Function.update_of_ne same]
      by_cases isDeleter : logins.deleter = some call
      · simp only [isDeleter, if_true]
        rw [isDeleter, Option.some.injEq] at iffOther
        rw [← iffOther]
        simp [Ne.symm same]
      · simp only [isDeleter, if_false]
        exact iffOther
  · exact reader.unused

theorem OneReader.step (reader : OneReader logins) (alone : ReadsAlone logins event)
    (taken : consumeNext now logins event = some logins') : OneReader logins' := by
  cases event with
  | select call =>
    simp only [consumeNext] at taken
    split at taken
    next begun =>
      cases taken
      exact reader.select begun alone
    next => cases taken
  | delete call =>
    simp only [consumeNext] at taken
    split at taken
    next row selected free =>
      cases taken
      exact reader.delete selected free
    next => cases taken
  | commit call =>
    simp only [consumeNext] at taken
    split at taken
    next row deleted =>
      cases taken
      exact reader.commit deleted
    next => cases taken
  | rollback call =>
    simp only [consumeNext] at taken
    split at taken
    next => cases taken
    next =>
      cases taken
      exact reader.rollback

/-- A call returns the login only if no call has committed before it. -/
theorem OneReader.usedOnce_step (reader : OneReader logins) (used : logins.UsedOnce)
    (taken : consumeNext now logins event = some logins') : logins'.UsedOnce := by
  cases event with
  | select call | delete call | rollback call =>
    simp only [consumeNext] at taken
    split at taken <;> cases taken
    exact used
  | commit call =>
    simp only [consumeNext] at taken
    split at taken
    next row deleted =>
      cases taken
      simp only [PendingLogins.UsedOnce]
      cases before : logins.committed with
      | nil => simp
      | cons first others =>
        intro entry member
        rw [List.cons_append, List.tail_cons, List.mem_append, List.mem_singleton] at member
        rcases member with earlier | isThis
        · exact used entry (by rw [before]; exact earlier)
        · -- Somebody has committed, so this call has not found the row.
          have nothing : row = none := by
            by_contra found
            have kept := reader.held call (by simpa [deleted] using found)
            have none := reader.unused kept
            rw [before] at none
            cases none
          rw [isThis, nothing]
          rfl
    next => cases taken

end Reader

/-- If no call looks for the row while another that has found it has not ended, the login is used
at most once, in every interleaving. -/
theorem pending_login_used_once {now : Nat → Timestamp} {stored : Option PendingSsoLogin}
    {events : List ConsumeEvent} {logins : PendingLogins}
    (run : Run (Restrict (Takes (consumeNext now)) ReadsAlone) (callbacks stored) events logins) :
    logins.UsedOnce := by
  have preserved : ∀ before event after, (OneReader before ∧ before.UsedOnce) →
      Restrict (Takes (consumeNext now)) ReadsAlone before event after →
      OneReader after ∧ after.UsedOnce := by
    intro before event after sound step
    exact ⟨sound.1.step step.1 step.2, sound.1.usedOnce_step sound.2 step.2⟩
  have sound := run.invariant preserved ⟨oneReader_start stored, nofun⟩
  exact sound.2

def onePending : PendingSsoLogin := ⟨"verifier", 600⟩

/-- Both callbacks read the row before either deletes it; the second `DELETE` affects no row, and
both calls return the login. -/
theorem pending_login_used_twice : ∃ logins,
    exec (consumeNext fun _ => 0) (callbacks (some onePending))
        [.select 0, .select 1, .delete 0, .commit 0, .delete 1, .commit 1] = some logins ∧
      logins.committed = [(0, some onePending), (1, some onePending)] ∧ ¬ logins.UsedOnce := by
  refine ⟨_, rfl, rfl, ?_⟩
  intro used
  have second := used (1, some onePending) (by decide)
  cases second

theorem pending_login_used_once_inTurn : ∃ logins,
    exec (consumeNext fun _ => 0) (callbacks (some onePending))
        [.select 0, .delete 0, .commit 0, .select 1, .delete 1, .commit 1] = some logins ∧
      logins.committed = [(0, some onePending), (1, none)] ∧ logins.UsedOnce := by
  refine ⟨_, rfl, rfl, ?_⟩
  apply @pending_login_used_once (fun _ => 0) (some onePending)
    [.select 0, .delete 0, .commit 0, .select 1, .delete 1, .commit 1]
  -- The second callback reads when the first has committed and the row is gone.
  exact .cons ⟨fun _ _ => rfl, rfl⟩ (.cons ⟨trivial, rfl⟩ (.cons ⟨trivial, rfl⟩
    (.cons ⟨fun found => absurd rfl found, rfl⟩ (.cons ⟨trivial, rfl⟩ (.cons ⟨trivial, rfl⟩
      .nil)))))

end TweetDb.Auth
