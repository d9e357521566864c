import Mathlib.Data.List.Basic
import Mathlib.Data.String.Basic

/-! # Lower case

`str::to_lowercase`: every character is mapped for itself, except for the capital
sigma, whose mapping depends on whether a word ends with it.
-/

namespace TweetDb

/-- The case properties of Unicode. -/
structure CaseTables where
  toLower : Char → List Char
  isCased : Char → Bool
  isCaseIgnorable : Char → Bool

variable (cases : CaseTables)

def caseIgnorableThenCased (chars : List Char) : Bool :=
  match chars.dropWhile cases.isCaseIgnorable with
  | [] => false
  | c :: _ => cases.isCased c

/-- `Final_Sigma`: `before` is read backwards. -/
def finalSigma (before after : List Char) : Bool :=
  caseIgnorableThenCased cases before && !caseIgnorableThenCased cases after

def lowercaseChar (isFinal : Bool) (c : Char) : List Char :=
  if c = 'Σ' then [if isFinal then 'ς' else 'σ'] else cases.toLower c

/-- The mapping of a text of which `before` is already read, `isFinal` being asked of every capital
sigma. -/
def lowercaseWith (isFinal : List Char → List Char → Bool) :
    List Char → List Char → List Char
  | _, [] => []
  | before, c :: after =>
    lowercaseChar cases (isFinal before after) c ++ lowercaseWith isFinal (c :: before) after

def strToLowercase (value : List Char) : List Char :=
  lowercaseWith cases (finalSigma cases) [] value

section Laws

variable {cases} {isFinal isFinal' : List Char → List Char → Bool}

theorem length_lowercaseChar (final final' : Bool) (c : Char) :
    (lowercaseChar cases final c).length = (lowercaseChar cases final' c).length := by
  unfold lowercaseChar
  split <;> simp

theorem utf8ByteSize_lowercaseChar (final final' : Bool) (c : Char) :
    (String.ofList (lowercaseChar cases final c)).utf8ByteSize =
      (String.ofList (lowercaseChar cases final' c)).utf8ByteSize := by
  unfold lowercaseChar
  split
  · cases final <;> cases final' <;> rfl
  · rfl

theorem lowercaseChar_eq_iff {final final' : Bool} {c : Char} :
    lowercaseChar cases final c = lowercaseChar cases final' c ↔ (c = 'Σ' → final = final') := by
  unfold lowercaseChar
  by_cases isSigma : c = 'Σ'
  · cases final <;> cases final' <;> simp [isSigma]
  · simp [isSigma]

/-- A text that is read in two parts. -/
theorem lowercaseWith_append (chars rest : List Char) : ∀ before : List Char,
    lowercaseWith cases isFinal before (chars ++ rest) =
      lowercaseWith cases (fun before after => isFinal before (after ++ rest)) before chars ++
        lowercaseWith cases isFinal (chars.reverse ++ before) rest := by
  induction chars with
  | nil =>
    intro before
    rfl
  | cons c chars ih =>
    intro before
    simp only [List.cons_append, lowercaseWith, ih (c :: before), List.append_assoc,
      List.reverse_cons, List.nil_append]

/-- Two readings of a text agree if and only if they agree on every capital sigma. -/
theorem lowercaseWith_eq_iff (chars : List Char) : ∀ before before' : List Char,
    lowercaseWith cases isFinal before chars = lowercaseWith cases isFinal' before' chars ↔
      ∀ start rest, chars = start ++ 'Σ' :: rest →
        isFinal (start.reverse ++ before) rest = isFinal' (start.reverse ++ before') rest := by
  induction chars with
  | nil => simp [lowercaseWith]
  | cons c chars ih =>
    intro before before'
    -- A character is mapped to as many in both readings, so the texts agree piece by piece.
    have parts : lowercaseChar cases (isFinal before chars) c ++
          lowercaseWith cases isFinal (c :: before) chars =
        lowercaseChar cases (isFinal' before' chars) c ++
          lowercaseWith cases isFinal' (c :: before') chars ↔
        lowercaseChar cases (isFinal before chars) c =
            lowercaseChar cases (isFinal' before' chars) c ∧
          lowercaseWith cases isFinal (c :: before) chars =
            lowercaseWith cases isFinal' (c :: before') chars :=
      ⟨fun same => List.append_inj same (length_lowercaseChar _ _ c),
        fun ⟨first, rest⟩ => by rw [first, rest]⟩
    rw [lowercaseWith, lowercaseWith, parts, lowercaseChar_eq_iff, ih]
    constructor
    · -- The sigma is the first character, or one of those that follow it.
      rintro ⟨here, later⟩ start rest split
      cases start with
      | nil =>
        cases split
        exact here rfl
      | cons d start =>
        cases split
        simpa using later start rest rfl
    · intro agree
      refine ⟨fun isSigma => ?_, fun start rest split => ?_⟩
      · exact agree [] chars (by rw [isSigma, List.nil_append])
      · simpa using agree (c :: start) rest (by rw [split, List.cons_append])

theorem length_lowercaseWith (chars : List Char) : ∀ before before' : List Char,
    (lowercaseWith cases isFinal before chars).length =
      (lowercaseWith cases isFinal' before' chars).length := by
  induction chars with
  | nil =>
    intro before before'
    rfl
  | cons c chars ih =>
    intro before before'
    simp only [lowercaseWith, List.length_append, ih (c :: before) (c :: before')]
    rw [length_lowercaseChar]

/-- What one character becomes. -/
theorem mem_lowercaseWith {chars : List Char} {d : Char} : ∀ {before : List Char},
    d ∈ lowercaseWith cases isFinal before chars →
      d = 'ς' ∨ d = 'σ' ∨ ∃ c ∈ chars, d ∈ cases.toLower c := by
  induction chars with
  | nil => simp [lowercaseWith]
  | cons c chars ih =>
    intro before given
    rw [lowercaseWith, List.mem_append] at given
    rcases given with given | given
    · unfold lowercaseChar at given
      split at given
      · split at given <;> simp_all
      · exact .inr (.inr ⟨c, by simp, given⟩)
    · rcases ih given with isFinal | isPlain | ⟨source, isSource, mapped⟩
      · exact .inl isFinal
      · exact .inr (.inl isPlain)
      · exact .inr (.inr ⟨source, List.mem_cons_of_mem _ isSource, mapped⟩)

theorem utf8ByteSize_lowercaseWith (chars : List Char) : ∀ before before' : List Char,
    (String.ofList (lowercaseWith cases isFinal before chars)).utf8ByteSize =
      (String.ofList (lowercaseWith cases isFinal' before' chars)).utf8ByteSize := by
  induction chars with
  | nil =>
    intro before before'
    rfl
  | cons c chars ih =>
    intro before before'
    simp only [lowercaseWith, String.ofList_append, String.utf8ByteSize_append,
      ih (c :: before) (c :: before')]
    rw [utf8ByteSize_lowercaseChar]

/-! ## Character by character -/

variable (sigma : cases.toLower 'Σ' = ['σ'])

include sigma in
/-- `LowerCaser` takes no capital sigma for a final one. -/
theorem flatMap_toLower (chars : List Char) : ∀ before : List Char,
    chars.flatMap cases.toLower = lowercaseWith cases (fun _ _ => false) before chars := by
  induction chars with
  | nil =>
    intro before
    rfl
  | cons c chars ih =>
    intro before
    rw [List.flatMap_cons, lowercaseWith, ih (c :: before), lowercaseChar]
    by_cases isSigma : c = 'Σ'
    · simp [isSigma, sigma]
    · simp [isSigma]

end Laws

end TweetDb
