import Mathlib.Logic.Function.Basic
import TweetDb.Search.QueryText
import TweetDb.Text.Bounds
import TweetDb.Text.Lowercase

/-! # Prefix search

Whether a user is found under a prefix of the handle or the display name.  A
prefix goes through `normalized_prefix_query`, the indexed text through the
analyzer of the prefix fields; the two meet on the terms.
-/

namespace TweetDb.Search

/-- What Unicode and the standard library say of lower case. -/
structure LowercaseLaws (tables : UnicodeTables) (cases : CaseTables) : Prop where
  unicode : tables.Lawful
  charToLowercase : tables.charToLowercase = cases.toLower
  toLowercase : ∀ value, tables.toLowercase value =
    String.ofList (strToLowercase cases value.toList)
  sigma : cases.toLower 'Σ' = ['σ']
  finalSigma : cases.toLower 'ς' = ['ς']
  greek : ∀ c ∈ ['Σ', 'σ', 'ς'], tables.isAlphanumeric c = true
  lowered : ∀ c, ∀ d ∈ cases.toLower c, cases.toLower d = [d]
  other : ∀ c, tables.isAlphanumeric c = false → cases.toLower c = [c]
  begins : ∀ c, tables.isAlphanumeric c = true →
    ∃ d rest, cases.toLower c = d :: rest ∧ tables.isAlphanumeric d = true

variable (tables : UnicodeTables) (cases : CaseTables)

/-- A prefix of a text that can be searched for. -/
structure IsTyped (text typed : List Char) : Prop where
  isPrefix : typed <+: text
  notEmpty : 1 ≤ typed.length
  short : typed.length ≤ maxPrefixChars
  hasAlphanumeric : ∃ c ∈ typed, tables.isAlphanumeric c = true

/-- The term that the prefix gives is one of the terms of the document. -/
def FoundByPrefix (document : IndexDocument) (field : String) (typed : List Char) : Prop :=
  ∃ term, normalizedPrefixQuery tables (String.ofList typed) = some term ∧
    hasPrefixTerm tables document field term = true

/-- The part of a handle that is indexed, in the case it is written in. -/
def handleCore (userName : String) : List Char :=
  (trim (trimStartMatches (· == '@') (trim userName))).toList

/-- Of a prefix of a display name: less than 80 bytes are left of it, and no capital sigma that ends
a word. -/
def DisplayNameFits (typed : List Char) : Prop :=
  let token := inner tables.isAlphanumeric typed
  (String.ofList token).utf8ByteSize < 80 ∧
    ∀ start rest, token = start ++ 'Σ' :: rest → finalSigma cases start.reverse rest = false

/-- Of a prefix of a handle: a capital sigma ends a word in what is left of it if and only if it does
in the handle, the lowercase mapping has less than 80 bytes, ends with an alphanumeric character and
stands in the first 64 characters of the indexed text. -/
def HandleFits (userName : String) (typed : List Char) : Prop :=
  let token := inner tables.isAlphanumeric typed
  ∃ before after, handleCore userName = before ++ token ++ after ∧
    (∀ c ∈ before, tables.isAlphanumeric c = false) ∧
    (∀ start rest, token = start ++ 'Σ' :: rest →
      finalSigma cases start.reverse rest =
        finalSigma cases (start.reverse ++ before.reverse) (rest ++ after)) ∧
    (String.ofList (token.flatMap cases.toLower)).utf8ByteSize < 80 ∧
    before.length + (token.flatMap cases.toLower).length ≤ maxPrefixChars ∧
    ∃ c d, token.getLast? = some c ∧ (cases.toLower c).getLast? = some d ∧
      tables.isAlphanumeric d = true

/-! ## The terms of a text -/

section Terms

variable {tables} {cases}

theorem tokenText_eq (value : List Char) :
    tokenText tables (String.ofList value) =
      if inner tables.isAlphanumeric value = [] then none
      else some (String.ofList (inner tables.isAlphanumeric value)) := by
  simp only [tokenText, String.toList_ofList, List.isEmpty_iff]
  rfl

theorem mem_prefixTerms {text : List Char} {term : String} :
    term ∈ prefixTerms tables (String.ofList text) ↔
      ∃ count, 1 ≤ count ∧ count ≤ text.length ∧ count ≤ maxPrefixChars ∧
        inner tables.isAlphanumeric (text.take count) ≠ [] ∧
        (String.ofList (inner tables.isAlphanumeric (text.take count))).utf8ByteSize < 80 ∧
        term = String.ofList
          ((inner tables.isAlphanumeric (text.take count)).flatMap tables.charToLowercase) := by
  simp only [prefixTerms, List.mem_map, List.mem_filter, List.mem_filterMap, List.mem_range,
    String.length_ofList, String.toList_ofList, decide_eq_true_eq, exists_exists_and_eq_and,
    tokenText_eq, Option.ite_none_left_eq_some, Option.some.injEq]
  constructor
  -- The n-gram filter counts from zero.
  · rintro ⟨token, ⟨⟨last, bound, notEmpty, rfl⟩, short⟩, rfl⟩
    exact ⟨last + 1, by omega, by omega, by omega, notEmpty, short, by simp⟩
  · rintro ⟨count, positive, inText, inGrams, notEmpty, short, rfl⟩
    refine ⟨_, ⟨⟨count - 1, by omega, ?_, rfl⟩, ?_⟩, ?_⟩
    all_goals rw [Nat.sub_add_cancel positive]
    · exact notEmpty
    · exact short
    · simp

/-! ## The term of a prefix -/

variable (laws : LowercaseLaws tables cases)

include laws

theorem isWhitespace_alphanumeric {c : Char} (kept : tables.isAlphanumeric c = true) :
    isWhitespace c = false := by
  by_contra isSpace
  rw [laws.unicode.whitespace c (by simpa using isSpace)] at kept
  cases kept

theorem at_alphanumeric {c : Char} (kept : tables.isAlphanumeric c = true) : (c == '@') = false := by
  by_contra isAt
  have same : c = '@' := by simpa using isAt
  rw [same, laws.unicode.ascii '@' (by decide)] at kept
  revert kept
  decide

/-- Trimming and removing the at signs in front leaves the inner part. -/
theorem hasInner_strip {value : String} {core : List Char}
    (hasInner : HasInner tables.isAlphanumeric value.toList core) :
    HasInner tables.isAlphanumeric (handleCore value) core := by
  simp only [handleCore, trim, trimStartMatches, trimEndMatches, String.toList_ofList]
  have spaces := fun c => @isWhitespace_alphanumeric _ _ laws c
  have ats := fun c => @at_alphanumeric _ _ laws c
  have trimmed := (hasInner.dropWhile isWhitespace spaces).rdropWhile isWhitespace spaces
  have stripped := trimmed.dropWhile (fun c => c == '@') ats
  exact (stripped.dropWhile isWhitespace spaces).rdropWhile isWhitespace spaces

omit laws in
theorem length_handleCore (value : String) : (handleCore value).length ≤ value.toList.length := by
  simp only [handleCore, trim, trimStartMatches, trimEndMatches, String.toList_ofList]
  have trimmed : ∀ chars : List Char,
      ((chars.dropWhile isWhitespace).rdropWhile isWhitespace).length ≤ chars.length :=
    fun chars => (List.rdropWhile_prefix _ _).length_le.trans (List.dropWhile_suffix _).length_le
  exact ((trimmed _).trans (List.dropWhile_suffix _).length_le).trans (trimmed _)

theorem normalizedKeyword_inner {core : List Char} (isInner : IsInner tables.isAlphanumeric core) :
    normalizedKeyword tables.toLowercase (String.ofList core) =
      String.ofList (strToLowercase cases core) := by
  have unchanged : handleCore (String.ofList core) = core := by
    obtain ⟨-, before, after, shape, -⟩ := hasInner_strip laws
      (show HasInner tables.isAlphanumeric (String.ofList core).toList core from
        ⟨isInner, [], [], by simp, by simp, by simp⟩)
    have short := length_handleCore (String.ofList core)
    rw [shape, String.toList_ofList, List.length_append, List.length_append] at short
    have noBefore : before = [] := List.eq_nil_of_length_eq_zero (by omega)
    have noAfter : after = [] := List.eq_nil_of_length_eq_zero (by omega)
    rw [shape, noBefore, noAfter, List.nil_append, List.append_nil]
  have same : trim (trimStartMatches (· == '@') (trim (String.ofList core))) =
      String.ofList core := String.toList_inj.mp (by simpa [handleCore] using unchanged)
  rw [normalizedKeyword, same, laws.toLowercase, String.toList_ofList]

theorem toLower_ne_nil (c : Char) : cases.toLower c ≠ [] := by
  cases kept : tables.isAlphanumeric c with
  | true =>
    obtain ⟨d, rest, mapped, -⟩ := laws.begins c kept
    simp [mapped]
  | false => simp [laws.other c kept]

/-- The lowercase mapping tells the prefixes of a text apart by their length. -/
theorem eq_of_length_flatMap {chars chars' : List Char} (isPrefix : chars <+: chars')
    (sameLength : (chars.flatMap cases.toLower).length = (chars'.flatMap cases.toLower).length) :
    chars = chars' := by
  obtain ⟨rest, rfl⟩ := isPrefix
  cases rest with
  | nil => rw [List.append_nil]
  | cons c rest =>
    have positive : 0 < (cases.toLower c).length :=
      List.length_pos_iff.mpr (toLower_ne_nil laws c)
    simp only [List.flatMap_append, List.flatMap_cons, List.length_append] at sameLength
    omega

theorem length_strToLowercase (chars : List Char) :
    (strToLowercase cases chars).length = (chars.flatMap cases.toLower).length := by
  rw [flatMap_toLower laws.sigma chars [], strToLowercase]
  exact length_lowercaseWith chars [] []

theorem normalizedPrefixQuery_typed {typed : List Char} (short : typed.length ≤ maxPrefixChars)
    {c : Char} (given : c ∈ typed) (kept : tables.isAlphanumeric c = true) :
    normalizedPrefixQuery tables (String.ofList typed) =
      some (String.ofList (strToLowercase cases (inner tables.isAlphanumeric typed))) := by
  have hasInner : HasInner tables.isAlphanumeric typed (inner tables.isAlphanumeric typed) :=
    hasInner_of_mem given kept
  -- What is cut off at both ends is no letter, so the inner part is the one that was typed.
  have stripped := hasInner_strip laws (show HasInner tables.isAlphanumeric
    (String.ofList typed).toList _ by simpa using hasInner)
  have isShort := length_handleCore (String.ofList typed)
  rw [String.toList_ofList] at isShort
  generalize isRaw : trim (trimStartMatches (· == '@') (trim (String.ofList typed))) = raw
  have rawChars : handleCore (String.ofList typed) = raw.toList := by rw [handleCore, isRaw]
  rw [rawChars] at stripped isShort
  have notEmpty : inner tables.isAlphanumeric typed ≠ [] := hasInner.1.ne_nil
  have rawNotEmpty : raw ≠ "" := by
    rintro rfl
    obtain ⟨-, before, after, shape, -⟩ := stripped
    simp [notEmpty] at shape
  have whole : raw.toList.take maxPrefixChars = raw.toList :=
    List.take_of_length_le (isShort.trans short)
  -- No letter becomes an empty text in lower case.
  have lowered : strToLowercase cases (inner tables.isAlphanumeric typed) ≠ [] := by
    intro none
    have noLength := length_strToLowercase laws (inner tables.isAlphanumeric typed)
    rw [none] at noLength
    exact notEmpty (eq_of_length_flatMap laws (List.nil_prefix) (by simpa using noLength)).symm
  simp only [normalizedPrefixQuery, isRaw, whole, tokenText_eq, stripped.inner_eq, notEmpty,
    if_false, Option.map_some, normalizedKeyword_inner laws hasInner.1]
  simp [rawNotEmpty, lowered]

/-! ## Display names -/

/-- A text that is indexed as it is. -/
theorem term_mem_prefixTerms_iff {text typed : List Char} (isTyped : IsTyped tables text typed) :
    String.ofList (strToLowercase cases (inner tables.isAlphanumeric typed)) ∈
        prefixTerms tables (String.ofList text) ↔
      DisplayNameFits tables cases typed := by
  obtain ⟨c, given, kept⟩ := isTyped.hasAlphanumeric
  have hasInner := hasInner_of_mem given kept
  have mapped : strToLowercase cases (inner tables.isAlphanumeric typed) =
      (inner tables.isAlphanumeric typed).flatMap cases.toLower ↔
      ∀ start rest, inner tables.isAlphanumeric typed = start ++ 'Σ' :: rest →
        finalSigma cases start.reverse rest = false := by
    rw [flatMap_toLower laws.sigma _ [], strToLowercase, lowercaseWith_eq_iff]
    simp only [List.append_nil]
  have isTake : text.take typed.length = typed := (List.prefix_iff_eq_take.mp isTyped.isPrefix).symm
  rw [mem_prefixTerms, DisplayNameFits, laws.charToLowercase]
  constructor
  · rintro ⟨count, -, -, -, notEmpty, short, same⟩
    rw [String.ofList_inj] at same
    -- Both tokens begin with the first alphanumeric character of the text.
    have inText : c ∈ text := isTyped.isPrefix.subset given
    obtain ⟨⟨⟨first, isFirst, firstKept⟩, -⟩, before, after, shape, opens, -⟩ :=
      hasInner_of_mem inText kept
    have startsRest : (inner tables.isAlphanumeric text ++ after).head? = some first := by
      simp [isFirst]
    rw [List.append_assoc] at shape
    have tokenPrefix := inner_take_prefix opens startsRest firstKept typed.length
    have gramPrefix := inner_take_prefix opens startsRest firstKept count
    rw [← shape] at tokenPrefix gramPrefix
    rw [isTake] at tokenPrefix
    have sameLength : ((inner tables.isAlphanumeric typed).flatMap cases.toLower).length =
        ((inner tables.isAlphanumeric (text.take count)).flatMap cases.toLower).length := by
      rw [← length_strToLowercase laws, same]
    have sameToken : inner tables.isAlphanumeric typed =
        inner tables.isAlphanumeric (text.take count) := by
      rcases List.prefix_or_prefix_of_prefix tokenPrefix gramPrefix with isPrefix | isPrefix
      · exact eq_of_length_flatMap laws isPrefix sameLength
      · exact (eq_of_length_flatMap laws isPrefix sameLength.symm).symm
    rw [← sameToken] at short same
    exact ⟨short, mapped.mp same⟩
  · rintro ⟨short, noFinal⟩
    refine ⟨typed.length, isTyped.notEmpty, isTyped.isPrefix.length_le, isTyped.short, ?_⟩
    rw [isTake]
    exact ⟨hasInner.1.ne_nil, short, by rw [mapped.mpr noFinal]⟩

/-! ## Handles -/

/-- What is mapped already is left as it is. -/
theorem lowered_strToLowercase {chars : List Char} {isFinal : List Char → List Char → Bool}
    {before : List Char} :
    ∀ d ∈ lowercaseWith cases isFinal before chars, cases.toLower d = [d] := by
  intro d given
  rcases mem_lowercaseWith given with rfl | rfl | ⟨c, -, mapped⟩
  · exact laws.finalSigma
  · exact laws.lowered 'Σ' 'σ' (by simp [laws.sigma])
  · exact laws.lowered c d mapped

theorem lowercaseWith_other {isFinal : List Char → List Char → Bool} {chars : List Char} :
    ∀ {before : List Char}, (∀ c ∈ chars, tables.isAlphanumeric c = false) →
      lowercaseWith cases isFinal before chars = chars := by
  induction chars with
  | nil =>
    intro before _
    rfl
  | cons c chars ih =>
    intro before others
    have isOther := others c (by simp)
    have notSigma : c ≠ 'Σ' := by
      rintro rfl
      rw [laws.greek 'Σ' (by simp)] at isOther
      cases isOther
    rw [lowercaseWith, ih fun d given => others d (List.mem_cons_of_mem _ given), lowercaseChar,
      if_neg notSigma, laws.other c isOther, List.singleton_append]

theorem head_lowercaseChar {c : Char} (kept : tables.isAlphanumeric c = true) (final : Bool) :
    ∃ d rest, lowercaseChar cases final c = d :: rest ∧ tables.isAlphanumeric d = true := by
  unfold lowercaseChar
  split
  · cases final
    · exact ⟨'σ', [], rfl, laws.greek 'σ' (by simp)⟩
    · exact ⟨'ς', [], rfl, laws.greek 'ς' (by simp)⟩
  · exact laws.begins c kept

/-- The last character of a lowercase mapping is alphanumeric in every context or in none. -/
theorem last_lowercaseChar (final : Bool) (c : Char) :
    (∃ d, (lowercaseChar cases final c).getLast? = some d ∧ tables.isAlphanumeric d = true) ↔
      ∃ d, (cases.toLower c).getLast? = some d ∧ tables.isAlphanumeric d = true := by
  unfold lowercaseChar
  split
  case isTrue isSigma =>
    rw [isSigma, laws.sigma]
    cases final
    · rfl
    · simp [laws.greek 'ς' (by simp), laws.greek 'σ' (by simp)]
  case isFalse => rfl

theorem isInner_lowercaseWith_iff {token before : List Char}
    {isFinal : List Char → List Char → Bool} (isInner : IsInner tables.isAlphanumeric token) :
    IsInner tables.isAlphanumeric (lowercaseWith cases isFinal before token) ↔
      ∃ c d, token.getLast? = some c ∧ (cases.toLower c).getLast? = some d ∧
        tables.isAlphanumeric d = true := by
  obtain ⟨⟨first, isFirst, firstKept⟩, last, isLast, -⟩ := isInner
  obtain ⟨rest, isCons⟩ := List.head?_eq_some_iff.mp isFirst
  obtain ⟨init, isConcat⟩ := List.getLast?_eq_some_iff.mp isLast
  have starts : ∃ d, (lowercaseWith cases isFinal before token).head? = some d ∧
      tables.isAlphanumeric d = true := by
    obtain ⟨d, others, shape, kept⟩ := head_lowercaseChar laws firstKept (isFinal before rest)
    refine ⟨d, ?_, kept⟩
    rw [isCons, lowercaseWith, shape]
    rfl
  -- The last character of the token gives the last one of the mapped text.
  obtain ⟨final, ends⟩ : ∃ final, (lowercaseWith cases isFinal before token).getLast? =
      (lowercaseChar cases final last).getLast? := by
    refine ⟨isFinal (init.reverse ++ before) [], ?_⟩
    have notEmpty : lowercaseChar cases (isFinal (init.reverse ++ before) []) last ≠ [] := by
      unfold lowercaseChar
      split
      · simp
      · exact toLower_ne_nil laws last
    rw [isConcat, lowercaseWith_append, lowercaseWith, lowercaseWith, List.append_nil,
      List.getLast?_append_of_ne_nil _ notEmpty]
  rw [IsInner, ends, last_lowercaseChar laws final last, isLast]
  simp [starts]

/-- Where what is left of a prefix stands in the indexed part of the handle. -/
theorem exists_handleCore {userName : String} {typed : List Char}
    (isTyped : IsTyped tables userName.toList typed) :
    ∃ before after, handleCore userName = before ++ inner tables.isAlphanumeric typed ++ after ∧
      ∀ c ∈ before, tables.isAlphanumeric c = false := by
  obtain ⟨c, given, kept⟩ := isTyped.hasAlphanumeric
  obtain ⟨more, isName⟩ := isTyped.isPrefix
  obtain ⟨tail, whole⟩ := (hasInner_of_mem given kept).append more
  rw [isName] at whole
  obtain ⟨-, before, after, shape, opens, -⟩ := hasInner_strip laws whole
  exact ⟨before, tail ++ after, by rw [shape]; simp, opens⟩

omit laws in
/-- The terms of a text that is in lower case. -/
theorem lowered_mem_prefixTerms_iff (isMapping : tables.charToLowercase = cases.toLower)
    {before within later term : List Char}
    (lowered : ∀ d ∈ before ++ (within ++ later), cases.toLower d = [d])
    (opens : ∀ c ∈ before, tables.isAlphanumeric c = false) {first : Char}
    (isFirst : (within ++ later).head? = some first)
    (firstKept : tables.isAlphanumeric first = true)
    (sameLength : term.length = within.length) (notEmpty : term ≠ []) :
    String.ofList term ∈ prefixTerms tables (String.ofList (before ++ (within ++ later))) ↔
      term = within ∧ (String.ofList term).utf8ByteSize < 80 ∧
        before.length + term.length ≤ maxPrefixChars ∧ IsInner tables.isAlphanumeric term := by
  have unmapped : ∀ count, (inner tables.isAlphanumeric ((before ++ (within ++ later)).take
      count)).flatMap cases.toLower =
      inner tables.isAlphanumeric ((before ++ (within ++ later)).take count) := by
    intro count
    conv => rhs; rw [← List.flatMap_singleton' (inner _ _)]
    apply List.flatMap_congr
    intro d given
    exact lowered d (List.mem_of_mem_take (inner_subset _ given))
  rw [mem_prefixTerms, isMapping]
  simp only [unmapped, String.ofList_inj]
  constructor
  -- A term of the right length that starts within the text is the text.
  · rintro ⟨count, -, -, inGrams, -, short, same⟩
    have someInner := same ▸ notEmpty
    have isPrefix := inner_take_prefix opens isFirst firstKept count
    have inside := length_inner_take opens isFirst firstKept someInner
    have isInner := isInner_inner someInner
    rw [← same] at short isPrefix inside isInner
    have sameTerm : term = within :=
      (List.prefix_of_prefix_length_le isPrefix (List.prefix_append within later)
        sameLength.le).eq_of_length sameLength
    exact ⟨sameTerm, short, by omega, isInner⟩
  -- The prefix that ends with the term has it as its inner part.
  · rintro ⟨rfl, short, inGrams, isInner⟩
    have positive := List.length_pos_iff.mpr notEmpty
    have taken : (before ++ (term ++ later)).take (before.length + term.length) =
        before ++ term := by
      rw [← List.append_assoc, ← List.length_append, List.take_left]
    have isTerm : inner tables.isAlphanumeric (before ++ term) = term :=
      HasInner.inner_eq ⟨isInner, before, [], by simp, opens, by simp⟩
    refine ⟨before.length + term.length, by omega, ?_, inGrams, ?_⟩
    · simp only [List.length_append]
      omega
    · rw [taken, isTerm]
      exact ⟨notEmpty, short, rfl⟩

/-- A text is found in a handle under the mapping of a token of it. -/
theorem token_mem_prefixTerms_iff {before token after : List Char}
    (isInner : IsInner tables.isAlphanumeric token)
    (opens : ∀ c ∈ before, tables.isAlphanumeric c = false) :
    String.ofList (strToLowercase cases token) ∈
        prefixTerms tables (String.ofList (strToLowercase cases (before ++ token ++ after))) ↔
      (∀ start rest, token = start ++ 'Σ' :: rest →
        finalSigma cases start.reverse rest =
          finalSigma cases (start.reverse ++ before.reverse) (rest ++ after)) ∧
      (String.ofList (token.flatMap cases.toLower)).utf8ByteSize < 80 ∧
      before.length + (token.flatMap cases.toLower).length ≤ maxPrefixChars ∧
      ∃ c d, token.getLast? = some c ∧ (cases.toLower c).getLast? = some d ∧
        tables.isAlphanumeric d = true := by
  -- The mapping of the token by itself and in the handle, and that of what follows it.
  set alone := strToLowercase cases token with isAlone
  set within := lowercaseWith cases (fun before' after' => finalSigma cases before'
    (after' ++ after)) before.reverse token with isWithin
  set later := lowercaseWith cases (finalSigma cases) (token.reverse ++ before.reverse) after
    with isLater
  have indexed : strToLowercase cases (before ++ token ++ after) = before ++ (within ++ later) := by
    rw [strToLowercase, lowercaseWith_append, lowercaseWith_append, lowercaseWith_other laws opens,
      List.append_nil, List.append_assoc, List.reverse_append, List.append_nil]
  have agree : alone = within ↔ ∀ start rest, token = start ++ 'Σ' :: rest →
      finalSigma cases start.reverse rest =
        finalSigma cases (start.reverse ++ before.reverse) (rest ++ after) := by
    rw [isAlone, isWithin, strToLowercase, lowercaseWith_eq_iff]
    simp only [List.append_nil]
  have sameLength : alone.length = within.length := length_lowercaseWith token [] before.reverse
  have sameSize : (String.ofList alone).utf8ByteSize =
      (String.ofList (token.flatMap cases.toLower)).utf8ByteSize := by
    rw [flatMap_toLower laws.sigma token []]
    exact utf8ByteSize_lowercaseWith token [] []
  have sameCount : alone.length = (token.flatMap cases.toLower).length :=
    length_strToLowercase laws token
  have lowered : ∀ d ∈ before ++ (within ++ later), cases.toLower d = [d] := by
    rw [← indexed]
    exact lowered_strToLowercase laws
  have notEmpty : alone ≠ [] := by
    intro none
    rw [none] at sameCount
    exact isInner.ne_nil (eq_of_length_flatMap laws List.nil_prefix (by simpa using sameCount)).symm
  have startsWithin : ∃ d, (within ++ later).head? = some d ∧ tables.isAlphanumeric d = true := by
    obtain ⟨⟨first, isFirst, firstKept⟩, -⟩ := isInner
    obtain ⟨rest, isCons⟩ := List.head?_eq_some_iff.mp isFirst
    obtain ⟨d, others, shape, kept⟩ := head_lowercaseChar laws firstKept
      (finalSigma cases before.reverse (rest ++ after))
    refine ⟨d, ?_, kept⟩
    rw [isWithin, isCons, lowercaseWith, shape]
    rfl
  have innerAlone : IsInner tables.isAlphanumeric alone ↔
      ∃ c d, token.getLast? = some c ∧ (cases.toLower c).getLast? = some d ∧
        tables.isAlphanumeric d = true := isInner_lowercaseWith_iff laws isInner
  obtain ⟨d, isFirst, firstKept⟩ := startsWithin
  rw [indexed, lowered_mem_prefixTerms_iff laws.charToLowercase lowered opens isFirst firstKept
    sameLength notEmpty, agree, sameSize, sameCount, innerAlone]

/-! ## Found users -/

variable {record : UserIndexDocument} {name : String} {typed : List Char}

omit laws in
theorem hasPrefixTerm_displayName (isName : record.displayName = some name) (term : String) :
    hasPrefixTerm tables (userDocument tables.toLowercase record) "display_name_prefix" term = true ↔
      term ∈ prefixTerms tables name := by
  cases isHandle : record.userName <;> simp [hasPrefixTerm, userDocument, isName, isHandle]

omit laws in
theorem hasPrefixTerm_userName (isHandle : record.userName = some name) (term : String) :
    hasPrefixTerm tables (userDocument tables.toLowercase record) "user_name_prefix" term = true ↔
      term ∈ prefixTerms tables (normalizedKeyword tables.toLowercase name) := by
  cases isName : record.displayName <;> simp [hasPrefixTerm, userDocument, isName, isHandle]

theorem foundByDisplayName_iff (isName : record.displayName = some name)
    (isTyped : IsTyped tables name.toList typed) :
    FoundByPrefix tables (userDocument tables.toLowercase record) "display_name_prefix" typed ↔
      DisplayNameFits tables cases typed := by
  obtain ⟨c, given, kept⟩ := isTyped.hasAlphanumeric
  have found := term_mem_prefixTerms_iff laws isTyped
  rw [String.ofList_toList] at found
  simp only [FoundByPrefix, normalizedPrefixQuery_typed laws isTyped.short given kept,
    Option.some.injEq, exists_eq_left', hasPrefixTerm_displayName isName, found]

theorem foundByUserName_iff (isHandle : record.userName = some name)
    (isTyped : IsTyped tables name.toList typed) :
    FoundByPrefix tables (userDocument tables.toLowercase record) "user_name_prefix" typed ↔
      HandleFits tables cases name typed := by
  obtain ⟨c, given, kept⟩ := isTyped.hasAlphanumeric
  have isInner := (hasInner_of_mem given kept).1
  have indexed : normalizedKeyword tables.toLowercase name =
      String.ofList (strToLowercase cases (handleCore name)) := laws.toLowercase _
  simp only [FoundByPrefix, normalizedPrefixQuery_typed laws isTyped.short given kept,
    Option.some.injEq, exists_eq_left', hasPrefixTerm_userName isHandle, indexed, HandleFits]
  constructor
  · intro found
    obtain ⟨before, after, shape, opens⟩ := exists_handleCore laws isTyped
    rw [shape, token_mem_prefixTerms_iff laws isInner opens] at found
    exact ⟨before, after, shape, opens, found⟩
  · rintro ⟨before, after, shape, opens, fits⟩
    rw [shape, token_mem_prefixTerms_iff laws isInner opens]
    exact fits

/-- A user is found under a prefix of the display name or of the handle exactly if it fits. -/
theorem found_by_prefix_iff :
    (∀ name typed, record.displayName = some name → IsTyped tables name.toList typed →
      (FoundByPrefix tables (userDocument tables.toLowercase record) "display_name_prefix" typed ↔
        DisplayNameFits tables cases typed)) ∧
    ∀ name typed, record.userName = some name → IsTyped tables name.toList typed →
      (FoundByPrefix tables (userDocument tables.toLowercase record) "user_name_prefix" typed ↔
        HandleFits tables cases name typed) :=
  ⟨fun _ _ isName isTyped => foundByDisplayName_iff laws isName isTyped,
    fun _ _ isHandle isTyped => foundByUserName_iff laws isHandle isTyped⟩

end Terms

/-! ## A name of ideographs -/

def someCases : CaseTables where
  toLower c := if c = 'Σ' then ['σ'] else [c.toLower]
  isCased c := c.isAlpha || c == 'Σ' || c == 'σ' || c == 'ς'
  isCaseIgnorable c := c == '.'

/-- Tables of the Latin letters, the sigma and one ideograph. -/
def someTables : UnicodeTables where
  isAlphanumeric c := c.isAlphanum || decide (c ∈ ['Σ', 'σ', 'ς', '日'])
  toLowercase value := String.ofList (strToLowercase someCases value.toList)
  charToLowercase := someCases.toLower

theorem alphanumeric_someTables {c : Char} :
    someTables.isAlphanumeric c = true ↔ c.isAlphanum = true ∨ c ∈ ['Σ', 'σ', 'ς', '日'] := by
  simp only [someTables, Bool.or_eq_true, decide_eq_true_eq]

theorem isLower_iff {c : Char} :
    c.isLower = true ↔ 97 ≤ c.val.toNat ∧ c.val.toNat ≤ 122 := by
  delta Char.isLower
  rw [Bool.and_eq_true, decide_eq_true_eq, decide_eq_true_eq]
  exact and_congr UInt32.le_iff_toNat_le UInt32.le_iff_toNat_le

theorem isAlphanum_iff {c : Char} :
    c.isAlphanum = true ↔ c.isUpper = true ∨ c.isLower = true ∨ c.isDigit = true := by
  delta Char.isAlphanum Char.isAlpha
  rw [Bool.or_eq_true, Bool.or_eq_true, or_assoc]

theorem toLower_cases (c : Char) : c.toLower = c ∨ c.isUpper = true ∧ c.toLower.isLower = true := by
  by_cases isUpper : 'A'.val ≤ c.val ∧ c.val ≤ 'Z'.val
  · right
    refine ⟨decide_eq_true isUpper, ?_⟩
    have low : 65 ≤ c.val.toNat := UInt32.le_iff_toNat_le.mp isUpper.1
    have high : c.val.toNat ≤ 90 := UInt32.le_iff_toNat_le.mp isUpper.2
    have moved : c.toLower.val.toNat = c.val.toNat + 32 := by
      delta Char.toLower
      rw [dif_pos isUpper]
      change (c.val.toNat + 32) % 2 ^ 32 = c.val.toNat + 32
      omega
    exact isLower_iff.mpr ⟨by omega, by omega⟩
  · left
    delta Char.toLower
    rw [dif_neg isUpper]

theorem toLower_of_isLower {c : Char} (isLower : c.isLower = true) : c.toLower = c := by
  have low := (isLower_iff.mp isLower).1
  have notUpper : ¬ ('A'.val ≤ c.val ∧ c.val ≤ 'Z'.val) := by
    rintro ⟨-, high⟩
    have high : c.val.toNat ≤ 90 := UInt32.le_iff_toNat_le.mp high
    omega
  delta Char.toLower
  rw [dif_neg notUpper]

theorem someTables_laws : LowercaseLaws someTables someCases where
  unicode := {
    ascii := by
      intro c isAscii
      have apart : ∀ c ∈ ['Σ', 'σ', 'ς', '日'], ¬ c.toNat < 128 :=
        List.all_iff_forall_prop.mp (by decide)
      have notListed : c ∉ ['Σ', 'σ', 'ς', '日'] := fun given => apart c given isAscii
      simp only [someTables, notListed, decide_false, Bool.or_false]
    whitespace := by
      intro c isSpace
      have apart : ∀ c ∈ ['Σ', 'σ', 'ς', '日'], ¬ isWhitespace c = true :=
        List.all_iff_forall_prop.mp (by decide)
      have notListed : c ∉ ['Σ', 'σ', 'ς', '日'] := fun given => apart c given isSpace
      simp only [someTables, notListed, decide_false, Bool.or_false]
      exact asciiTables_lawful.whitespace c isSpace }
  charToLowercase := rfl
  toLowercase _ := rfl
  sigma := rfl
  finalSigma := by decide
  greek := List.all_iff_forall_prop.mp (by decide)
  lowered := by
    intro c d given
    by_cases isSigma : c = 'Σ'
    · rw [isSigma] at given
      have isSmall : d = 'σ' := by simpa [someCases] using given
      rw [isSmall]
      decide
    · have isLower : d = c.toLower := by simpa [someCases, isSigma] using given
      rcases toLower_cases c with same | ⟨-, isLetter⟩
      · simp [someCases, isLower, same, isSigma]
      · have notSigma : c.toLower ≠ 'Σ' := by
          intro isSigma
          rw [isSigma] at isLetter
          revert isLetter
          decide
        simp [someCases, isLower, notSigma, toLower_of_isLower isLetter]
  other := by
    intro c notKept
    have notListed : ¬ (c.isAlphanum = true ∨ c ∈ ['Σ', 'σ', 'ς', '日']) := by
      rw [← alphanumeric_someTables]
      simp [notKept]
    have notSigma : c ≠ 'Σ' := fun isSigma => notListed (.inr (by simp [isSigma]))
    rcases toLower_cases c with same | ⟨isUpper, -⟩
    · simp [someCases, notSigma, same]
    · exact absurd (.inl (isAlphanum_iff.mpr (.inl isUpper))) notListed
  begins := by
    intro c kept
    by_cases isSigma : c = 'Σ'
    · exact ⟨'σ', [], by simp [someCases, isSigma], by decide⟩
    · refine ⟨c.toLower, [], by simp [someCases, isSigma], ?_⟩
      rcases toLower_cases c with same | ⟨-, isLower⟩
      · rwa [same]
      · exact alphanumeric_someTables.mpr (.inl (isAlphanum_iff.mpr (.inr (.inl isLower))))

/-- 27 ideographs, which are 81 bytes. -/
def ideographs : List Char := List.replicate 27 '日'

def sunUser : UserIndexDocument := ⟨12, some "Jack", some (String.ofList ideographs), 1775606400000000⟩

theorem isTyped_ideographs : IsTyped someTables ideographs ideographs :=
  ⟨List.prefix_rfl, by decide, by decide, '日', by decide, by decide⟩

theorem found_by_prefix_ja :
    IsTyped someTables "@Jack".toList "@Ja".toList ∧
    (FoundByPrefix someTables (userDocument someTables.toLowercase
        ⟨12, some "@Jack", none, 1775606400000000⟩) "user_name_prefix" "@Ja".toList ↔
      HandleFits someTables someCases "@Jack" "@Ja".toList) :=
  have isTyped : IsTyped someTables "@Jack".toList "@Ja".toList :=
    ⟨by decide, by decide, by decide, 'J', by decide, by decide⟩
  ⟨isTyped, (found_by_prefix_iff someTables_laws).2 _ _ rfl isTyped⟩

/-- A name of 27 ideographs is not found under itself. -/
theorem not_found_ideographs :
    IsTyped someTables ideographs ideographs ∧
    ¬ FoundByPrefix someTables (userDocument someTables.toLowercase sunUser)
      "display_name_prefix" ideographs := by
  refine ⟨isTyped_ideographs, fun found => ?_⟩
  have fits := (foundByDisplayName_iff someTables_laws rfl
    (by simpa [sunUser] using isTyped_ideographs)).mp found
  have long : (String.ofList (inner someTables.isAlphanumeric ideographs)).utf8ByteSize = 81 := by
    decide
  have short := fits.1
  rw [long] at short
  omega

end TweetDb.Search
