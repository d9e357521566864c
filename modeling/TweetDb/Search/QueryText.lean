import Mathlib.Data.Bool.AllAny
import TweetDb.Search.UserQuery
import TweetDb.Text.Words

/-! # The text of a search query

`normalized_query` and the texts it leaves to the query parser.  The parser
itself is Tantivy's; of its grammar only the reserved words are named here.
-/

namespace TweetDb.Search

def maxQueryChars : Nat := 256

/-- What Unicode says of the alphanumeric characters: which of the ASCII characters they are, and
that white space is not among them. -/
structure UnicodeTables.Lawful (tables : UnicodeTables) : Prop where
  ascii : ∀ c : Char, c.toNat < 128 → tables.isAlphanumeric c = c.isAlphanum
  whitespace : ∀ c : Char, isWhitespace c = true → tables.isAlphanumeric c = false

variable (tables : UnicodeTables)

/-! ## Cleaning a query -/

def balanceQuotes (value : List Char) : List Char :=
  if (value.filter fun c => c == '"').length % 2 = 1 then
    value.map fun c => if c == '"' then ' ' else c
  else value

/-- The characters of a token. -/
def isTokenChar (c : Char) : Bool := c == '_' || tables.isAlphanumeric c

def plainChar (c : Char) : Char :=
  if isTokenChar tables c || isWhitespace c then c else ' '

def splitWhitespace (value : List Char) : List String :=
  (words isWhitespace value).map String.ofList

def lowerOperator (token : String) : String :=
  match token with
  | "AND" => "and"
  | "OR" => "or"
  | "NOT" => "not"
  | other => other

def normalizedQuery (rawQuery : Option String) : Option String :=
  match rawQuery.map trim with
  | none => none
  | some raw =>
    if raw.isEmpty then none
    else
      let value := balanceQuotes (raw.toList.take maxQueryChars)
      let normalized := " ".intercalate
        ((splitWhitespace (value.map (plainChar tables))).map lowerOperator)
      if normalized.isEmpty then none else some normalized

/-! ## Plain text -/

/-- The words that the grammar reserves. -/
def reservedWords : List String := ["AND", "OR", "NOT", "IN"]

def IsToken (token : String) : Prop :=
  token ≠ "" ∧ ∀ c ∈ token.toList, isTokenChar tables c = true

def PlainText (text : String) : Prop :=
  text ≠ "" ∧ text.length ≤ maxQueryChars ∧
    ∃ tokens, text = " ".intercalate tokens ∧
      ∀ token ∈ tokens, IsToken tables token ∧ token ∉ reservedWords

/-- The part of a query that is looked at. -/
def queryHead (rawQuery : String) : List Char := (trim rawQuery).toList.take maxQueryChars

/-- The tokens of a text. -/
def queryTokens (value : List Char) : List (List Char) := words (fun c => !isTokenChar tables c) value

/-- A raw query is cleaned: to a plain text that the parser reads and that is left as it is, or to
none, if there is nothing to search for in it. -/
def CleanedPlain {Query : Type} (parseQuery : String → Option Query) (rawQuery : String) : Prop :=
  (∀ text, normalizedQuery tables (some rawQuery) = some text →
    PlainText tables text ∧ (parseQuery text).isSome ∧
      normalizedQuery tables (some text) = some text) ∧
  (normalizedQuery tables (some rawQuery) = none ↔
    ∀ c ∈ queryHead rawQuery, isTokenChar tables c = false)

/-- The parser reads tokens that are not reserved. -/
def ReadsPlainText {Query : Type} (parseQuery : String → Option Query) : Prop :=
  ∀ tokens : List String, tokens ≠ [] →
    (∀ token ∈ tokens, IsToken tables token ∧ token ∉ reservedWords) →
    (parseQuery (" ".intercalate tokens)).isSome

/-! ## What is left of a query -/

section Cleaning

variable {tables} (lawful : tables.Lawful)

include lawful

theorem isTokenChar_plain {c : Char} (isToken : isTokenChar tables c = true) :
    isWhitespace c = false := by
  rcases (Bool.or_eq_true _ _).mp isToken with isLine | isAlphanumeric
  · rw [eq_of_beq isLine]
    decide
  · by_contra isSpace
    rw [lawful.whitespace c (by simpa using isSpace)] at isAlphanumeric
    cases isAlphanumeric

theorem isTokenChar_space : isTokenChar tables ' ' = false := by
  cases isToken : isTokenChar tables ' ' with
  | false => rfl
  | true => exact absurd (isTokenChar_plain lawful isToken) (by decide)

theorem isTokenChar_quote : isTokenChar tables '"' = false := by
  rw [isTokenChar, lawful.ascii '"' (by decide)]
  decide

/-- After the replacement the white space is what does not belong to a token. -/
theorem isWhitespace_plainChar (c : Char) :
    isWhitespace (plainChar tables c) = !isTokenChar tables c := by
  cases isToken : isTokenChar tables c with
  | true => simpa [plainChar, isToken] using isTokenChar_plain lawful isToken
  | false =>
    cases isSpace : isWhitespace c with
    | true => simp [plainChar, isSpace]
    | false =>
      simpa [plainChar, isToken, isSpace] using show isWhitespace ' ' = true by decide

theorem balanceQuotes_plain (value : List Char) :
    (balanceQuotes value).map (plainChar tables) = value.map (plainChar tables) := by
  have quote : plainChar tables '"' = ' ' := by
    rw [plainChar, isTokenChar_quote lawful]
    decide
  have space : plainChar tables ' ' = ' ' := by simp [plainChar]
  rw [balanceQuotes]
  split
  · rw [List.map_map]
    apply List.map_congr_left
    intro c _
    by_cases isQuote : c = '"'
    · simp [isQuote, quote, space]
    · simp [isQuote]
  · rfl

theorem splitWhitespace_plain (value : List Char) :
    splitWhitespace ((balanceQuotes value).map (plainChar tables)) =
      (queryTokens tables value).map String.ofList := by
  rw [splitWhitespace, balanceQuotes_plain lawful,
    words_map value fun c _ => isWhitespace_plainChar lawful c, queryTokens]
  congr 1
  conv => rhs; rw [← List.map_id (words _ value)]
  apply List.map_congr_left
  intro token given
  conv => rhs; rw [id, ← List.map_id token]
  apply List.map_congr_left
  intro c isChar
  have isToken : isTokenChar tables c = true := by
    simpa using (mem_words_iff.mp given).2.1 c isChar
  simp [plainChar, isToken]

omit lawful in
theorem isToken_of_mem_queryTokens {value token : List Char}
    (given : token ∈ queryTokens tables value) : IsToken tables (String.ofList token) := by
  obtain ⟨notEmpty, plain, -⟩ := mem_words_iff.mp given
  refine ⟨by simpa using notEmpty, fun c isChar => ?_⟩
  simpa using plain c (by simpa using isChar)

/-! ## Joined tokens -/

def joinTokens (tokens : List (List Char)) : String :=
  " ".intercalate (tokens.map fun token => lowerOperator (String.ofList token))

omit lawful in
theorem toList_joinTokens (tokens : List (List Char)) :
    (joinTokens tokens).toList =
      [' '].intercalate (tokens.map fun token => (lowerOperator (String.ofList token)).toList) := by
  simp only [joinTokens, String.toList_intercalate, List.map_map]
  rfl

omit lawful in
theorem lowerOperator_cases (token : String) :
    token ∉ ["AND", "OR", "NOT"] ∧ lowerOperator token = token ∨
      (token, lowerOperator token) ∈ [("AND", "and"), ("OR", "or"), ("NOT", "not")] := by
  unfold lowerOperator
  split <;> simp_all

omit lawful in
theorem length_lowerOperator (token : String) : (lowerOperator token).length = token.length := by
  rcases lowerOperator_cases token with ⟨-, same⟩ | operator
  · rw [same]
  · simp only [List.mem_cons, Prod.mk.injEq, List.not_mem_nil, or_false] at operator
    rcases operator with ⟨rfl, lower⟩ | ⟨rfl, lower⟩ | ⟨rfl, lower⟩ <;> rw [lower] <;> decide

omit lawful in
theorem lowerOperator_lowerOperator (token : String) :
    lowerOperator (lowerOperator token) = lowerOperator token := by
  rcases lowerOperator_cases token with ⟨-, same⟩ | operator
  · rw [same, same]
  · simp only [List.mem_cons, Prod.mk.injEq, List.not_mem_nil, or_false] at operator
    rcases operator with ⟨-, lower⟩ | ⟨-, lower⟩ | ⟨-, lower⟩ <;> rw [lower] <;> rfl

theorem isToken_lowerOperator {token : String} (given : IsToken tables token) :
    IsToken tables (lowerOperator token) := by
  have letters : ∀ c : Char, c ∈ ['a', 'n', 'd', 'o', 'r', 't'] → isTokenChar tables c = true := by
    intro c isLetter
    have small : ∀ c ∈ ['a', 'n', 'd', 'o', 'r', 't'], c.toNat < 128 ∧ c.isAlphanum = true :=
      List.all_iff_forall_prop.mp (by decide)
    obtain ⟨isAscii, isAlphanum⟩ := small c isLetter
    simp [isTokenChar, lawful.ascii c isAscii, isAlphanum]
  rcases lowerOperator_cases token with ⟨-, same⟩ | operator
  · rwa [same]
  · simp only [List.mem_cons, Prod.mk.injEq, List.not_mem_nil, or_false] at operator
    rcases operator with ⟨-, lower⟩ | ⟨-, lower⟩ | ⟨-, lower⟩ <;> rw [lower] <;>
      exact ⟨by decide, fun c isChar => letters c
        (List.all_iff_forall_prop.mp (by decide) c isChar)⟩

omit lawful in
/-- Of the reserved words only IN is left. -/
theorem lowerOperator_mem_reservedWords {token : String} :
    lowerOperator token ∈ reservedWords ↔ token = "IN" := by
  rcases lowerOperator_cases token with ⟨other, same⟩ | operator
  · rw [same]
    simp [reservedWords] at other ⊢
    tauto
  · simp only [List.mem_cons, Prod.mk.injEq, List.not_mem_nil, or_false] at operator
    rcases operator with ⟨rfl, lower⟩ | ⟨rfl, lower⟩ | ⟨rfl, lower⟩ <;> rw [lower] <;> decide

/-- The tokens of joined tokens are these tokens. -/
theorem queryTokens_intercalate (tokens : List String)
    (given : ∀ token ∈ tokens, IsToken tables token) :
    queryTokens tables (" ".intercalate tokens).toList = tokens.map String.toList := by
  rw [String.toList_intercalate]
  have separator : (!isTokenChar tables ' ') = true := by simp [isTokenChar_space lawful]
  apply @words_intercalate _ (fun c => !isTokenChar tables c) ' ' separator
  · intro token isMapped
    obtain ⟨source, isSource, rfl⟩ := List.mem_map.mp isMapped
    simpa using (given source isSource).1
  · intro token isMapped c isChar
    obtain ⟨source, isSource, rfl⟩ := List.mem_map.mp isMapped
    simp [(given source isSource).2 c isChar]

theorem queryTokens_joinTokens {value : List Char} :
    queryTokens tables (joinTokens (queryTokens tables value)).toList =
      (queryTokens tables value).map fun token => (lowerOperator (String.ofList token)).toList := by
  rw [joinTokens, queryTokens_intercalate lawful, List.map_map]
  · rfl
  · intro token given
    obtain ⟨source, isSource, rfl⟩ := List.mem_map.mp given
    exact isToken_lowerOperator lawful (isToken_of_mem_queryTokens isSource)

theorem joinTokens_eq_empty_iff {value : List Char} :
    joinTokens (queryTokens tables value) = "" ↔ queryTokens tables value = [] := by
  constructor
  · intro isEmpty
    have tokens := @queryTokens_joinTokens tables lawful value
    rw [isEmpty] at tokens
    exact List.map_eq_nil_iff.mp tokens.symm
  · intro none
    simp [none, joinTokens]

/-- What `normalized_query` computes: the tokens at the head of the query, joined. -/
theorem normalizedQuery_some (rawQuery : String) :
    normalizedQuery tables (some rawQuery) =
      if queryTokens tables (queryHead rawQuery) = [] then none
      else some (joinTokens (queryTokens tables (queryHead rawQuery))) := by
  have cleaned : " ".intercalate ((splitWhitespace ((balanceQuotes ((trim rawQuery).toList.take
      maxQueryChars)).map (plainChar tables))).map lowerOperator) =
      joinTokens (queryTokens tables (queryHead rawQuery)) := by
    rw [splitWhitespace_plain lawful, List.map_map]
    rfl
  simp only [normalizedQuery, Option.map_some, cleaned]
  by_cases blank : trim rawQuery = ""
  · simp [blank, queryHead, queryTokens, words]
  · simp [blank, joinTokens_eq_empty_iff lawful]

theorem normalizedQuery_eq_none_iff (rawQuery : String) :
    normalizedQuery tables (some rawQuery) = none ↔
      ∀ c ∈ queryHead rawQuery, isTokenChar tables c = false := by
  rw [normalizedQuery_some lawful]
  split
  case isTrue none =>
    simpa using words_eq_nil_iff.mp none
  case isFalse found =>
    simpa [queryTokens, words_eq_nil_iff] using found

theorem queryTokens_trim (value : String) :
    queryTokens tables (trim value).toList = queryTokens tables value.toList := by
  have spaces : ∀ c, isWhitespace c = true → (!isTokenChar tables c) = true := by
    intro c isSpace
    cases isToken : isTokenChar tables c with
    | false => rfl
    | true =>
      rw [isTokenChar_plain lawful isToken] at isSpace
      cases isSpace
  simp only [trim, trimStartMatches, trimEndMatches, String.toList_ofList, queryTokens,
    words_rdropWhile spaces, words_dropWhile spaces]

omit lawful in
theorem length_joinTokens (rawQuery : String) :
    (joinTokens (queryTokens tables (queryHead rawQuery))).length ≤ maxQueryChars := by
  have joined : (joinTokens (queryTokens tables (queryHead rawQuery))).length ≤
      (queryHead rawQuery).length := by
    rw [← String.length_toList, toList_joinTokens, length_intercalate_map]
    · exact length_intercalate_words ' ' (queryHead rawQuery)
    · intro token
      rw [String.length_toList, length_lowerOperator, String.length_ofList]
  have head : (queryHead rawQuery).length ≤ maxQueryChars := by simp [queryHead]
  omega

omit lawful in
theorem queryHead_of_short {text : String} (short : text.length ≤ maxQueryChars) :
    queryHead text = (trim text).toList := by
  have trimmed : (trim text).toList.length ≤ text.toList.length := by
    simp only [trim, trimStartMatches, trimEndMatches, String.toList_ofList]
    exact ((List.rdropWhile_prefix _ _).length_le).trans (List.dropWhile_suffix _).length_le
  rw [String.length_toList] at trimmed
  exact List.take_of_length_le (trimmed.trans short)

/-- The tokens of a cleaned query are those of the query, the operators lower-cased. -/
theorem queryTokens_cleaned (rawQuery : String) :
    queryTokens tables (queryHead (joinTokens (queryTokens tables (queryHead rawQuery)))) =
      (queryTokens tables (queryHead rawQuery)).map fun token =>
        (lowerOperator (String.ofList token)).toList := by
  rw [queryHead_of_short (length_joinTokens rawQuery), queryTokens_trim lawful,
    queryTokens_joinTokens lawful]

omit lawful in
theorem joinTokens_lower (tokens : List (List Char)) :
    joinTokens (tokens.map fun token => (lowerOperator (String.ofList token)).toList) =
      joinTokens tokens := by
  simp only [joinTokens, List.map_map, Function.comp_def, String.ofList_toList,
    lowerOperator_lowerOperator]

theorem normalizedQuery_cleaned {rawQuery : String}
    (found : queryTokens tables (queryHead rawQuery) ≠ []) :
    normalizedQuery tables (some (joinTokens (queryTokens tables (queryHead rawQuery)))) =
      some (joinTokens (queryTokens tables (queryHead rawQuery))) := by
  rw [normalizedQuery_some lawful, queryTokens_cleaned lawful, if_neg (by simpa using found),
    joinTokens_lower]

/-- A token stays one of the reserved words if and only if it is IN. -/
theorem plainText_cleaned_iff {rawQuery : String}
    (found : queryTokens tables (queryHead rawQuery) ≠ []) :
    PlainText tables (joinTokens (queryTokens tables (queryHead rawQuery))) ↔
      ['I', 'N'] ∉ queryTokens tables (queryHead rawQuery) := by
  constructor
  · rintro ⟨-, -, tokens, isText, plain⟩ reserved
    -- Both lists of tokens give the same text, so they are the same.
    have same := queryTokens_intercalate lawful tokens fun token given => (plain token given).1
    rw [← isText, queryTokens_joinTokens lawful] at same
    have stays : ['I', 'N'] ∈ tokens.map String.toList := by
      rw [← same]
      exact List.mem_map.mpr ⟨['I', 'N'], reserved, by decide⟩
    obtain ⟨token, given, isReserved⟩ := List.mem_map.mp stays
    have isIn : token = "IN" := String.toList_inj.mp isReserved
    exact (plain token given).2 (by simp [isIn, reservedWords])
  · intro unreserved
    refine ⟨by simpa [joinTokens_eq_empty_iff lawful] using found, length_joinTokens rawQuery,
      _, rfl, fun token given => ?_⟩
    obtain ⟨source, isSource, rfl⟩ := List.mem_map.mp given
    refine ⟨isToken_lowerOperator lawful (isToken_of_mem_queryTokens isSource), ?_⟩
    rw [lowerOperator_mem_reservedWords]
    intro isIn
    have isLetters : source = ['I', 'N'] := by simpa using congrArg String.toList isIn
    exact unreserved (isLetters ▸ isSource)

/-- A query is cleaned as it should be unless IN stands in it as a token. -/
theorem cleanedPlain_iff {Query : Type} {parseQuery : String → Option Query}
    (reads : ReadsPlainText tables parseQuery) (rawQuery : String) :
    CleanedPlain tables parseQuery rawQuery ↔
      ¬ IsWord (fun c => !isTokenChar tables c) ['I', 'N'] (queryHead rawQuery) := by
  rw [← mem_words_iff]
  -- Without a token there is no cleaned text, and IN is none of them.
  by_cases found : queryTokens tables (queryHead rawQuery) = []
  · have none : normalizedQuery tables (some rawQuery) = none := by
      rw [normalizedQuery_some lawful, if_pos found]
    rw [queryTokens] at found
    simp [CleanedPlain, ← normalizedQuery_eq_none_iff lawful, none, found]
  · have cleaned : normalizedQuery tables (some rawQuery) =
        some (joinTokens (queryTokens tables (queryHead rawQuery))) := by
      rw [normalizedQuery_some lawful, if_neg found]
    constructor
    · rintro ⟨plain, -⟩
      exact (plainText_cleaned_iff lawful found).mp (plain _ cleaned).1
    -- The parser reads what is joined because none of the tokens is a reserved word.
    · intro unreserved
      refine ⟨fun text isText => ?_, normalizedQuery_eq_none_iff lawful rawQuery⟩
      obtain rfl := Option.some.inj (cleaned.symm.trans isText)
      have plain := (plainText_cleaned_iff lawful found).mpr unreserved
      obtain ⟨notEmpty, -, tokens, joined, given⟩ := id plain
      refine ⟨plain, ?_, normalizedQuery_cleaned lawful found⟩
      rw [joined]
      refine reads tokens ?_ given
      rintro rfl
      exact notEmpty (by simpa using joined)

end Cleaning

/-! ## A query of ASCII words -/

theorem asciiTables_lawful : asciiTables.Lawful where
  ascii _ _ := rfl
  whitespace c isSpace := by
    cases isLetter : c.isAlphanum with
    | false => exact isLetter
    | true =>
      -- The letters and the white space are apart as numbers.
      delta Char.isAlphanum Char.isAlpha Char.isUpper Char.isLower Char.isDigit at isLetter
      simp only [Bool.or_eq_true, Bool.and_eq_true, decide_eq_true_eq,
        UInt32.le_iff_toNat_le] at isLetter
      simp only [isWhitespace, Char.toNat, Bool.or_eq_true, Bool.and_eq_true, decide_eq_true_eq,
        beq_iff_eq] at isSpace
      simp at isLetter isSpace
      omega

/-- A parser of conjunctions of words. -/
def conjunctionParser (text : String) : Option (List String) :=
  let tokens := splitWhitespace text.toList
  if tokens.any fun token => decide (token ∈ reservedWords) then none else some tokens

theorem conjunctionParser_reads : ReadsPlainText asciiTables conjunctionParser := by
  intro tokens _ given
  have split : words isWhitespace ([' '].intercalate (tokens.map String.toList)) =
      tokens.map String.toList := by
    apply @words_intercalate _ isWhitespace ' ' (by decide)
    · intro token isMapped
      obtain ⟨source, isSource, rfl⟩ := List.mem_map.mp isMapped
      simpa using (given source isSource).1.1
    · intro token isMapped c isChar
      obtain ⟨source, isSource, rfl⟩ := List.mem_map.mp isMapped
      exact isTokenChar_plain asciiTables_lawful ((given source isSource).1.2 c isChar)
  -- A token has no white space, so splitting what was joined gives the tokens back.
  have parts : splitWhitespace (" ".intercalate tokens).toList = tokens := by
    rw [splitWhitespace, String.toList_intercalate, show " ".toList = [' '] from rfl, split]
    simp [Function.comp_def]
  have unreserved : (tokens.any fun token => decide (token ∈ reservedWords)) = false := by
    simpa using fun token isToken => (given token isToken).2
  rw [conjunctionParser, parts, unreserved]
  rfl

theorem cleanedPlain_iff_title :
    CleanedPlain asciiTables conjunctionParser "rust AND (tokyo)" ↔
      ¬ IsWord (fun c => !isTokenChar asciiTables c) ['I', 'N'] (queryHead "rust AND (tokyo)") :=
  cleanedPlain_iff asciiTables_lawful conjunctionParser_reads "rust AND (tokyo)"

/-- The word IN is left as it is, and no query. -/
theorem not_cleanedPlain_in : ¬ CleanedPlain asciiTables conjunctionParser "IN" := by
  rintro ⟨plain, -⟩
  have kept : normalizedQuery asciiTables (some "IN") = some "IN" := by decide
  have parsed : (conjunctionParser "IN").isSome := (plain "IN" kept).2.1
  exact absurd parsed (by decide)

end TweetDb.Search
