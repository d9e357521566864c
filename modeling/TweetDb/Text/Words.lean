import Mathlib.Data.List.Basic
import Mathlib.Data.List.DropRight

/-! # Words

The maximal runs of a list that contain no separator, and what joining them with
a separator gives back.
-/

namespace TweetDb

section Words

variable {α β : Type} {separates : α → Bool}

def words (separates : α → Bool) (values : List α) : List (List α) :=
  (values.splitOnP separates).filter fun word => !word.isEmpty

/-- A part of a list that is not empty, contains no separator and reaches on both sides to a
separator or to the end of the list. -/
def IsWord (separates : α → Bool) (word values : List α) : Prop :=
  word ≠ [] ∧ (∀ value ∈ word, separates value = false) ∧
    ∃ before after, values = before ++ word ++ after ∧
      (∀ value, before.getLast? = some value → separates value = true) ∧
      (∀ value, after.head? = some value → separates value = true)

/-- A list is one run, or a run, a separator and a list. -/
theorem runInduction (separates : α → Bool) {motive : List α → Prop}
    (run : ∀ values, (∀ value ∈ values, separates value = false) → motive values)
    (more : ∀ values separator rest, (∀ value ∈ values, separates value = false) →
      separates separator = true → motive rest → motive (values ++ separator :: rest)) :
    ∀ values, motive values := by
  -- The run that is read so far stands in front of what remains.
  have reading : ∀ rest values, (∀ value ∈ values, separates value = false) →
      motive (values ++ rest) := by
    intro rest
    induction rest with
    | nil =>
      intro values plain
      simpa using run values plain
    | cons value rest ih =>
      intro values plain
      cases isSeparator : separates value with
      | true => exact more values value rest plain isSeparator (ih [] (by simp))
      | false =>
        have extended := ih (values ++ [value]) fun other given => by
          rcases List.mem_append.mp given with given | given
          · exact plain other given
          · rw [List.mem_singleton.mp given]
            exact isSeparator
        simpa using extended
  intro values
  simpa using reading values [] (by simp)

theorem words_append_cons (values rest : List α) {separator : α}
    (isSeparator : separates separator = true) :
    words separates (values ++ separator :: rest) =
      words separates values ++ words separates rest := by
  simp only [words, List.splitOnP_append_cons values rest isSeparator, List.filter_append]

theorem words_run {values : List α} (plain : ∀ value ∈ values, separates value = false) :
    words separates values = if values = [] then [] else [values] := by
  rw [words, List.splitOnP_eq_singleton plain]
  cases values <;> simp

theorem words_of_run {values : List α} (plain : ∀ value ∈ values, separates value = false)
    (notEmpty : values ≠ []) : words separates values = [values] := by
  rw [words_run plain, if_neg notEmpty]

theorem isWord_of_run {values : List α} (plain : ∀ value ∈ values, separates value = false)
    {word : List α} (given : word ∈ words separates values) :
    IsWord separates word values ∧ word = values := by
  by_cases empty : values = []
  · simp [empty, words] at given
  · rw [words_of_run plain empty, List.mem_singleton] at given
    subst given
    exact ⟨⟨empty, plain, [], [], by simp, by simp, by simp⟩, rfl⟩

theorem isWord_of_mem_words {values word : List α} (given : word ∈ words separates values) :
    IsWord separates word values := by
  induction values using runInduction separates with
  | run values plain => exact (isWord_of_run plain given).1
  | more values separator rest plain isSeparator ih =>
    rw [words_append_cons values rest isSeparator, List.mem_append] at given
    rcases given with given | given
    · obtain ⟨⟨notEmpty, -⟩, rfl⟩ := isWord_of_run plain given
      exact ⟨notEmpty, plain, [], separator :: rest, by simp, by simp, by simpa using isSeparator⟩
    · obtain ⟨notEmpty, wordPlain, before, after, rfl, opens, closes⟩ := ih given
      refine ⟨notEmpty, wordPlain, values ++ separator :: before, after, by simp, ?_, closes⟩
      intro value isLast
      rw [List.getLast?_append, List.getLast?_cons] at isLast
      -- The word follows the separator at once, or something of the rest.
      cases last : before.getLast? with
      | none =>
        simp only [last, Option.getD_none, Option.some_or, Option.some.injEq] at isLast
        exact isLast ▸ isSeparator
      | some other =>
        simp only [last, Option.getD_some, Option.some_or, Option.some.injEq] at isLast
        exact opens value (isLast ▸ last)

theorem mem_words_of_isWord {values word : List α} (stands : IsWord separates word values) :
    word ∈ words separates values := by
  obtain ⟨notEmpty, plain, before, after, rfl, opens, closes⟩ := stands
  have closed : word ∈ words separates (word ++ after) := by
    cases after with
    | nil => simp [words_of_run plain notEmpty]
    | cons separator rest =>
      simp [words_append_cons word rest (closes separator rfl), words_of_run plain notEmpty]
  rcases List.eq_nil_or_concat before with rfl | ⟨earlier, separator, rfl⟩
  · simpa using closed
  · have isSeparator : separates separator = true := opens separator (by simp)
    rw [List.concat_eq_append, List.append_assoc, List.append_assoc, List.singleton_append,
      words_append_cons earlier _ isSeparator]
    exact List.mem_append_right _ closed

/-- The words of a list are the words that stand in it. -/
theorem mem_words_iff {values word : List α} :
    word ∈ words separates values ↔ IsWord separates word values :=
  ⟨isWord_of_mem_words, mem_words_of_isWord⟩

theorem words_eq_nil_iff {values : List α} :
    words separates values = [] ↔ ∀ value ∈ values, separates value = true := by
  simp only [words, List.filter_eq_nil_iff, Bool.not_eq_true', Bool.not_eq_false,
    List.isEmpty_iff]
  induction values with
  | nil => simp
  | cons value rest ih =>
    rw [List.splitOnP_cons_eq_if_modifyHead]
    obtain ⟨first, others, split⟩ := List.exists_cons_of_ne_nil (List.splitOnP_ne_nil separates rest)
    cases isSeparator : separates value with
    | true => simpa [isSeparator] using ih
    | false => simp [split, isSeparator]

/-- Separators at the ends of a list do not matter to its words. -/
theorem words_append_of_separates {start : List α} (rest : List α)
    (given : ∀ value ∈ start, separates value = true) :
    words separates (start ++ rest) = words separates rest := by
  induction start with
  | nil => rfl
  | cons separator start ih =>
    have shorter := words_append_cons [] (start ++ rest) (given separator (by simp))
    rw [List.nil_append] at shorter
    rw [List.cons_append, shorter, ih fun value isValue => given value (by simp [isValue])]
    rfl

theorem words_append_separators (values : List α) {rest : List α}
    (given : ∀ value ∈ rest, separates value = true) :
    words separates (values ++ rest) = words separates values := by
  cases rest with
  | nil => rw [List.append_nil]
  | cons separator rest =>
    have none : words separates rest = [] :=
      words_eq_nil_iff.mpr fun value isValue => given value (List.mem_cons_of_mem _ isValue)
    rw [words_append_cons values rest (given separator (by simp)), none, List.append_nil]

variable {drop : α → Bool} (drops : ∀ value, drop value = true → separates value = true)

include drops in
theorem words_dropWhile (values : List α) :
    words separates (values.dropWhile drop) = words separates values := by
  conv => rhs; rw [← List.takeWhile_append_dropWhile (p := drop) (l := values)]
  exact (words_append_of_separates _ fun value given =>
    drops value (List.mem_takeWhile_imp given)).symm

include drops in
theorem words_rdropWhile (values : List α) :
    words separates (values.rdropWhile drop) = words separates values := by
  conv => rhs; rw [← List.rdropWhile_append_rtakeWhile (p := drop) (l := values)]
  exact (words_append_separators _ fun value given =>
    drops value (List.mem_rtakeWhile_imp given)).symm

/-- A map that keeps the separators apart from the others keeps the words. -/
theorem words_map {separates' : β → Bool} {convert : α → β} :
    ∀ values : List α, (∀ value ∈ values, separates' (convert value) = separates value) →
      words separates' (values.map convert) = (words separates values).map (List.map convert) := by
  intro values
  -- The induction is on the words: a last run, or a run, a separator and the rest.
  induction values using runInduction separates with
  | run values plain =>
    intro kept
    rw [words_run plain, words_run]
    · cases values <;> simp
    · intro value given
      obtain ⟨source, isSource, rfl⟩ := List.mem_map.mp given
      rw [kept source isSource, plain source isSource]
  | more values separator rest plain isSeparator ih =>
    intro kept
    have keptSeparator : separates' (convert separator) = true := by
      rw [kept separator (by simp), isSeparator]
    rw [List.map_append, List.map_cons, words_append_cons _ _ keptSeparator,
      words_append_cons _ _ isSeparator, List.map_append, ih fun value given =>
        kept value (by simp [given]), words_run plain, words_run]
    · cases values <;> simp
    · intro value given
      obtain ⟨source, isSource, rfl⟩ := List.mem_map.mp given
      rw [kept source (by simp [isSource]), plain source isSource]

/-! ## Joining words -/

theorem words_intercalate {separator : α} (isSeparator : separates separator = true) :
    ∀ tokens : List (List α), (∀ token ∈ tokens, token ≠ []) →
      (∀ token ∈ tokens, ∀ value ∈ token, separates value = false) →
      words separates ([separator].intercalate tokens) = tokens := by
  intro tokens
  induction tokens with
  | nil => simp [words]
  | cons token others ih =>
    intro notEmpty plain
    have first := words_of_run (plain token (by simp)) (notEmpty token (by simp))
    cases others with
    | nil => simpa using first
    | cons next others =>
      rw [List.intercalate_cons_cons, List.append_assoc, List.singleton_append,
        words_append_cons _ _ isSeparator, first,
        ih (fun other given => notEmpty other (List.mem_cons_of_mem _ given))
          (fun other given => plain other (List.mem_cons_of_mem _ given)), List.singleton_append]

/-- Joining with one separator between the words makes no list longer. -/
theorem length_intercalate_words (separator : α) (values : List α) :
    ([separator].intercalate (words separates values)).length ≤ values.length := by
  induction values using runInduction separates with
  | run values plain =>
    rw [words_run plain]
    split <;> simp
  | more values other rest plain isSeparator ih =>
    rw [words_append_cons _ _ isSeparator, words_run plain, List.length_append, List.length_cons]
    split
    · simp only [List.nil_append]
      omega
    -- A separator between two words was in the list; one that ends it is dropped.
    · by_cases last : words separates rest = []
      · simp [last]
      · rw [List.singleton_append, List.intercalate_cons_of_ne_nil last]
        simp only [List.length_append, List.length_singleton]
        omega

/-- What is joined is as long as its parts are. -/
theorem length_intercalate_map {convert : List α → List α}
    (keepsLength : ∀ token, (convert token).length = token.length) (separator : List α) :
    ∀ tokens : List (List α),
      (separator.intercalate (tokens.map convert)).length =
        (separator.intercalate tokens).length
  | [] => rfl
  | [token] => by simp [keepsLength]
  | token :: next :: others => by
    have rest := length_intercalate_map keepsLength separator (next :: others)
    simp only [List.map_cons] at rest
    simp only [List.map_cons, List.intercalate_cons_cons, List.length_append, keepsLength, rest]

end Words

end TweetDb
