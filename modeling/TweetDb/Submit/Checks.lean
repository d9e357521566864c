import Mathlib.Data.List.Forall2
import Mathlib.Data.List.ReduceOption
import TweetDb.Submit.Validate

/-! # What the checks let through

A value that a function of `validate.rs` returns meets its check, and a value
that meets the check is returned as it is.  A number is written as `to_string`
writes it.
-/

namespace TweetDb.Submit

/-- A signed integer of so many bits. -/
def Fits (bits : Nat) (value : Int) : Prop := -2 ^ (bits - 1) ≤ value ∧ value < 2 ^ (bits - 1)

instance (bits : Nat) (value : Int) : Decidable (Fits bits value) :=
  inferInstanceAs (Decidable (_ ∧ _))

theorem fits_of_parseInt {bits : Nat} {value : String} {parsed : Int}
    (ran : parseInt bits value = some parsed) : Fits bits parsed := by
  obtain ⟨signed, _, bounded⟩ := Option.bind_eq_some_iff.mp ran
  split at bounded
  next fits =>
    cases bounded
    exact fits
  next => cases bounded

/-! ## Digits -/

theorem digitValue_of_isDigit {c : Char} (isDigit : c.isDigit = true) :
    digitValue c = some (c.toNat - '0'.toNat) := by
  have bounds : '0'.toNat ≤ c.toNat ∧ c.toNat ≤ '9'.toNat := by
    simp only [Char.isDigit, ge_iff_le, Bool.and_eq_true, decide_eq_true_eq] at isDigit
    exact isDigit
  rw [digitValue, if_pos bounds]

theorem parseDigits_of_isDigit {cs : List Char} (someDigit : cs ≠ [])
    (digits : ∀ c ∈ cs, c.isDigit = true) :
    parseDigits cs = some (Nat.ofDigitChars 10 cs 0) := by
  have folds : ∀ start : Nat, cs.foldlM
      (fun value c => (digitValue c).map fun digit => 10 * value + digit) start =
        some (Nat.ofDigitChars 10 cs start) := by
    clear someDigit
    induction cs with
    | nil => intro start; simp
    | cons c cs inductionHypothesis =>
      intro start
      have first := digitValue_of_isDigit (digits c List.mem_cons_self)
      have later := inductionHypothesis fun c member => digits c (List.mem_cons_of_mem _ member)
      simp [List.foldlM_cons, first, later, Nat.ofDigitChars_cons]
  cases cs with
  | nil => exact absurd rfl someDigit
  | cons c cs => exact folds 0

theorem isDigit_of_mem_repr {value : Nat} {c : Char} (member : c ∈ value.repr.toList) :
    c.isDigit = true := by
  rw [Nat.toList_repr] at member
  exact Nat.isDigit_of_mem_toDigits (by omega) (by omega) member

theorem parseDigits_repr (value : Nat) : parseDigits value.repr.toList = some value := by
  have some_ : value.repr.toList ≠ [] := by simp
  rw [parseDigits_of_isDigit some_ fun c => isDigit_of_mem_repr, Nat.toList_repr,
    Nat.ofDigitChars_ten_toDigits]

/-- Without a sign the text is all digits. -/
theorem parseSigned_of_isDigit {cs : List Char} (digits : ∀ c ∈ cs, c.isDigit = true) :
    parseSigned cs = (parseDigits cs).map fun value => (value : Int) := by
  cases cs with
  | nil => rfl
  | cons c cs =>
    have first := digits c List.mem_cons_self
    unfold parseSigned
    split
    next same =>
      cases same
      simp [Char.isDigit] at first
    next same =>
      cases same
      simp [Char.isDigit] at first
    next => rfl

theorem parseSigned_toString (value : Int) : parseSigned (toString value).toList = some value := by
  rw [Int.toString_eq_repr, Int.repr_eq_if]
  split
  next nonnegative =>
    rw [parseSigned_of_isDigit fun c => isDigit_of_mem_repr, parseDigits_repr]
    simp [nonnegative]
  next negative =>
    have written : ("-" ++ (-value).toNat.repr).toList = '-' :: (-value).toNat.repr.toList := by
      rw [String.toList_append]
      rfl
    have parsed : parseSigned ('-' :: (-value).toNat.repr.toList) =
        some (-((-value).toNat : Int)) := by
      rw [parseSigned, parseDigits_repr]
      rfl
    have absolute : -((-value).toNat : Int) = value := by omega
    rw [written, parsed, absolute]

theorem parseInt_toString {bits : Nat} {value : Int} (fits : Fits bits value) :
    parseInt bits (toString value) = some value := by
  rw [parseInt, parseSigned_toString, Option.bind_some]
  exact if_pos fits

/-! ## Parsed ids -/

theorem parseI64Id_toString {value : Int} (fits : Fits 64 value) (field : String) :
    parseI64Id (toString value) field = .ok value := by
  rw [parseI64Id, parseInt_toString fits]

theorem parseI32Id_toString {value : Int} (fits : Fits 32 value) (field : String) :
    parseI32Id (toString value) field = .ok value := by
  rw [parseI32Id, parseInt_toString fits]

theorem parseInt_of_parseI64Id {value field : String} {parsed : Int}
    (ran : parseI64Id value field = .ok parsed) : parseInt 64 value = some parsed := by
  unfold parseI64Id at ran
  split at ran
  next id isParsed =>
    cases ran
    exact isParsed
  next => cases ran

theorem parseInt_of_parseI32Id {value field : String} {parsed : Int}
    (ran : parseI32Id value field = .ok parsed) : parseInt 32 value = some parsed := by
  unfold parseI32Id at ran
  split at ran
  next id isParsed =>
    cases ran
    exact isParsed
  next => cases ran

theorem fits_of_parseI64Id {value field : String} {parsed : Int}
    (ran : parseI64Id value field = .ok parsed) : Fits 64 parsed :=
  fits_of_parseInt (parseInt_of_parseI64Id ran)

theorem fits_of_parseI32Id {value field : String} {parsed : Int}
    (ran : parseI32Id value field = .ok parsed) : Fits 32 parsed :=
  fits_of_parseInt (parseInt_of_parseI32Id ran)

@[simp] theorem trim_repr (value : Nat) : trim value.repr = value.repr := by
  have solid : ∀ c ∈ value.repr.toList, isWhitespace c = false := by
    intro c member
    have isDigit := isDigit_of_mem_repr member
    simp only [Char.isDigit, ge_iff_le, Bool.and_eq_true, decide_eq_true_eq] at isDigit
    have low : 48 ≤ c.toNat := isDigit.1
    have high : c.toNat ≤ 57 := isDigit.2
    simp [isWhitespace]
    omega
  have start : trimStartMatches isWhitespace value.repr = value.repr := by
    rw [trimStartMatches, List.dropWhile_eq_self_iff.mpr, String.ofList_toList]
    intro positive
    simp [solid]
  rw [trim, start, trimEndMatches, List.rdropWhile_eq_self_iff.mpr, String.ofList_toList]
  intro someDigit
  simp [solid]

/-! ## Sequences of checks -/

section Sequences

variable {α β : Type} {convert : α → Except String β}

theorem mapM_eq_ok {values : List α} {results : List β} :
    values.mapM convert = .ok results ↔
      List.Forall₂ (fun value result => convert value = .ok result) values results := by
  induction values generalizing results with
  | nil =>
    rw [List.mapM_nil, List.forall₂_nil_left_iff]
    exact ⟨fun same => (Except.ok.inj same).symm, fun same => same ▸ rfl⟩
  | cons value values inductionHypothesis =>
    rw [List.mapM_cons]
    constructor
    · intro ran
      obtain ⟨first, isFirst, ran⟩ := bind_eq_ok ran
      obtain ⟨others, areOthers, ran⟩ := bind_eq_ok ran
      cases ran
      exact .cons isFirst (inductionHypothesis.mp areOthers)
    · intro each
      cases each with
      | cons first others =>
        rw [first, inductionHypothesis.mpr others]
        rfl

theorem exists_of_forall₂ {related : α → β → Prop} {values : List α} {results : List β}
    (each : List.Forall₂ related values results) {result : β} (member : result ∈ results) :
    ∃ value ∈ values, related value result := by
  induction each with
  | nil => cases member
  | cons first others inductionHypothesis =>
    rcases List.mem_cons.mp member with rfl | later
    · exact ⟨_, List.mem_cons_self, first⟩
    · obtain ⟨value, isValue, isRelated⟩ := inductionHypothesis later
      exact ⟨value, List.mem_cons_of_mem _ isValue, isRelated⟩

theorem transpose_eq_ok {value : Option α} {result : Option β} :
    transpose convert value = .ok result ↔
      Option.Rel (fun value result => convert value = .ok result) value result := by
  cases value with
  | none =>
    constructor
    · intro ran
      cases ran
      exact .none
    · intro related
      cases related
      rfl
  | some value =>
    constructor
    · intro ran
      obtain ⟨converted, isConverted, rfl⟩ := map_eq_ok ran
      exact .some isConverted
    · intro related
      cases related with
      | some isConverted =>
        rw [transpose, isConverted]
        rfl

end Sequences

/-! ## Bounds -/

theorem ensureNonnegative_eq_ok {field : String} {value : Int} {done : Unit} :
    ensureNonnegative field value = .ok done ↔ 0 ≤ value := by
  unfold ensureNonnegative
  split
  · simp; omega
  · simp; omega

theorem ensurePositive_eq_ok {field : String} {value : Int} {done : Unit} :
    ensurePositive field value = .ok done ↔ 0 < value := by
  unfold ensurePositive
  split
  · simp; omega
  · simp; omega

/-- An optional number that is not negative. -/
def Counts (value : Option Int) : Prop := ∀ number ∈ value, 0 ≤ number

theorem validateOptionalNonnegative_eq_ok {field : String} {value result : Option Int} :
    validateOptionalNonnegative field value = .ok result ↔ result = value ∧ Counts value := by
  cases value with
  | none =>
    constructor
    · intro ran
      cases ran
      exact ⟨rfl, by simp [Counts]⟩
    · rintro ⟨rfl, _⟩
      rfl
  | some number =>
    constructor
    · intro ran
      obtain ⟨done, checked, ran⟩ := bind_eq_ok ran
      cases ran
      refine ⟨rfl, fun other isNumber => ?_⟩
      cases isNumber
      exact ensureNonnegative_eq_ok.mp checked
    · rintro ⟨rfl, counts⟩
      have checked : ensureNonnegative field number = .ok () :=
        ensureNonnegative_eq_ok.mpr (counts number rfl)
      show (ensureNonnegative field number).bind _ = _
      rw [checked]
      rfl

theorem ensureNonnegativeOptions_eq_ok {field : String} {values : List (Option Int)} {done : Unit} :
    ensureNonnegativeOptions field values = .ok done ↔ ∀ value ∈ values, Counts value := by
  have each : ∀ numbers : List Int, numbers.forM (ensureNonnegative field) = .ok done ↔
      ∀ number ∈ numbers, 0 ≤ number := by
    intro numbers
    induction numbers with
    | nil =>
      constructor
      · intro _ number member
        cases member
      · intro _
        rfl
    | cons number numbers inductionHypothesis =>
      rw [List.forall_mem_cons, ← inductionHypothesis]
      constructor
      · intro ran
        obtain ⟨first, checked, ran⟩ := bind_eq_ok ran
        exact ⟨ensureNonnegative_eq_ok.mp checked, ran⟩
      · rintro ⟨nonnegative, ran⟩
        have checked : ensureNonnegative field number = .ok () :=
          ensureNonnegative_eq_ok.mpr nonnegative
        show (ensureNonnegative field number).bind _ = _
        rw [checked]
        exact ran
  rw [ensureNonnegativeOptions, each]
  constructor
  · intro all value member number isNumber
    exact all number (List.reduceOption_mem_iff.mpr (isNumber ▸ member))
  · intro all number member
    exact all _ (List.reduceOption_mem_iff.mp member) number rfl

/-- The range of a part of a text. -/
def InOrder (start stop : Int) : Prop := 0 ≤ start ∧ start ≤ stop

theorem validateRange_eq_ok {range result : SubmitTextRange} {field : String} :
    validateRange range field = .ok result ↔ result = range ∧ InOrder range.start range.stop := by
  constructor
  · intro ran
    obtain ⟨_, start, ran⟩ := bind_eq_ok ran
    obtain ⟨_, stop, ran⟩ := bind_eq_ok ran
    have startNonnegative := ensureNonnegative_eq_ok.mp start
    split at ran
    next => cases ran
    next ordered =>
      cases ran
      exact ⟨rfl, startNonnegative, by omega⟩
  · rintro ⟨rfl, nonnegative, ordered⟩
    have start : ensureNonnegative s!"{field}.start" result.start = .ok () :=
      ensureNonnegative_eq_ok.mpr nonnegative
    have stop : ensureNonnegative s!"{field}.end" result.stop = .ok () :=
      ensureNonnegative_eq_ok.mpr (by omega)
    have inOrder : ¬ result.stop < result.start := by omega
    simp only [validateRange, start, stop, if_neg inOrder, bind, Except.bind, pure, Except.pure]

/-! ## Optional ids -/

/-- An optional id of 64 bits. -/
def FitsId (id : Option Int) : Prop := ∀ value ∈ id, Fits 64 value

theorem fitsId_of_parse {value : Option String} {field : String} {id : Option Int}
    (ran : parseOptionalI64Id value field = .ok id) : FitsId id ∧ id.isSome = value.isSome := by
  have parsed := transpose_eq_ok.mp ran
  cases parsed with
  | none => exact ⟨by simp [FitsId], rfl⟩
  | some isParsed =>
    refine ⟨fun id same => ?_, rfl⟩
    cases same
    exact fits_of_parseI64Id isParsed

theorem parseOptionalI64Id_toString {id : Option Int} (fits : FitsId id) (field : String) :
    parseOptionalI64Id (id.map toString) field = .ok id := by
  cases id with
  | none => rfl
  | some id =>
    rw [Option.map_some, parseOptionalI64Id, transpose, parseI64Id_toString (fits id rfl)]
    rfl

theorem fits_of_parseI64Ids {values : List String} {field : String} {ids : List Int}
    (ran : parseI64Ids values field = .ok ids) :
    (∀ id ∈ ids, Fits 64 id) ∧ ids.length = values.length := by
  have parsed := mapM_eq_ok.mp ran
  refine ⟨fun id member => ?_, parsed.length_eq.symm⟩
  obtain ⟨value, _, isParsed⟩ := exists_of_forall₂ parsed member
  exact fits_of_parseI64Id isParsed

theorem parseI64Ids_toString {ids : List Int} (fits : ∀ id ∈ ids, Fits 64 id) (field : String) :
    parseI64Ids (ids.map toString) field = .ok ids := by
  rw [parseI64Ids, mapM_eq_ok, List.forall₂_map_left_iff, List.forall₂_same]
  exact fun id member => parseI64Id_toString (fits id member) field

/-! ## Counts as texts -/

theorem checked_of_parseOptionalI64String {value : Option String} {field : String}
    {result : Option Int} (ran : parseOptionalI64String value field = .ok result) :
    Counts result ∧ FitsId result := by
  unfold parseOptionalI64String at ran
  split at ran
  next =>
    cases ran
    simp [Counts, FitsId]
  next =>
    cases ran
    simp [Counts, FitsId]
  next value _ _ =>
    obtain ⟨parsed, isParsed, ran⟩ := bind_eq_ok ran
    obtain ⟨rfl, counts⟩ := validateOptionalNonnegative_eq_ok.mp ran
    refine ⟨counts, fun number same => ?_⟩
    cases same
    exact fits_of_parseI64Id isParsed

theorem checked_of_parseOptionalI32String {value : Option String} {field : String}
    {result : Option Int} (ran : parseOptionalI32String value field = .ok result) :
    Counts result ∧ ∀ number ∈ result, Fits 32 number := by
  unfold parseOptionalI32String at ran
  split at ran
  next =>
    cases ran
    simp [Counts]
  next =>
    cases ran
    simp [Counts]
  next value _ _ =>
    obtain ⟨parsed, isParsed, ran⟩ := bind_eq_ok ran
    obtain ⟨rfl, counts⟩ := validateOptionalNonnegative_eq_ok.mp ran
    refine ⟨counts, fun number same => ?_⟩
    cases same
    exact fits_of_parseI32Id isParsed

theorem trim_toString {number : Int} (nonnegative : 0 ≤ number) :
    trim (toString number) = toString number := by
  rw [Int.toString_eq_repr, Int.repr_eq_if, if_pos nonnegative, trim_repr]

theorem toString_ne_empty {number : Int} (nonnegative : 0 ≤ number) : toString number ≠ "" := by
  rw [Int.toString_eq_repr, Int.repr_eq_if, if_pos nonnegative]
  exact Nat.repr_ne_empty

theorem parseOptionalI64String_toString {value : Option Int} (counts : Counts value)
    (fits : FitsId value) (field : String) :
    parseOptionalI64String (value.map toString) field = .ok value := by
  cases value with
  | none => rfl
  | some number =>
    have nonnegative := counts number rfl
    rw [parseOptionalI64String, Option.map_some, Option.map_some, trim_toString nonnegative]
    split
    next absent => cases absent
    next blank => exact absurd (Option.some.inj blank) (toString_ne_empty nonnegative)
    next value _ same =>
      cases same
      rw [parseI64Id_toString (fits number rfl)]
      exact validateOptionalNonnegative_eq_ok.mpr ⟨rfl, counts⟩

theorem parseOptionalI32String_toString {value : Option Int} (counts : Counts value)
    (fits : ∀ number ∈ value, Fits 32 number) (field : String) :
    parseOptionalI32String (value.map toString) field = .ok value := by
  cases value with
  | none => rfl
  | some number =>
    have nonnegative := counts number rfl
    rw [parseOptionalI32String, Option.map_some, Option.map_some, trim_toString nonnegative]
    split
    next absent => cases absent
    next blank => exact absurd (Option.some.inj blank) (toString_ne_empty nonnegative)
    next value _ same =>
      cases same
      rw [parseI32Id_toString (fits number rfl)]
      exact validateOptionalNonnegative_eq_ok.mpr ⟨rfl, counts⟩

end TweetDb.Submit
