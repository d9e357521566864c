import Mathlib.Data.List.Forall2
import Mathlib.Data.Option.Basic
import Mathlib.Data.Rat.Defs

/-! # JSON values and their decoding

A decoder reads a value or fails.  The combinators are the ways a field of a
record can be read: one that must be there, one that may be absent or null, and
one with a default that a null does not stand for.  Each comes with what it
reads where an encoder has written.
-/

namespace Json

inductive Value where
  | null
  | bool (value : Bool)
  | int (value : Int)
  | double (value : Rat)
  | string (value : String)
  | array (items : List Value)
  | object (fields : List (String × Value))

abbrev Fields := List (String × Value)

abbrev Decoder (α : Type) := Value → Option α

/-! ## Encoding -/

section Encode

variable {α : Type}

/-- `None` is written as null. -/
def nullOr (encode : α → Value) : Option α → Value
  | none => .null
  | some value => encode value

@[simp] theorem nullOr_none (encode : α → Value) : nullOr encode none = .null := rfl

@[simp] theorem nullOr_some (encode : α → Value) (value : α) :
    nullOr encode (some value) = encode value := rfl

def list (encode : α → Value) (values : List α) : Value := .array (values.map encode)

end Encode

/-! ## Decoding -/

section Decode

variable {α : Type}

def text : Decoder String
  | .string value => some value
  | _ => none

def boolean : Decoder Bool
  | .bool value => some value
  | _ => none

def integer : Decoder Int
  | .int value => some value
  | _ => none

/-- A whole number is a number too. -/
def number : Decoder Rat
  | .int value => some value
  | .double value => some value
  | _ => none

def items (decode : Decoder α) : Decoder (List α)
  | .array values => values.mapM decode
  | _ => none

def record (decode : Fields → Option α) : Decoder α
  | .object fields => decode fields
  | _ => none

def nullable (decode : Decoder α) : Decoder (Option α)
  | .null => some none
  | value => (decode value).map some

section Field

variable (decode : Decoder α) (name : String) (fields : Fields)

def required : Option α := (fields.lookup name).bind decode

/-- An absent field is read as null. -/
def optional : Option (Option α) := nullable decode ((fields.lookup name).getD .null)

/-- Only an absent field is read as the default. -/
def defaulted (default : α) : Option α :=
  match fields.lookup name with
  | none => some default
  | some value => decode value

/-- A list that may be absent. -/
def listed : Option (List α) := defaulted (items decode) name fields []

/-- A field with an alias; both names at once are a duplicate. -/
def optionalAlias (other : String) : Option (Option α) :=
  match fields.lookup name, fields.lookup other with
  | some _, some _ => none
  | none, some value => nullable decode value
  | some value, none => nullable decode value
  | none, none => some none

def requiredAlias (other : String) : Option α :=
  match fields.lookup name, fields.lookup other with
  | some _, some _ => none
  | none, some value => decode value
  | some value, none => decode value
  | none, none => none

end Field

end Decode

/-! ## Reading what was written -/

section Written

variable {α β : Type} {decode : Decoder β} {same : α → β → Prop}

@[simp] theorem text_string (value : String) : text (.string value) = some value := rfl

@[simp] theorem boolean_bool (value : Bool) : boolean (.bool value) = some value := rfl

@[simp] theorem integer_int (value : Int) : integer (.int value) = some value := rfl

@[simp] theorem number_double (value : Rat) : number (.double value) = some value := rfl

@[simp] theorem record_object (decode : Fields → Option α) (fields : Fields) :
    record decode (.object fields) = decode fields := rfl

@[simp] theorem nullable_null (decode : Decoder α) : nullable decode .null = some none := rfl

theorem nullable_of_some (rejects : decode .null = none) {written : Value} {item : β}
    (read : decode written = some item) : nullable decode written = some (some item) := by
  cases written with
  | null =>
    rw [rejects] at read
    cases read
  | _ => simp [nullable, read]

theorem nullable_nullOr (rejects : decode .null = none) {encode : α → Value} {item : α → β}
    {value : Option α} (read : ∀ part ∈ value, decode (encode part) = some (item part)) :
    nullable decode (nullOr encode value) = some (value.map item) := by
  cases value with
  | none => rfl
  | some value => exact nullable_of_some rejects (read value rfl)

@[simp] theorem nullable_text_nullOr (value : Option String) :
    nullable text (nullOr .string value) = some value := by
  cases value <;> rfl

@[simp] theorem nullable_boolean_nullOr (value : Option Bool) :
    nullable boolean (nullOr .bool value) = some value := by
  cases value <;> rfl

@[simp] theorem nullable_integer_nullOr (value : Option Int) :
    nullable integer (nullOr .int value) = some value := by
  cases value <;> rfl

theorem items_list {encode : α → Value} {decode : Decoder α}
    (read : ∀ value, decode (encode value) = some value) (values : List α) :
    items decode (list encode values) = some values := by
  show (values.map encode).mapM decode = some values
  induction values with
  | nil => rfl
  | cons value values inductionHypothesis => simp [read, inductionHypothesis]

@[simp] theorem items_text_list (values : List String) :
    items text (list .string values) = some values :=
  items_list text_string values

/-- What is written is read as an item that stands for the value. -/
def Reads (decode : Decoder β) (same : α → β → Prop) (value : α) (written : Value) : Prop :=
  ∃ item, decode written = some item ∧ same value item

theorem reads_none : Reads (nullable decode) (Option.Rel same) none .null :=
  ⟨none, rfl, .none⟩

theorem Reads.nullable (rejects : decode .null = none) {value : α} {written : Value}
    (reads : Reads decode same value written) :
    Reads (nullable decode) (Option.Rel same) (some value) written := by
  obtain ⟨item, read, isSame⟩ := reads
  exact ⟨some item, nullable_of_some rejects read, .some isSame⟩

theorem reads_nullOr (rejects : decode .null = none) {encode : α → Value} {value : Option α}
    (reads : ∀ present ∈ value, Reads decode same present (encode present)) :
    Reads (Json.nullable decode) (Option.Rel same) value (nullOr encode value) := by
  cases value with
  | none => exact reads_none
  | some value => exact (reads value rfl).nullable rejects

theorem reads_items {values : List α} {writtens : List Value}
    (reads : List.Forall₂ (Reads decode same) values writtens) :
    Reads (items decode) (List.Forall₂ same) values (.array writtens) := by
  induction reads with
  | nil => exact ⟨[], rfl, .nil⟩
  | cons first rest inductionHypothesis =>
    obtain ⟨item, read, isSame⟩ := first
    obtain ⟨others, readOthers, areSame⟩ := inductionHypothesis
    refine ⟨item :: others, ?_, .cons isSame areSame⟩
    simp only [items] at readOthers
    simp [items, read, readOthers]

theorem reads_list {encode : α → Value} {values : List α}
    (reads : ∀ value ∈ values, Reads decode same value (encode value)) :
    Reads (items decode) (List.Forall₂ same) values (list encode values) := by
  apply reads_items
  rw [List.forall₂_map_right_iff, List.forall₂_same]
  exact reads

end Written

end Json
