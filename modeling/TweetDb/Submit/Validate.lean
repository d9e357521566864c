import Mathlib.Algebra.Group.Int.Defs
import Mathlib.Algebra.Group.Nat.Defs
import TweetDb.Submit.Contract
import TweetDb.Text

/-! # Parsing and validation

`validate.rs`.  An error is the text `bad_request` shows.
-/

namespace TweetDb.Submit

/-! ## Integers -/

def digitValue (c : Char) : Option Nat :=
  if '0'.toNat ≤ c.toNat ∧ c.toNat ≤ '9'.toNat then some (c.toNat - '0'.toNat) else none

/-- At least one digit, and nothing else. -/
def parseDigits : List Char → Option Nat
  | [] => none
  | c :: cs => (c :: cs).foldlM (fun value c => (digitValue c).map fun digit => 10 * value + digit) 0

def parseSigned : List Char → Option Int
  | '-' :: cs => (parseDigits cs).map fun value => -(value : Int)
  | '+' :: cs => (parseDigits cs).map fun value => (value : Int)
  | cs => (parseDigits cs).map fun value => (value : Int)

/-- `str::parse` to a signed integer of so many bits. -/
def parseInt (bits : Nat) (value : String) : Option Int :=
  (parseSigned value.toList).bind fun parsed =>
    if -2 ^ (bits - 1) ≤ parsed ∧ parsed < 2 ^ (bits - 1) then some parsed else none

/-- `parse_i64_id`. -/
def parseI64Id (value field : String) : Except String Int :=
  match parseInt 64 value with
  | some id => .ok id
  | none => .error s!"{field} must be a signed 64-bit integer"

/-- `parse_i32_id`. -/
def parseI32Id (value field : String) : Except String Int :=
  match parseInt 32 value with
  | some id => .ok id
  | none => .error s!"{field} must be a signed 32-bit integer"

/-- `parse_i64_ids`. -/
def parseI64Ids (values : List String) (field : String) : Except String (List Int) :=
  values.mapM fun value => parseI64Id value field

/-- `transpose` of an optional conversion. -/
def transpose {α β : Type} (convert : α → Except String β) : Option α → Except String (Option β)
  | none => .ok none
  | some value => (convert value).map some

/-- `parse_optional_i64_id`. -/
def parseOptionalI64Id (value : Option String) (field : String) : Except String (Option Int) :=
  transpose (fun value => parseI64Id value field) value

/-! ## Bounds -/

/-- `ensure_nonnegative`. -/
def ensureNonnegative (field : String) (value : Int) : Except String Unit :=
  if value < 0 then .error s!"{field} must be non-negative" else .ok ()

/-- `ensure_positive`. -/
def ensurePositive (field : String) (value : Int) : Except String Unit :=
  if value ≤ 0 then .error s!"{field} must be positive" else .ok ()

/-- `ensure_nonnegative_options`. -/
def ensureNonnegativeOptions (field : String) (values : List (Option Int)) : Except String Unit :=
  values.reduceOption.forM (ensureNonnegative field)

/-- `validate_optional_nonnegative`. -/
def validateOptionalNonnegative (field : String) (value : Option Int) :
    Except String (Option Int) := do
  value.forM (ensureNonnegative field)
  return value

/-- `parse_optional_i64_string`. -/
def parseOptionalI64String (value : Option String) (field : String) :
    Except String (Option Int) :=
  match value.map trim with
  | none => .ok none
  | some "" => .ok none
  | some value => do
    let parsed ← parseI64Id value field
    validateOptionalNonnegative field (some parsed)

/-- `parse_optional_i32_string`; a parsed value is never too large for the way back. -/
def parseOptionalI32String (value : Option String) (field : String) :
    Except String (Option Int) :=
  match value.map trim with
  | none => .ok none
  | some "" => .ok none
  | some value => do
    let parsed ← parseI32Id value field
    validateOptionalNonnegative field (some parsed)

/-- `validate_range`. -/
def validateRange (range : SubmitTextRange) (field : String) : Except String SubmitTextRange := do
  ensureNonnegative s!"{field}.start" range.start
  ensureNonnegative s!"{field}.end" range.stop
  if range.stop < range.start then
    throw s!"{field}.end must be greater than or equal to {field}.start"
  return range

/-! ## Times -/

/-- `postgres_timestamptz` cuts the nanoseconds off. -/
def postgresTimestamptz (value : OffsetDateTime) : Timestamp := value / 1000

/-- A time sent with its nanoseconds is rounded by the database. -/
def roundedTimestamptz (value : OffsetDateTime) : Timestamp := (value + 500) / 1000

/-! ## Duplicates -/

/-- `collect_last_valid_i64_indices`: the last index with this parsed id. -/
def lastValidIndex {α : Type} (field : String) (id : α → String) (items : List α)
    (parsed : Int) : Option Nat :=
  (items.zipIdx.filter fun item => (parseI64Id (id item.1) field).toOption == some parsed).getLast?.map
    Prod.snd

end TweetDb.Submit
