import TweetDb.Paging.Follow
import TweetDb.Submit.Validate

/-! # Shared parts of the list endpoints

`internal_api/v2/common.rs`: limits, filters and cursors.
-/

namespace TweetDb.Api

open Submit (parseInt)

/-- `AppError`, as far as a list request meets it. -/
inductive ApiError where
  | badRequest (message : String)
  | serviceUnavailable (message : String)
  | search (message : String)
  | database
deriving DecidableEq, Repr

structure ListQuery where
  cursor : Option String
  limit : Option Nat
  q : Option String
deriving DecidableEq, Repr

def defaultLimit : Nat := 50

def maxLimit : Nat := 100

def cursorVersion : Nat := 1

/-- `value.unwrap_or(DEFAULT_LIMIT).clamp(1, MAX_LIMIT)`. -/
def resolveLimit (value : Option Nat) : Nat :=
  max 1 (min (value.getD defaultLimit) maxLimit)

theorem resolveLimit_pos (value : Option Nat) : 0 < resolveLimit value := by
  simp only [resolveLimit]
  omega

theorem resolveLimit_le (value : Option Nat) : resolveLimit value ≤ maxLimit := by
  simp only [resolveLimit, maxLimit]
  omega

/-- The largest `usize`. -/
def usizeMax : Nat := 2 ^ 64 - 1

def saturatingAdd (a b : Nat) : Nat := min (a + b) usizeMax

def saturatingMul (a b : Nat) : Nat := min (a * b) usizeMax

theorem saturatingAdd_of_le {a b : Nat} (small : a + b ≤ usizeMax) : saturatingAdd a b = a + b :=
  Nat.min_eq_left small

theorem resolveLimit_succ_le (value : Option Nat) : resolveLimit value + 1 ≤ usizeMax := by
  have small := resolveLimit_le value
  simp only [maxLimit, usizeMax] at small ⊢
  omega

/-- A resolved limit is too small for the sum to saturate. -/
theorem saturatingAdd_resolveLimit (value : Option Nat) :
    saturatingAdd (resolveLimit value) 1 = resolveLimit value + 1 :=
  saturatingAdd_of_le (resolveLimit_succ_le value)

def normalizeQuery (raw : Option String) : Option String :=
  (raw.map trim).filter fun value => !value.isEmpty

def toAsciiLowercase (value : String) : String :=
  String.ofList (value.toList.map Char.toLower)

def normalizeTweetRelation (raw : Option String) : Except ApiError String :=
  let value := toAsciiLowercase (trim (raw.getD "all"))
  if value ∈ ["all", "original", "reply", "quote", "repost"] then .ok value
  else .error (.badRequest "relation must be one of all, original, reply, quote, repost")

def prefixPattern (value : Option String) : Option String :=
  value.map fun value => value ++ "%"

def parseOptionalI64 (value : Option String) (field : String) : Except ApiError (Option Int) :=
  match (value.map trim).filter fun value => !value.isEmpty with
  | none => .ok none
  | some value =>
    match parseInt 64 value with
    | some parsed => .ok (some parsed)
    | none => .error (.badRequest s!"{field} must be a signed 64-bit integer")

/-! ## Text in SQL -/

/-- `text LIKE pattern`: `%` is any text, `_` any character, a backslash quotes the next one. -/
def likeChars : List Char → List Char → Bool
  | [], text => text.isEmpty
  | '%' :: pattern, text => text.tails.any (likeChars pattern)
  | '_' :: pattern, _ :: text => likeChars pattern text
  | '\\' :: quoted :: pattern, c :: text => decide (quoted = c) && likeChars pattern text
  | expected :: pattern, c :: text => decide (expected = c) && likeChars pattern text
  | _ :: _, [] => false

def like (text pattern : String) : Bool :=
  likeChars pattern.toList text.toList

/-- A text parameter with U+0000 is refused by the database. -/
def isSqlText (value : String) : Bool :=
  value.toList.all fun c => c != '\x00'

/-! ## Cursors -/

/-- `encode_cursor` and `decode_cursor`: JSON with RFC 3339 times, in base64. -/
structure CursorCodec (κ : Type) where
  encodeCursor : κ → Except ApiError String
  decodeCursor : String → Except ApiError κ

/-- The cursor is encoded, and decoding gives it back. -/
def CursorCodec.Survives {κ : Type} (codec : CursorCodec κ) (cursor : κ) : Prop :=
  ∃ text, codec.encodeCursor cursor = .ok text ∧ codec.decodeCursor text = .ok cursor

theorem CursorCodec.Survives.decode {κ : Type} {codec : CursorCodec κ} {cursor : κ}
    {text : String} (survives : codec.Survives cursor)
    (encoded : codec.encodeCursor cursor = .ok text) : codec.decodeCursor text = .ok cursor := by
  obtain ⟨text', encoded', decoded⟩ := survives
  rw [encoded] at encoded'
  cases encoded'
  exact decoded

def ensureCursorVersion (version : Nat) : Except ApiError Unit :=
  if version = cursorVersion then .ok () else .error (.badRequest "unsupported cursor version")

def ensureFilterMatch (cursorValue requestValue : Option String) (message : String) :
    Except ApiError Unit :=
  if cursorValue = requestValue then .ok () else .error (.badRequest message)

end TweetDb.Api
