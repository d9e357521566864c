import TweetDb.Query.StyleIds

/-! # The JSON of a browsed tweet

`internal_api/v2/rows.rs`: the browse endpoints rebuild the text column of a
row, which `to_jsonb` gives with the names of the columns, in the shape that
the pages read.
-/

namespace TweetDb.Api

open Json Query Tweet

section Rows

-- The text of a number that is not whole.
variable (formatDouble : Rat → String)

/-- `Value::as_i64`. -/
def asI64 : Value → Option Int
  | .int value => if -2 ^ 63 ≤ value ∧ value < 2 ^ 63 then some value else none
  | _ => none

/-- `object.get(key).cloned().unwrap_or(Value::Null)`. -/
def field (object : Fields) (key : String) : Value := (object.lookup key).getD .null

def rangeFromObject (object : Fields) (startKey endKey : String) : Value :=
  match (object.lookup startKey).bind asI64, (object.lookup endKey).bind asI64 with
  | some start, some stop => .object [("start", .int start), ("end", .int stop)]
  | _, _ => .null

def stringFromValue : Option Value → Value
  | some (.int number) => .string (toString number)
  | some (.double number) => .string (formatDouble number)
  | some (.string value) => .string value
  | _ => .null

def urlEntityJson (object : Fields) : Value := .object [
  ("url", field object "url"),
  ("expandedUrl", field object "expanded_url"),
  ("displayText", field object "display_text"),
  ("range", rangeFromObject object "range_start" "range_end")]

def mentionEntityJson (object : Fields) : Value := .object [
  ("userId", stringFromValue formatDouble (object.lookup "user_id")),
  ("range", rangeFromObject object "range_start" "range_end")]

def mediaEntityJson (object : Fields) : Value := .object [
  ("mediaId", stringFromValue formatDouble (object.lookup "media_id")),
  ("displayText", field object "display_text"),
  ("expandedUrl", field object "expanded_url"),
  ("url", field object "url"),
  ("origin", .object [
    ("tweetId", stringFromValue formatDouble (object.lookup "origin_tweet_id")),
    ("userId", stringFromValue formatDouble (object.lookup "origin_user_id"))]),
  ("range", rangeFromObject object "range_start" "range_end")]

end Rows

end TweetDb.Api
