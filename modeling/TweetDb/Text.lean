import Mathlib.Data.List.DropRight

/-! # Text operations of the standard library -/

namespace TweetDb

/-- `char::is_whitespace`, the `White_Space` property. -/
def isWhitespace (c : Char) : Bool :=
  let code := c.toNat
  (9 ≤ code && code ≤ 13) || code == 0x20 || code == 0x85 || code == 0xA0 || code == 0x1680 ||
    (0x2000 ≤ code && code ≤ 0x200A) || code == 0x2028 || code == 0x2029 || code == 0x202F ||
    code == 0x205F || code == 0x3000

def trimStartMatches (drop : Char → Bool) (value : String) : String :=
  String.ofList (value.toList.dropWhile drop)

def trimEndMatches (drop : Char → Bool) (value : String) : String :=
  String.ofList (value.toList.rdropWhile drop)

/-- `str::trim`. -/
def trim (value : String) : String :=
  trimEndMatches isWhitespace (trimStartMatches isWhitespace value)

/-- A text is trimmed once and for all. -/
theorem trim_trim (value : String) : trim (trim value) = trim value := by
  have stays : ∀ chars : List Char,
      ((chars.dropWhile isWhitespace).rdropWhile isWhitespace).dropWhile isWhitespace =
        (chars.dropWhile isWhitespace).rdropWhile isWhitespace := by
    intro chars
    rw [List.dropWhile_eq_self_iff]
    intro notEmpty
    -- What is left begins with the first character that is no white space.
    have isPrefix : (chars.dropWhile isWhitespace).rdropWhile isWhitespace <+:
        chars.dropWhile isWhitespace := List.rdropWhile_prefix _ _
    rw [isPrefix.getElem notEmpty]
    exact List.dropWhile_get_zero_not _ _ _
  simp only [trim, trimStartMatches, trimEndMatches, String.toList_ofList, stays,
    List.rdropWhile_idempotent]

/-- `str::eq_ignore_ascii_case`. -/
def eqIgnoreAsciiCase (a b : String) : Bool :=
  a.toList.map Char.toLower == b.toList.map Char.toLower

end TweetDb
