import Mathlib.Data.List.Basic
import Mathlib.Data.Nat.ModEq
import TweetDb.Basic

/-! # The text of an identifier

`Uuid`'s `Display`: 32 hexadecimal digits in groups.  Without the hyphens the
text is the number in base 16, so it determines the identifier.
-/

namespace TweetDb

/-! ## Hexadecimal digits -/

/-- The last `count` digits in base 16, in lower case. -/
def hexDigits : Nat → Nat → List Char
  | 0, _ => []
  | count + 1, n => hexDigits count (n / 16) ++ [Nat.digitChar (n % 16)]

theorem digitChar_injective {a b : Nat} (boundA : a < 16) (boundB : b < 16)
    (same : Nat.digitChar a = Nat.digitChar b) : a = b := by
  have apart : ∀ a b : Fin 16, Nat.digitChar a = Nat.digitChar b → a = b := by decide
  simpa using apart ⟨a, boundA⟩ ⟨b, boundB⟩ same

theorem isAlphanum_hexDigits {count n : Nat} :
    ∀ c ∈ hexDigits count n, c.isAlphanum = true := by
  have digit : ∀ a : Fin 16, (Nat.digitChar a).isAlphanum = true := by decide
  induction count generalizing n with
  | zero => simp [hexDigits]
  | succ count inductionHypothesis =>
    intro c present
    rcases List.mem_append.mp present with earlier | last
    · exact inductionHypothesis c earlier
    · rw [List.mem_singleton.mp last]
      exact digit ⟨n % 16, Nat.mod_lt _ (by omega)⟩

/-- The digits determine the number up to what they leave out. -/
theorem hexDigits_injective {count n m : Nat} (same : hexDigits count n = hexDigits count m) :
    n % 16 ^ count = m % 16 ^ count := by
  induction count generalizing n m with
  | zero => simp [Nat.mod_one]
  | succ count inductionHypothesis =>
    obtain ⟨earlier, last⟩ := List.append_inj' same rfl
    have lastDigit : n % 16 = m % 16 := by
      apply digitChar_injective (Nat.mod_lt _ (by omega)) (Nat.mod_lt _ (by omega))
      simpa using last
    rw [Nat.pow_succ', Nat.mod_mul, Nat.mod_mul, lastDigit, inductionHypothesis earlier]

theorem hexDigits_add (first second n : Nat) :
    hexDigits (first + second) n = hexDigits first (n / 16 ^ second) ++ hexDigits second n := by
  induction second generalizing n with
  | zero => simp [hexDigits]
  | succ second inductionHypothesis =>
    show hexDigits (first + second) (n / 16) ++ _ = _
    rw [inductionHypothesis, Nat.div_div_eq_div_mul, ← Nat.pow_succ']
    simp [hexDigits]

/-! ## Identifiers -/

/-- Groups of 8, 4, 4, 4 and 12 digits. -/
def uuidText (id : Uuid) : String :=
  String.ofList (hexDigits 8 (id / 16 ^ 24) ++ '-' :: (hexDigits 4 (id / 16 ^ 20) ++
    '-' :: (hexDigits 4 (id / 16 ^ 16) ++ '-' :: (hexDigits 4 (id / 16 ^ 12) ++
      '-' :: hexDigits 12 id))))

example : uuidText 0x0195f1df07307f699a92cd8e4eb4d001 = "0195f1df-0730-7f69-9a92-cd8e4eb4d001" := by
  decide

theorem isAlphanum_uuidText {id : Uuid} {c : Char} (present : c ∈ (uuidText id).toList) :
    c.isAlphanum = true ∨ c = '-' := by
  simp only [uuidText, String.toList_ofList, List.mem_append, List.mem_cons] at present
  -- Every character stands in one of the five groups or is one of the four hyphens.
  rcases present with group | hyphen | group | hyphen | group | hyphen | group | hyphen | group
  all_goals first
    | exact .inr hyphen
    | exact .inl (isAlphanum_hexDigits c group)

theorem uuidText_digits (id : Uuid) :
    (uuidText id).toList.filter (fun c => c.isAlphanum) = hexDigits 32 id := by
  have whole : ∀ count n, (hexDigits count n).filter (fun c => c.isAlphanum) =
      hexDigits count n := fun count n => List.filter_eq_self.mpr isAlphanum_hexDigits
  have hyphen : '-'.isAlphanum = false := by decide
  have groups : hexDigits 32 id = hexDigits 8 (id / 16 ^ 24) ++ (hexDigits 4 (id / 16 ^ 20) ++
      (hexDigits 4 (id / 16 ^ 16) ++ (hexDigits 4 (id / 16 ^ 12) ++ hexDigits 12 id))) := by
    rw [hexDigits_add 8 24, hexDigits_add 4 20, hexDigits_add 4 16, hexDigits_add 4 12]
  rw [groups]
  simp [uuidText, List.filter_append, whole, hyphen]

theorem uuidText_injective {a b : Uuid} (boundA : a < 2 ^ 128) (boundB : b < 2 ^ 128)
    (same : uuidText a = uuidText b) : a = b := by
  have digits : hexDigits 32 a = hexDigits 32 b := by
    rw [← uuidText_digits, ← uuidText_digits, same]
  have sameNumber := hexDigits_injective digits
  rwa [Nat.mod_eq_of_lt (by omega), Nat.mod_eq_of_lt (by omega)] at sameNumber

end TweetDb
