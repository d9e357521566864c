import Mathlib.Data.List.Perm.Basic

/-! # Pages of a ranking

A search that is given a limit and an offset, and reads from one and the same
order of what matches.
-/

namespace Paging

universe u

variable {α : Type u} {ranked matching : List α} {limit offset : Nat} {element : α}

/-- What a limit and an offset leave of an order. -/
def window (ranked : List α) (limit offset : Nat) : List α :=
  (ranked.drop offset).take limit

/-- Every limit and offset reads from the same order of what matches. -/
def Ranks (top : Nat → Nat → List α) (matching : List α) : Prop :=
  ∃ ranked : List α, ranked.Perm matching ∧
    ∀ limit offset, top limit offset = window ranked limit offset

theorem mem_of_mem_window (member : element ∈ window ranked limit offset) : element ∈ ranked :=
  List.mem_of_mem_drop (List.mem_of_mem_take member)

@[simp] theorem window_map {β : Type u} (convert : α → β) (ranked : List α) (limit offset : Nat) :
    window (ranked.map convert) limit offset = (window ranked limit offset).map convert := by
  simp [window]

@[simp] theorem length_window (ranked : List α) (limit offset : Nat) :
    (window ranked limit offset).length = min limit (ranked.length - offset) := by
  simp [window]

/-- The first window opens with the first of the order. -/
theorem head_mem_window (rest : List α) (positive : 0 < limit) :
    element ∈ window (element :: rest) limit 0 := by
  cases limit with
  | zero => omega
  | succ limit => simp [window]

/-- Everything comes within the limit of some offset, of the first one if that is all. -/
theorem exists_offset_of_mem (positive : 0 < limit) (member : element ∈ ranked) :
    ∃ offset, element ∈ (window ranked (limit + 1) offset).take limit ∧
      offset < ranked.length ∧ (ranked.length ≤ limit → offset = 0) := by
  by_cases short : ranked.length ≤ limit
  · refine ⟨0, ?_, List.length_pos_of_mem member, fun _ => rfl⟩
    have whole : window ranked (limit + 1) 0 = ranked := by
      simp only [window, List.drop_zero]
      exact List.take_of_length_le (by omega)
    rw [whole, List.take_of_length_le short]
    exact member
  · obtain ⟨before, after, isRanked⟩ := List.append_of_mem member
    refine ⟨before.length, ?_, ?_, fun few => absurd few short⟩
    · obtain ⟨limit, rfl⟩ : ∃ n, limit = n + 1 := ⟨limit - 1, by omega⟩
      simp [isRanked, window]
    · simp [isRanked]

theorem ranks_window (perm : ranked.Perm matching) : Ranks (window ranked) matching :=
  ⟨ranked, perm, fun _ _ => rfl⟩

end Paging
