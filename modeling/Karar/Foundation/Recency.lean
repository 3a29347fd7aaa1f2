import Mathlib.Data.List.Dedup
import Mathlib.Data.List.DropRight

/-!
# What was seen last

The last `n` elements of a history, each once and in the order in which they were last seen (`recent`).
A table with room for `n` elements that moves an element to its end when it is seen, and then drops the
first ones that are too many, holds just these (`recent_concat`).
-/

namespace Karar.Foundation

variable {α : Type*} {seen front tail : List α} {n : ℕ}

theorem rtake_append (hle : n ≤ tail.length) : (front ++ tail).rtake n = tail.rtake n := by
  rw [List.rtake_eq_reverse_take_reverse, List.rtake_eq_reverse_take_reverse, List.reverse_append,
    List.take_append_of_le_length (by rwa [List.length_reverse])]

variable [DecidableEq α]

/-- The last elements that were seen. -/
def recent (n : ℕ) (seen : List α) : List α := seen.dedup.rtake n

/-- An element that is seen again becomes the last one. -/
theorem dedup_concat (seen : List α) (a : α) : (seen ++ [a]).dedup = seen.dedup.erase a ++ [a] := by
  induction seen with
  | nil => rfl
  | cons b rest ih =>
    rw [List.cons_append]
    by_cases hrest : b ∈ rest
    · rw [List.dedup_cons_of_mem (List.mem_append_left _ hrest), List.dedup_cons_of_mem hrest, ih]
    · rw [List.dedup_cons_of_notMem hrest]
      by_cases hba : b = a
      · rw [hba] at hrest ⊢
        rw [List.dedup_cons_of_mem (by simp), ih, List.erase_cons_head,
          List.erase_of_not_mem (by simpa using hrest)]
      · rw [List.dedup_cons_of_notMem (by simp [hrest, hba]), ih,
          List.erase_cons_tail (by simpa using hba), List.cons_append]

/-- An element that leaves makes room for one of those that were left out. -/
theorem rtake_erase (hnodup : seen.Nodup) (a : α) :
    ((seen.rtake (n + 1)).erase a).rtake n = (seen.erase a).rtake n := by
  rcases Nat.le_total seen.length (n + 1) with hall | hsome
  · have hwhole : seen.rtake (n + 1) = seen := by
      rw [List.rtake, Nat.sub_eq_zero_of_le hall, List.drop_zero]
    rw [hwhole]
  · have hsplit : seen.take (seen.length - (n + 1)) ++ seen.rtake (n + 1) = seen :=
      List.take_append_drop _ _
    have hlength : (seen.rtake (n + 1)).length = n + 1 := by
      rw [List.rtake, List.length_drop]
      omega
    rw [← hsplit] at hnodup
    conv_rhs => rw [← hsplit, List.erase_append]
    split_ifs with hfront
    · rw [List.erase_of_not_mem fun hlast ↦ List.disjoint_of_nodup_append hnodup hfront hlast,
        rtake_append (by omega)]
    · have hrest := List.le_length_erase (a := a) (l := seen.rtake (n + 1))
      rw [rtake_append (by omega)]

theorem recent_concat (n : ℕ) (seen : List α) (a : α) :
    recent n (seen ++ [a]) = ((recent n seen).erase a ++ [a]).rtake n := by
  unfold recent
  rw [dedup_concat]
  cases n with
  | zero => rw [List.rtake_zero, List.rtake_zero]
  | succ n => rw [List.rtake_concat_succ, List.rtake_concat_succ, rtake_erase (List.nodup_dedup _)]

end Karar.Foundation
