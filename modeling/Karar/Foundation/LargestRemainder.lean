import Mathlib.Algebra.BigOperators.Group.List.Basic
import Mathlib.Algebra.Order.BigOperators.Group.List
import Mathlib.Algebra.Order.Ring.Int
import Mathlib.Data.Int.ModEq
import Mathlib.Data.List.Count
import Mathlib.Tactic.Linarith
import Mathlib.Tactic.LinearCombination
import Mathlib.Tactic.Ring

/-!
# The largest remainder method

A total is split over weights in proportion. Each weight gets the floor of its exact share, and what
the floors leave over goes, one unit each, to those with the largest remainders, the earliest first
among equal ones. The total may be negative.

The remainders add up to the weights' sum for each unit left over (`sum_mul_leftover`), so fewer units
are left over than there are weights (`leftover_lt_length`), and no more than there are weights with a
remainder at all (`leftover_le_countP`). In a sorted list an element is among the first ones exactly
when few elements come before it (`mem_take_iff_countP_lt`).
-/

namespace Karar.Foundation.LargestRemainder

/-! ### Places in a sorted list -/

section Places

variable {Item : Type*} {before : Item → Item → Prop} [DecidableRel before] {items : List Item}
  {item : Item} {count : ℕ}

/-- An item of a sorted list is among the first ones if and only if fewer come before it. -/
theorem mem_take_iff_countP_lt (hasymm : ∀ first second, before first second → ¬ before second first)
    (hsorted : items.Pairwise before) (hmem : item ∈ items) :
    item ∈ items.take count ↔ items.countP (before · item) < count := by
  induction items generalizing count with
  | nil => exact absurd hmem List.not_mem_nil
  | cons head tail ih =>
    obtain ⟨hhead, htail⟩ := List.pairwise_cons.mp hsorted
    cases count with
    | zero => simp
    | succ count =>
      rw [List.take_succ_cons, List.countP_cons]
      by_cases hitem : item = head
      · subst hitem
        have hnone : tail.countP (before · item) = 0 := by
          rw [List.countP_eq_zero]
          intro other hother
          simpa using hasymm item other (hhead other hother)
        have hself : ¬ before item item := fun hbefore ↦ hasymm item item hbefore hbefore
        simp [hnone, hself]
      · have hrest : item ∈ tail := (List.mem_cons.mp hmem).resolve_left hitem
        rw [List.mem_cons, or_iff_right hitem, ih htail hrest, decide_eq_true (hhead item hrest),
          if_pos rfl]
        exact (Nat.succ_lt_succ_iff).symm

end Places

/-! ### Shares -/

/-- The floor of the exact share of a weight. -/
def quota (total sum weight : ℤ) : ℤ := total * weight / sum

/-- What the floor leaves of the exact share, in parts of the sum. -/
def remainder (total sum weight : ℤ) : ℤ := total * weight % sum

/-- The units that the floors leave over. -/
def leftover (total : ℤ) (weights : List ℤ) : ℤ :=
  total - (weights.map (quota total weights.sum)).sum

section Shares

variable {total sum : ℤ} {weights : List ℤ}

theorem remainder_nonneg (hsum : 0 < sum) (weight : ℤ) : 0 ≤ remainder total sum weight :=
  Int.emod_nonneg _ (ne_of_gt hsum)

theorem remainder_lt (hsum : 0 < sum) (weight : ℤ) : remainder total sum weight < sum :=
  Int.emod_lt_of_pos _ hsum

@[simp] theorem quota_zero : quota total sum 0 = 0 := by
  simp [quota]

@[simp] theorem remainder_zero : remainder total sum 0 = 0 := by
  simp [remainder]

/-- Euclidean division, added up over the weights. -/
theorem sum_mul_quotas_add_remainders (total sum : ℤ) (weights : List ℤ) :
    sum * (weights.map (quota total sum)).sum + (weights.map (remainder total sum)).sum =
      total * weights.sum := by
  induction weights with
  | nil => simp
  | cons weight rest ih =>
    have hdivision : sum * quota total sum weight + remainder total sum weight = total * weight :=
      Int.mul_ediv_add_emod _ _
    simp only [List.map_cons, List.sum_cons]
    linear_combination hdivision + ih

/-- Each unit left over is made of remainders. -/
theorem sum_mul_leftover (total : ℤ) (weights : List ℤ) :
    weights.sum * leftover total weights = (weights.map (remainder total weights.sum)).sum := by
  unfold leftover
  linear_combination -sum_mul_quotas_add_remainders total weights.sum weights

/-- The remainders stay below the sum, for each weight that has one. -/
theorem sum_remainders_le (hsum : 0 < sum) :
    (weights.map (remainder total sum)).sum ≤
      (weights.countP fun weight ↦ 0 < remainder total sum weight) * (sum - 1) := by
  induction weights with
  | nil => simp
  | cons weight rest ih =>
    rw [List.map_cons, List.sum_cons, List.countP_cons]
    have hlt : remainder total sum weight < sum := remainder_lt hsum weight
    by_cases hpositive : 0 < remainder total sum weight
    · rw [decide_eq_true hpositive, if_pos rfl]
      push_cast
      linarith
    · have hzero : remainder total sum weight = 0 :=
        le_antisymm (not_lt.mp hpositive) (remainder_nonneg hsum weight)
      simpa [hzero] using ih

theorem leftover_nonneg (hsum : 0 < weights.sum) : 0 ≤ leftover total weights := by
  have hremainders : 0 ≤ (weights.map (remainder total weights.sum)).sum := by
    apply List.sum_nonneg
    intro value hvalue
    obtain ⟨weight, _, rfl⟩ := List.mem_map.mp hvalue
    exact remainder_nonneg hsum weight
  rw [← sum_mul_leftover] at hremainders
  exact nonneg_of_mul_nonneg_right hremainders hsum

/-- No more units are left over than there are weights with a remainder. -/
theorem leftover_le_countP (hsum : 0 < weights.sum) :
    leftover total weights ≤
      (weights.countP fun weight ↦ 0 < remainder total weights.sum weight : ℕ) := by
  have hbound : weights.sum * leftover total weights ≤ _ :=
    le_of_eq_of_le (sum_mul_leftover total weights) (sum_remainders_le hsum)
  by_contra hmore
  rw [not_le] at hmore
  have hcount : (0 : ℤ) ≤ (weights.countP fun weight ↦ 0 < remainder total weights.sum weight : ℕ) :=
    Int.natCast_nonneg _
  nlinarith

/-- Fewer units are left over than there are weights. -/
theorem leftover_lt_length (hsum : 0 < weights.sum) :
    leftover total weights < (weights.length : ℤ) := by
  have hle : leftover total weights ≤ _ := leftover_le_countP hsum
  by_contra hmore
  rw [not_lt] at hmore
  -- Then every weight has a remainder, and together they are too small.
  have hbound : weights.sum * leftover total weights ≤ _ :=
    le_of_eq_of_le (sum_mul_leftover total weights) (sum_remainders_le hsum)
  have hcount : ((weights.countP fun weight ↦ 0 < remainder total weights.sum weight : ℕ) : ℤ) ≤
      weights.length := Int.ofNat_le.mpr List.countP_le_length
  have hpositive : (0 : ℤ) < weights.length := by
    have hne : weights ≠ [] := by
      rintro rfl
      exact absurd hsum (by simp)
    exact Int.natCast_pos.mpr (List.length_pos_iff.mpr hne)
  nlinarith

end Shares

/-! ### Awarding the units -/

/-- One more unit for the part at an index. -/
def award (parts : List ℤ) (index : ℕ) : List ℤ :=
  parts.set index ((parts[index]?).getD 0 + 1)

section Award

variable {parts : List ℤ} {index : ℕ} {winners : List ℕ}

@[simp] theorem length_award : (award parts index).length = parts.length :=
  List.length_set

theorem getElem?_award (place : ℕ) :
    (award parts index)[place]? =
      parts[place]?.map fun part ↦ if place = index then part + 1 else part := by
  unfold award
  rw [List.getElem?_set]
  by_cases hplace : index = place
  · subst hplace
    by_cases hrange : index < parts.length
    · simp [hrange]
    · simp [hrange]
  · have hne : ¬ place = index := fun heq ↦ hplace heq.symm
    simp [hplace, hne]

theorem sum_award (hindex : index < parts.length) : (award parts index).sum = parts.sum + 1 := by
  unfold award
  rw [List.getElem?_eq_getElem hindex, Option.getD_some]
  induction parts generalizing index with
  | nil => exact absurd hindex (Nat.not_lt_zero _)
  | cons part rest ih =>
    cases index with
    | zero =>
      simp only [List.getElem_cons_zero, List.set_cons_zero, List.sum_cons]
      ring
    | succ index =>
      have hrest : index < rest.length := Nat.lt_of_succ_lt_succ hindex
      simp only [List.getElem_cons_succ, List.set_cons_succ, List.sum_cons, ih hrest]
      ring

@[simp] theorem length_foldl_award : (winners.foldl award parts).length = parts.length := by
  induction winners generalizing parts with
  | nil => rfl
  | cons winner rest ih => rw [List.foldl_cons, ih, length_award]

/-- Those who are among the winners once get one unit more. -/
theorem getElem?_foldl_award (hnodup : winners.Nodup) (place : ℕ) :
    (winners.foldl award parts)[place]? =
      parts[place]?.map fun part ↦ if place ∈ winners then part + 1 else part := by
  induction winners generalizing parts with
  | nil => simp
  | cons winner rest ih =>
    obtain ⟨hwinner, hrest⟩ := List.nodup_cons.mp hnodup
    rw [List.foldl_cons, ih hrest, getElem?_award, Option.map_map]
    congr 1
    ext part
    by_cases hplace : place = winner
    · subst hplace
      simp [hwinner]
    · simp [hplace]

theorem sum_foldl_award (hwinners : ∀ winner ∈ winners, winner < parts.length) :
    (winners.foldl award parts).sum = parts.sum + winners.length := by
  induction winners generalizing parts with
  | nil => simp
  | cons winner rest ih =>
    have hrest : ∀ other ∈ rest, other < (award parts winner).length := by
      intro other hother
      rw [length_award]
      exact hwinners other (List.mem_cons_of_mem _ hother)
    rw [List.foldl_cons, ih hrest, sum_award (hwinners winner List.mem_cons_self),
      List.length_cons]
    push_cast
    ring

end Award

end Karar.Foundation.LargestRemainder
