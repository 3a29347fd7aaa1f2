import Karar.Foundation.LargestRemainder
import Karar.SharedKernel.IntegerMath
import Mathlib.Data.List.Nodup
import Mathlib.Data.Rat.Floor

/-!
# Money

An amount is a whole number of minor units in a currency. `allocate` splits it over weights and
conserves every minor unit: each part starts at the floor of its proportional share, and the minor
units left over go one each to the parts with the largest remainders.

What `allocate` is for, said with exact rational shares: the parts sum to the total, each is the floor
or the ceiling of its share, and the parts rounded up are the ones with the largest fractions, the
earliest first among equal ones. `allocate_largestRemainder` says that the code meets it for every
total, and that its loop always finds a part to give the next minor unit to.
-/

namespace Karar.SharedKernel

/-! ## Amounts and their allocation -/

section Amounts

open Foundation

structure Currency where
  code : String
  exponent : ℕ
deriving DecidableEq

namespace Currency

/-- The registry: a currency in hand is one of these. -/
def SUPPORTED : List Currency :=
  [⟨"QAR", 2⟩, ⟨"SAR", 2⟩, ⟨"AED", 2⟩, ⟨"OMR", 3⟩, ⟨"KWD", 3⟩, ⟨"BHD", 3⟩, ⟨"USD", 2⟩, ⟨"EUR", 2⟩,
    ⟨"GBP", 2⟩]

def tryGet (code : String) : Option Currency := SUPPORTED.find? (·.code = code)

theorem tryGet_code {currency : Currency} (hsupported : currency ∈ SUPPORTED) :
    tryGet currency.code = some currency := by
  have hall : SUPPORTED.all (fun currency ↦ tryGet currency.code = some currency) = true := by decide
  exact of_decide_eq_true (List.all_eq_true.mp hall currency hsupported)

theorem mem_of_tryGet {code : String} {currency : Currency} (hget : tryGet code = some currency) :
    currency ∈ SUPPORTED ∧ currency.code = code := by
  unfold tryGet at hget
  refine ⟨List.mem_of_find?_eq_some hget, ?_⟩
  simpa using List.find?_some hget

end Currency

structure Money where
  minorUnits : ℤ
  currency : Currency
deriving DecidableEq

namespace Money

/-- The amount in major units. -/
def major (money : Money) : ℚ := money.minorUnits / 10 ^ money.currency.exponent

def InvalidAllocationError (message : String) : KernelError := ⟨"InvalidAllocationError", message⟩

/-! ### Allocation -/

/-- The sum of the weights, unless one of them is negative. -/
def totalWeight : List ℤ → ℤ → Except KernelError ℤ
  | [], sum => .ok sum
  | weight :: rest, sum =>
    if weight < 0 then .error (InvalidAllocationError s!"weights must be non-negative, got {weight}")
    else totalWeight rest (sum + weight)

/-- Floor division, and its remainder: the division of `bigint` truncates toward zero. -/
def floorDivision (product totalWeight : ℤ) : ℤ × ℤ :=
  let quotient := product.tdiv totalWeight
  let remainder := product.tmod totalWeight
  if remainder < 0 then (quotient - 1, remainder + totalWeight) else (quotient, remainder)

/-- A part's remainder, with the part's index. -/
structure Ranked where
  remainder : ℤ
  index : ℕ
deriving DecidableEq

/-- The comparison of the sort. -/
def Ranked.compare (a b : Ranked) : ℤ :=
  if a.remainder ≠ b.remainder then if b.remainder < a.remainder then -1 else 1
  else a.index - b.index

def byLargestRemainder (remainders : List ℤ) : List Ranked :=
  (remainders.zipIdx.map fun (remainder, index) ↦ Ranked.mk remainder index).mergeSort
    fun a b ↦ a.compare b ≤ 0

/-- One minor unit for each of the ranked parts from an index on; the loop ends early where there is
none. -/
def awardLeftover (ranked : List Ranked) : ℕ → ℕ → List ℤ → List ℤ
  | _, 0, floors => floors
  | i, leftover + 1, floors =>
    match ranked[i]? with
    | none => floors
    | some winner =>
      awardLeftover ranked (i + 1) leftover
        (floors.set winner.index ((floors[winner.index]?).getD 0 + 1))

/-- The floor of each proportional share. -/
def floors (minorUnits totalWeight : ℤ) (weights : List ℤ) : List ℤ :=
  weights.map fun weight ↦ (floorDivision (minorUnits * weight) totalWeight).1

/-- What each floor leaves of the share, in parts of the total weight. -/
def remainders (minorUnits totalWeight : ℤ) (weights : List ℤ) : List ℤ :=
  weights.map fun weight ↦ (floorDivision (minorUnits * weight) totalWeight).2

/-- How often the loop over the ranked parts runs. -/
def leftover (minorUnits : ℤ) (floors : List ℤ) : ℕ := (minorUnits - floors.sum).toNat

/-- The parts, for weights of a positive sum. -/
def parts (minorUnits totalWeight : ℤ) (weights : List ℤ) : List ℤ :=
  let floors := floors minorUnits totalWeight weights
  awardLeftover (byLargestRemainder (remainders minorUnits totalWeight weights)) 0
    (leftover minorUnits floors) floors

def allocate (money : Money) (weights : List ℤ) : Except KernelError (List Money) :=
  if weights.length = 0 then
    .error (InvalidAllocationError "allocate requires at least one weight")
  else
    match totalWeight weights 0 with
    | .error error => .error error
    | .ok totalWeight =>
      if totalWeight = 0 then
        .error (InvalidAllocationError "weights must sum to a positive value")
      else .ok ((parts money.minorUnits totalWeight weights).map (Money.mk · money.currency))

end Money

end Amounts

/-! ## The largest remainder specification -/

section Allocation

open Foundation LargestRemainder

/-! ### The specification -/

/-- The exact share of a weight. -/
def exactShare (total : ℤ) (weights : List ℤ) (weight : ℤ) : ℚ :=
  (total * weight : ℤ) / (weights.sum : ℤ)

/-- A weight with its index comes before another one: its share has the larger fraction, or the same
and the smaller index. -/
def RoundsUpBefore (total : ℤ) (weights : List ℤ) (first second : ℤ × ℕ) : Prop :=
  Int.fract (exactShare total weights second.1) < Int.fract (exactShare total weights first.1) ∨
    Int.fract (exactShare total weights first.1) = Int.fract (exactShare total weights second.1) ∧
      first.2 < second.2

instance (total : ℤ) (weights : List ℤ) (first second : ℤ × ℕ) :
    Decidable (RoundsUpBefore total weights first second) :=
  inferInstanceAs (Decidable (_ ∨ _ ∧ _))

/-- The minor units that the floors of the shares leave over. -/
def leftoverUnits (total : ℤ) (weights : List ℤ) : ℤ :=
  total - (weights.map fun weight ↦ ⌊exactShare total weights weight⌋).sum

structure LargestRemainderSplit (total : ℤ) (weights parts : List ℤ) : Prop where
  length : parts.length = weights.length
  sum : parts.sum = total
  rounded : ∀ (i : ℕ) (weight part : ℤ), weights[i]? = some weight → parts[i]? = some part →
    part = ⌊exactShare total weights weight⌋ ∨ part = ⌈exactShare total weights weight⌉
  zero : ∀ i : ℕ, weights[i]? = some 0 → parts[i]? = some 0
  /-- Those rounded up are as many as there are units left over, and the first in the order. -/
  roundedUp : ∀ (i : ℕ) (weight part : ℤ), weights[i]? = some weight → parts[i]? = some part →
    part = ⌊exactShare total weights weight⌋ +
      if (weights.zipIdx.countP (RoundsUpBefore total weights · (weight, i)) : ℤ) <
        leftoverUnits total weights then 1 else 0
  leftover : 0 ≤ leftoverUnits total weights ∧ leftoverUnits total weights < weights.length

/-! ### Exact shares in integers -/

section Shares

variable {total : ℤ} {weights : List ℤ}

theorem floor_exactShare (hsum : 0 < weights.sum) (weight : ℤ) :
    ⌊exactShare total weights weight⌋ = quota total weights.sum weight := by
  obtain ⟨sum, hcast⟩ := Int.eq_ofNat_of_zero_le (le_of_lt hsum)
  unfold exactShare quota
  rw [hcast, Int.cast_natCast]
  exact Rat.floor_intCast_div_natCast _ _

/-- The fraction of a share is its remainder over the sum. -/
theorem fract_exactShare (hsum : 0 < weights.sum) (weight : ℤ) :
    Int.fract (exactShare total weights weight) =
      (remainder total weights.sum weight : ℚ) / (weights.sum : ℤ) := by
  have hdivision : weights.sum * quota total weights.sum weight +
      remainder total weights.sum weight = total * weight := Int.mul_ediv_add_emod _ _
  have hne : ((weights.sum : ℤ) : ℚ) ≠ 0 := by
    exact_mod_cast ne_of_gt hsum
  rw [Int.fract, floor_exactShare hsum, exactShare, ← hdivision, Int.cast_add, Int.cast_mul]
  generalize ((weights.sum : ℤ) : ℚ) = sum at hne ⊢
  field_simp
  ring

theorem roundsUpBefore_iff (hsum : 0 < weights.sum) {first second : ℤ × ℕ} :
    RoundsUpBefore total weights first second ↔
      remainder total weights.sum second.1 < remainder total weights.sum first.1 ∨
        remainder total weights.sum first.1 = remainder total weights.sum second.1 ∧
          first.2 < second.2 := by
  have hpositive : (0 : ℚ) < (weights.sum : ℤ) := by
    exact_mod_cast hsum
  unfold RoundsUpBefore
  rw [fract_exactShare hsum, fract_exactShare hsum, div_lt_div_iff_of_pos_right hpositive,
    div_left_inj' (ne_of_gt hpositive), Int.cast_lt, Int.cast_inj]

theorem leftoverUnits_eq (hsum : 0 < weights.sum) :
    leftoverUnits total weights = leftover total weights := by
  unfold leftoverUnits leftover
  simp only [floor_exactShare hsum]

/-- A share with a remainder is rounded up to its ceiling. -/
theorem ceil_exactShare (hsum : 0 < weights.sum) {weight : ℤ}
    (hpositive : 0 < remainder total weights.sum weight) :
    ⌈exactShare total weights weight⌉ = quota total weights.sum weight + 1 := by
  have hsumRat : (0 : ℚ) < (weights.sum : ℤ) := by
    exact_mod_cast hsum
  have hfract : 0 < Int.fract (exactShare total weights weight) := by
    rw [fract_exactShare hsum]
    exact div_pos (by exact_mod_cast hpositive) hsumRat
  rw [← floor_exactShare hsum, Int.ceil_eq_iff]
  push_cast
  constructor
  · rw [add_sub_cancel_right, ← sub_pos]
    exact hfract
  · exact le_of_lt (Int.lt_floor_add_one _)

end Shares

/-! ### The code in the terms of the specification -/

namespace Money

section Code

variable {total : ℤ} {weights remainders : List ℤ}

theorem totalWeight_eq_ok (hweights : ∀ weight ∈ weights, 0 ≤ weight) (start : ℤ) :
    totalWeight weights start = .ok (start + weights.sum) := by
  induction weights generalizing start with
  | nil => simp [totalWeight]
  | cons weight rest ih =>
    have hweight : ¬ weight < 0 := not_lt.mpr (hweights weight List.mem_cons_self)
    rw [totalWeight, if_neg hweight, ih fun other hother ↦ hweights other (List.mem_cons_of_mem _ hother),
      List.sum_cons, add_assoc]

/-- Truncated division and its correction are floor division. -/
theorem floorDivision_eq {sum : ℤ} (hsum : 0 < sum) (product : ℤ) :
    floorDivision product sum = (product / sum, product % sum) := by
  have hsign : sum.sign = 1 := Int.sign_eq_one_of_pos hsum
  have habs : (sum.natAbs : ℤ) = sum := Int.natAbs_of_nonneg (le_of_lt hsum)
  have hnonneg : 0 ≤ product % sum := Int.emod_nonneg _ (ne_of_gt hsum)
  have hlt : product % sum < sum := Int.emod_lt_of_pos _ hsum
  unfold floorDivision
  rw [Int.tdiv_eq_ediv, Int.tmod_eq_emod]
  by_cases hexact : 0 ≤ product ∨ sum ∣ product
  · simp [hexact, hnonneg]
  · simp [hexact, hsign, habs, hlt]

/-- The order of the sort, on distinct indices. -/
def Precedes (a b : Ranked) : Prop :=
  b.remainder < a.remainder ∨ a.remainder = b.remainder ∧ a.index < b.index

instance (a b : Ranked) : Decidable (Precedes a b) :=
  inferInstanceAs (Decidable (_ ∨ _ ∧ _))

theorem compare_nonpos_iff {a b : Ranked} :
    a.compare b ≤ 0 ↔ b.remainder < a.remainder ∨ a.remainder = b.remainder ∧ a.index ≤ b.index := by
  unfold Ranked.compare
  by_cases hsame : a.remainder = b.remainder
  · simp [hsame]
  · by_cases hless : b.remainder < a.remainder
    · simp [hsame, hless]
    · simp [hsame, hless]

theorem byLargestRemainder_perm :
    (byLargestRemainder remainders).Perm
      (remainders.zipIdx.map fun (remainder, index) ↦ Ranked.mk remainder index) :=
  List.mergeSort_perm _ _

/-- The indices of the sorted entries are those of the remainders. -/
theorem map_index_perm :
    ((byLargestRemainder remainders).map Ranked.index).Perm (List.range remainders.length) := by
  have hindices : (remainders.zipIdx.map fun (remainder, index) ↦ Ranked.mk remainder index).map
      Ranked.index = List.range remainders.length := by
    rw [List.map_map, List.range_eq_range', ← List.zipIdx_map_snd 0 remainders]
    rfl
  rw [← hindices]
  exact byLargestRemainder_perm.map Ranked.index

theorem nodup_map_index : ((byLargestRemainder remainders).map Ranked.index).Nodup :=
  map_index_perm.nodup_iff.mpr List.nodup_range

theorem byLargestRemainder_pairwise : (byLargestRemainder remainders).Pairwise Precedes := by
  have htrans : ∀ a b c : Ranked, (a.compare b ≤ 0) → (b.compare c ≤ 0) → a.compare c ≤ 0 := by
    intro a b c
    simp only [compare_nonpos_iff]
    omega
  have htotal : ∀ a b : Ranked, a.compare b ≤ 0 ∨ b.compare a ≤ 0 := by
    intro a b
    simp only [compare_nonpos_iff]
    omega
  have hsorted : (byLargestRemainder remainders).Pairwise fun a b ↦ a.compare b ≤ 0 := by
    have hmergeSort : ((remainders.zipIdx.map fun (remainder, index) ↦ Ranked.mk remainder index).mergeSort
        fun a b ↦ a.compare b ≤ 0).Pairwise fun a b ↦ decide (a.compare b ≤ 0) = true :=
      List.pairwise_mergeSort (by simpa using htrans) (by simpa using htotal) _
    simpa [byLargestRemainder] using hmergeSort
  have hdistinct : (byLargestRemainder remainders).Pairwise fun a b ↦ a.index ≠ b.index :=
    List.pairwise_map.mp nodup_map_index
  refine (hsorted.and hdistinct).imp ?_
  rintro a b ⟨hcompare, hne⟩
  rw [compare_nonpos_iff] at hcompare
  unfold Precedes
  omega

/-- The loop awards one unit to each of the next ranked parts. -/
theorem awardLeftover_eq (ranked : List Ranked) (start count : ℕ) (parts : List ℤ) :
    awardLeftover ranked start count parts =
      (((ranked.drop start).take count).map Ranked.index).foldl award parts := by
  induction count generalizing start parts with
  | zero => simp [awardLeftover]
  | succ count ih =>
    by_cases hrange : start < ranked.length
    · rw [List.drop_eq_getElem_cons hrange, List.take_succ_cons, List.map_cons, List.foldl_cons, ← ih]
      simp only [awardLeftover, List.getElem?_eq_getElem hrange]
      rfl
    · have hdrop : ranked.drop start = [] := List.drop_eq_nil_of_le (not_lt.mp hrange)
      simp [awardLeftover, hrange, hdrop]

end Code

section Parts

variable {total : ℤ} {weights : List ℤ}

/-- The entries that the sort ranks, for weights of a positive sum. -/
def entries (total : ℤ) (weights : List ℤ) : List Ranked :=
  weights.zipIdx.map fun entry ↦ Ranked.mk (remainder total weights.sum entry.1) entry.2

theorem floors_eq (hsum : 0 < weights.sum) :
    floors total weights.sum weights = weights.map (quota total weights.sum) := by
  simp only [floors, floorDivision_eq hsum]
  rfl

theorem remainders_eq (hsum : 0 < weights.sum) :
    remainders total weights.sum weights = weights.map (remainder total weights.sum) := by
  simp only [remainders, floorDivision_eq hsum]
  rfl

theorem leftover_eq (hsum : 0 < weights.sum) :
    (Money.leftover total (floors total weights.sum weights) : ℤ) = leftoverUnits total weights := by
  rw [leftoverUnits_eq hsum, Money.leftover, floors_eq hsum]
  exact Int.toNat_of_nonneg (leftover_nonneg hsum)

theorem ranked_perm (hsum : 0 < weights.sum) :
    (byLargestRemainder (remainders total weights.sum weights)).Perm (entries total weights) := by
  have hentries : ((remainders total weights.sum weights).zipIdx.map
      fun (remainder, index) ↦ Ranked.mk remainder index) = entries total weights := by
    rw [remainders_eq hsum, List.zipIdx_map, List.map_map]
    rfl
  rw [← hentries]
  exact byLargestRemainder_perm

/-- As many entries come before a weight's in the sort as weights do in the specification. -/
theorem countP_precedes (hsum : 0 < weights.sum) (weight : ℤ) (index : ℕ) :
    (byLargestRemainder (remainders total weights.sum weights)).countP
        (Precedes · ⟨remainder total weights.sum weight, index⟩) =
      weights.zipIdx.countP (RoundsUpBefore total weights · (weight, index)) := by
  rw [(ranked_perm hsum).countP_eq, entries, List.countP_map]
  apply List.countP_congr
  intro entry _
  simp only [Function.comp_apply, decide_eq_true_eq, roundsUpBefore_iff hsum]
  exact Iff.rfl

/-- A part is among the first of the sort exactly when few weights come before its own. -/
theorem mem_winners_iff (hsum : 0 < weights.sum) {index count : ℕ} {weight : ℤ}
    (hweight : weights[index]? = some weight) :
    index ∈ ((byLargestRemainder (remainders total weights.sum weights)).take count).map
        Ranked.index ↔
      weights.zipIdx.countP (RoundsUpBefore total weights · (weight, index)) < count := by
  have hentry : Ranked.mk (remainder total weights.sum weight) index ∈
      byLargestRemainder (remainders total weights.sum weights) := by
    rw [(ranked_perm hsum).mem_iff]
    exact List.mem_map.mpr ⟨(weight, index), List.mem_zipIdx_iff_getElem?.mpr hweight, rfl⟩
  have hasymm : ∀ first second, Precedes first second → ¬ Precedes second first := by
    unfold Precedes
    omega
  rw [← countP_precedes hsum, ← mem_take_iff_countP_lt hasymm byLargestRemainder_pairwise hentry]
  constructor
  · intro hindex
    obtain ⟨winner, hwinner, hsame⟩ := List.mem_map.mp hindex
    have heq := List.inj_on_of_nodup_map nodup_map_index (List.mem_of_mem_take hwinner) hentry hsame
    rwa [heq] at hwinner
  · intro hmem
    exact List.mem_map.mpr ⟨_, hmem, rfl⟩

/-- A weight without a remainder is never among those rounded up. -/
theorem leftover_le_countP_of_remainder_eq_zero (hsum : 0 < weights.sum) {weight : ℤ} (index : ℕ)
    (hzero : remainder total weights.sum weight = 0) :
    leftoverUnits total weights ≤
      weights.zipIdx.countP (RoundsUpBefore total weights · (weight, index)) := by
  have hfst : weights.countP (fun other ↦ 0 < remainder total weights.sum other) =
      weights.zipIdx.countP fun entry ↦ 0 < remainder total weights.sum entry.1 := by
    have hmap := List.countP_map (p := fun other ↦ 0 < remainder total weights.sum other)
      (f := Prod.fst) (l := weights.zipIdx)
    rwa [List.zipIdx_map_fst] at hmap
  have hmono : weights.zipIdx.countP (fun entry ↦ 0 < remainder total weights.sum entry.1) ≤
      weights.zipIdx.countP (RoundsUpBefore total weights · (weight, index)) := by
    apply List.countP_mono_left
    intro entry _ hpositive
    simp only [decide_eq_true_eq] at hpositive ⊢
    rw [roundsUpBefore_iff hsum, hzero]
    exact .inl hpositive
  rw [leftoverUnits_eq hsum]
  refine le_trans (leftover_le_countP hsum) ?_
  rw [hfst]
  exact Int.ofNat_le.mpr hmono

/-- There is a ranked part for each unit left over. -/
theorem leftover_lt_length_ranked (hsum : 0 < weights.sum) :
    Money.leftover total (floors total weights.sum weights) <
      (byLargestRemainder (remainders total weights.sum weights)).length := by
  have hlength : (byLargestRemainder (remainders total weights.sum weights)).length =
      weights.length := by
    simp [(ranked_perm hsum).length_eq, entries]
  have hlt : LargestRemainder.leftover total weights < (weights.length : ℤ) := leftover_lt_length hsum
  rw [← leftoverUnits_eq hsum, ← leftover_eq hsum] at hlt
  rw [hlength]
  exact Int.ofNat_lt.mp hlt

theorem getElem?_parts (hsum : 0 < weights.sum) {index : ℕ} {weight : ℤ}
    (hweight : weights[index]? = some weight) :
    (parts total weights.sum weights)[index]? = some (⌊exactShare total weights weight⌋ +
      if (weights.zipIdx.countP (RoundsUpBefore total weights · (weight, index)) : ℤ) <
        leftoverUnits total weights then 1 else 0) := by
  have hnodup : (((byLargestRemainder (remainders total weights.sum weights)).take
      (Money.leftover total (floors total weights.sum weights))).map Ranked.index).Nodup :=
    nodup_map_index.sublist ((List.take_sublist _ _).map Ranked.index)
  have hfloor : (floors total weights.sum weights)[index]? =
      some ⌊exactShare total weights weight⌋ := by
    rw [floors_eq hsum, List.getElem?_map, hweight, floor_exactShare hsum]
    rfl
  unfold parts
  rw [awardLeftover_eq, List.drop_zero, getElem?_foldl_award hnodup, hfloor, ← leftover_eq hsum]
  simp only [Option.map_some, mem_winners_iff hsum hweight, Int.ofNat_lt]
  by_cases hwins : weights.zipIdx.countP (RoundsUpBefore total weights · (weight, index)) <
      Money.leftover total (floors total weights.sum weights)
  · simp [hwins]
  · simp [hwins]

theorem length_parts : (parts total weights.sum weights).length = weights.length := by
  simp [parts, awardLeftover_eq, floors]

theorem sum_parts (hsum : 0 < weights.sum) : (parts total weights.sum weights).sum = total := by
  have hwinners : ∀ winner ∈ ((byLargestRemainder (remainders total weights.sum weights)).take
      (Money.leftover total (floors total weights.sum weights))).map Ranked.index,
      winner < (floors total weights.sum weights).length := by
    intro winner hwinner
    obtain ⟨entry, hentry, rfl⟩ := List.mem_map.mp hwinner
    have hindex := map_index_perm.mem_iff.mp
      (List.mem_map.mpr ⟨entry, List.mem_of_mem_take hentry, rfl⟩)
    simpa [remainders, floors] using List.mem_range.mp hindex
  have hcount : (Money.leftover total (floors total weights.sum weights) : ℤ) = _ := leftover_eq hsum
  unfold parts
  rw [awardLeftover_eq, List.drop_zero, sum_foldl_award hwinners, List.length_map,
    List.length_take_of_le (le_of_lt (leftover_lt_length_ranked hsum)), hcount, leftoverUnits]
  simp only [floors_eq hsum, floor_exactShare hsum]
  ring

/-- The parts are the split that the largest remainder method asks for. -/
theorem parts_split (hsum : 0 < weights.sum) :
    LargestRemainderSplit total weights (parts total weights.sum weights) where
  length := length_parts
  sum := sum_parts hsum
  rounded := by
    intro index weight part hweight hpart
    rw [getElem?_parts hsum hweight, Option.some_inj] at hpart
    subst hpart
    by_cases hpositive : 0 < remainder total weights.sum weight
    · rw [ceil_exactShare hsum hpositive, ← floor_exactShare hsum]
      by_cases hwins : (weights.zipIdx.countP (RoundsUpBefore total weights · (weight, index)) : ℤ) <
          leftoverUnits total weights
      · simp [hwins]
      · simp [hwins]
    · have hzero := le_antisymm (not_lt.mp hpositive) (remainder_nonneg hsum weight)
      rw [if_neg (not_lt.mpr (leftover_le_countP_of_remainder_eq_zero hsum index hzero)), add_zero]
      exact .inl rfl
  zero := by
    intro index hweight
    have hzero : remainder total weights.sum 0 = 0 := remainder_zero
    have hle := leftover_le_countP_of_remainder_eq_zero hsum index hzero
    rw [getElem?_parts hsum hweight, if_neg (not_lt.mpr hle), floor_exactShare hsum, quota_zero,
      add_zero]
  roundedUp := by
    intro index weight part hweight hpart
    rw [getElem?_parts hsum hweight, Option.some_inj] at hpart
    exact hpart.symm
  leftover := by
    rw [leftoverUnits_eq hsum]
    exact ⟨leftover_nonneg hsum, leftover_lt_length hsum⟩

end Parts

/-- For every total and non-negative weights of a positive sum, `allocate` answers with the split of
the largest remainder method, and its loop finds a part for each unit left over. -/
theorem allocate_largestRemainder (money : Money) (weights : List ℤ)
    (hweights : ∀ weight ∈ weights, 0 ≤ weight) (hsum : 0 < weights.sum) :
    ∃ answer, money.allocate weights = .ok answer ∧
      (∀ part ∈ answer, part.currency = money.currency) ∧
      LargestRemainderSplit money.minorUnits weights (answer.map Money.minorUnits) ∧
      ∀ i < Money.leftover money.minorUnits (floors money.minorUnits weights.sum weights),
        (byLargestRemainder (remainders money.minorUnits weights.sum weights))[i]? ≠ none := by
  have hne : weights.length ≠ 0 := by
    intro hlength
    rw [List.eq_nil_of_length_eq_zero hlength] at hsum
    exact absurd hsum (by simp)
  refine ⟨(parts money.minorUnits weights.sum weights).map (Money.mk · money.currency), ?_, ?_, ?_, ?_⟩
  · unfold allocate
    rw [if_neg hne, totalWeight_eq_ok hweights, zero_add]
    simp [ne_of_gt hsum]
  · intro part hpart
    obtain ⟨_, _, rfl⟩ := List.mem_map.mp hpart
    rfl
  · have hminorUnits : (Money.minorUnits ∘ fun units ↦ Money.mk units money.currency) = id := rfl
    rw [List.map_map, hminorUnits, List.map_id]
    exact parts_split hsum
  · intro i hi hnone
    rw [List.getElem?_eq_none_iff] at hnone
    exact absurd (lt_of_le_of_lt hnone hi) (not_lt.mpr (le_of_lt (leftover_lt_length_ranked hsum)))

/-- A hundred minor units owed, over three equal weights and a weight of zero: the floors leave two
over, which the first two get. -/
theorem allocate_largestRemainder_thirds :
    let owed : Money := ⟨-100, "QAR", 2⟩
    owed.allocate [1, 1, 0, 1] = .ok ([-33, -33, 0, -34].map (Money.mk · ⟨"QAR", 2⟩)) ∧
      LargestRemainderSplit (-100) [1, 1, 0, 1] [-33, -33, 0, -34] := by
  intro owed
  have hanswer : owed.allocate [1, 1, 0, 1] =
      .ok ([-33, -33, 0, -34].map (Money.mk · ⟨"QAR", 2⟩)) := by
    simp [owed, allocate, totalWeight, parts, floors, remainders, Money.leftover, floorDivision,
      byLargestRemainder, Ranked.compare, awardLeftover, List.mergeSort]
  obtain ⟨answer, heq, -, hsplit, -⟩ := allocate_largestRemainder owed [1, 1, 0, 1]
    (by decide) (by decide)
  rw [hanswer, Except.ok.injEq] at heq
  subst heq
  exact ⟨hanswer, hsplit⟩

end Money

end Allocation

end Karar.SharedKernel
