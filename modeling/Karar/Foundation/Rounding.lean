import Mathlib.Algebra.Order.Field.Basic
import Mathlib.Algebra.Order.Floor.Ring
import Mathlib.Algebra.Order.Ring.Int
import Mathlib.Algebra.Ring.Int.Parity
import Mathlib.Tactic.Linarith
import Mathlib.Tactic.Ring

/-!
# Rounding to integers

An integer nearest to a number, where a rule settles the ties between two: `IsNearest`. Whatever the
rule is, the error is at most one half, the number lies in one half of its neighbourhood exactly, and
the integer grows with the number as long as the rule never prefers each of two neighbours to the
other (`IsNearest.mono`), so that there is only one. Truncation is the floor or the ceiling, by the sign.
-/

namespace Karar.Foundation.Rounding

variable {K : Type*} [Field K] [LinearOrder K] [IsStrictOrderedRing K]

/-! ### Nearest integers -/

/-- No integer is nearer, and the rule prefers this one to each of those as near. -/
structure IsNearest (prefers : ℤ → ℤ → Prop) (exact : K) (n : ℤ) : Prop where
  near : ∀ other : ℤ, |exact - n| ≤ |exact - other|
  tie : ∀ other : ℤ, other ≠ n → |exact - other| = |exact - n| → prefers n other

/-- Ties go away from zero. -/
def AwayFromZero (n other : ℤ) : Prop := |other| < |n|

/-- Ties go to the even neighbour. -/
def ToEven (n _other : ℤ) : Prop := Even n

section Nearest

variable {prefers : ℤ → ℤ → Prop} {exact exact' : K} {n n' : ℤ}

theorem IsNearest.abs_sub_le (hnearest : IsNearest prefers exact n) : |exact - n| ≤ 1 / 2 := by
  have hup := hnearest.near (n + 1)
  have hdown := hnearest.near (n - 1)
  push_cast at hup hdown
  rcases abs_cases (exact - n) with ⟨habs, hsign⟩ | ⟨habs, hsign⟩
  · rw [habs] at hup ⊢
    rcases abs_cases (exact - (n + 1)) with ⟨hother, _⟩ | ⟨hother, _⟩
    · rw [hother] at hup
      linarith
    · rw [hother] at hup
      linarith
  · rw [habs] at hdown ⊢
    rcases abs_cases (exact - (n - 1)) with ⟨hother, _⟩ | ⟨hother, _⟩
    · rw [hother] at hdown
      linarith
    · rw [hother] at hdown
      linarith

/-- Within one half an integer is nearest, and the ties are with its two neighbours. -/
theorem isNearest_of_abs_sub_le (hclose : |exact - n| ≤ 1 / 2)
    (hup : exact = n + 1 / 2 → prefers n (n + 1)) (hdown : exact = n - 1 / 2 → prefers n (n - 1)) :
    IsNearest prefers exact n := by
  obtain ⟨hlower, hupper⟩ := abs_le.mp hclose
  -- Another integer lies at or beyond the neighbour on its side.
  have habove {other : ℤ} (hother : n < other) : (n : K) + 1 ≤ other := by exact_mod_cast hother
  have hbelow {other : ℤ} (hother : other < n) : (other : K) + 1 ≤ n := by exact_mod_cast hother
  constructor
  · intro other
    rcases lt_trichotomy other n with hother | rfl | hother
    · exact le_trans hclose (le_trans (by linarith [hbelow hother]) (le_abs_self _))
    · exact le_rfl
    · exact le_trans hclose (le_trans (by linarith [habove hother]) (neg_le_abs _))
  · intro other hne htie
    rw [← htie] at hclose
    rcases lt_or_gt_of_ne hne with hother | hother
    · have hfar := hbelow hother
      have hexact : exact = n - 1 / 2 := by linarith [le_trans (le_abs_self _) hclose]
      have hcast : (other : K) = ((n - 1 : ℤ) : K) := by
        push_cast
        linarith [le_trans (le_abs_self _) hclose]
      rw [Int.cast_injective hcast]
      exact hdown hexact
    · have hfar := habove hother
      have hexact : exact = n + 1 / 2 := by linarith [le_trans (neg_le_abs _) hclose]
      have hcast : (other : K) = ((n + 1 : ℤ) : K) := by
        push_cast
        linarith [le_trans (neg_le_abs _) hclose]
      rw [Int.cast_injective hcast]
      exact hup hexact

/-- Strictly within one half there is no tie to settle. -/
theorem isNearest_of_abs_sub_lt (hclose : |exact - n| < 1 / 2) : IsNearest prefers exact n := by
  obtain ⟨hlower, hupper⟩ := abs_lt.mp hclose
  refine isNearest_of_abs_sub_le (le_of_lt hclose) ?_ ?_
  · intro htie
    linarith
  · intro htie
    linarith

/-- The nearest integer grows with the number. -/
theorem IsNearest.mono (hasymm : ∀ n, prefers n (n + 1) → ¬ prefers (n + 1) n)
    (hnearest : IsNearest prefers exact n) (hnearest' : IsNearest prefers exact' n')
    (hle : exact ≤ exact') : n ≤ n' := by
  by_contra hgreater
  rw [not_le] at hgreater
  have hcast : (n' : K) + 1 ≤ n := by exact_mod_cast hgreater
  obtain ⟨hlower, _⟩ := abs_le.mp hnearest.abs_sub_le
  obtain ⟨_, hupper⟩ := abs_le.mp hnearest'.abs_sub_le
  -- Both numbers are the one half way between two neighbours.
  have hsame : exact' = exact := by linarith
  have hexact : exact = n' + 1 / 2 := by linarith
  have hneighbour : n = n' + 1 := by
    have hcasts : (n : K) = ((n' + 1 : ℤ) : K) := by
      push_cast
      linarith
    exact Int.cast_injective hcasts
  subst hneighbour hsame
  have htie : |exact' - ((n' + 1 : ℤ) : K)| = |exact' - n'| := by
    rw [hexact, abs_sub_comm]
    congr 1
    push_cast
    ring
  exact hasymm n' (hnearest'.tie _ (by omega) htie) (hnearest.tie _ (by omega) htie.symm)

omit [IsStrictOrderedRing K] in
theorem IsNearest.neg (hsymm : ∀ n other, prefers n other → prefers (-n) (-other))
    (hnearest : IsNearest prefers exact n) : IsNearest prefers (-exact) (-n) := by
  have hdistance (other : ℤ) : |-exact - ((-other : ℤ) : K)| = |exact - other| := by
    rw [Int.cast_neg, ← neg_sub', abs_neg]
  constructor
  · intro other
    have hother := hdistance (-other)
    rw [neg_neg] at hother
    rw [hdistance, hother]
    exact hnearest.near (-other)
  · intro other hne htie
    have hother := hdistance (-other)
    rw [neg_neg] at hother
    rw [hdistance, hother] at htie
    have hprefers := hsymm _ _ (hnearest.tie (-other) (fun hsame ↦ hne (by omega)) htie)
    rwa [neg_neg] at hprefers

end Nearest

theorem awayFromZero_asymm (n : ℤ) (hprefers : AwayFromZero n (n + 1)) : ¬ AwayFromZero (n + 1) n :=
  lt_asymm hprefers

theorem awayFromZero_neg (n other : ℤ) (hprefers : AwayFromZero n other) :
    AwayFromZero (-n) (-other) := by
  simpa only [AwayFromZero, abs_neg] using hprefers

theorem toEven_asymm (n : ℤ) (hprefers : ToEven n (n + 1)) : ¬ ToEven (n + 1) n := by
  intro hsucc
  exact Int.even_add_one.mp hsucc hprefers

theorem toEven_neg (n other : ℤ) (hprefers : ToEven n other) : ToEven (-n) (-other) :=
  Even.neg hprefers

/-! ### Truncation -/

section Truncation

variable [FloorRing K] {exact exact' : K}

/-- The integer part toward zero. -/
def truncate (exact : K) : ℤ := if 0 ≤ exact then ⌊exact⌋ else ⌈exact⌉

omit [IsStrictOrderedRing K] in
theorem truncate_mono (hle : exact ≤ exact') : truncate exact ≤ truncate exact' := by
  unfold truncate
  by_cases hnonneg : 0 ≤ exact
  · rw [if_pos hnonneg, if_pos (le_trans hnonneg hle)]
    exact Int.floor_mono hle
  · rw [if_neg hnonneg]
    have hnonpos : ⌈exact⌉ ≤ 0 := Int.ceil_le.mpr (by exact_mod_cast le_of_lt (not_le.mp hnonneg))
    by_cases hnonneg' : 0 ≤ exact'
    · rw [if_pos hnonneg']
      exact le_trans hnonpos (Int.floor_nonneg.mpr hnonneg')
    · rw [if_neg hnonneg']
      exact Int.ceil_mono hle

@[simp] theorem truncate_intCast (n : ℤ) : truncate (n : K) = n := by
  unfold truncate
  rw [Int.floor_intCast, Int.ceil_intCast, ite_self]

theorem truncate_neg (exact : K) : truncate (-exact) = -truncate exact := by
  unfold truncate
  rcases lt_trichotomy exact 0 with hsign | rfl | hsign
  · rw [if_pos (by linarith), if_neg (not_le.mpr hsign), Int.floor_neg]
  · simp
  · rw [if_neg (by linarith), if_pos (le_of_lt hsign), Int.ceil_neg]

theorem abs_sub_truncate_lt (exact : K) : |exact - truncate exact| < 1 := by
  unfold truncate
  rw [abs_lt]
  by_cases hnonneg : 0 ≤ exact
  · rw [if_pos hnonneg]
    constructor <;> linarith [Int.floor_le exact, Int.lt_floor_add_one exact]
  · rw [if_neg hnonneg]
    constructor <;> linarith [Int.le_ceil exact, Int.ceil_lt_add_one exact]

end Truncation

end Karar.Foundation.Rounding
