import Karar.Foundation.Rounding
import Mathlib.Data.Rat.Floor

/-!
# Integer division under a rounding mode

The division that every monetary result rests on. `divideRounded` corrects the truncated quotient of
`bigint` by the remainder's sign and size; `RoundingMode.Resolves` says what each mode asks for, of the
exact quotient. `divideRounded_resolves` is the agreement of the two, for every numerator and every
positive denominator; a denominator that is not positive is refused.
-/

namespace Karar.SharedKernel

/-! ## Division under a rounding mode -/

open Foundation.Rounding

/-- A `KernelError`, with the name of its class. -/
structure KernelError where
  name : String
  message : String
deriving DecidableEq

/-! ### Numbers -/

/-- A number of JavaScript, by the rational that the double stands for. -/
inductive Number
  | nan
  | infinite (negative : Bool)
  | negativeZero
  | real (value : ℚ)
deriving DecidableEq

/-- A number that passes `Number.isInteger`, is not negative and at most the bound. As an exponent the
negative zero is zero. -/
def Number.exponent? (bound : ℕ) : Number → Option ℕ
  | .nan | .infinite _ => none
  | .negativeZero => some 0
  | .real value =>
    if value.den = 1 ∧ 0 ≤ value.num ∧ value.num ≤ bound then some value.num.toNat else none

@[simp] theorem Number.exponent?_natCast {bound n : ℕ} (hn : n ≤ bound) :
    Number.exponent? bound (.real n) = some n := by
  simp [Number.exponent?, hn]

theorem Number.le_of_exponent? {bound n : ℕ} {number : Number}
    (hn : number.exponent? bound = some n) : n ≤ bound := by
  cases number with
  | nan => exact nomatch hn
  | infinite negative => exact nomatch hn
  | negativeZero =>
    obtain rfl := Option.some.inj hn
    exact Nat.zero_le _
  | real value =>
    rw [Number.exponent?] at hn
    split_ifs at hn with hvalue
    obtain rfl := Option.some.inj hn
    omega

/-! ### Division -/

inductive RoundingMode
  | HALF_UP | HALF_EVEN | FLOOR | CEIL | TRUNC
deriving DecidableEq

/-- `10^exponent`, for an exponent that was checked. -/
def pow10 (exponent : ℕ) : ℤ := 10 ^ exponent

/-- A truncated quotient and its remainder, resolved. -/
def resolveRemainder (quotient remainder denominator : ℤ) (negative : Bool) :
    RoundingMode → ℤ :=
  let awayFromZero := if negative then quotient - 1 else quotient + 1
  let twiceRemainder := 2 * if remainder < 0 then -remainder else remainder
  fun
  | .TRUNC => quotient
  | .FLOOR => if negative then quotient - 1 else quotient
  | .CEIL => if negative then quotient else quotient + 1
  | .HALF_UP => if denominator ≤ twiceRemainder then awayFromZero else quotient
  | .HALF_EVEN =>
    if denominator < twiceRemainder then awayFromZero
    else if twiceRemainder < denominator then quotient
    else if quotient.tmod 2 = 0 then quotient else awayFromZero

def divideRounded (numerator denominator : ℤ) (roundingMode : RoundingMode) :
    Except KernelError ℤ :=
  if denominator ≤ 0 then
    .error ⟨"KernelError", s!"divideRounded requires a positive denominator, got {denominator}"⟩
  else
    let quotient := numerator.tdiv denominator
    let remainder := numerator.tmod denominator
    if remainder = 0 then .ok quotient
    else .ok (resolveRemainder quotient remainder denominator (numerator < 0) roundingMode)

/-! ### What a mode asks for -/

/-- The integer that a mode resolves an exact quotient to. -/
def RoundingMode.Resolves (exact : ℚ) (result : ℤ) : RoundingMode → Prop
  | .HALF_UP => IsNearest AwayFromZero exact result
  | .HALF_EVEN => IsNearest ToEven exact result
  | .FLOOR => result = ⌊exact⌋
  | .CEIL => result = ⌈exact⌉
  | .TRUNC => result = truncate exact

/-- The modes that answer with a nearest integer. -/
def RoundingMode.IsHalf (mode : RoundingMode) : Prop := mode = .HALF_UP ∨ mode = .HALF_EVEN

namespace RoundingMode

variable {mode : RoundingMode} {exact exact' : ℚ} {result result' : ℤ}

theorem Resolves.mono (hresolves : mode.Resolves exact result)
    (hresolves' : mode.Resolves exact' result') (hle : exact ≤ exact') : result ≤ result' := by
  cases mode with
  | HALF_UP => exact IsNearest.mono awayFromZero_asymm hresolves hresolves' hle
  | HALF_EVEN => exact IsNearest.mono toEven_asymm hresolves hresolves' hle
  | FLOOR =>
    rw [hresolves, hresolves']
    exact Int.floor_mono hle
  | CEIL =>
    rw [hresolves, hresolves']
    exact Int.ceil_mono hle
  | TRUNC =>
    rw [hresolves, hresolves']
    exact truncate_mono hle

/-- A mode resolves a quotient to one integer only. -/
theorem Resolves.unique (hresolves : mode.Resolves exact result)
    (hresolves' : mode.Resolves exact result') : result = result' :=
  le_antisymm (hresolves.mono hresolves' le_rfl) (hresolves'.mono hresolves le_rfl)

theorem Resolves.abs_sub_le_half (hhalf : mode.IsHalf) (hresolves : mode.Resolves exact result) :
    |exact - result| ≤ 1 / 2 := by
  rcases hhalf with rfl | rfl
  · exact IsNearest.abs_sub_le hresolves
  · exact IsNearest.abs_sub_le hresolves

theorem Resolves.abs_sub_lt_one (hresolves : mode.Resolves exact result) : |exact - result| < 1 := by
  cases mode with
  | HALF_UP => exact lt_of_le_of_lt (IsNearest.abs_sub_le hresolves) (by norm_num)
  | HALF_EVEN => exact lt_of_le_of_lt (IsNearest.abs_sub_le hresolves) (by norm_num)
  | FLOOR =>
    rw [hresolves, abs_lt]
    constructor <;> linarith [Int.floor_le exact, Int.lt_floor_add_one exact]
  | CEIL =>
    rw [hresolves, abs_lt]
    constructor <;> linarith [Int.le_ceil exact, Int.ceil_lt_add_one exact]
  | TRUNC =>
    rw [hresolves]
    exact abs_sub_truncate_lt exact

/-- How far a mode may be off. -/
def error (mode : RoundingMode) : ℚ :=
  match mode with
  | .HALF_UP | .HALF_EVEN => 1 / 2
  | .FLOOR | .CEIL | .TRUNC => 1

theorem Resolves.abs_sub_le_error (hresolves : mode.Resolves exact result) :
    |exact - result| ≤ mode.error := by
  cases mode with
  | HALF_UP => exact hresolves.abs_sub_le_half (.inl rfl)
  | HALF_EVEN => exact hresolves.abs_sub_le_half (.inr rfl)
  | FLOOR => exact le_of_lt hresolves.abs_sub_lt_one
  | CEIL => exact le_of_lt hresolves.abs_sub_lt_one
  | TRUNC => exact le_of_lt hresolves.abs_sub_lt_one

/-- The mode that does to the negative of a number what this one does to the number. -/
def mirror : RoundingMode → RoundingMode
  | .FLOOR => .CEIL
  | .CEIL => .FLOOR
  | mode => mode

@[simp] theorem mirror_mirror (mode : RoundingMode) : mode.mirror.mirror = mode := by
  cases mode <;> rfl

theorem mirror_of_isHalf (hhalf : mode.IsHalf) : mode.mirror = mode := by
  rcases hhalf with rfl | rfl
  · rfl
  · rfl

theorem Resolves.neg (hresolves : mode.Resolves exact result) :
    mode.mirror.Resolves (-exact) (-result) := by
  cases mode with
  | HALF_UP => exact IsNearest.neg awayFromZero_neg hresolves
  | HALF_EVEN => exact IsNearest.neg toEven_neg hresolves
  | FLOOR =>
    show -result = ⌈-exact⌉
    rw [hresolves, Int.ceil_neg]
  | CEIL =>
    show -result = ⌊-exact⌋
    rw [hresolves, Int.floor_neg]
  | TRUNC =>
    show -result = truncate (-exact)
    rw [hresolves, truncate_neg]

/-- A mode resolves an integer to itself. -/
theorem resolves_intCast (mode : RoundingMode) (result : ℤ) : mode.Resolves result result := by
  cases mode with
  | HALF_UP => exact isNearest_of_abs_sub_lt (by norm_num)
  | HALF_EVEN => exact isNearest_of_abs_sub_lt (by norm_num)
  | FLOOR => exact (Int.floor_intCast result).symm
  | CEIL => exact (Int.ceil_intCast result).symm
  | TRUNC => exact (truncate_intCast result).symm

end RoundingMode

/-! ### The code resolves the exact quotient -/

section Division

variable {numerator denominator quotient remainder : ℤ} {mode : RoundingMode}

/-- A positive remainder, over the denominator, is a fraction above a quotient that is not negative. -/
theorem resolves_of_remainder_pos (mode : RoundingMode) (hquotient : 0 ≤ quotient)
    (hpositive : 0 < remainder) (hlt : remainder < denominator) :
    mode.Resolves (quotient + remainder / denominator : ℚ)
      (resolveRemainder quotient remainder denominator false mode) := by
  have hdenominator : (0 : ℚ) < denominator := by exact_mod_cast lt_trans hpositive hlt
  have hsign : ¬ remainder < 0 := not_lt.mpr (le_of_lt hpositive)
  have hquotientRat : (0 : ℚ) ≤ quotient := by exact_mod_cast hquotient
  have hfractionPos : (0 : ℚ) < remainder / denominator :=
    div_pos (by exact_mod_cast hpositive) hdenominator
  have hfractionLt : (remainder : ℚ) / denominator < 1 :=
    (div_lt_one hdenominator).mpr (by exact_mod_cast hlt)
  have hless : 2 * remainder < denominator ↔ (remainder : ℚ) / denominator < 1 / 2 := by
    rw [div_lt_div_iff₀ hdenominator two_pos, one_mul, mul_comm]
    exact_mod_cast Iff.rfl
  have hmore : denominator < 2 * remainder ↔ 1 / 2 < (remainder : ℚ) / denominator := by
    rw [div_lt_div_iff₀ two_pos hdenominator, one_mul, mul_comm (remainder : ℚ)]
    exact_mod_cast Iff.rfl
  generalize (remainder : ℚ) / denominator = fraction at *
  have hfloor : ⌊(quotient : ℚ) + fraction⌋ = quotient := by
    rw [Int.floor_eq_iff]
    constructor <;> linarith
  cases mode with
  | TRUNC =>
    show quotient = truncate _
    rw [truncate, if_pos (by linarith), hfloor]
  | FLOOR => exact hfloor.symm
  | CEIL =>
    show quotient + 1 = ⌈(quotient : ℚ) + fraction⌉
    rw [eq_comm, Int.ceil_eq_iff]
    push_cast
    constructor <;> linarith
  | HALF_UP =>
    simp only [resolveRemainder, hsign, if_false, Bool.false_eq_true]
    by_cases hhalf : denominator ≤ 2 * remainder
    · rw [if_pos hhalf]
      have hfraction : 1 / 2 ≤ fraction := by
        rw [← not_lt, ← hless]
        omega
      apply isNearest_of_abs_sub_le
      · push_cast
        rw [abs_le]
        constructor <;> linarith
      · intro htie
        push_cast at htie
        linarith
      · intro _
        rw [AwayFromZero, abs_of_nonneg (by omega), abs_of_nonneg (by omega)]
        omega
    · rw [if_neg hhalf]
      have hfraction : fraction < 1 / 2 := hless.mp (by omega)
      apply isNearest_of_abs_sub_lt
      rw [add_sub_cancel_left, abs_of_pos hfractionPos]
      exact hfraction
  | HALF_EVEN =>
    simp only [resolveRemainder, hsign, if_false, Bool.false_eq_true]
    by_cases hmoreHalf : denominator < 2 * remainder
    · rw [if_pos hmoreHalf]
      have hfraction := hmore.mp hmoreHalf
      apply isNearest_of_abs_sub_lt
      push_cast
      rw [abs_lt]
      constructor <;> linarith
    · rw [if_neg hmoreHalf]
      by_cases hlessHalf : 2 * remainder < denominator
      · rw [if_pos hlessHalf]
        apply isNearest_of_abs_sub_lt
        rw [add_sub_cancel_left, abs_of_pos hfractionPos]
        exact hless.mp hlessHalf
      · rw [if_neg hlessHalf]
        -- The tie: one of the two neighbours is even.
        have hfraction : fraction = 1 / 2 := by
          rw [hmore] at hmoreHalf
          rw [hless] at hlessHalf
          exact le_antisymm (not_lt.mp hmoreHalf) (not_lt.mp hlessHalf)
        have heven : quotient.tmod 2 = 0 ↔ Even quotient := by
          rw [Int.even_iff, Int.tmod_eq_emod_of_nonneg hquotient]
        by_cases hquotientEven : quotient.tmod 2 = 0
        · rw [if_pos hquotientEven]
          apply isNearest_of_abs_sub_le
          · rw [add_sub_cancel_left, hfraction]
            norm_num
          · exact fun _ ↦ heven.mp hquotientEven
          · exact fun _ ↦ heven.mp hquotientEven
        · rw [if_neg hquotientEven]
          have hnext : Even (quotient + 1) := Int.even_add_one.mpr fun h ↦ hquotientEven (heven.mpr h)
          apply isNearest_of_abs_sub_le
          · push_cast
            rw [hfraction]
            norm_num
          · exact fun _ ↦ hnext
          · exact fun _ ↦ hnext

/-- The code treats a negative numerator as the mirror image of a positive one. -/
theorem resolveRemainder_neg (hnegative : remainder < 0) :
    resolveRemainder quotient remainder denominator true mode =
      -resolveRemainder (-quotient) (-remainder) denominator false mode.mirror := by
  have hsign : ¬ -remainder < 0 := by omega
  cases mode <;>
    simp only [resolveRemainder, RoundingMode.mirror, hnegative, hsign, if_true, if_false, neg_neg,
      Bool.false_eq_true, Int.neg_tmod, neg_eq_zero, apply_ite Neg.neg, neg_add, sub_eq_add_neg]

/-- Every mode, for every numerator and every positive denominator. -/
theorem divideRounded_resolves (numerator : ℤ) (mode : RoundingMode) (hdenominator : 0 < denominator) :
    ∃ result, divideRounded numerator denominator mode = .ok result ∧
      mode.Resolves (numerator / denominator : ℚ) result := by
  have hne : (denominator : ℚ) ≠ 0 := by exact_mod_cast ne_of_gt hdenominator
  have hdivision : numerator = numerator.tdiv denominator * denominator + numerator.tmod denominator :=
    (Int.tdiv_mul_add_tmod numerator denominator).symm
  have hexact : (numerator / denominator : ℚ) =
      numerator.tdiv denominator + numerator.tmod denominator / denominator := by
    have hcast : (numerator : ℚ) =
        numerator.tdiv denominator * denominator + numerator.tmod denominator := by
      exact_mod_cast hdivision
    rw [hcast, add_div, mul_div_cancel_right₀ _ hne]
  rw [hexact]
  unfold divideRounded
  rw [if_neg (not_le.mpr hdenominator)]
  by_cases hremainder : numerator.tmod denominator = 0
  · refine ⟨_, if_pos hremainder, ?_⟩
    rw [hremainder, Int.cast_zero, zero_div, add_zero]
    exact RoundingMode.resolves_intCast _ _
  · refine ⟨_, if_neg hremainder, ?_⟩
    by_cases hnegative : numerator < 0
    · have hlower := Int.tmod_nonneg denominator (a := -numerator) (by omega)
      have hupper := Int.tmod_lt_of_pos (-numerator) hdenominator
      have hquotient := Int.tdiv_nonneg (a := -numerator) (by omega) (le_of_lt hdenominator)
      rw [Int.neg_tmod] at hlower hupper
      rw [Int.neg_tdiv] at hquotient
      rw [decide_eq_true hnegative, resolveRemainder_neg (by omega)]
      have hmirror := (resolves_of_remainder_pos mode.mirror hquotient
        (show 0 < -numerator.tmod denominator by omega) hupper).neg
      rwa [RoundingMode.mirror_mirror, Int.cast_neg, Int.cast_neg, neg_div, ← neg_add, neg_neg]
        at hmirror
    · have hlower := Int.tmod_nonneg denominator (a := numerator) (by omega)
      have hupper := Int.tmod_lt_of_pos numerator hdenominator
      rw [decide_eq_false hnegative]
      exact resolves_of_remainder_pos mode (Int.tdiv_nonneg (by omega) (le_of_lt hdenominator))
        (by omega) hupper

theorem resolves_of_divideRounded {result : ℤ} (hdenominator : 0 < denominator)
    (hresult : divideRounded numerator denominator mode = .ok result) :
    mode.Resolves (numerator / denominator : ℚ) result := by
  obtain ⟨_, heq, hresolves⟩ := divideRounded_resolves numerator mode hdenominator
  rw [heq, Except.ok.injEq] at hresult
  rwa [← hresult]

/-- `bigint` divides by a positive denominator only. -/
theorem pos_of_divideRounded {result : ℤ}
    (hresult : divideRounded numerator denominator mode = .ok result) : 0 < denominator := by
  unfold divideRounded at hresult
  by_contra hdenominator
  rw [if_pos (not_lt.mp hdenominator)] at hresult
  exact nomatch hresult

theorem divideRounded_neg (numerator : ℤ) (mode : RoundingMode)
    (hdenominator : 0 < denominator) :
    divideRounded (-numerator) denominator mode.mirror =
      (divideRounded numerator denominator mode).map Neg.neg := by
  obtain ⟨result, hresult, hresolves⟩ := divideRounded_resolves numerator mode hdenominator
  obtain ⟨result', hresult', hresolves'⟩ :=
    divideRounded_resolves (-numerator) mode.mirror hdenominator
  rw [Int.cast_neg, neg_div] at hresolves'
  rw [hresult, hresult', hresolves'.unique hresolves.neg]
  rfl

/-- The five modes, for every numerator and every positive denominator; a denominator that is not
positive is refused. The result grows with the numerator, and the modes mirror each other. -/
theorem divideRounded_law :
    (∀ (numerator denominator : ℤ) (mode : RoundingMode), 0 < denominator →
      ∃ result, divideRounded numerator denominator mode = .ok result ∧
        mode.Resolves (numerator / denominator : ℚ) result) ∧
    (∀ (numerator denominator : ℤ) (mode : RoundingMode), denominator ≤ 0 →
      divideRounded numerator denominator mode =
        .error ⟨"KernelError", s!"divideRounded requires a positive denominator, got {denominator}"⟩) ∧
    (∀ (numerator numerator' denominator result result' : ℤ) (mode : RoundingMode),
      numerator ≤ numerator' → divideRounded numerator denominator mode = .ok result →
        divideRounded numerator' denominator mode = .ok result' → result ≤ result') ∧
    (∀ (numerator denominator : ℤ) (mode : RoundingMode), 0 < denominator → mode.IsHalf →
      divideRounded (-numerator) denominator mode =
        (divideRounded numerator denominator mode).map Neg.neg) ∧
    ∀ numerator denominator : ℤ, 0 < denominator →
      divideRounded (-numerator) denominator .FLOOR =
        (divideRounded numerator denominator .CEIL).map Neg.neg := by
  refine ⟨?_, ?_, ?_, ?_, ?_⟩
  · intro numerator denominator mode hdenominator
    exact divideRounded_resolves numerator mode hdenominator
  · intro numerator denominator mode hdenominator
    exact if_pos hdenominator
  · intro numerator numerator' denominator result result' mode hle hresult hresult'
    have hdenominator := pos_of_divideRounded hresult
    apply (resolves_of_divideRounded hdenominator hresult).mono
      (resolves_of_divideRounded hdenominator hresult')
    exact div_le_div_of_nonneg_right (by exact_mod_cast hle) (by exact_mod_cast le_of_lt hdenominator)
  · intro numerator denominator mode hdenominator hhalf
    have hneg := divideRounded_neg numerator mode hdenominator
    rwa [RoundingMode.mirror_of_isHalf hhalf] at hneg
  · intro numerator denominator hdenominator
    exact divideRounded_neg numerator .CEIL hdenominator

/-- Minus two is no denominator for the code, though the quotient has a floor. -/
theorem divideRounded_negative_refused :
    ¬ ∀ (numerator denominator : ℤ) (mode : RoundingMode), denominator ≠ 0 →
      ∃ result, divideRounded numerator denominator mode = .ok result ∧
        mode.Resolves (numerator / denominator : ℚ) result := by
  intro hall
  obtain ⟨result, hresult, _⟩ := hall 1 (-2) .FLOOR (by decide)
  exact absurd (pos_of_divideRounded hresult) (by decide)

end Division

end Karar.SharedKernel
