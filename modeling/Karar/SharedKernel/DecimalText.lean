import Karar.Foundation.DecimalText
import Karar.SharedKernel.Money

/-!
# Decimal texts of amounts and percentages

An amount is read from a decimal with at most as many fraction digits as its currency has, and printed
with exactly as many; a percentage is read from any decimal that its scale can hold, and printed without
trailing zeros. `Money.decimalTextLaw` and `Percentage.percentTextLaw` say that what is printed is read
back, by value, and what texts are read at all.
-/

namespace Karar.SharedKernel

open Foundation.DecimalText

/-! ## Magnitudes -/

theorem magnitude_eq (n : ℤ) : (if n < 0 then -n else n) = (n.natAbs : ℤ) := by
  split_ifs with hn
  · omega
  · omega

theorem signed_natAbs (n : ℤ) : (if decide (n < 0) = true then -1 else 1) * (n.natAbs : ℚ) = n := by
  have habs : ((n.natAbs : ℤ) : ℚ) = |(n : ℚ)| := by
    rw [Int.natCast_natAbs, Int.cast_abs]
  rw [← Int.cast_natCast, habs]
  by_cases hn : n < 0
  · have hcast : (n : ℚ) < 0 := by exact_mod_cast hn
    rw [if_pos (decide_eq_true hn), abs_of_neg hcast]
    ring
  · have hcast : 0 ≤ (n : ℚ) := by exact_mod_cast not_lt.mp hn
    rw [if_neg (by simpa using hn), abs_of_nonneg hcast, one_mul]

theorem tdiv_pow10 (n exponent : ℕ) :
    (n : ℤ).tdiv (pow10 exponent) = ((n / 10 ^ exponent : ℕ) : ℤ) := by
  unfold pow10
  exact_mod_cast (Int.ofNat_tdiv n (10 ^ exponent)).symm

theorem tmod_pow10 (n exponent : ℕ) :
    (n : ℤ).tmod (pow10 exponent) = ((n % 10 ^ exponent : ℕ) : ℤ) := by
  unfold pow10
  exact_mod_cast (Int.ofNat_tmod n (10 ^ exponent)).symm

theorem toList_toString_natCast (n : ℕ) : (toString (n : ℤ)).toList = Nat.toDigits 10 n :=
  Nat.toList_repr

theorem toList_signString (n : ℤ) :
    (if n < 0 then "-" else "").toList = signText (decide (n < 0)) := by
  by_cases hn : n < 0
  · rw [if_pos hn, decide_eq_true hn]
    rfl
  · rw [if_neg hn, decide_eq_false hn]
    rfl

/-! ## Amounts -/

namespace Money

def InvalidAmountError (message : String) : KernelError := ⟨"InvalidAmountError", message⟩

/-- `of`, for minor units in a string. -/
def ofString (minorUnits : String) (currency : Currency) : Except KernelError Money :=
  if isInteger minorUnits.toList then .ok ⟨integer minorUnits.toList, currency⟩
  else
    .error (InvalidAmountError
      s!"minor-unit string '{minorUnits}' is not an optionally-signed decimal integer")

def toWireString (money : Money) : String := ToString.toString money.minorUnits

def fromDecimalString (text : String) (currency : Currency) : Except KernelError Money :=
  match parse text.toList with
  | none =>
    .error (InvalidAmountError
      s!"'{text}' is not a decimal amount (expected digits with an optional sign and fraction)")
  | some literal =>
    if currency.exponent < literal.fraction.length then
      .error (InvalidAmountError
        (s!"'{text}' has {literal.fraction.length} fractional digits but {currency.code} has " ++
          s!"exponent {currency.exponent} — excess precision is rejected, not rounded"))
    else
      let paddedFraction := literal.fraction.rightpad currency.exponent '0'
      let minorUnits := literal.sign * (number literal.whole * pow10 currency.exponent +
        number (if paddedFraction = [] then ['0'] else paddedFraction))
      .ok ⟨minorUnits, currency⟩

/-- Debug representation with the currency's exponent applied. -/
def toString (money : Money) : String :=
  let scale := pow10 money.currency.exponent
  let magnitude := if money.minorUnits < 0 then -money.minorUnits else money.minorUnits
  let whole := magnitude.tdiv scale
  let sign := if money.minorUnits < 0 then "-" else ""
  if money.currency.exponent = 0 then
    s!"{money.currency.code} {sign}{whole}"
  else
    let remainder := magnitude.tmod scale
    let fraction := (ToString.toString remainder).toList.leftpad money.currency.exponent '0'
    s!"{money.currency.code} {sign}{whole}.{String.ofList fraction}"

/-! ### What is read and printed -/

section Texts

variable {text : String} {currency : Currency} {money : Money}

/-- The minor units of a decimal that the currency's exponent can hold. -/
theorem minorUnits_of_literal {literal : Literal} {exponent : ℕ}
    (hfraction : literal.fraction.length ≤ exponent) :
    ((literal.sign * (number literal.whole * pow10 exponent +
      number (literal.fraction.rightpad exponent '0')) : ℤ) : ℚ) = literal.value * 10 ^ exponent := by
  obtain ⟨more, rfl⟩ := Nat.exists_eq_add_of_le hfraction
  rw [number_rightpad, Nat.add_sub_cancel_left]
  unfold Literal.value pow10
  push_cast
  rw [pow_add]
  field_simp

theorem number_or_zero (digits : List Char) :
    number (if digits = [] then ['0'] else digits) = number digits := by
  split_ifs with hnil
  · rw [hnil]
    rfl
  · rfl

theorem major_eq_iff {value : ℚ} :
    money.major = value ↔ (money.minorUnits : ℚ) = value * 10 ^ money.currency.exponent := by
  unfold major
  rw [div_eq_iff (by positivity)]

/-- A text is read where it spells a decimal with few enough digits, as the exact value. -/
theorem fromDecimalString_eq_ok_iff : fromDecimalString text currency = .ok money ↔
    ∃ literal : Literal, literal.text = text.toList ∧ literal.fraction.length ≤ currency.exponent ∧
      money.currency = currency ∧ money.major = literal.value := by
  unfold fromDecimalString
  constructor
  · intro hread
    split at hread
    · exact nomatch hread
    next literal hparse =>
      dsimp only at hread
      rw [number_or_zero] at hread
      split_ifs at hread with hexcess
      obtain rfl := Except.ok.inj hread
      refine ⟨literal, parse_eq_some_iff.mp hparse, not_lt.mp hexcess, rfl, ?_⟩
      rw [major_eq_iff, minorUnits_of_literal (not_lt.mp hexcess)]
  · rintro ⟨literal, htext, hfraction, rfl, hvalue⟩
    rw [parse_eq_some_iff.mpr htext]
    dsimp only
    rw [if_neg (not_lt.mpr hfraction), number_or_zero, Except.ok.injEq]
    rw [major_eq_iff, ← minorUnits_of_literal hfraction, Int.cast_inj] at hvalue
    rw [← hvalue]

theorem fromDecimalString_error {error : KernelError}
    (herror : fromDecimalString text currency = .error error) : error.name = "InvalidAmountError" := by
  unfold fromDecimalString at herror
  split at herror
  · exact Except.error.inj herror ▸ rfl
  · dsimp only at herror
    split_ifs at herror
    exact Except.error.inj herror ▸ rfl

/-- The parts of the text that an amount is printed as. -/
def printed (money : Money) : Literal :=
  .ofUnits (money.minorUnits < 0) money.currency.exponent money.minorUnits.natAbs

theorem value_printed (money : Money) : money.printed.value = money.major := by
  unfold printed major
  rw [Literal.value_ofUnits, ← signed_natAbs money.minorUnits]
  ring

theorem toString_eq (money : Money) :
    money.toString = money.currency.code ++ " " ++ String.ofList money.printed.text := by
  unfold toString printed
  dsimp only
  rw [magnitude_eq, tdiv_pow10, tmod_pow10]
  apply String.toList_inj.mp
  by_cases hexponent : money.currency.exponent = 0
  · rw [if_pos hexponent]
    change (money.currency.code ++ " " ++ (if money.minorUnits < 0 then "-" else "") ++
      ToString.toString ((money.minorUnits.natAbs / _ : ℕ) : ℤ)).toList = _
    rw [hexponent] at *
    simp only [String.toList_append, String.toList_ofList, toList_signString, toList_toString_natCast,
      List.append_assoc, Literal.text_ofUnits_zero, Nat.pow_zero, Nat.div_one]
  · rw [if_neg hexponent]
    change (money.currency.code ++ " " ++ (if money.minorUnits < 0 then "-" else "") ++
      ToString.toString ((money.minorUnits.natAbs / _ : ℕ) : ℤ) ++ "." ++ String.ofList _).toList = _
    simp only [String.toList_append, String.toList_ofList, toList_signString, toList_toString_natCast,
      List.append_assoc, Literal.text_ofUnits hexponent]
    rfl

/-- What decimal texts of amounts promise, for every currency. -/
structure DecimalTextLaw : Prop where
  /-- What is printed, without the code of the currency, is read back. -/
  back : ∀ money : Money, ∃ text, money.toString = money.currency.code ++ " " ++ text ∧
    fromDecimalString text money.currency = .ok money
  accepted : ∀ (text : String) (currency : Currency) (money : Money),
    fromDecimalString text currency = .ok money ↔
      ∃ literal : Literal, literal.text = text.toList ∧ literal.fraction.length ≤ currency.exponent ∧
        money.currency = currency ∧ money.major = literal.value
  /-- Every such text is accepted. -/
  exact : ∀ (literal : Literal) (currency : Currency), literal.fraction.length ≤ currency.exponent →
    ∃ money, fromDecimalString (String.ofList literal.text) currency = .ok money ∧
      money.currency = currency ∧ money.major = literal.value
  refused : ∀ (text : String) (currency : Currency) (error : KernelError),
    fromDecimalString text currency = .error error → error.name = "InvalidAmountError"

theorem decimalTextLaw : DecimalTextLaw where
  back := by
    intro money
    refine ⟨String.ofList money.printed.text, toString_eq money, ?_⟩
    refine fromDecimalString_eq_ok_iff.mpr ⟨money.printed, ?_, ?_, rfl, (value_printed money).symm⟩
    · exact String.toList_ofList.symm
    · exact le_of_eq (Literal.length_fraction_ofUnits _ _ _)
  accepted _ _ _ := fromDecimalString_eq_ok_iff
  exact := by
    intro literal currency hfraction
    refine ⟨⟨literal.sign * (number literal.whole * pow10 currency.exponent +
      number (literal.fraction.rightpad currency.exponent '0')), currency⟩, ?_, rfl, ?_⟩
    · apply fromDecimalString_eq_ok_iff.mpr
      refine ⟨literal, String.toList_ofList.symm, hfraction, rfl, ?_⟩
      exact major_eq_iff.mpr (minorUnits_of_literal hfraction)
    · exact major_eq_iff.mpr (minorUnits_of_literal hfraction)
  refused _ _ _ := fromDecimalString_error

end Texts

end Money

/-! ## Percentages -/

/-- An exact percentage: the ratio is the value over a power of ten. -/
structure Percentage where
  value : ℤ
  scale : ℕ
  bounded : scale ≤ 30

namespace Percentage

def MAX_SCALE : ℕ := 30

def InvalidPercentageError (message : String) : KernelError := ⟨"InvalidPercentageError", message⟩

/-- The number of the scale may be any; `numberText` is `String(number)`. -/
def of (numberText : Number → String) (value : ℤ) (scale : Number) : Except KernelError Percentage :=
  match hscale : scale.exponent? MAX_SCALE with
  | none =>
    .error (InvalidPercentageError
      (s!"scale must be an integer in [0, {MAX_SCALE}], got " ++ numberText scale))
  | some exponent => .ok ⟨value, exponent, Number.le_of_exponent? hscale⟩

theorem of_eq_ok_iff {numberText : Number → String} {value : ℤ} {scale : Number}
    {percentage : Percentage} : of numberText value scale = .ok percentage ↔
      percentage.value = value ∧ scale.exponent? MAX_SCALE = some percentage.scale := by
  obtain ⟨value', scale', hbounded⟩ := percentage
  unfold of
  constructor
  · intro hof
    split at hof
    · exact nomatch hof
    next exponent hexponent =>
      rw [Except.ok.injEq, Percentage.mk.injEq] at hof
      obtain ⟨rfl, rfl⟩ := hof
      exact ⟨rfl, hexponent⟩
  · rintro ⟨rfl, hscale⟩
    split
    next hnone => exact absurd (hnone.symm.trans hscale) (by simp)
    next exponent hexponent =>
      obtain rfl := Option.some.inj (hexponent.symm.trans hscale)
      rfl

theorem le_of_not_exceeds {digits : ℕ} (hdigits : ¬MAX_SCALE < digits + 2) : digits + 2 ≤ 30 :=
  not_lt.mp hdigits

def fromPercent (text : String) : Except KernelError Percentage :=
  match parse text.toList with
  | none =>
    .error (InvalidPercentageError
      (s!"'{text}' is not a decimal percentage literal " ++
        "(expected digits with an optional sign and fraction)"))
  | some literal =>
    if hexceeds : MAX_SCALE < literal.fraction.length + 2 then
      .error (InvalidPercentageError
        s!"'{text}' exceeds the maximum supported precision ({MAX_SCALE - 2} fractional digits)")
    else
      .ok ⟨literal.sign * number (literal.whole ++ literal.fraction), literal.fraction.length + 2,
        le_of_not_exceeds hexceeds⟩

/-- Debug representation in percent, exact, without trailing zeros. -/
def toString (percentage : Percentage) : String :=
  let sign := if percentage.value < 0 then "-" else ""
  let magnitude := if percentage.value < 0 then -percentage.value else percentage.value
  let percentScale : ℤ := percentage.scale - 2
  if percentScale ≤ 0 then
    s!"{sign}{magnitude * pow10 (-percentScale).toNat}%"
  else
    let divisor := pow10 percentScale.toNat
    let whole := magnitude.tdiv divisor
    let remainder := (ToString.toString (magnitude.tmod divisor)).toList
    let fraction := Literal.stripped (remainder.leftpad percentScale.toNat '0')
    if fraction = [] then s!"{sign}{whole}%" else s!"{sign}{whole}.{String.ofList fraction}%"

def ratio (percentage : Percentage) : ℚ := percentage.value / 10 ^ percentage.scale

/-! ### What is read and printed -/

section Texts

variable {text : String} {percentage percentage' : Percentage}

theorem fromPercent_eq_ok_iff : fromPercent text = .ok percentage ↔
    ∃ literal : Literal, literal.text = text.toList ∧
      percentage.value = literal.sign * number (literal.whole ++ literal.fraction) ∧
        percentage.scale = literal.fraction.length + 2 := by
  obtain ⟨value, scale, hbounded⟩ := percentage
  unfold fromPercent
  constructor
  · intro hread
    split at hread
    · exact nomatch hread
    next literal hparse =>
      split_ifs at hread with hexceeds
      rw [Except.ok.injEq, Percentage.mk.injEq] at hread
      exact ⟨literal, parse_eq_some_iff.mp hparse, hread.1.symm, hread.2.symm⟩
  · rintro ⟨literal, htext, rfl, rfl⟩
    have hwithin : ¬MAX_SCALE < literal.fraction.length + 2 := not_lt.mpr hbounded
    rw [parse_eq_some_iff.mpr htext]
    dsimp only
    rw [dif_neg hwithin]

/-- A percentage that was read is the hundredth part of the decimal. -/
theorem ratio_of_literal {literal : Literal}
    (hvalue : percentage.value = literal.sign * number (literal.whole ++ literal.fraction))
    (hscale : percentage.scale = literal.fraction.length + 2) :
    percentage.ratio = literal.value / 100 := by
  unfold ratio Literal.value
  rw [hvalue, hscale, number_append, pow_add]
  push_cast
  field_simp
  ring

/-- The parts of the text that a percentage is printed as, without the sign of percent. -/
def printed (percentage : Percentage) : Literal :=
  (Literal.ofUnits (percentage.value < 0) (percentage.scale - 2)
    (percentage.value.natAbs * 10 ^ (2 - percentage.scale))).trimmed

theorem value_printed (percentage : Percentage) : percentage.printed.value = percentage.ratio * 100 := by
  have hscale : (10 ^ (2 - percentage.scale) * 10 ^ percentage.scale : ℚ) =
      100 * 10 ^ (percentage.scale - 2) := by
    have hhundred : (100 : ℚ) = 10 ^ 2 := by norm_num
    rw [hhundred, ← pow_add, ← pow_add]
    congr 1
    omega
  unfold printed ratio
  rw [Literal.value_trimmed, Literal.value_ofUnits]
  push_cast
  rw [← mul_div_assoc, ← mul_assoc, signed_natAbs, div_mul_eq_mul_div,
    div_eq_div_iff (by positivity) (by positivity)]
  linear_combination (percentage.value : ℚ) * hscale

theorem toString_eq (percentage : Percentage) :
    percentage.toString = String.ofList percentage.printed.text ++ "%" := by
  have hdown : ((percentage.scale : ℤ) - 2).toNat = percentage.scale - 2 := by omega
  have hup : (-((percentage.scale : ℤ) - 2)).toNat = 2 - percentage.scale := by omega
  unfold toString printed
  dsimp only
  rw [magnitude_eq, hdown, hup, tdiv_pow10, tmod_pow10, toList_toString_natCast]
  apply String.toList_inj.mp
  by_cases hscale : percentage.scale ≤ 2
  · have hplaces : percentage.scale - 2 = 0 := by omega
    rw [if_pos (by omega), hplaces]
    change ((if percentage.value < 0 then "-" else "") ++
      ToString.toString ((percentage.value.natAbs * 10 ^ (2 - percentage.scale) : ℕ) : ℤ) ++
        "%").toList = _
    have htrimmed : ∀ n, (Literal.ofUnits (percentage.value < 0) 0 n).trimmed.text =
        (Literal.ofUnits (percentage.value < 0) 0 n).text := fun _ ↦ rfl
    simp only [String.toList_append, String.toList_ofList, toList_signString, toList_toString_natCast,
      htrimmed, Literal.text_ofUnits_zero]
  · have hplaces : percentage.scale - 2 ≠ 0 := by omega
    have hunit : 2 - percentage.scale = 0 := by omega
    rw [if_neg (by omega), hunit, Nat.pow_zero, Nat.mul_one]
    rw [String.toList_append, String.toList_ofList, Literal.text_trimmed_ofUnits hplaces]
    unfold Literal.fractionText
    have hpadded : (Nat.toDigits 10 (percentage.value.natAbs % 10 ^ (percentage.scale - 2))).leftpad
        (percentage.scale - 2) '0' =
          padded (percentage.scale - 2) (percentage.value.natAbs % 10 ^ (percentage.scale - 2)) := rfl
    rw [hpadded]
    generalize Literal.stripped (padded (percentage.scale - 2) _) = fraction
    by_cases hfraction : fraction = []
    · rw [if_pos hfraction, if_pos hfraction]
      change ((if percentage.value < 0 then "-" else "") ++
        ToString.toString ((percentage.value.natAbs / _ : ℕ) : ℤ) ++ "%").toList = _
      simp only [String.toList_append, toList_signString, toList_toString_natCast, List.append_nil]
    · rw [if_neg hfraction, if_neg hfraction]
      change ((if percentage.value < 0 then "-" else "") ++
        ToString.toString ((percentage.value.natAbs / _ : ℕ) : ℤ) ++ "." ++ String.ofList _ ++
          "%").toList = _
      have hpoint : ".".toList = ['.'] := rfl
      simp only [String.toList_append, String.toList_ofList, toList_signString, hpoint,
        toList_toString_natCast, List.append_assoc, List.cons_append, List.nil_append]

theorem length_fraction_printed (percentage : Percentage) :
    percentage.printed.fraction.length + 2 ≤ 30 := by
  have hstripped := Literal.length_stripped_le (Literal.ofUnits (percentage.value < 0)
    (percentage.scale - 2) (percentage.value.natAbs * 10 ^ (2 - percentage.scale))).fraction
  rw [Literal.length_fraction_ofUnits] at hstripped
  have hbounded := percentage.bounded
  have hlength : percentage.printed.fraction.length ≤ percentage.scale - 2 := hstripped
  omega

theorem ratio_neg_iff (percentage : Percentage) : percentage.ratio < 0 ↔ percentage.value < 0 := by
  unfold ratio
  rw [div_neg_iff]
  have hunit : (0 : ℚ) < 10 ^ percentage.scale := by positivity
  constructor
  · rintro (⟨_, hunit'⟩ | ⟨hvalue, _⟩)
    · exact absurd hunit (not_lt.mpr (le_of_lt hunit'))
    · exact_mod_cast hvalue
  · intro hvalue
    exact .inr ⟨by exact_mod_cast hvalue, hunit⟩

/-- One ratio has one text, whatever the scale that it is kept at. -/
theorem printed_eq_of_ratio_eq (hratio : percentage.ratio = percentage'.ratio) :
    percentage.printed = percentage'.printed := by
  have hsign : (decide (percentage.value < 0)) = decide (percentage'.value < 0) := by
    rw [decide_eq_decide, ← ratio_neg_iff, ← ratio_neg_iff, hratio]
  have hcross : 10 ^ percentage'.scale * percentage.value.natAbs =
      10 ^ percentage.scale * percentage'.value.natAbs := by
    unfold ratio at hratio
    rw [div_eq_div_iff (by positivity) (by positivity)] at hratio
    have hints : percentage.value * 10 ^ percentage'.scale =
        percentage'.value * 10 ^ percentage.scale := by exact_mod_cast hratio
    have habs := congrArg Int.natAbs hints
    rw [Int.natAbs_mul, Int.natAbs_mul, Int.natAbs_pow, Int.natAbs_pow] at habs
    rw [Nat.mul_comm, Nat.mul_comm (10 ^ _)]
    exact habs
  unfold printed
  rw [hsign]
  apply Literal.trimmed_ofUnits_eq
  -- Both sides are a hundred times the crosswise products.
  have hscale : ∀ scale : ℕ, 10 ^ (scale - 2) * 100 = 10 ^ scale * 10 ^ (2 - scale) := by
    intro scale
    have hhundred : 100 = 10 ^ 2 := rfl
    rw [hhundred, ← Nat.pow_add, ← Nat.pow_add]
    congr 1
    omega
  apply Nat.eq_of_mul_eq_mul_left (Nat.zero_lt_succ 99)
  calc 100 * (10 ^ (percentage'.scale - 2) * (percentage.value.natAbs * 10 ^ (2 - percentage.scale)))
      = 10 ^ (percentage'.scale - 2) * 100 *
          (percentage.value.natAbs * 10 ^ (2 - percentage.scale)) := by ring
    _ = 10 ^ percentage'.scale * percentage.value.natAbs *
          (10 ^ (2 - percentage'.scale) * 10 ^ (2 - percentage.scale)) := by
        rw [hscale]
        ring
    _ = 10 ^ percentage.scale * percentage'.value.natAbs *
          (10 ^ (2 - percentage'.scale) * 10 ^ (2 - percentage.scale)) := by rw [hcross]
    _ = 10 ^ (percentage.scale - 2) * 100 *
          (percentage'.value.natAbs * 10 ^ (2 - percentage'.scale)) := by
        rw [hscale]
        ring
    _ = 100 * (10 ^ (percentage.scale - 2) *
          (percentage'.value.natAbs * 10 ^ (2 - percentage'.scale))) := by ring

/-- What the texts of percentages promise. -/
structure PercentTextLaw : Prop where
  /-- What is printed, without the sign of percent, is read back as the same ratio. -/
  back : ∀ percentage : Percentage, ∃ text back, percentage.toString = text ++ "%" ∧
    fromPercent text = .ok back ∧ back.ratio = percentage.ratio
  same : ∀ percentage percentage' : Percentage,
    percentage.toString = percentage'.toString ↔ percentage.ratio = percentage'.ratio

theorem percentTextLaw : PercentTextLaw where
  back := by
    intro percentage
    have hread : fromPercent (String.ofList percentage.printed.text) = .ok
        ⟨percentage.printed.sign *
          number (percentage.printed.whole ++ percentage.printed.fraction),
          percentage.printed.fraction.length + 2, length_fraction_printed percentage⟩ := by
      apply fromPercent_eq_ok_iff.mpr
      exact ⟨percentage.printed, String.toList_ofList.symm, rfl, rfl⟩
    refine ⟨_, _, toString_eq percentage, hread, ?_⟩
    rw [ratio_of_literal rfl rfl, value_printed]
    ring
  same := by
    intro percentage percentage'
    rw [toString_eq, toString_eq]
    constructor
    · intro htext
      have hparts : percentage.printed.text = percentage'.printed.text := by
        have hlist := congrArg String.toList htext
        simpa using hlist
      have hprinted : percentage.printed = percentage'.printed :=
        Option.some.inj ((parse_eq_some_iff.mpr hparts).symm.trans (parse_eq_some_iff.mpr rfl))
      have hvalue := congrArg Literal.value hprinted
      rw [value_printed, value_printed] at hvalue
      linarith
    · intro hratio
      rw [printed_eq_of_ratio_eq hratio]

end Texts

end Percentage

end Karar.SharedKernel
