import Karar.Formatting.KararFormatter
import Karar.Foundation.LetterCase
import Mathlib.Algebra.Order.Ring.Int
import Mathlib.Data.List.Basic
import Mathlib.Data.List.TakeWhile

/-!
# What the text of an amount says

The text of an amount of money is read back, in Western digits: the sign, the digits of the whole part
without the separators between them, and the digits after the decimal point. What is assumed of the
`intl` package is that it prints an integer exactly with the grouping of the locale
(`NumberFormat.Exact`).

Reading gives the minor units and the number of decimal places for every amount but the least integer
(`moneyExact_iff`). The magnitude of the least integer is no integer of 64 bits: it is negative again, and
gets a second sign.
-/

namespace Karar.Formatting

/-! ### The assumption -/

/-- A character of a sign: no digit, no separator and no space between the amount and its currency. -/
def IsSign (c : Char) : Prop :=
  westernForm c = c ∧ c.isDigit = false ∧ c ≠ '.' ∧ c ≠ ',' ∧ c ≠ noBreakSpace

/-- What `intl` documents for the pattern of whole numbers: digits of one block, the locale's separators,
and every integer printed exactly, with separators between groups of its digits. -/
structure NumberFormat.Exact (numberFormat : NumberFormat) : Prop where
  zeroDigit : numberFormat.symbols.ZERO_DIGIT.toNat ∈ [0x30, 0x0660, 0x06F0]
  decimalSeparator : westernForm numberFormat.symbols.DECIMAL_SEP = '.'
  groupSeparator : westernForm numberFormat.symbols.GROUP_SEP = ','
  minusSign : numberFormat.symbols.MINUS_SIGN ≠ []
  isSign : ∀ c ∈ numberFormat.symbols.MINUS_SIGN, IsSign c
  whole (n : ℕ) : (numberFormat.format n).filter (· ≠ numberFormat.symbols.GROUP_SEP) =
    localizeDigits (Nat.toDigits 10 n) numberFormat.symbols.ZERO_DIGIT
  negative (n : ℕ) : 0 < n →
    numberFormat.format (-n) = numberFormat.symbols.MINUS_SIGN ++ numberFormat.format n

/-! ### Reading -/

/-- The number that is written by the digits of a whole part and of a fraction, and how many digits the
fraction has. -/
def readDigits (whole fraction : List Char) : Option (ℕ × ℕ) :=
  if whole ≠ [] ∧ (whole ++ fraction).all Char.isDigit then
    some (Nat.ofDigitChars 10 (whole ++ fraction) 0, fraction.length)
  else none

/-- An amount without its sign. -/
def readMagnitude (text : List Char) : Option (ℕ × ℕ) :=
  let whole := (text.takeWhile (· ≠ '.')).filter (· ≠ ',')
  match text.dropWhile (· ≠ '.') with
  | [] => readDigits whole []
  | _ :: [] => none
  | _ :: fraction => readDigits whole fraction

/-- An amount: its minor units and its number of decimal places. -/
def readAmount (symbols : NumberSymbols) (text : List Char) : Option (ℤ × ℕ) :=
  if symbols.MINUS_SIGN.isPrefixOf text then
    (readMagnitude (text.drop symbols.MINUS_SIGN.length)).map fun (value, places) ↦ (-value, places)
  else (readMagnitude text).map fun (value, places) ↦ (value, places)

/-- The amount in a text that also has a currency, after it or before it. -/
def readMoney (formatter : KararFormatter) (text : List Char) : Option (ℤ × ℕ) :=
  match (toWestern text).splitOn noBreakSpace with
  | [first, second] =>
    readAmount formatter.numberFormat.symbols (if formatter.isRightToLeft then first else second)
  | _ => none

/-! ### Digits -/

theorem isDigit_of_mem_toDigits {n : ℕ} {c : Char} (hc : c ∈ Nat.toDigits 10 n) : c.isDigit = true :=
  Nat.isDigit_of_mem_toDigits (by decide) (by decide) hc

theorem toWestern_eq_self {text : List Char} (hsame : ∀ c ∈ text, westernForm c = c) :
    toWestern text = text := by
  rw [toWestern]
  conv_rhs => rw [← List.map_id text]
  exact List.map_congr_left hsame

theorem westernForm_of_isDigit {c : Char} (hc : c.isDigit = true) : westernForm c = c := by
  obtain ⟨n, hn, rfl⟩ := eq_ofNat_of_isDigit hc
  exact (westernForm_digit n hn).1

/-- Digits in the block of the locale read as the digits. -/
theorem toWestern_localizeDigits {digits : List Char} {zeroDigit : Char}
    (hdigits : ∀ c ∈ digits, c.isDigit = true) (hzero : zeroDigit.toNat ∈ [0x30, 0x0660, 0x06F0]) :
    toWestern (localizeDigits digits zeroDigit) = digits := by
  have hform (c : Char) (hc : c.isDigit = true) :
      westernForm (Char.ofNat (zeroDigit.toNat + (c.toNat - 0x30))) = c := by
    obtain ⟨n, hn, rfl⟩ := eq_ofNat_of_isDigit hc
    have hvalue : ∀ n < 10, (Char.ofNat (0x30 + n)).toNat - 0x30 = n := by decide
    rw [hvalue n hn]
    simp only [List.mem_cons, List.not_mem_nil, or_false] at hzero
    rcases hzero with hzero | hzero | hzero
    · rw [hzero]
      exact (westernForm_digit n hn).1
    · rw [hzero]
      exact (westernForm_digit n hn).2.1
    · rw [hzero]
      exact (westernForm_digit n hn).2.2
  unfold localizeDigits
  split_ifs with hwestern
  · exact toWestern_eq_self fun c hc ↦ westernForm_of_isDigit (hdigits c hc)
  · rw [toWestern, List.map_map]
    conv_rhs => rw [← List.map_id digits]
    exact List.map_congr_left fun c hc ↦ hform c (hdigits c hc)

theorem padLeft_spec {digits : List Char} (hdigits : ∀ c ∈ digits, c.isDigit = true) {width : ℕ}
    (hwidth : digits.length ≤ width) : (padLeft digits width).length = width ∧
      (∀ c ∈ padLeft digits width, c.isDigit = true) ∧
      Nat.ofDigitChars 10 (padLeft digits width) 0 = Nat.ofDigitChars 10 digits 0 := by
  refine ⟨?_, ?_, ?_⟩
  · rw [padLeft, List.length_append, List.length_replicate]
    omega
  · intro c hc
    rcases List.mem_append.mp hc with hc | hc
    · rw [List.eq_of_mem_replicate hc]
      rfl
    · exact hdigits c hc
  · rw [padLeft, Nat.ofDigitChars_append, Nat.ofDigitChars_replicate_zero, Nat.mul_zero]

/-! ### A printed whole part -/

section Printed

variable {numberFormat : NumberFormat} (hexact : numberFormat.Exact)
include hexact

theorem form_of_mem_format {n : ℕ} {c : Char} (hc : c ∈ numberFormat.format n) :
    c = numberFormat.symbols.GROUP_SEP ∨ (westernForm c).isDigit = true := by
  by_cases hgroup : c = numberFormat.symbols.GROUP_SEP
  · exact .inl hgroup
  · have hmem : c ∈ localizeDigits (Nat.toDigits 10 n) numberFormat.symbols.ZERO_DIGIT := by
      rw [← hexact.whole n, List.mem_filter]
      exact ⟨hc, by simpa using hgroup⟩
    have hwestern := List.mem_map_of_mem (f := westernForm) hmem
    rw [← toWestern, toWestern_localizeDigits (fun d hd ↦ isDigit_of_mem_toDigits hd)
      hexact.zeroDigit] at hwestern
    exact .inr (isDigit_of_mem_toDigits hwestern)

/-- The digits of a printed number, without what stands between them. -/
theorem filter_toWestern_format (n : ℕ) :
    (toWestern (numberFormat.format n)).filter (· ≠ ',') = Nat.toDigits 10 n := by
  have hfilter (text : List Char) (htext : ∀ c ∈ text,
      c = numberFormat.symbols.GROUP_SEP ∨ (westernForm c).isDigit = true) :
      (toWestern text).filter (· ≠ ',') =
        toWestern (text.filter (· ≠ numberFormat.symbols.GROUP_SEP)) := by
    induction text with
    | nil => rfl
    | cons c rest ih =>
      have hrest := ih fun d hd ↦ htext d (List.mem_cons_of_mem c hd)
      rw [toWestern] at hrest ⊢
      by_cases hgroup : c = numberFormat.symbols.GROUP_SEP
      · rw [List.map_cons, hgroup, hexact.groupSeparator, List.filter_cons_of_neg (by simp),
          List.filter_cons_of_neg (by simp), hrest]
      · have hdigit := (htext c List.mem_cons_self).resolve_left hgroup
        have hcomma : westernForm c ≠ ',' := by
          intro heq
          rw [heq] at hdigit
          exact absurd hdigit (by decide)
        rw [List.map_cons, List.filter_cons_of_pos (by simpa using hcomma),
          List.filter_cons_of_pos (by simpa using hgroup), hrest]
        rfl
  rw [hfilter _ fun c hc ↦ form_of_mem_format hexact hc, hexact.whole n,
    toWestern_localizeDigits (fun d hd ↦ isDigit_of_mem_toDigits hd) hexact.zeroDigit]

theorem spec_of_mem_toWestern_format {n : ℕ} {c : Char}
    (hc : c ∈ toWestern (numberFormat.format n)) : c = ',' ∨ c.isDigit = true := by
  obtain ⟨d, hd, rfl⟩ := List.mem_map.mp hc
  rcases form_of_mem_format hexact hd with rfl | hdigit
  · exact .inl hexact.groupSeparator
  · exact .inr hdigit

/-- A printed whole part, and after it a point and digits, or nothing. -/
theorem readMagnitude_format (n : ℕ) {fraction : List Char}
    (hfraction : ∀ c ∈ fraction, c.isDigit = true) :
    readMagnitude (toWestern (numberFormat.format n) ++
      if fraction = [] then [] else '.' :: fraction) =
      some (Nat.ofDigitChars 10 (Nat.toDigits 10 n ++ fraction) 0, fraction.length) := by
  have hplain : ∀ c ∈ toWestern (numberFormat.format n), (decide (c ≠ '.')) = true := by
    intro c hc
    rw [decide_eq_true_eq]
    rintro rfl
    rcases spec_of_mem_toWestern_format hexact hc with hcomma | hdigit
    · exact absurd hcomma (by decide)
    · exact absurd hdigit (by decide)
  have hread : readDigits (Nat.toDigits 10 n) fraction =
      some (Nat.ofDigitChars 10 (Nat.toDigits 10 n ++ fraction) 0, fraction.length) := by
    rw [readDigits, if_pos]
    refine ⟨Nat.toDigits_ne_nil, ?_⟩
    rw [List.all_eq_true]
    intro c hc
    rcases List.mem_append.mp hc with hc | hc
    · exact isDigit_of_mem_toDigits hc
    · exact hfraction c hc
  unfold readMagnitude
  by_cases hnone : fraction = []
  · rw [if_pos hnone, List.append_nil, List.takeWhile_eq_self_iff.mpr hplain,
      List.dropWhile_eq_nil_iff.mpr hplain, filter_toWestern_format hexact, ← hread, hnone]
  · rw [if_neg hnone, List.takeWhile_append_of_pos hplain, List.dropWhile_append_of_pos hplain,
      List.takeWhile_cons_of_neg (by simp), List.dropWhile_cons_of_neg (by simp), List.append_nil,
      filter_toWestern_format hexact]
    cases fraction with
    | nil => exact absurd rfl hnone
    | cons c rest => exact hread

/-- What begins with a sign is no magnitude. -/
theorem readMagnitude_sign (text : List Char) :
    readMagnitude (numberFormat.symbols.MINUS_SIGN ++ text) = none := by
  obtain ⟨c, rest, hsign⟩ := List.exists_cons_of_ne_nil hexact.minusSign
  obtain ⟨-, hdigit, hpoint, hcomma, -⟩ := hexact.isSign c (by simp [hsign])
  have hnone (whole fraction : List Char) : readDigits (c :: whole) fraction = none := by
    rw [readDigits, if_neg]
    simp [hdigit]
  rw [readMagnitude, hsign, List.cons_append, List.takeWhile_cons_of_pos (by simpa using hpoint),
    List.filter_cons_of_pos (by simpa using hcomma), List.dropWhile_cons_of_pos (by simpa using hpoint)]
  split
  · exact hnone _ _
  · rfl
  · exact hnone _ _

theorem toWestern_sign :
    toWestern numberFormat.symbols.MINUS_SIGN = numberFormat.symbols.MINUS_SIGN :=
  toWestern_eq_self fun c hc ↦ (hexact.isSign c hc).1

omit hexact in
theorem readAmount_negative (text : List Char) :
    readAmount numberFormat.symbols (numberFormat.symbols.MINUS_SIGN ++ text) =
      (readMagnitude text).map fun (value, places) ↦ (-value, places) := by
  rw [readAmount, if_pos (by simp), List.drop_left]

theorem readAmount_format (n : ℕ) (text : List Char) :
    readAmount numberFormat.symbols (toWestern (numberFormat.format n) ++ text) =
      (readMagnitude (toWestern (numberFormat.format n) ++ text)).map
        fun (value, places) ↦ (value, places) := by
  obtain ⟨c, rest, hsign⟩ := List.exists_cons_of_ne_nil hexact.minusSign
  obtain ⟨-, hdigit, -, hcomma, -⟩ := hexact.isSign c (by simp [hsign])
  rw [readAmount, if_neg]
  rw [hsign]
  cases hformat : toWestern (numberFormat.format n) with
  | nil =>
    have hdigits := filter_toWestern_format hexact n
    rw [hformat] at hdigits
    exact absurd hdigits.symm Nat.toDigits_ne_nil
  | cons d others =>
    have hd : d = ',' ∨ d.isDigit = true :=
      spec_of_mem_toWestern_format (n := n) hexact (by simp [hformat])
    have hne : c ≠ d := by
      rintro rfl
      rcases hd with hd | hd
      · exact hcomma hd
      · rw [hdigit] at hd
        exact absurd hd (by simp)
    simp [hne]

end Printed

/-! ### Arithmetic -/

theorem wrap_eq_self {value : ℤ} (hlower : minInt64 ≤ value) (hupper : value < 9223372036854775808) :
    wrap value = value := by
  rw [minInt64] at hlower
  rw [wrap, Int.bmod_def]
  split_ifs
  · omega
  · omega

/-- The decimal places of a currency. -/
theorem currencyExponentFor_cases (code : CurrencyCode) :
    currencyExponentFor code = 0 ∨ currencyExponentFor code = 2 ∨ currencyExponentFor code = 3 := by
  rw [currencyExponentFor]
  cases hfound : currencyExponents.find? (·.1 = code.toUpperCase) with
  | none => exact .inr (.inl rfl)
  | some entry =>
    have hlisted : ∀ entry ∈ currencyExponents, entry.2 = 0 ∨ entry.2 = 2 ∨ entry.2 = 3 := by decide
    exact hlisted entry (List.mem_of_find?_eq_some hfound)

/-- The power of ten of the decimal places of a currency, as a natural number. -/
theorem pow10_eq {places : ℕ} (hplaces : places = 0 ∨ places = 2 ∨ places = 3) :
    ∃ divisor : ℕ, pow10 places = divisor ∧ divisor = 10 ^ places ∧ 0 < divisor := by
  rcases hplaces with rfl | rfl | rfl
  · exact ⟨1, by decide, rfl, by omega⟩
  · exact ⟨100, by decide, rfl, by omega⟩
  · exact ⟨1000, by decide, rfl, by omega⟩

/-- But for the least integer, a value has its magnitude cut into quotient and remainder. -/
theorem magnitude_spec {value : ℤ} (hlower : minInt64 < value) (hupper : value < 9223372036854775808)
    (divisor : ℕ) :
    divideTruncating (absInt value) divisor = (value.natAbs / divisor : ℕ) ∧
      remainder (absInt value) divisor = (value.natAbs % divisor : ℕ) := by
  rw [minInt64] at hlower
  have hmagnitude : absInt value = value.natAbs := by
    rw [absInt, wrap_eq_self]
    · rw [minInt64]
      omega
    · omega
  have hle : value.natAbs / divisor ≤ value.natAbs := Nat.div_le_self _ _
  refine ⟨?_, ?_⟩
  · rw [hmagnitude, divideTruncating, ← Int.ofNat_tdiv]
    generalize value.natAbs / divisor = quotient at hle
    rw [wrap_eq_self]
    · rw [minInt64]
      omega
    · omega
  · rw [hmagnitude, remainder]
    rfl

/-- The magnitude of the least integer is negative, and so is the whole part it is cut into. -/
theorem magnitude_minInt64 {places : ℕ} (hplaces : places = 0 ∨ places = 2 ∨ places = 3) :
    ∃ n : ℕ, 0 < n ∧ divideTruncating (absInt minInt64) (pow10 places) = -(n : ℤ) := by
  rcases hplaces with rfl | rfl | rfl
  · exact ⟨9223372036854775808, by omega, by decide⟩
  · exact ⟨92233720368547758, by omega, by decide⟩
  · exact ⟨9223372036854775, by omega, by decide⟩

/-- The digits of a remainder, with zeros before them. -/
def fractionDigits (magnitude places : ℕ) : List Char :=
  if 0 < places then padLeft (Nat.toDigits 10 (magnitude % 10 ^ places)) places else []

theorem fractionDigits_spec (magnitude : ℕ) (places : ℕ) :
    (fractionDigits magnitude places).length = places ∧
      (∀ c ∈ fractionDigits magnitude places, c.isDigit = true) ∧
      Nat.ofDigitChars 10 (Nat.toDigits 10 (magnitude / 10 ^ places) ++
        fractionDigits magnitude places) 0 = magnitude := by
  unfold fractionDigits
  split_ifs with hpos
  · have hlt : magnitude % 10 ^ places < 10 ^ places := Nat.mod_lt _ (Nat.pow_pos (by omega))
    have hlength : (Nat.toDigits 10 (magnitude % 10 ^ places)).length ≤ places :=
      (Nat.length_toDigits_le_iff (by omega) hpos).mpr hlt
    obtain ⟨hwidth, hdigits, hvalue⟩ :=
      padLeft_spec (fun c hc ↦ isDigit_of_mem_toDigits hc) hlength
    refine ⟨hwidth, hdigits, ?_⟩
    rw [Nat.ofDigitChars_append, Nat.ofDigitChars_eq_ofDigitChars_zero, hwidth, hvalue,
      Nat.ofDigitChars_ten_toDigits, Nat.ofDigitChars_ten_toDigits]
    exact Nat.div_add_mod magnitude (10 ^ places)
  · obtain rfl : places = 0 := by omega
    simp

/-! ### An amount -/

section Amount

variable {numberFormat : NumberFormat} (hexact : numberFormat.Exact)
include hexact

/-- The text of an amount in Western digits. -/
theorem toWestern_formatScaled {value : ℤ} (hlower : minInt64 < value)
    (hupper : value < 9223372036854775808) {places : ℕ}
    (hplaces : places = 0 ∨ places = 2 ∨ places = 3) :
    toWestern (formatScaled numberFormat value places) =
      (if value < 0 then numberFormat.symbols.MINUS_SIGN else []) ++
        (toWestern (numberFormat.format (value.natAbs / 10 ^ places : ℕ)) ++
          if fractionDigits value.natAbs places = [] then []
          else '.' :: fractionDigits value.natAbs places) := by
  obtain ⟨divisor, hpow, hdivisor, -⟩ := pow10_eq hplaces
  obtain ⟨hwhole, hremainder⟩ := magnitude_spec hlower hupper divisor
  have hsign : toWestern (if value < 0 then numberFormat.symbols.MINUS_SIGN else []) =
      if value < 0 then numberFormat.symbols.MINUS_SIGN else [] := by
    split_ifs
    · exact toWestern_sign hexact
    · rfl
  have hfraction : toWestern (if 0 < places then
      numberFormat.symbols.DECIMAL_SEP :: localizeDigits
        (padLeft (toString ((value.natAbs % divisor : ℕ) : ℤ)).toList places)
        numberFormat.symbols.ZERO_DIGIT else []) =
      if fractionDigits value.natAbs places = [] then []
      else '.' :: fractionDigits value.natAbs places := by
    obtain ⟨hlength, hdigits, -⟩ := fractionDigits_spec value.natAbs places
    by_cases hnone : 0 < places
    · have hsome : fractionDigits value.natAbs places ≠ [] := by
        intro hempty
        rw [hempty] at hlength
        exact absurd hlength.symm (by simpa using hnone.ne')
      have hpadded : padLeft (toString ((value.natAbs % divisor : ℕ) : ℤ)).toList places =
          fractionDigits value.natAbs places := by
        have htext : toString ((value.natAbs % divisor : ℕ) : ℤ) = (value.natAbs % divisor).repr := rfl
        rw [fractionDigits, if_pos hnone, htext, Nat.toList_repr, hdivisor]
      rw [if_pos hnone, if_neg hsome, hpadded, toWestern, List.map_cons, hexact.decimalSeparator,
        ← toWestern, toWestern_localizeDigits hdigits hexact.zeroDigit]
    · rw [if_neg hnone, fractionDigits, if_neg hnone, if_pos rfl]
      rfl
  rw [formatScaled, toWestern_append, toWestern_append, hsign, List.append_assoc, hpow, hwhole,
    hremainder, hfraction, hdivisor]

theorem readAmount_formatScaled {value : ℤ} (hlower : minInt64 < value)
    (hupper : value < 9223372036854775808) {places : ℕ}
    (hplaces : places = 0 ∨ places = 2 ∨ places = 3) :
    readAmount numberFormat.symbols (toWestern (formatScaled numberFormat value places)) =
      some (value, places) := by
  obtain ⟨hlength, hdigits, hvalue⟩ := fractionDigits_spec value.natAbs places
  have hmagnitude := readMagnitude_format hexact (value.natAbs / 10 ^ places) hdigits
  rw [hvalue, hlength] at hmagnitude
  rw [toWestern_formatScaled hexact hlower hupper hplaces]
  by_cases hnegative : value < 0
  · have hsigned : -(value.natAbs : ℤ) = value := by omega
    rw [if_pos hnegative, readAmount_negative, hmagnitude, Option.map_some]
    dsimp only
    rw [hsigned]
  · have hsigned : (value.natAbs : ℤ) = value := by omega
    rw [if_neg hnegative, List.nil_append, readAmount_format hexact, hmagnitude, Option.map_some]
    dsimp only
    rw [hsigned]

/-- The text of the least integer has two signs. -/
theorem readAmount_minInt64 {places : ℕ} (hplaces : places = 0 ∨ places = 2 ∨ places = 3) :
    readAmount numberFormat.symbols (toWestern (formatScaled numberFormat minInt64 places)) = none := by
  obtain ⟨n, hn, hwhole⟩ := magnitude_minInt64 hplaces
  rw [formatScaled, if_pos (by decide), hwhole, hexact.negative n hn, toWestern_append, toWestern_append,
    toWestern_append, toWestern_sign hexact, List.append_assoc, readAmount_negative, List.append_assoc,
    readMagnitude_sign hexact, Option.map_none]

theorem noBreakSpace_not_mem_format (value : ℤ) :
    noBreakSpace ∉ toWestern (numberFormat.format value) := by
  have hnatural (n : ℕ) : noBreakSpace ∉ toWestern (numberFormat.format n) := by
    intro hmem
    rcases spec_of_mem_toWestern_format hexact hmem with hcomma | hdigit
    · exact absurd hcomma (by decide)
    · exact absurd hdigit (by decide)
  by_cases hnegative : value < 0
  · have hvalue : -(value.natAbs : ℤ) = value := by omega
    rw [← hvalue, hexact.negative _ (by omega), toWestern_append, toWestern_sign hexact, List.mem_append]
    rintro (hsign | hmem)
    · exact (hexact.isSign _ hsign).2.2.2.2 rfl
    · exact hnatural _ hmem
  · have hvalue : (value.natAbs : ℤ) = value := by omega
    rw [← hvalue]
    exact hnatural _

/-- The space before or after the currency is no part of an amount. -/
theorem noBreakSpace_not_mem (value : ℤ) {places : ℕ} (hplaces : places = 0 ∨ places = 2 ∨ places = 3) :
    noBreakSpace ∉ toWestern (formatScaled numberFormat value places) := by
  obtain ⟨divisor, hpow, -, hpos⟩ := pow10_eq hplaces
  obtain ⟨fraction, hfraction⟩ : ∃ fraction : ℕ, remainder (absInt value) divisor = fraction :=
    Int.eq_ofNat_of_zero_le (Int.emod_nonneg _ (by omega))
  have hdigits : ∀ c ∈ padLeft (toString (fraction : ℤ)).toList places, c.isDigit = true := by
    have htext : toString (fraction : ℤ) = fraction.repr := rfl
    intro c hc
    rw [htext, Nat.toList_repr] at hc
    rcases List.mem_append.mp hc with hc | hc
    · rw [List.eq_of_mem_replicate hc]
      rfl
    · exact isDigit_of_mem_toDigits hc
  rw [formatScaled, hpow, hfraction, toWestern_append, toWestern_append, List.mem_append, List.mem_append]
  rintro ((hsign | hwhole) | hrest)
  · split_ifs at hsign
    · rw [toWestern_sign hexact] at hsign
      exact (hexact.isSign _ hsign).2.2.2.2 rfl
    · simp [toWestern] at hsign
  · exact noBreakSpace_not_mem_format hexact _ hwhole
  · split_ifs at hrest
    · rw [toWestern, List.map_cons, hexact.decimalSeparator, ← toWestern,
        toWestern_localizeDigits hdigits hexact.zeroDigit, List.mem_cons] at hrest
      rcases hrest with hpoint | hmem
      · exact absurd hpoint (by decide)
      · exact absurd (hdigits _ hmem) (by decide)
    · simp [toWestern] at hrest

end Amount

/-! ### Money -/

/-- A code has letters only. -/
theorem spec_of_mem_display {code : CurrencyCode} {c : Char} (hc : c ∈ currencyDisplayFor code) :
    westernForm c = c ∧ c ≠ noBreakSpace := by
  rw [currencyDisplayFor, CurrencyCode.toUpperCase, String.toList_ofList] at hc
  obtain ⟨d, hd, rfl⟩ := List.mem_map.mp hc
  have halpha := code.alphabetic d hd
  have hle : d.toNat ≤ 'z'.toNat := by
    rcases Bool.or_eq_true_iff.mp halpha with hupper | hlower
    · exact Nat.le_trans (of_decide_eq_true hupper).2 (by decide)
    · exact of_decide_eq_true (Bool.and_eq_true_iff.mp hlower).2
  have hlow : d.toUpper.toNat < 128 :=
    Foundation.CaseData.of_ascii (P := fun d ↦ d.toUpper.toNat < 128) (by decide)
      (Nat.lt_of_le_of_lt hle (by decide))
  refine ⟨westernForm_of_lt (by omega), ?_⟩
  intro hspace
  rw [hspace] at hlow
  exact absurd hlow (by decide)

variable {formatter : KararFormatter}

theorem toWestern_money (minorUnits : DartInt) (code : CurrencyCode) :
    toWestern (formatter.money minorUnits code) =
      if formatter.isRightToLeft then
        toWestern (formatScaled formatter.numberFormat minorUnits.value (currencyExponentFor code)) ++
          noBreakSpace :: currencyDisplayFor code
      else currencyDisplayFor code ++ noBreakSpace ::
        toWestern (formatScaled formatter.numberFormat minorUnits.value (currencyExponentFor code)) := by
  have hdisplay : toWestern (currencyDisplayFor code) = currencyDisplayFor code :=
    toWestern_eq_self fun c hc ↦ (spec_of_mem_display hc).1
  have hspace (rest : List Char) : toWestern (noBreakSpace :: rest) = noBreakSpace :: toWestern rest := by
    rw [toWestern, List.map_cons, westernForm_of_lt (by decide)]
    rfl
  rw [KararFormatter.money]
  split_ifs
  · rw [toWestern_append, hspace, hdisplay, toWestern_applySystem]
  · rw [toWestern_append, hspace, hdisplay, toWestern_applySystem]

/-- Reading the text of an amount of money reads the amount in it. -/
theorem readMoney_money (hexact : formatter.numberFormat.Exact) (minorUnits : DartInt)
    (code : CurrencyCode) : readMoney formatter (formatter.money minorUnits code) =
      readAmount formatter.numberFormat.symbols
        (toWestern (formatScaled formatter.numberFormat minorUnits.value (currencyExponentFor code))) := by
  have hamount := noBreakSpace_not_mem hexact minorUnits.value (currencyExponentFor_cases code)
  have hdisplay : noBreakSpace ∉ currencyDisplayFor code := fun hmem ↦ (spec_of_mem_display hmem).2 rfl
  rw [readMoney, toWestern_money]
  by_cases hdirection : formatter.isRightToLeft = true
  · rw [if_pos hdirection, List.splitOn_append_cons_self, List.splitOn_eq_singleton hamount,
      List.splitOn_eq_singleton hdisplay]
    dsimp only [List.cons_append, List.nil_append]
    rw [if_pos hdirection]
  · rw [if_neg hdirection, List.splitOn_append_cons_self, List.splitOn_eq_singleton hamount,
      List.splitOn_eq_singleton hdisplay]
    dsimp only [List.cons_append, List.nil_append]
    rw [if_neg hdirection]

/-- What the text of an amount is to say: read back it is the minor units at the places of the currency,
no other amount has it, and in Arabic-Indic digits it maps to the text in Western ones. -/
structure MoneyExact (formatter : KararFormatter) (minorUnits : DartInt) (code : CurrencyCode) :
    Prop where
  reads : readMoney formatter (formatter.money minorUnits code) =
    some (minorUnits.value, currencyExponentFor code)
  determines (other : DartInt) (otherCode : CurrencyCode) :
    formatter.money other otherCode = formatter.money minorUnits code →
    other.value = minorUnits.value ∧ currencyExponentFor otherCode = currencyExponentFor code
  western : toWestern ({ formatter with numerals := .arabicIndic }.money minorUnits code) =
    { formatter with numerals := .western }.money minorUnits code

theorem readMoney_of_ne (hexact : formatter.numberFormat.Exact) {minorUnits : DartInt}
    (hne : minorUnits.value ≠ minInt64) (code : CurrencyCode) :
    readMoney formatter (formatter.money minorUnits code) =
      some (minorUnits.value, currencyExponentFor code) := by
  have hlower : minInt64 < minorUnits.value := by
    have hle := minorUnits.lower
    omega
  rw [readMoney_money hexact,
    readAmount_formatScaled hexact hlower minorUnits.upper (currencyExponentFor_cases code)]

theorem readMoney_minInt64 (hexact : formatter.numberFormat.Exact) {minorUnits : DartInt}
    (hmin : minorUnits.value = minInt64) (code : CurrencyCode) :
    readMoney formatter (formatter.money minorUnits code) = none := by
  rw [readMoney_money hexact, hmin, readAmount_minInt64 hexact (currencyExponentFor_cases code)]

/-- The text of an amount is exact for every amount but the least integer. -/
theorem moneyExact_iff (formatter : KararFormatter) (hexact : formatter.numberFormat.Exact)
    (minorUnits : DartInt) (code : CurrencyCode) :
    MoneyExact formatter minorUnits code ↔ minorUnits.value ≠ minInt64 := by
  constructor
  · intro hmoney hmin
    have hreads := hmoney.reads
    rw [readMoney_minInt64 hexact hmin] at hreads
    exact absurd hreads (by simp)
  · intro hne
    refine ⟨readMoney_of_ne hexact hne code, ?_, ?_⟩
    · intro other otherCode htext
      have hread := readMoney_of_ne hexact hne code
      rw [← htext] at hread
      by_cases hmin : other.value = minInt64
      · rw [readMoney_minInt64 hexact hmin] at hread
        exact absurd hread (by simp)
      · rw [readMoney_of_ne hexact hmin, Option.some.injEq, Prod.mk.injEq] at hread
        exact hread
    · rw [toWestern_money]
      rfl

/-! ### The shipped locales -/

/-- Digits from the last one on, with a separator after every third one. -/
def groupReversed (separator : Char) : List Char → List Char
  | a :: b :: c :: d :: rest => a :: b :: c :: separator :: groupReversed separator (d :: rest)
  | digits => digits

/-- The pattern of a locale with Western digits, with its minus sign. -/
def latinFormat (minusSign : List Char) : NumberFormat where
  symbols :=
    { MINUS_SIGN := minusSign
      DECIMAL_SEP := '.'
      GROUP_SEP := ','
      ZERO_DIGIT := '0' }
  format value :=
    (if value < 0 then minusSign else []) ++
      (groupReversed ',' (Nat.toDigits 10 value.natAbs).reverse).reverse

/-- `en`. -/
def englishFormat : NumberFormat := latinFormat ['-']

/-- `ar`, whose sign has a mark for the direction before it. -/
def arabicFormat : NumberFormat := latinFormat [Char.ofNat 0x200E, '-']

theorem filter_groupReversed {separator : Char} {digits : List Char} (hdigits : separator ∉ digits) :
    (groupReversed separator digits).filter (· ≠ separator) = digits := by
  have hsame (text : List Char) (htext : separator ∉ text) : text.filter (· ≠ separator) = text := by
    rw [List.filter_eq_self]
    intro c hc
    rw [decide_eq_true_eq]
    rintro rfl
    exact htext hc
  induction digits using groupReversed.induct with
  | case1 a b c d rest ih =>
    have hrest := ih fun hmem ↦ hdigits
      (List.mem_cons_of_mem a (List.mem_cons_of_mem b (List.mem_cons_of_mem c hmem)))
    have hgroup : separator ∉ [a, b, c] := fun hmem ↦ hdigits (List.mem_append_left (d :: rest) hmem)
    have hcut : groupReversed separator (a :: b :: c :: d :: rest) =
        [a, b, c] ++ separator :: groupReversed separator (d :: rest) := rfl
    rw [hcut, List.filter_append, hsame _ hgroup, List.filter_cons_of_neg (by simp), hrest]
    rfl
  | case2 digits hshort =>
    rw [groupReversed]
    · exact hsame digits hdigits
    · exact hshort

theorem exact_latinFormat {minusSign : List Char} (hminus : minusSign ≠ [])
    (hsign : ∀ c ∈ minusSign, IsSign c) : (latinFormat minusSign).Exact := by
  have hzero : '0'.toNat ∈ [0x30, 0x0660, 0x06F0] := by decide
  have hdecimal : westernForm '.' = '.' := by decide
  have hgroup : westernForm ',' = ',' := by decide
  refine ⟨hzero, hdecimal, hgroup, hminus, hsign, ?_, ?_⟩
  · intro n
    have hcomma : ',' ∉ (Nat.toDigits 10 n).reverse := by
      intro hmem
      have hdigit := isDigit_of_mem_toDigits (List.mem_reverse.mp hmem)
      exact absurd hdigit (by decide)
    have hnatural : ¬ ((n : ℤ) < 0) := by omega
    have hdigits := filter_groupReversed hcomma
    rw [latinFormat]
    dsimp only
    rw [if_neg hnatural, List.nil_append, List.filter_reverse, Int.natAbs_natCast, hdigits,
      List.reverse_reverse]
    rfl
  · intro n hn
    have hnegative : -(n : ℤ) < 0 := by omega
    have hnatural : ¬ ((n : ℤ) < 0) := by omega
    rw [latinFormat]
    dsimp only
    rw [if_pos hnegative, if_neg hnatural, Int.natAbs_neg]
    rfl

theorem exact_englishFormat : englishFormat.Exact :=
  exact_latinFormat (by simp) fun c hc ↦ by
    rw [List.mem_singleton.mp hc]
    exact ⟨by decide, by decide, by decide, by decide, by decide⟩

theorem exact_arabicFormat : arabicFormat.Exact := by
  refine exact_latinFormat (by simp) fun c hc ↦ ?_
  rcases List.mem_pair.mp hc with rfl | rfl
  · exact ⟨by decide, by decide, by decide, by decide, by decide⟩
  · exact ⟨by decide, by decide, by decide, by decide, by decide⟩

theorem alphabetic_qar : ∀ c ∈ ['Q', 'A', 'R'], c.isAlpha = true := by simp

def qar : CurrencyCode := ⟨['Q', 'A', 'R'], alphabetic_qar⟩

/-- `12,345.67`. -/
def someAmount : DartInt := ⟨1234567, by decide, by decide⟩

def leastAmount : DartInt := ⟨minInt64, by decide, by decide⟩

/-- The amounts in English and in Arabic, there in Arabic-Indic digits. -/
theorem moneyExact_iff_shipped :
    (MoneyExact ⟨englishFormat, false, .locale⟩ someAmount qar ↔ someAmount.value ≠ minInt64) ∧
      (MoneyExact ⟨arabicFormat, true, .arabicIndic⟩ someAmount qar ↔ someAmount.value ≠ minInt64) :=
  ⟨moneyExact_iff ⟨englishFormat, false, .locale⟩ exact_englishFormat someAmount qar,
    moneyExact_iff ⟨arabicFormat, true, .arabicIndic⟩ exact_arabicFormat someAmount qar⟩

/-- The least amount is written with two signs and with the wrong fraction. -/
theorem leastAmount_inexact :
    (⟨englishFormat, false, .locale⟩ : KararFormatter).money leastAmount qar =
        "QAR\u00A0--92,233,720,368,547,758.92".toList ∧
      ¬ MoneyExact ⟨englishFormat, false, .locale⟩ leastAmount qar := by
  refine ⟨by decide, fun hmoney ↦ ?_⟩
  have hreads := hmoney.reads
  rw [readMoney_minInt64 exact_englishFormat rfl] at hreads
  exact absurd hreads (by simp)

end Karar.Formatting
