import Mathlib.Data.Char
import Mathlib.Data.Nat.Notation

/-!
# Formatting of numbers and money

A formatted text can be written with Western digits or with Arabic-Indic ones. `toArabicIndic` rewrites
the digits, and the separators that stand between two digits; `toWestern` rewrites digits and
separators back, wherever they stand. Texts are lists of characters.

What is written in Arabic-Indic reads in Western digits as the text it was made from
(`toWestern_toArabicIndic`).

`KararFormatter.money` writes an amount that is carried as minor units and a currency code: the sign, the
whole part as the `intl` package groups it, the decimal separator and as many digits as the currency has
decimal places. Dart's integers have 64 bits and wrap.
-/

namespace Karar.Formatting

/-! ## Numerals -/

inductive KararNumeralSystem
  /-- The digits of the locale. -/
  | locale
  | western
  | arabicIndic
deriving DecidableEq

/-- `arabicDecimalSeparator`. -/
def arabicDecimalSeparator : Char := Char.ofNat 0x066B

/-- `arabicThousandsSeparator`. -/
def arabicThousandsSeparator : Char := Char.ofNat 0x066C

/-- The digit in `base` for a digit of the block that starts at `start`. -/
def moveDigit (start base : ℕ) (c : Char) : Char := Char.ofNat (base + (c.toNat - start))

def isArabicIndicDigit (c : Char) : Bool := 0x0660 ≤ c.toNat && c.toNat ≤ 0x0669
def isExtendedArabicIndicDigit (c : Char) : Bool := 0x06F0 ≤ c.toNat && c.toNat ≤ 0x06F9

/-- The body of the loop of `toWestern`. -/
def westernForm (c : Char) : Char :=
  if isArabicIndicDigit c then moveDigit 0x0660 0x30 c
  else if isExtendedArabicIndicDigit c then moveDigit 0x06F0 0x30 c
  else if c = arabicDecimalSeparator then '.'
  else if c = arabicThousandsSeparator then ','
  else c

def toWestern (input : List Char) : List Char := input.map westernForm

/-- The body of the loop of `toArabicIndic`, given the characters beside the one that is rewritten. -/
def arabicForm (before : Option Char) (c : Char) (after : Option Char) : Char :=
  if c.isDigit then moveDigit 0x30 0x0660 c
  else if (c = '.' ∨ c = ',') ∧ before.any Char.isDigit ∧ after.any Char.isDigit then
    if c = '.' then arabicDecimalSeparator else arabicThousandsSeparator
  else c

def arabicFrom : Option Char → List Char → List Char
  | _, [] => []
  | before, c :: rest => arabicForm before c rest.head? :: arabicFrom (some c) rest

def toArabicIndic (input : List Char) : List Char := arabicFrom none input

def applySystem (formatted : List Char) : KararNumeralSystem → List Char
  | .locale => formatted
  | .western => toWestern formatted
  | .arabicIndic => toArabicIndic formatted

/-! ### Reading back -/

theorem toWestern_append (first second : List Char) :
    toWestern (first ++ second) = toWestern first ++ toWestern second :=
  List.map_append

/-- Below the Arabic digits nothing is rewritten. -/
theorem westernForm_of_lt {c : Char} (hc : c.toNat < 0x0660) : westernForm c = c := by
  have harabic : isArabicIndicDigit c = false := by
    rw [isArabicIndicDigit, Bool.and_eq_false_iff]
    exact .inl (by simpa using hc)
  have hextended : isExtendedArabicIndicDigit c = false := by
    rw [isExtendedArabicIndicDigit, Bool.and_eq_false_iff]
    exact .inl (by simp; omega)
  have hdecimal : c ≠ arabicDecimalSeparator := by
    rintro rfl
    exact absurd hc (by decide)
  have hthousands : c ≠ arabicThousandsSeparator := by
    rintro rfl
    exact absurd hc (by decide)
  rw [westernForm, if_neg (by simp [harabic]), if_neg (by simp [hextended]), if_neg hdecimal,
    if_neg hthousands]

theorem eq_ofNat_of_mem_block {start : ℕ} {c : Char} (hlow : start ≤ c.toNat)
    (hhigh : c.toNat ≤ start + 9) : ∃ n < 10, c = Char.ofNat (start + n) := by
  refine ⟨c.toNat - start, by omega, ?_⟩
  have hvalue : start + (c.toNat - start) = c.toNat := by omega
  rw [hvalue, Char.ofNat_toNat]

theorem eq_ofNat_of_isDigit {c : Char} (hc : c.isDigit = true) : ∃ n < 10, c = Char.ofNat (0x30 + n) := by
  rw [Char.isDigit, Bool.and_eq_true, decide_eq_true_eq, decide_eq_true_eq] at hc
  exact eq_ofNat_of_mem_block hc.1 hc.2

/-- A digit in any of the three blocks reads as the digit. -/
theorem westernForm_digit : ∀ n < 10, westernForm (Char.ofNat (0x30 + n)) = Char.ofNat (0x30 + n) ∧
    westernForm (Char.ofNat (0x0660 + n)) = Char.ofNat (0x30 + n) ∧
    westernForm (Char.ofNat (0x06F0 + n)) = Char.ofNat (0x30 + n) := by
  decide

theorem westernForm_arabicForm (before : Option Char) (c : Char) (after : Option Char) :
    westernForm (arabicForm before c after) = westernForm c := by
  unfold arabicForm
  split_ifs with hdigit hbetween hpoint
  · obtain ⟨n, hn, rfl⟩ := eq_ofNat_of_isDigit hdigit
    have hvalue : ∀ n < 10, moveDigit 0x30 0x0660 (Char.ofNat (0x30 + n)) = Char.ofNat (0x0660 + n) := by
      decide
    rw [hvalue n hn, (westernForm_digit n hn).1, (westernForm_digit n hn).2.1]
  · rw [hpoint]
    decide
  · rw [hbetween.1.resolve_left hpoint]
    decide
  · rfl

theorem toWestern_arabicFrom (before : Option Char) (text : List Char) :
    toWestern (arabicFrom before text) = toWestern text := by
  induction text generalizing before with
  | nil => rfl
  | cons c rest ih =>
    have hrest := ih (some c)
    rw [toWestern, toWestern] at hrest
    rw [arabicFrom, toWestern, toWestern, List.map_cons, List.map_cons, westernForm_arabicForm, hrest]

theorem toWestern_toArabicIndic (text : List Char) : toWestern (toArabicIndic text) = toWestern text :=
  toWestern_arabicFrom none text

theorem westernForm_eq_or_lt (c : Char) : westernForm c = c ∨ (westernForm c).toNat < 0x0660 := by
  unfold westernForm
  split_ifs with harabic hextended
  · rw [isArabicIndicDigit, Bool.and_eq_true, decide_eq_true_eq, decide_eq_true_eq] at harabic
    obtain ⟨n, hn, rfl⟩ := eq_ofNat_of_mem_block harabic.1 harabic.2
    have hvalue : ∀ n < 10, (moveDigit 0x0660 0x30 (Char.ofNat (0x0660 + n))).toNat < 0x0660 := by decide
    exact .inr (hvalue n hn)
  · rw [isExtendedArabicIndicDigit, Bool.and_eq_true, decide_eq_true_eq, decide_eq_true_eq] at hextended
    obtain ⟨n, hn, rfl⟩ := eq_ofNat_of_mem_block hextended.1 hextended.2
    have hvalue : ∀ n < 10, (moveDigit 0x06F0 0x30 (Char.ofNat (0x06F0 + n))).toNat < 0x0660 := by decide
    exact .inr (hvalue n hn)
  · exact .inr (by decide)
  · exact .inr (by decide)
  · exact .inl rfl

/-- What `toWestern` writes is rewritten no further. -/
theorem toWestern_toWestern (text : List Char) : toWestern (toWestern text) = toWestern text := by
  rw [toWestern, toWestern, List.map_map]
  refine List.map_congr_left fun c _ ↦ ?_
  rw [Function.comp_apply]
  rcases westernForm_eq_or_lt c with hsame | hlow
  · rw [hsame, hsame]
  · exact westernForm_of_lt hlow

theorem toWestern_applySystem (formatted : List Char) (system : KararNumeralSystem) :
    toWestern (applySystem formatted system) = toWestern formatted := by
  cases system with
  | locale => rfl
  | western => exact toWestern_toWestern formatted
  | arabicIndic => exact toWestern_toArabicIndic formatted

/-! ## `KararFormatter` -/

/-! ### Integers of 64 bits -/

/-- The least integer. -/
def minInt64 : ℤ := -9223372036854775808

/-- An integer of 64 bits. -/
structure DartInt where
  value : ℤ
  lower : minInt64 ≤ value
  upper : value < 9223372036854775808

/-- The integer of 64 bits that arithmetic leaves. -/
def wrap (value : ℤ) : ℤ := value.bmod 18446744073709551616

/-- `value.abs()`. -/
def absInt (value : ℤ) : ℤ := wrap value.natAbs

/-- `dividend ~/ divisor`. -/
def divideTruncating (dividend divisor : ℤ) : ℤ := wrap (dividend.tdiv divisor)

/-- `dividend % divisor`, which is not negative. -/
def remainder (dividend divisor : ℤ) : ℤ := dividend.emod divisor

/-- `_pow10`. -/
def pow10 : ℕ → ℤ
  | 0 => 1
  | exponent + 1 => wrap (pow10 exponent * 10)

/-! ### The `intl` package -/

structure NumberSymbols where
  MINUS_SIGN : List Char
  DECIMAL_SEP : Char
  GROUP_SEP : Char
  ZERO_DIGIT : Char

/-- `NumberFormat.decimalPattern(locale)`. -/
structure NumberFormat where
  symbols : NumberSymbols
  format : ℤ → List Char

structure KararFormatter where
  numberFormat : NumberFormat
  isRightToLeft : Bool
  numerals : KararNumeralSystem

/-! ### Numbers -/

/-- `_localizeDigits`. -/
def localizeDigits (asciiDigits : List Char) (zeroDigit : Char) : List Char :=
  if zeroDigit = '0' then asciiDigits
  else asciiDigits.map fun c ↦ Char.ofNat (zeroDigit.toNat + (c.toNat - 0x30))

/-- `digits.padLeft(width, '0')`. -/
def padLeft (digits : List Char) (width : ℕ) : List Char :=
  List.replicate (width - digits.length) '0' ++ digits

/-- `_formatScaled`. -/
def formatScaled (format : NumberFormat) (value : ℤ) (scale : ℕ) : List Char :=
  let magnitude := absInt value
  let divisor := pow10 scale
  let whole := divideTruncating magnitude divisor
  let fraction := remainder magnitude divisor
  (if value < 0 then format.symbols.MINUS_SIGN else []) ++ format.format whole ++
    if 0 < scale then
      format.symbols.DECIMAL_SEP ::
        localizeDigits (padLeft (toString fraction).toList scale) format.symbols.ZERO_DIGIT
    else []

/-! ### Money -/

/-- The alphabetic code of a currency, in either case. -/
structure CurrencyCode where
  letters : List Char
  alphabetic : ∀ c ∈ letters, c.isAlpha = true

/-- `toUpperCase()`. -/
def CurrencyCode.toUpperCase (code : CurrencyCode) : String :=
  String.ofList (code.letters.map Char.toUpper)

/-- `_currencyExponents`. -/
def currencyExponents : List (String × ℕ) :=
  [("BHD", 3), ("IQD", 3), ("JOD", 3), ("KWD", 3), ("LYD", 3), ("OMR", 3), ("TND", 3),
    ("BIF", 0), ("CLP", 0), ("DJF", 0), ("GNF", 0), ("ISK", 0), ("JPY", 0), ("KMF", 0), ("KRW", 0),
    ("PYG", 0), ("RWF", 0), ("UGX", 0), ("UYI", 0), ("VND", 0), ("VUV", 0), ("XAF", 0), ("XOF", 0),
    ("XPF", 0)]

def currencyExponentFor (code : CurrencyCode) : ℕ :=
  ((currencyExponents.find? (·.1 = code.toUpperCase)).map (·.2)).getD 2

def currencyDisplayFor (code : CurrencyCode) : List Char := code.toUpperCase.toList

/-- The space that keeps an amount and its currency on one line. -/
def noBreakSpace : Char := Char.ofNat 0xA0

def KararFormatter.money (formatter : KararFormatter) (minorUnits : DartInt) (code : CurrencyCode) :
    List Char :=
  let amount := applySystem
    (formatScaled formatter.numberFormat minorUnits.value (currencyExponentFor code)) formatter.numerals
  let display := currencyDisplayFor code
  if formatter.isRightToLeft then amount ++ noBreakSpace :: display
  else display ++ noBreakSpace :: amount

end Karar.Formatting
