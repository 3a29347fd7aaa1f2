import Mathlib.Data.List.DropRight
import Mathlib.Data.List.TakeWhile
import Mathlib.Data.Rat.Floor

/-!
# Decimal texts

Numbers in decimal digits: digits that are read and printed, padded and set side by side; integers with
an optional sign; and optionally signed decimals with a fraction. The parts of a decimal (`Literal`)
carry what the grammar asks of them, `text` writes them down, and `parse` finds the parts of a text
again, for exactly the texts that have parts (`parse_eq_some_iff`).

A number of units of some decimal place is printed by `ofUnits`, which keeps the number of places, and
without the zeros at its end by `trimmed`. Trimmed, the parts are those of the value: numbers of units
of different places that stand for one value are printed alike (`trimmed_ofUnits_eq`).
-/

namespace Karar.Foundation.DecimalText

/-! ### Digits -/

/-- The number that digits write. -/
def number (digits : List Char) : ℕ := Nat.ofDigitChars 10 digits 0

/-- A number in digits, with zeros before it up to a width. -/
def padded (width n : ℕ) : List Char := (Nat.toDigits 10 n).leftpad width '0'

section Digits

variable {digits front back : List Char} {width n : ℕ}

@[simp] theorem number_nil : number [] = 0 := rfl

theorem number_append (front back : List Char) :
    number (front ++ back) = number front * 10 ^ back.length + number back := by
  unfold number
  rw [Nat.ofDigitChars_append, Nat.ofDigitChars_eq_ofDigitChars_zero, Nat.mul_comm]

@[simp] theorem number_toDigits (n : ℕ) : number (Nat.toDigits 10 n) = n :=
  Nat.ofDigitChars_ten_toDigits

@[simp] theorem number_replicate_zero (n : ℕ) : number (List.replicate n '0') = 0 := by
  unfold number
  rw [Nat.ofDigitChars_replicate_zero, Nat.mul_zero]

theorem isDigit_of_mem_toDigits {c : Char} (hc : c ∈ Nat.toDigits 10 n) : c.isDigit = true :=
  Nat.isDigit_of_mem_toDigits (by decide) (by decide) hc

theorem number_rightpad (width : ℕ) (digits : List Char) :
    number (digits.rightpad width '0') = number digits * 10 ^ (width - digits.length) := by
  rw [List.rightpad, number_append, number_replicate_zero, List.length_replicate, Nat.add_zero]

@[simp] theorem number_padded (width n : ℕ) : number (padded width n) = n := by
  rw [padded, List.leftpad, number_append, number_replicate_zero, number_toDigits, Nat.zero_mul,
    Nat.zero_add]

theorem isDigit_of_mem_padded {c : Char} (hc : c ∈ padded width n) : c.isDigit = true := by
  rcases List.mem_append.mp hc with hc | hc
  · rw [List.eq_of_mem_replicate hc]
    rfl
  · exact isDigit_of_mem_toDigits hc

theorem length_padded (hwidth : 0 < width) (hn : n < 10 ^ width) : (padded width n).length = width := by
  have hlength : (Nat.toDigits 10 n).length ≤ width :=
    (Nat.length_toDigits_le_iff (by omega) hwidth).mpr hn
  rw [padded, List.length_leftpad]
  omega

theorem padded_ne_nil (width n : ℕ) : padded width n ≠ [] := by
  unfold padded List.leftpad
  exact List.append_ne_nil_of_right_ne_nil _ Nat.toDigits_ne_nil

/-- Ten times a number has one zero more at its end. -/
theorem padded_mul_ten (hwidth : 0 < width) (n : ℕ) :
    padded (width + 1) (10 * n) = padded width n ++ ['0'] := by
  unfold padded List.leftpad
  rcases Nat.eq_zero_or_pos n with rfl | hn
  · obtain ⟨shorter, rfl⟩ := Nat.exists_eq_add_of_le' hwidth
    have hzero : Nat.toDigits 10 0 = ['0'] := rfl
    rw [Nat.mul_zero, hzero, List.length_singleton, Nat.add_sub_cancel, Nat.add_sub_cancel,
      List.replicate_succ']
  · have hdigits : Nat.toDigits 10 (10 * n) = Nat.toDigits 10 n ++ ['0'] :=
      (Nat.toDigits_append_toDigits (b := 10) (d := 0) (by decide) hn (by decide)).symm
    rw [hdigits, List.length_append, List.length_singleton, Nat.add_sub_add_right, List.append_assoc]

end Digits

/-! ### Integers -/

/-- The sign of a text, and what follows it. -/
def signed : List Char → Bool × List Char
  | '-' :: text => (true, text)
  | text => (false, text)

/-- A sign, where there is one. -/
def signText (negative : Bool) : List Char := if negative then ['-'] else []

/-- An optional sign and at least one digit: `/^-?\d+$/`. -/
def isInteger (text : List Char) : Bool :=
  !(signed text).2.isEmpty && (signed text).2.all Char.isDigit

/-- The integer that a text of this shape writes. -/
def integer (text : List Char) : ℤ :=
  if (signed text).1 then -number (signed text).2 else number (signed text).2

section Integers

variable {digits : List Char}

theorem signText_append_signed (text : List Char) :
    signText (signed text).1 ++ (signed text).2 = text := by
  unfold signed
  split
  · rfl
  · rfl

/-- A digit is no sign. -/
theorem signed_signText (negative : Bool) (hne : digits ≠ [])
    (hdigits : ∀ c ∈ digits, c.isDigit = true) (rest : List Char) :
    signed (signText negative ++ (digits ++ rest)) = (negative, digits ++ rest) := by
  cases negative with
  | true => rfl
  | false =>
    cases digits with
    | nil => exact absurd rfl hne
    | cons first others =>
      change signed (first :: (others ++ rest)) = _
      unfold signed
      split
      next heq =>
        obtain ⟨rfl, _⟩ := List.cons.inj heq
        exact absurd (hdigits '-' List.mem_cons_self) (by decide)
      next => rfl

theorem signed_digits (negative : Bool) (hne : digits ≠ [])
    (hdigits : ∀ c ∈ digits, c.isDigit = true) :
    signed (signText negative ++ digits) = (negative, digits) := by
  have hsigned := signed_signText negative hne hdigits []
  rwa [List.append_nil] at hsigned

theorem toList_toString (n : ℤ) :
    (toString n).toList = signText (decide (n < 0)) ++ Nat.toDigits 10 n.natAbs := by
  cases n with
  | ofNat m => exact Nat.toList_repr
  | negSucc m =>
    have hrepr : toString (Int.negSucc m) = "-" ++ (m + 1).repr := rfl
    rw [hrepr, String.toList_append, Nat.toList_repr, decide_eq_true (Int.negSucc_lt_zero m)]
    rfl

theorem signed_toString (n : ℤ) :
    signed (toString n).toList = (decide (n < 0), Nat.toDigits 10 n.natAbs) := by
  rw [toList_toString]
  exact signed_digits _ Nat.toDigits_ne_nil fun c hc ↦ isDigit_of_mem_toDigits hc

@[simp] theorem isInteger_toString (n : ℤ) : isInteger (toString n).toList = true := by
  unfold isInteger
  rw [signed_toString, Bool.and_eq_true]
  constructor
  · simp [Nat.toDigits_ne_nil]
  · exact List.all_eq_true.mpr fun c hc ↦ isDigit_of_mem_toDigits hc

@[simp] theorem integer_toString (n : ℤ) : integer (toString n).toList = n := by
  unfold integer
  rw [signed_toString, number_toDigits]
  by_cases hn : n < 0
  · rw [if_pos (by simp [hn])]
    omega
  · rw [if_neg (by simp [hn])]
    omega

end Integers

/-! ### Decimals -/

/-- The parts of an optionally signed decimal. -/
structure Literal where
  negative : Bool
  whole : List Char
  fraction : List Char
  written : whole ≠ []
  wholeDigits : ∀ c ∈ whole, c.isDigit = true
  fractionDigits : ∀ c ∈ fraction, c.isDigit = true
deriving DecidableEq

namespace Literal

/-- A fraction, with its point, where there is one. -/
def fractionText (fraction : List Char) : List Char := if fraction = [] then [] else '.' :: fraction

/-- The text of a decimal. -/
def text (literal : Literal) : List Char :=
  signText literal.negative ++ (literal.whole ++ fractionText literal.fraction)

def sign (literal : Literal) : ℤ := if literal.negative then -1 else 1

/-- The exact value of a decimal. -/
def value (literal : Literal) : ℚ :=
  literal.sign * (number literal.whole + number literal.fraction / 10 ^ literal.fraction.length)

end Literal

/-- A decimal without its sign. -/
def parseUnsigned (negative : Bool) (text : List Char) : Option Literal :=
  let whole := text.takeWhile Char.isDigit
  let rest := text.dropWhile Char.isDigit
  let fraction := rest.drop 1
  if hparts : whole ≠ [] ∧ whole.all Char.isDigit = true ∧ fraction.all Char.isDigit = true ∧
      rest = Literal.fractionText fraction then
    some ⟨negative, whole, fraction, hparts.1, List.all_eq_true.mp hparts.2.1,
      List.all_eq_true.mp hparts.2.2.1⟩
  else none

/-- The parts of a text: `/^(-?)(\d+)(?:\.(\d+))?$/`. -/
def parse (text : List Char) : Option Literal := parseUnsigned (signed text).1 (signed text).2

theorem Literal.fractionText_of_ne_nil {fraction : List Char} (hne : fraction ≠ []) :
    Literal.fractionText fraction = '.' :: fraction :=
  if_neg hne

section Parsing

variable {negative : Bool} {text whole fraction : List Char} {literal : Literal}

theorem takeWhile_whole (hwhole : ∀ c ∈ whole, c.isDigit = true) (fraction : List Char) :
    (whole ++ Literal.fractionText fraction).takeWhile Char.isDigit = whole ∧
      (whole ++ Literal.fractionText fraction).dropWhile Char.isDigit =
        Literal.fractionText fraction := by
  rw [List.takeWhile_append_of_pos hwhole, List.dropWhile_append_of_pos hwhole]
  unfold Literal.fractionText
  split_ifs
  · exact ⟨List.append_nil _, rfl⟩
  · exact ⟨List.append_nil _, rfl⟩

theorem drop_fractionText (fraction : List Char) :
    (Literal.fractionText fraction).drop 1 = fraction := by
  unfold Literal.fractionText
  split_ifs with hnil
  · exact hnil.symm
  · rfl

theorem parseUnsigned_eq_some_iff : parseUnsigned negative text = some literal ↔
    literal.negative = negative ∧ literal.whole ++ Literal.fractionText literal.fraction = text := by
  obtain ⟨negative', whole, fraction, hwritten, hwhole, hfraction⟩ := literal
  unfold parseUnsigned
  constructor
  · intro hparse
    dsimp only at hparse
    split_ifs at hparse with hparts
    rw [Option.some.injEq, Literal.mk.injEq] at hparse
    obtain ⟨rfl, rfl, rfl⟩ := hparse
    refine ⟨rfl, ?_⟩
    dsimp only
    rw [← hparts.2.2.2]
    exact List.takeWhile_append_dropWhile
  · rintro ⟨rfl, rfl⟩
    obtain ⟨htake, hdrop⟩ := takeWhile_whole hwhole fraction
    dsimp only
    simp only [htake, hdrop, drop_fractionText]
    rw [dif_pos ⟨hwritten, List.all_eq_true.mpr hwhole, List.all_eq_true.mpr hfraction, trivial⟩]

/-- The parser finds the parts of a text where there are parts, and only there. -/
theorem parse_eq_some_iff : parse text = some literal ↔ literal.text = text := by
  rw [parse, parseUnsigned_eq_some_iff]
  constructor
  · rintro ⟨hnegative, hparts⟩
    rw [Literal.text, hnegative, hparts, signText_append_signed]
  · rintro rfl
    rw [Literal.text, signed_signText _ literal.written literal.wholeDigits]
    exact ⟨rfl, rfl⟩

end Parsing

/-! ### Units of a decimal place -/

namespace Literal

/-- Digits without the zeros at their end. -/
def stripped (digits : List Char) : List Char := digits.rdropWhile (· == '0')

theorem fraction_of_units {places n : ℕ} {c : Char}
    (hc : c ∈ if places = 0 then [] else padded places n) : c.isDigit = true := by
  split_ifs at hc
  · exact nomatch hc
  · exact isDigit_of_mem_padded hc

/-- A number of units of a decimal place. -/
def ofUnits (negative : Bool) (places n : ℕ) : Literal where
  negative := negative
  whole := Nat.toDigits 10 (n / 10 ^ places)
  fraction := if places = 0 then [] else padded places (n % 10 ^ places)
  written := Nat.toDigits_ne_nil
  wholeDigits := fun _ hc ↦ isDigit_of_mem_toDigits hc
  fractionDigits := fun _ hc ↦ fraction_of_units hc

/-- A decimal without the zeros at the end of its fraction. -/
def trimmed (literal : Literal) : Literal where
  negative := literal.negative
  whole := literal.whole
  fraction := stripped literal.fraction
  written := literal.written
  wholeDigits := literal.wholeDigits
  fractionDigits := fun c hc ↦ literal.fractionDigits c ((List.rdropWhile_prefix _ _).subset hc)

section Units

variable {negative : Bool} {places n : ℕ}

theorem stripped_append_zero (digits : List Char) : stripped (digits ++ ['0']) = stripped digits :=
  List.rdropWhile_concat_pos _ _ _ rfl

theorem length_fraction_ofUnits (negative : Bool) (places n : ℕ) :
    (ofUnits negative places n).fraction.length = places := by
  unfold ofUnits
  dsimp only
  split_ifs with hplaces
  · exact hplaces.symm
  · exact length_padded (by omega) (Nat.mod_lt _ (Nat.pow_pos (by omega)))

theorem fraction_ofUnits (hplaces : places ≠ 0) :
    (ofUnits negative places n).fraction = padded places (n % 10 ^ places) :=
  if_neg hplaces

theorem text_ofUnits_zero : (ofUnits negative 0 n).text = signText negative ++ Nat.toDigits 10 n := by
  change signText negative ++ (Nat.toDigits 10 (n / 10 ^ 0) ++ []) = _
  rw [Nat.pow_zero, Nat.div_one, List.append_nil]

theorem text_ofUnits (hplaces : places ≠ 0) : (ofUnits negative places n).text =
    signText negative ++
      (Nat.toDigits 10 (n / 10 ^ places) ++ '.' :: padded places (n % 10 ^ places)) := by
  rw [text, fraction_ofUnits hplaces, fractionText_of_ne_nil (padded_ne_nil _ _)]
  rfl

theorem text_trimmed_ofUnits (hplaces : places ≠ 0) : (ofUnits negative places n).trimmed.text =
    signText negative ++ (Nat.toDigits 10 (n / 10 ^ places) ++
      fractionText (stripped (padded places (n % 10 ^ places)))) := by
  have hfraction : (ofUnits negative places n).fraction = padded places (n % 10 ^ places) :=
    fraction_ofUnits hplaces
  rw [← hfraction]
  rfl

theorem number_fraction_ofUnits (negative : Bool) (places n : ℕ) :
    number (ofUnits negative places n).fraction = n % 10 ^ places := by
  unfold ofUnits
  dsimp only
  split_ifs with hplaces
  · rw [hplaces, Nat.pow_zero, Nat.mod_one, number_nil]
  · exact number_padded _ _

theorem value_ofUnits (negative : Bool) (places n : ℕ) :
    (ofUnits negative places n).value = (if negative then -1 else 1) * (n / 10 ^ places) := by
  have hne : (10 ^ places : ℚ) ≠ 0 := by positivity
  have hsplit : (n : ℚ) = 10 ^ places * (n / 10 ^ places : ℕ) + (n % 10 ^ places : ℕ) := by
    exact_mod_cast (Nat.div_add_mod n (10 ^ places)).symm
  unfold value
  rw [length_fraction_ofUnits, number_fraction_ofUnits]
  have hwhole : number (ofUnits negative places n).whole = n / 10 ^ places := number_toDigits _
  rw [hwhole]
  have hquotient : (n : ℚ) / 10 ^ places =
      (n / 10 ^ places : ℕ) + (n % 10 ^ places : ℕ) / 10 ^ places := by
    field_simp
    linarith
  rw [hquotient]
  cases negative with
  | true => simp [sign, ofUnits]
  | false => simp [sign, ofUnits]

/-- What is stripped is zeros. -/
theorem stripped_append_zeros (digits : List Char) :
    ∃ zeros, digits = stripped digits ++ List.replicate zeros '0' := by
  refine ⟨(digits.rtakeWhile (· == '0')).length, ?_⟩
  have hzeros : digits.rtakeWhile (· == '0') =
      List.replicate (digits.rtakeWhile (· == '0')).length '0' := by
    apply List.eq_replicate_of_mem
    intro c hc
    simpa using List.mem_rtakeWhile_imp hc
  rw [← hzeros]
  exact List.rdropWhile_append_rtakeWhile.symm

theorem length_stripped_le (digits : List Char) : (stripped digits).length ≤ digits.length :=
  (List.rdropWhile_prefix _ _).length_le

theorem value_trimmed (literal : Literal) : literal.trimmed.value = literal.value := by
  obtain ⟨zeros, hzeros⟩ := stripped_append_zeros literal.fraction
  have hfraction : (number literal.fraction : ℚ) / 10 ^ literal.fraction.length =
      number (stripped literal.fraction) / 10 ^ (stripped literal.fraction).length := by
    rw [hzeros, number_append, number_replicate_zero, List.length_append, List.length_replicate,
      ← hzeros]
    push_cast
    rw [pow_add]
    field_simp
    ring
  unfold value
  rw [hfraction]
  rfl

theorem trimmed_ofUnits_mul_ten (negative : Bool) (places n : ℕ) :
    (ofUnits negative (places + 1) (10 * n)).trimmed = (ofUnits negative places n).trimmed := by
  have hpow : 10 ^ (places + 1) = 10 * 10 ^ places := Nat.pow_succ'
  unfold trimmed ofUnits
  simp only [Literal.mk.injEq, true_and]
  rw [hpow, Nat.mul_div_mul_left _ _ (by omega), Nat.mul_mod_mul_left, if_neg (Nat.succ_ne_zero _)]
  refine ⟨rfl, ?_⟩
  split_ifs with hplaces
  · subst hplaces
    rw [Nat.pow_zero, Nat.mod_one]
    rfl
  · rw [padded_mul_ten (by omega), stripped_append_zero]

theorem trimmed_ofUnits_mul_pow (negative : Bool) (places n more : ℕ) :
    (ofUnits negative (places + more) (10 ^ more * n)).trimmed =
      (ofUnits negative places n).trimmed := by
  induction more with
  | zero => rw [Nat.pow_zero, Nat.one_mul, Nat.add_zero]
  | succ more ih => rw [← ih, Nat.pow_succ', Nat.mul_assoc, ← Nat.add_assoc, trimmed_ofUnits_mul_ten]

/-- Units of different places that stand for one value are printed alike. -/
theorem trimmed_ofUnits_eq (negative : Bool) {places places' n n' : ℕ}
    (hvalue : 10 ^ places' * n = 10 ^ places * n') :
    (ofUnits negative places n).trimmed = (ofUnits negative places' n').trimmed := by
  rw [← trimmed_ofUnits_mul_pow negative places n places', hvalue, Nat.add_comm,
    trimmed_ofUnits_mul_pow]

end Units

end Literal

end Karar.Foundation.DecimalText
