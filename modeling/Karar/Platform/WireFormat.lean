import Karar.Errors.Problems
import Karar.SharedKernel.DecimalText
import Karar.SharedKernel.ExchangeRate

/-!
# Amounts, percentages and rates on the wire

The encoders put the kernel's exact integers into strings; the decoders read input that may be anything,
and answer with a value or with a validation error. Encoders and decoders are written apart, with checks
of their own. `WireLaw` says what joins each pair: a value that can be constructed survives, every input
is answered, and a value that is answered is encoded in a form that is read back as that value.

A scale is the number that `===` knows: the negative zero is the scale zero, and JSON writes both alike.
-/

namespace Karar.Platform

open Errors Foundation Foundation.DecimalText Foundation.IsoDate SharedKernel

/-! ## Input -/

/-- Input that may be anything. An object is known by the properties that it has. -/
inductive WireInput
  | undefined
  | null
  | boolean (value : Bool)
  | number (value : Number)
  | string (value : String)
  | object (fields : List (String × WireInput))
  /-- A function, a symbol or a bigint. -/
  | other

/-- `candidate.key`. -/
def property (candidate : List (String × WireInput)) (key : String) : WireInput :=
  ((candidate.find? (·.1 = key)).map (·.2)).getD .undefined

/-- An answer of a decoder; the outer error is one that it throws. -/
abbrev Decoded (α : Type) := Except KernelError (Except PlatformError α)

def invalidPayload (payload field reason : String) : PlatformError :=
  .new .validationError s!"invalid {payload} payload: {reason}"
    (some [("field", .string field), ("reason", .string reason)]) none

def integerExpected : String :=
  "expected an optionally-signed integer string (ADR-0006: never a JSON number)"

/-! ## Codecs -/

section Codecs

-- `String(number)`.
variable (numberText : Number → String)

-- `Date.parse`, of texts that are not of the full form.
variable (otherForms : String → Option TimeValue)

/-! ### Amounts -/

def moneyToWire (money : Money) : WireInput :=
  .object [("minorUnits", .string money.toWireString), ("currency", .string money.currency.code)]

def moneyFromWire : WireInput → Decoded Money
  | .object candidate =>
    match property candidate "minorUnits" with
    | .string minorUnits =>
      if isInteger minorUnits.toList then
        match property candidate "currency" with
        | .string code =>
          match Currency.tryGet code with
          | none =>
            .ok (.error (invalidPayload "money" "currency"
              s!"'{code}' is not a supported currency code"))
          | some currency => (Money.ofString minorUnits currency).map .ok
        | _ => .ok (.error (invalidPayload "money" "currency" "expected an ISO 4217 code string"))
      else .ok (.error (invalidPayload "money" "minorUnits" integerExpected))
    | _ => .ok (.error (invalidPayload "money" "minorUnits" integerExpected))
  | _ =>
    .ok (.error (invalidPayload "money" "money" "expected an object with minorUnits and currency"))

/-! ### Percentages -/

def percentageToWire (percentage : Percentage) : WireInput :=
  .object [("value", .string (toString percentage.value)), ("scale", .number (.real percentage.scale))]

def percentageFromWire : WireInput → Decoded Percentage
  | .object candidate =>
    match property candidate "value" with
    | .string value =>
      if isInteger value.toList then
        match property candidate "scale" with
        | .number scale =>
          match Percentage.of numberText (integer value.toList) scale with
          | .ok percentage => .ok (.ok percentage)
          | .error cause => .ok (.error (invalidPayload "percentage" "scale" cause.message))
        | _ => .ok (.error (invalidPayload "percentage" "scale" "expected an integer number"))
      else .ok (.error (invalidPayload "percentage" "value" integerExpected))
    | _ => .ok (.error (invalidPayload "percentage" "value" integerExpected))
  | _ =>
    .ok (.error (invalidPayload "percentage" "percentage" "expected an object with value and scale"))

/-! ### Exchange rates -/

/-- `Date.parse`, and the time of `new Date`. -/
def dateParse (text : String) : Option TimeValue :=
  match parseIso text with
  | some date => some date
  | none => otherForms text

def exchangeRateToWire (rate : ExchangeRate) : WireInput :=
  .object [("base", .string rate.base.code), ("quote", .string rate.quote.code),
    ("mantissa", .string (toString rate.mantissa)), ("scale", .number (.real rate.scale)),
    ("source", .string rate.source), ("asOf", .string (toISOString rate.asOf))]

/-- A currency of a rate, by its code. -/
def currencyFromWire (field : String) : WireInput → Except PlatformError Currency
  | .string code =>
    match Currency.tryGet code with
    | none =>
      .error (invalidPayload "exchange-rate" field s!"'{code}' is not a supported currency code")
    | some currency => .ok currency
  | _ => .error (invalidPayload "exchange-rate" field "expected an ISO 4217 code string")

def mantissaFromWire : WireInput → Except PlatformError ℤ
  | .string mantissa =>
    if isInteger mantissa.toList then .ok (integer mantissa.toList)
    else .error (invalidPayload "exchange-rate" "mantissa" integerExpected)
  | _ => .error (invalidPayload "exchange-rate" "mantissa" integerExpected)

def scaleFromWire : WireInput → Except PlatformError Number
  | .number scale => .ok scale
  | _ => .error (invalidPayload "exchange-rate" "scale" "expected an integer number")

def sourceFromWire : WireInput → Except PlatformError String
  | .string source => .ok source
  | _ => .error (invalidPayload "exchange-rate" "source" "expected a string naming the rate source")

def asOfFromWire : WireInput → Except PlatformError TimeValue
  | .string text =>
    match dateParse otherForms text with
    | some asOf => .ok asOf
    | none => .error (invalidPayload "exchange-rate" "asOf" "expected an ISO 8601 date-time string")
  | _ => .error (invalidPayload "exchange-rate" "asOf" "expected an ISO 8601 date-time string")

/-- The arguments of a rate, as far as their types and forms are checked. -/
def rateInput (candidate : List (String × WireInput)) : Except PlatformError ExchangeRate.Input := do
  let base ← currencyFromWire "base" (property candidate "base")
  let quote ← currencyFromWire "quote" (property candidate "quote")
  let mantissa ← mantissaFromWire (property candidate "mantissa")
  let scale ← scaleFromWire (property candidate "scale")
  let source ← sourceFromWire (property candidate "source")
  let asOf ← asOfFromWire otherForms (property candidate "asOf")
  return ⟨base, quote, mantissa, scale, source, some asOf⟩

def exchangeRateFromWire : WireInput → Decoded ExchangeRate
  | .object candidate =>
    match rateInput otherForms candidate with
    | .error error => .ok (.error error)
    | .ok input =>
      match ExchangeRate.of numberText input with
      | .ok rate => .ok (.ok rate)
      | .error cause => .ok (.error (invalidPayload "exchange-rate" "exchangeRate" cause.message))
  | _ => .ok (.error (invalidPayload "exchange-rate" "exchangeRate" "expected an object"))

end Codecs

/-! ## What joins an encoder and a decoder -/

/-- An encoder and a decoder, with the values that can be constructed. -/
structure WireLaw {α : Type} (constructible : α → Prop) (toWire : α → WireInput)
    (fromWire : WireInput → Decoded α) : Prop where
  back : ∀ value, constructible value → fromWire (toWire value) = .ok (.ok value)
  /-- Nothing is thrown. -/
  answered : ∀ input, ∃ answer, fromWire input = .ok answer
  constructed : ∀ input value, fromWire input = .ok (.ok value) → constructible value
  canonical : ∀ input value, fromWire input = .ok (.ok value) →
    fromWire (toWire value) = .ok (.ok value)
  refused : ∀ input error, fromWire input = .ok (.error error) → error.code = .validationError

section Laws

variable {α : Type} {constructible : α → Prop} {toWire : α → WireInput}
  {fromWire : WireInput → Decoded α} {numberText : Number → String}
  {otherForms : String → Option TimeValue}

/-- An answer is a validation error or a value that can be constructed. -/
def Answers (constructible : α → Prop) (decoded : Decoded α) : Prop :=
  (∃ error, decoded = .ok (.error error) ∧ error.code = .validationError) ∨
    ∃ value, decoded = .ok (.ok value) ∧ constructible value

/-- A form that is read back is canonical where only constructible values are read. -/
theorem WireLaw.of_answers (hback : ∀ value, constructible value →
    fromWire (toWire value) = .ok (.ok value))
    (hanswers : ∀ input, Answers constructible (fromWire input)) :
    WireLaw constructible toWire fromWire := by
  have hconstructed : ∀ input value, fromWire input = .ok (.ok value) → constructible value := by
    intro input value hvalue
    rcases hanswers input with ⟨_, herror, _⟩ | ⟨_, hanswer, hconstructible⟩
    · rw [hvalue, Except.ok.injEq] at herror
      exact nomatch herror
    · rw [hvalue, Except.ok.injEq, Except.ok.injEq] at hanswer
      rwa [hanswer]
  refine ⟨hback, ?_, hconstructed, ?_, ?_⟩
  · intro input
    rcases hanswers input with ⟨_, herror, _⟩ | ⟨_, hanswer, _⟩
    · exact ⟨_, herror⟩
    · exact ⟨_, hanswer⟩
  · intro input value hvalue
    exact hback value (hconstructed input value hvalue)
  · intro input error herror
    rcases hanswers input with ⟨_, hrefused, hcode⟩ | ⟨_, hanswer, _⟩
    · rw [herror, Except.ok.injEq, Except.error.injEq] at hrefused
      rwa [hrefused]
    · rw [herror, Except.ok.injEq] at hanswer
      exact nomatch hanswer

theorem answers_invalid (payload field reason : String) :
    Answers constructible (.ok (.error (invalidPayload payload field reason))) :=
  .inl ⟨_, rfl, rfl⟩

/-! ### Amounts -/

theorem ofString_toWireString (money : Money) :
    Money.ofString money.toWireString money.currency = .ok money := by
  unfold Money.ofString Money.toWireString
  rw [if_pos (isInteger_toString _), integer_toString]

theorem moneyFromWire_toWire {money : Money} (hsupported : money.currency ∈ Currency.SUPPORTED) :
    moneyFromWire (moneyToWire money) = .ok (.ok money) := by
  unfold moneyFromWire moneyToWire
  have hunits : property [("minorUnits", .string money.toWireString),
      ("currency", .string money.currency.code)] "minorUnits" = .string money.toWireString := rfl
  have hcode : property [("minorUnits", .string money.toWireString),
      ("currency", .string money.currency.code)] "currency" = .string money.currency.code := rfl
  have hinteger : isInteger money.toWireString.toList = true := isInteger_toString _
  simp only [hunits, hcode, Currency.tryGet_code hsupported, ofString_toWireString]
  rw [if_pos hinteger]
  rfl

theorem moneyFromWire_answers (input : WireInput) :
    Answers (fun money : Money ↦ money.currency ∈ Currency.SUPPORTED) (moneyFromWire input) := by
  unfold moneyFromWire
  split
  · split
    · split_ifs with hinteger
      · split
        · split
          · exact answers_invalid _ _ _
          next minorUnits _ _ _ currency hget =>
            rw [Money.ofString, if_pos hinteger]
            exact .inr ⟨_, rfl, (Currency.mem_of_tryGet hget).1⟩
        · exact answers_invalid _ _ _
      · exact answers_invalid _ _ _
    · exact answers_invalid _ _ _
  · exact answers_invalid _ _ _

/-! ### Percentages -/

theorem percentageFromWire_toWire (percentage : Percentage) :
    percentageFromWire numberText (percentageToWire percentage) = .ok (.ok percentage) := by
  unfold percentageFromWire percentageToWire
  have hvalue : property [("value", .string (toString percentage.value)),
      ("scale", .number (.real percentage.scale))] "value" = .string (toString percentage.value) := rfl
  have hscale : property [("value", .string (toString percentage.value)),
      ("scale", .number (.real percentage.scale))] "scale" = .number (.real percentage.scale) := rfl
  have hof : Percentage.of numberText percentage.value (.real percentage.scale) = .ok percentage :=
    Percentage.of_eq_ok_iff.mpr ⟨rfl, Number.exponent?_natCast percentage.bounded⟩
  simp only [hvalue, hscale, integer_toString, hof]
  rw [if_pos (isInteger_toString _)]

theorem percentageFromWire_answers (input : WireInput) :
    Answers (fun _ : Percentage ↦ True) (percentageFromWire numberText input) := by
  unfold percentageFromWire
  split
  · split
    · split_ifs with hinteger
      · split
        · split
          · exact .inr ⟨_, rfl, trivial⟩
          · exact answers_invalid _ _ _
        · exact answers_invalid _ _ _
      · exact answers_invalid _ _ _
    · exact answers_invalid _ _ _
  · exact answers_invalid _ _ _

/-! ### Exchange rates -/

theorem dateParse_toISOString (date : TimeValue) :
    dateParse otherForms (toISOString date) = some date := by
  unfold dateParse
  rw [parseIso_toISOString]

theorem currencyFromWire_supported {field : String} {input : WireInput} {currency : Currency}
    (hread : currencyFromWire field input = .ok currency) : currency ∈ Currency.SUPPORTED := by
  unfold currencyFromWire at hread
  split at hread
  · split at hread
    · exact nomatch hread
    next hget =>
      obtain rfl := Except.ok.inj hread
      exact (Currency.mem_of_tryGet hget).1
  · exact nomatch hread

theorem rateInput_supported {candidate : List (String × WireInput)} {input : ExchangeRate.Input}
    (hread : rateInput otherForms candidate = .ok input) :
    input.base ∈ Currency.SUPPORTED ∧ input.quote ∈ Currency.SUPPORTED := by
  obtain ⟨base, hbase, hread⟩ := bind_eq_ok hread
  obtain ⟨quote, hquote, hread⟩ := bind_eq_ok hread
  obtain ⟨_, _, hread⟩ := bind_eq_ok hread
  obtain ⟨_, _, hread⟩ := bind_eq_ok hread
  obtain ⟨_, _, hread⟩ := bind_eq_ok hread
  obtain ⟨_, _, hread⟩ := bind_eq_ok hread
  obtain rfl := Except.ok.inj hread
  exact ⟨currencyFromWire_supported hbase, currencyFromWire_supported hquote⟩

theorem currencyFromWire_refused {field : String} {input : WireInput} :
    ∀ error, currencyFromWire field input = .error error → error.code = .validationError := by
  intro error hread
  unfold currencyFromWire at hread
  split at hread
  · split at hread
    · exact Except.error.inj hread ▸ rfl
    · exact nomatch hread
  · exact Except.error.inj hread ▸ rfl

theorem mantissaFromWire_refused {input : WireInput} :
    ∀ error, mantissaFromWire input = .error error → error.code = .validationError := by
  intro error hread
  unfold mantissaFromWire at hread
  split at hread
  · split_ifs at hread
    exact Except.error.inj hread ▸ rfl
  · exact Except.error.inj hread ▸ rfl

theorem scaleFromWire_refused {input : WireInput} :
    ∀ error, scaleFromWire input = .error error → error.code = .validationError := by
  intro error hread
  unfold scaleFromWire at hread
  split at hread
  · exact nomatch hread
  · exact Except.error.inj hread ▸ rfl

theorem sourceFromWire_refused {input : WireInput} :
    ∀ error, sourceFromWire input = .error error → error.code = .validationError := by
  intro error hread
  unfold sourceFromWire at hread
  split at hread
  · exact nomatch hread
  · exact Except.error.inj hread ▸ rfl

theorem asOfFromWire_refused {input : WireInput} :
    ∀ error, asOfFromWire otherForms input = .error error → error.code = .validationError := by
  intro error hread
  unfold asOfFromWire at hread
  split at hread
  · split at hread
    · exact nomatch hread
    · exact Except.error.inj hread ▸ rfl
  · exact Except.error.inj hread ▸ rfl

theorem rateInput_refused {candidate : List (String × WireInput)} :
    ∀ error, rateInput otherForms candidate = .error error → error.code = .validationError := by
  refine error_of_bind currencyFromWire_refused fun base ↦ ?_
  refine error_of_bind currencyFromWire_refused fun quote ↦ ?_
  refine error_of_bind mantissaFromWire_refused fun mantissa ↦ ?_
  refine error_of_bind scaleFromWire_refused fun scale ↦ ?_
  refine error_of_bind sourceFromWire_refused fun source ↦ ?_
  refine error_of_bind asOfFromWire_refused fun asOf ↦ ?_
  exact fun _ herror ↦ nomatch herror

theorem exchangeRateFromWire_toWire {rate : ExchangeRate} (hbase : rate.base ∈ Currency.SUPPORTED)
    (hquote : rate.quote ∈ Currency.SUPPORTED) :
    exchangeRateFromWire numberText otherForms (exchangeRateToWire rate) = .ok (.ok rate) := by
  have hread : rateInput otherForms [("base", .string rate.base.code),
      ("quote", .string rate.quote.code), ("mantissa", .string (toString rate.mantissa)),
      ("scale", .number (.real rate.scale)), ("source", .string rate.source),
      ("asOf", .string (toISOString rate.asOf))] =
        .ok ⟨rate.base, rate.quote, rate.mantissa, .real rate.scale, rate.source, some rate.asOf⟩ := by
    have hcode : ∀ {field} {currency : Currency}, currency ∈ Currency.SUPPORTED →
        currencyFromWire field (.string currency.code) = .ok currency := by
      intro field currency hsupported
      unfold currencyFromWire
      dsimp only
      rw [Currency.tryGet_code hsupported]
    have hmantissa : mantissaFromWire (.string (toString rate.mantissa)) = .ok rate.mantissa := by
      unfold mantissaFromWire
      dsimp only
      rw [if_pos (isInteger_toString _), integer_toString]
    have hasOf : asOfFromWire otherForms (.string (toISOString rate.asOf)) = .ok rate.asOf := by
      unfold asOfFromWire
      dsimp only
      rw [dateParse_toISOString]
    unfold rateInput
    refine (bind_of_eq_ok (hcode hbase) _).trans ?_
    refine (bind_of_eq_ok (hcode hquote) _).trans ?_
    refine (bind_of_eq_ok hmantissa _).trans ?_
    refine (bind_of_eq_ok (rfl : scaleFromWire (.number (.real rate.scale)) = _) _).trans ?_
    refine (bind_of_eq_ok (rfl : sourceFromWire (.string rate.source) = _) _).trans ?_
    exact bind_of_eq_ok hasOf _
  have hof : ExchangeRate.of numberText
      ⟨rate.base, rate.quote, rate.mantissa, .real rate.scale, rate.source, some rate.asOf⟩ =
        .ok rate :=
    ExchangeRate.of_eq_ok_iff.mpr
      ⟨rfl, rfl, rfl, Number.exponent?_natCast rate.bounded, rfl, rfl⟩
  unfold exchangeRateFromWire exchangeRateToWire
  dsimp only
  rw [hread]
  dsimp only
  rw [hof]

theorem exchangeRateFromWire_answers (input : WireInput) :
    Answers (fun rate : ExchangeRate ↦
      rate.base ∈ Currency.SUPPORTED ∧ rate.quote ∈ Currency.SUPPORTED)
        (exchangeRateFromWire numberText otherForms input) := by
  unfold exchangeRateFromWire
  split
  · split
    next error hread => exact .inl ⟨error, rfl, rateInput_refused error hread⟩
    next read hread =>
      split
      next rate hof =>
        obtain ⟨hbase, hquote⟩ := rateInput_supported hread
        obtain ⟨hsame, hsame', _⟩ := ExchangeRate.of_eq_ok_iff.mp hof
        exact .inr ⟨rate, rfl, hsame ▸ hbase, hsame' ▸ hquote⟩
      · exact answers_invalid _ _ _
  · exact answers_invalid _ _ _

theorem wireFormat_law (numberText : Number → String) (otherForms : String → Option TimeValue) :
    WireLaw (fun money : Money ↦ money.currency ∈ Currency.SUPPORTED) moneyToWire moneyFromWire ∧
      WireLaw (fun _ : Percentage ↦ True) percentageToWire (percentageFromWire numberText) ∧
        WireLaw (fun rate : ExchangeRate ↦
          rate.base ∈ Currency.SUPPORTED ∧ rate.quote ∈ Currency.SUPPORTED) exchangeRateToWire
            (exchangeRateFromWire numberText otherForms) := by
  refine ⟨.of_answers ?_ moneyFromWire_answers, .of_answers ?_ percentageFromWire_answers,
    .of_answers ?_ exchangeRateFromWire_answers⟩
  · intro money hsupported
    exact moneyFromWire_toWire hsupported
  · intro percentage _
    exact percentageFromWire_toWire percentage
  · intro rate hsupported
    exact exchangeRateFromWire_toWire hsupported.1 hsupported.2

end Laws

end Karar.Platform
