import Karar.Foundation.IsoDate
import Karar.SharedKernel.Basic
import Karar.SharedKernel.Money

/-!
# Exchange rates

A rate is an exact scaled integer between two currencies. `convert` multiplies and divides integers and
rounds once, so that it resolves the exact rational product under the mode (`convert_resolves`).
`inverse` rounds the reciprocal at a scale of its own and refuses a reciprocal that rounds to zero.
What the rounding of the inverse costs is the content of the last part: the product of the two rates is
off one by at most the rate over a unit of the inverse's scale, and so an amount that is converted there
and back is off by that fraction of itself and by the roundings of the two conversions (`exchangeLaw`).
-/

namespace Karar.SharedKernel

open Foundation Foundation.IsoDate Foundation.Rounding

/-! ## Exchange rates -/

/-- A rate as `of` admits it. -/
structure ExchangeRate where
  base : Currency
  quote : Currency
  mantissa : ℤ
  scale : ℕ
  source : String
  asOf : TimeValue
  distinct : base.code ≠ quote.code
  positive : 0 < mantissa
  bounded : scale ≤ 30
  named : isBlank source = false
deriving DecidableEq

namespace ExchangeRate

def MAX_SCALE : ℕ := 30

def InvalidRateError (message : String) : KernelError := ⟨"InvalidRateError", message⟩

/-- The argument of `of`. The date is `none` where it is invalid. -/
structure Input where
  base : Currency
  quote : Currency
  mantissa : ℤ
  scale : Number
  source : String
  asOf : Option TimeValue

section Code

-- `String(number)`.
variable (numberText : Number → String)

def of (input : Input) : Except KernelError ExchangeRate :=
  if hdistinct : input.base.code = input.quote.code then
    .error (InvalidRateError s!"base and quote must differ, got {input.base.code} for both")
  else if hpositive : input.mantissa ≤ 0 then
    .error (InvalidRateError s!"rate mantissa must be positive, got {input.mantissa}")
  else
    match hscale : input.scale.exponent? MAX_SCALE with
    | none =>
      .error (InvalidRateError (s!"rate scale must be an integer in [0, {MAX_SCALE}], got " ++
        numberText input.scale))
    | some scale =>
      if hnamed : isBlank input.source = true then
        .error (InvalidRateError "source must name where the rate came from")
      else
        match input.asOf with
        | none => .error (InvalidRateError "asOf must be a valid Date")
        | some asOf =>
          .ok
            { base := input.base
              quote := input.quote
              mantissa := input.mantissa
              scale := scale
              source := input.source
              asOf := asOf
              distinct := hdistinct
              positive := not_le.mp hpositive
              bounded := Number.le_of_exponent? hscale
              named := Bool.eq_false_of_not_eq_true hnamed }

def convert (rate : ExchangeRate) (amount : Money) (roundingMode : RoundingMode) :
    Except KernelError Money :=
  if amount.currency.code ≠ rate.base.code then
    .error ⟨"CurrencyMismatchError",
      s!"rate {rate.base.code}->{rate.quote.code} cannot convert a {amount.currency.code} " ++
        "amount — the amount must be in the base currency"⟩
  else
    let numerator := amount.minorUnits * rate.mantissa * pow10 rate.quote.exponent
    let denominator := pow10 (rate.scale + rate.base.exponent)
    (divideRounded numerator denominator roundingMode).map (Money.mk · rate.quote)

def inverse (rate : ExchangeRate) (scale : Number) (roundingMode : RoundingMode) :
    Except KernelError ExchangeRate :=
  match scale.exponent? MAX_SCALE with
  | none =>
    .error (InvalidRateError (s!"inverse scale must be an integer in [0, {MAX_SCALE}], got " ++
      numberText scale))
  | some exponent =>
    match divideRounded (pow10 (exponent + rate.scale)) rate.mantissa roundingMode with
    | .error error => .error error
    | .ok mantissa =>
      if mantissa ≤ 0 then
        .error (InvalidRateError
          (s!"inverse of {rate.mantissa}/10^{rate.scale} rounds to zero at scale " ++
            numberText scale ++ " — use a larger scale"))
      else
        of numberText
          { base := rate.quote
            quote := rate.base
            mantissa := mantissa
            scale := scale
            source := s!"inverse({rate.source})"
            asOf := some rate.asOf }

end Code

/-! ### What `of` and `inverse` admit -/

section Admission

variable {numberText : Number → String} {rate : ExchangeRate} {mode : RoundingMode}

theorem of_eq_ok_iff {input : Input} : of numberText input = .ok rate ↔
    rate.base = input.base ∧ rate.quote = input.quote ∧ rate.mantissa = input.mantissa ∧
      input.scale.exponent? MAX_SCALE = some rate.scale ∧ rate.source = input.source ∧
        input.asOf = some rate.asOf := by
  obtain ⟨base, quote, mantissa, scale, source, asOf, hdistinct, hpositive, hbounded, hnamed⟩ := rate
  constructor
  · intro hrate
    unfold of at hrate
    split_ifs at hrate with hsame hsign hblank
    · split at hrate
      · exact nomatch hrate
      · exact nomatch hrate
    · split at hrate
      · exact nomatch hrate
      next exponent hexponent =>
        split at hrate
        · exact nomatch hrate
        next date hdate =>
          rw [Except.ok.injEq, ExchangeRate.mk.injEq] at hrate
          obtain ⟨rfl, rfl, rfl, rfl, rfl, rfl⟩ := hrate
          exact ⟨rfl, rfl, rfl, hexponent, rfl, hdate⟩
  · obtain ⟨base', quote', mantissa', scale', source', asOf'⟩ := input
    rintro ⟨rfl, rfl, rfl, hscale, rfl, rfl⟩
    unfold of
    rw [dif_neg hdistinct, dif_neg (not_le.mpr hpositive)]
    split
    next hnone => exact absurd (hnone.symm.trans hscale) (by simp)
    next exponent hexponent =>
      obtain rfl := Option.some.inj (hexponent.symm.trans hscale)
      rw [dif_neg (by simp [hnamed])]

theorem name_of_error {input : Input} {error : KernelError}
    (herror : of numberText input = .error error) : error.name = "InvalidRateError" := by
  unfold of at herror
  split_ifs at herror
  · exact Except.error.inj herror ▸ rfl
  · exact Except.error.inj herror ▸ rfl
  · split at herror
    · exact Except.error.inj herror ▸ rfl
    · exact Except.error.inj herror ▸ rfl
  · split at herror
    · exact Except.error.inj herror ▸ rfl
    · split at herror
      · exact Except.error.inj herror ▸ rfl
      · exact nomatch herror

/-- The name of the source keeps its place between the words of the inverse's. -/
theorem isBlank_inverse (source : String) : isBlank s!"inverse({source})" = false := by
  have hmem : ')' ∈ (s!"inverse({source})").toList := by simp [toString]
  exact List.all_eq_false.mpr ⟨')', hmem, by decide⟩

/-- The inverse exists where its scale is one and its mantissa does not round to zero. -/
theorem inverse_eq_ok_iff {scale : Number} {inverse : ExchangeRate} :
    rate.inverse numberText scale mode = .ok inverse ↔
      scale.exponent? MAX_SCALE = some inverse.scale ∧
        divideRounded (pow10 (inverse.scale + rate.scale)) rate.mantissa mode = .ok inverse.mantissa ∧
          inverse.base = rate.quote ∧ inverse.quote = rate.base ∧
            inverse.source = s!"inverse({rate.source})" ∧ inverse.asOf = rate.asOf := by
  unfold ExchangeRate.inverse
  cases hscale : scale.exponent? MAX_SCALE with
  | none => simp
  | some exponent =>
    dsimp only
    constructor
    · intro hinverse
      split at hinverse
      · exact nomatch hinverse
      next mantissa hmantissa =>
        split_ifs at hinverse
        obtain ⟨hbase, hquote, rfl, hexponent, hsource, hasOf⟩ := of_eq_ok_iff.mp hinverse
        obtain rfl := Option.some.inj (hscale.symm.trans hexponent)
        exact ⟨rfl, hmantissa, hbase, hquote, hsource, (Option.some.inj hasOf).symm⟩
    · rintro ⟨hexponent, hmantissa, hbase, hquote, hsource, hasOf⟩
      obtain rfl := Option.some.inj hexponent
      rw [hmantissa]
      dsimp only
      rw [if_neg (not_le.mpr inverse.positive), of_eq_ok_iff]
      exact ⟨hbase, hquote, rfl, hscale, hsource, congrArg some hasOf.symm⟩

theorem name_of_inverse_error {scale : Number} {error : KernelError}
    (herror : rate.inverse numberText scale mode = .error error) : error.name = "InvalidRateError" := by
  unfold ExchangeRate.inverse at herror
  split at herror
  · exact Except.error.inj herror ▸ rfl
  next exponent _ =>
    obtain ⟨mantissa, hmantissa, _⟩ :=
      divideRounded_resolves (pow10 (exponent + rate.scale)) mode rate.positive
    rw [hmantissa] at herror
    dsimp only at herror
    split_ifs at herror
    · exact Except.error.inj herror ▸ rfl
    · exact name_of_error herror

end Admission

/-! ### Exact amounts -/

section Exact

variable {numberText : Number → String} {rate inverse : ExchangeRate} {amount : Money}
  {mode : RoundingMode}

/-- Units of the quote for one of the base. -/
def ratio (rate : ExchangeRate) : ℚ := rate.mantissa / 10 ^ rate.scale

theorem ratio_pos (rate : ExchangeRate) : 0 < rate.ratio := by
  unfold ratio
  have hmantissa : (0 : ℚ) < rate.mantissa := by exact_mod_cast rate.positive
  positivity

/-- What an amount of the base is worth, in minor units of the quote. -/
def exact (rate : ExchangeRate) (amount : Money) : ℚ :=
  amount.major * rate.ratio * 10 ^ rate.quote.exponent

theorem pow10_pos (exponent : ℕ) : 0 < pow10 exponent := by
  unfold pow10
  positivity

theorem convert_resolves (mode : RoundingMode) (hcurrency : amount.currency = rate.base) :
    ∃ units, rate.convert amount mode = .ok ⟨units, rate.quote⟩ ∧
      mode.Resolves (rate.exact amount) units := by
  obtain ⟨units, hunits, hresolves⟩ := divideRounded_resolves
    (amount.minorUnits * rate.mantissa * pow10 rate.quote.exponent) mode
    (pow10_pos (rate.scale + rate.base.exponent))
  refine ⟨units, ?_, ?_⟩
  · unfold convert
    rw [hcurrency, if_neg (not_not.mpr rfl)]
    dsimp only
    rw [hunits]
    rfl
  · have hexact : rate.exact amount =
        ((amount.minorUnits * rate.mantissa * pow10 rate.quote.exponent : ℤ) : ℚ) /
          ((pow10 (rate.scale + rate.base.exponent) : ℤ) : ℚ) := by
      unfold exact ratio Money.major pow10
      rw [hcurrency]
      push_cast
      rw [pow_add]
      field_simp
    rwa [hexact]

theorem exact_of_convert {units : ℤ} {currency : Currency} (hcurrency : amount.currency = rate.base)
    (hconvert : rate.convert amount mode = .ok ⟨units, currency⟩) :
    currency = rate.quote ∧ mode.Resolves (rate.exact amount) units := by
  obtain ⟨_, heq, hresolves⟩ := convert_resolves mode hcurrency
  rw [heq, Except.ok.injEq, Money.mk.injEq] at hconvert
  obtain ⟨rfl, rfl⟩ := hconvert
  exact ⟨rfl, hresolves⟩

theorem reciprocal_eq (rate : ExchangeRate) (exponent : ℕ) :
    (10 ^ exponent / rate.ratio : ℚ) =
      ((pow10 (exponent + rate.scale) : ℤ) : ℚ) / ((rate.mantissa : ℤ) : ℚ) := by
  have hne : ((rate.mantissa : ℤ) : ℚ) ≠ 0 := by exact_mod_cast ne_of_gt rate.positive
  unfold ratio pow10
  push_cast
  rw [pow_add]
  field_simp

/-- The mantissa of an inverse is the reciprocal at the scale of the inverse, rounded. -/
theorem inverse_resolves {scale : Number}
    (hinverse : rate.inverse numberText scale mode = .ok inverse) :
    mode.Resolves (10 ^ inverse.scale / rate.ratio) inverse.mantissa := by
  obtain ⟨_, hmantissa, _⟩ := inverse_eq_ok_iff.mp hinverse
  rw [reciprocal_eq]
  exact resolves_of_divideRounded rate.positive hmantissa

/-- The product of a rate and its inverse is off one by the rounding of the inverse. -/
theorem abs_product_sub_one_le {scale : Number}
    (hinverse : rate.inverse numberText scale mode = .ok inverse) :
    |rate.ratio * inverse.ratio - 1| ≤ mode.error * (rate.ratio / 10 ^ inverse.scale) := by
  have hratio := rate.ratio_pos
  have hunit : (0 : ℚ) < rate.ratio / 10 ^ inverse.scale := by positivity
  have hproduct : rate.ratio * inverse.ratio - 1 =
      -((10 ^ inverse.scale / rate.ratio - inverse.mantissa) * (rate.ratio / 10 ^ inverse.scale)) := by
    have hne := ne_of_gt hratio
    have hinverseRatio : inverse.ratio = inverse.mantissa / 10 ^ inverse.scale := rfl
    rw [hinverseRatio]
    generalize rate.ratio = r at hne
    field_simp
    ring
  rw [hproduct, abs_neg, abs_mul, abs_of_pos hunit]
  exact mul_le_mul_of_nonneg_right (inverse_resolves hinverse).abs_sub_le_error (le_of_lt hunit)

/-- What the roundings of a conversion and of the one back cost, in minor units. -/
theorem abs_back_sub_le {scale : Number} {mode₁ mode₂ : RoundingMode} {converted back : Money}
    (hinverse : rate.inverse numberText scale mode = .ok inverse)
    (hcurrency : amount.currency = rate.base)
    (hconvert : rate.convert amount mode₁ = .ok converted)
    (hback : inverse.convert converted mode₂ = .ok back) :
    |((back.minorUnits - amount.minorUnits : ℤ) : ℚ)| ≤
      |((amount.minorUnits : ℤ) : ℚ)| * (mode.error * (rate.ratio / 10 ^ inverse.scale)) +
        mode₁.error * (inverse.ratio * 10 ^ rate.base.exponent / 10 ^ rate.quote.exponent) +
          mode₂.error := by
  obtain ⟨units, currency⟩ := converted
  obtain ⟨backUnits, backCurrency⟩ := back
  obtain ⟨rfl, hresolves⟩ := exact_of_convert hcurrency hconvert
  obtain ⟨_, _, hbase, hquote, _⟩ := inverse_eq_ok_iff.mp hinverse
  obtain ⟨rfl, hresolves'⟩ := exact_of_convert hbase.symm hback
  have hfirst := hresolves.abs_sub_le_error
  have hsecond := hresolves'.abs_sub_le_error
  have hproduct := abs_product_sub_one_le hinverse
  -- The factors that the two conversions multiply minor units by.
  have hfactor : rate.exact amount =
      amount.minorUnits * (rate.ratio * 10 ^ rate.quote.exponent / 10 ^ rate.base.exponent) := by
    unfold exact Money.major
    rw [hcurrency]
    ring
  have hfactor' : inverse.exact ⟨units, rate.quote⟩ =
      units * (inverse.ratio * 10 ^ rate.base.exponent / 10 ^ rate.quote.exponent) := by
    unfold exact Money.major
    rw [hquote]
    ring
  have hratio := inverse.ratio_pos
  have hpositive : 0 ≤ inverse.ratio * 10 ^ rate.base.exponent / 10 ^ rate.quote.exponent := by
    positivity
  have hfactors : rate.ratio * 10 ^ rate.quote.exponent / 10 ^ rate.base.exponent *
      (inverse.ratio * 10 ^ rate.base.exponent / 10 ^ rate.quote.exponent) =
        rate.ratio * inverse.ratio := by
    field_simp
  rw [hfactor] at hfirst
  rw [hfactor'] at hsecond
  push_cast
  generalize rate.ratio * 10 ^ rate.quote.exponent / 10 ^ rate.base.exponent = there at *
  generalize inverse.ratio * 10 ^ rate.base.exponent / 10 ^ rate.quote.exponent = here at *
  have hsplit : ((backUnits : ℚ) - amount.minorUnits) =
      amount.minorUnits * (rate.ratio * inverse.ratio - 1) -
        (amount.minorUnits * there - units) * here - (units * here - backUnits) := by
    rw [← hfactors]
    ring
  calc |(backUnits : ℚ) - amount.minorUnits|
      ≤ |amount.minorUnits * (rate.ratio * inverse.ratio - 1)| +
          |(amount.minorUnits * there - units) * here| + |units * here - backUnits| := by
        rw [hsplit]
        exact le_trans (abs_sub _ _) (add_le_add_left (abs_sub _ _) _)
    _ ≤ _ := by
        rw [abs_mul, abs_mul, abs_of_nonneg hpositive]
        exact add_le_add (add_le_add (mul_le_mul_of_nonneg_left hproduct (abs_nonneg _))
          (mul_le_mul_of_nonneg_right hfirst hpositive)) hsecond

theorem exists_inverse_iff {scale : Number} :
    (∃ inverse, rate.inverse numberText scale mode = .ok inverse) ↔
      ∃ exponent mantissa, scale.exponent? MAX_SCALE = some exponent ∧ 0 < mantissa ∧
        mode.Resolves (10 ^ exponent / rate.ratio) mantissa := by
  constructor
  · rintro ⟨inverse, hinverse⟩
    exact ⟨inverse.scale, inverse.mantissa, (inverse_eq_ok_iff.mp hinverse).1, inverse.positive,
      inverse_resolves hinverse⟩
  · rintro ⟨exponent, mantissa, hscale, hpositive, hresolves⟩
    obtain ⟨mantissa', hmantissa, hresolves'⟩ :=
      divideRounded_resolves (pow10 (exponent + rate.scale)) mode rate.positive
    rw [← reciprocal_eq] at hresolves'
    obtain rfl := hresolves.unique hresolves'
    refine ⟨⟨rate.quote, rate.base, mantissa, exponent, s!"inverse({rate.source})", rate.asOf,
      rate.distinct.symm, hpositive, Number.le_of_exponent? hscale, isBlank_inverse _⟩, ?_⟩
    exact inverse_eq_ok_iff.mpr ⟨hscale, hmantissa, rfl, rfl, rfl, rfl⟩

/-- What conversions and inverses promise, for every rate. A currency in hand comes from the registry,
where its code determines it: an amount whose code is the base's is an amount in the base. -/
structure ExchangeLaw (numberText : Number → String) : Prop where
  refused : ∀ (rate : ExchangeRate) (amount : Money) (mode : RoundingMode),
    amount.currency.code ≠ rate.base.code →
      ∃ message, rate.convert amount mode = .error ⟨"CurrencyMismatchError", message⟩
  converted : ∀ (rate : ExchangeRate) (amount : Money) (mode : RoundingMode),
    amount.currency = rate.base →
      ∃ units, rate.convert amount mode = .ok ⟨units, rate.quote⟩ ∧
        mode.Resolves (rate.exact amount) units ∧ |rate.exact amount - units| < 1 ∧
          (mode.IsHalf → |rate.exact amount - units| ≤ 1 / 2)
  mono : ∀ (rate : ExchangeRate) (amount amount' converted converted' : Money) (mode : RoundingMode),
    amount.currency = rate.base → amount'.currency = rate.base →
      amount.minorUnits ≤ amount'.minorUnits → rate.convert amount mode = .ok converted →
        rate.convert amount' mode = .ok converted' → converted.minorUnits ≤ converted'.minorUnits
  /-- The inverse exists where its scale is a scale and the reciprocal does not round to zero. -/
  invertible : ∀ (rate : ExchangeRate) (scale : Number) (mode : RoundingMode),
    (∃ inverse, rate.inverse numberText scale mode = .ok inverse) ↔
      ∃ exponent mantissa, scale.exponent? MAX_SCALE = some exponent ∧ 0 < mantissa ∧
        mode.Resolves (10 ^ exponent / rate.ratio) mantissa
  uninvertible : ∀ (rate : ExchangeRate) (scale : Number) (mode : RoundingMode) (error : KernelError),
    rate.inverse numberText scale mode = .error error → error.name = "InvalidRateError"
  inverted : ∀ (rate inverse : ExchangeRate) (scale : Number) (mode : RoundingMode),
    rate.inverse numberText scale mode = .ok inverse →
      inverse.base = rate.quote ∧ inverse.quote = rate.base ∧
        scale.exponent? MAX_SCALE = some inverse.scale ∧
          |rate.ratio * inverse.ratio - 1| ≤ mode.error * (rate.ratio / 10 ^ inverse.scale)
  back : ∀ (rate inverse : ExchangeRate) (scale : Number) (mode mode₁ mode₂ : RoundingMode)
    (amount converted back : Money), rate.inverse numberText scale mode = .ok inverse →
      amount.currency = rate.base → rate.convert amount mode₁ = .ok converted →
        inverse.convert converted mode₂ = .ok back →
          back.currency = amount.currency ∧
          |((back.minorUnits - amount.minorUnits : ℤ) : ℚ)| ≤
            |((amount.minorUnits : ℤ) : ℚ)| * (mode.error * (rate.ratio / 10 ^ inverse.scale)) +
              mode₁.error * (inverse.ratio * 10 ^ rate.base.exponent / 10 ^ rate.quote.exponent) +
                mode₂.error

theorem exchangeLaw (numberText : Number → String) : ExchangeLaw numberText where
  refused := by
    intro rate amount mode hcurrency
    exact ⟨_, if_pos hcurrency⟩
  converted := by
    intro rate amount mode hcurrency
    obtain ⟨units, hconvert, hresolves⟩ := convert_resolves mode hcurrency
    refine ⟨units, hconvert, hresolves, hresolves.abs_sub_lt_one, ?_⟩
    intro hhalf
    exact hresolves.abs_sub_le_half hhalf
  mono := by
    rintro rate amount amount' ⟨units, _⟩ ⟨units', _⟩ mode hcurrency hcurrency' hle hconvert
      hconvert'
    apply (exact_of_convert hcurrency hconvert).2.mono (exact_of_convert hcurrency' hconvert').2
    have hratio := rate.ratio_pos
    have hunits : (amount.minorUnits : ℚ) ≤ amount'.minorUnits := by exact_mod_cast hle
    unfold exact Money.major
    rw [hcurrency, hcurrency']
    gcongr
  invertible _ _ _ := exists_inverse_iff
  uninvertible _ _ _ _ := name_of_inverse_error
  inverted := by
    intro rate inverse scale mode hinverse
    obtain ⟨hscale, _, hbase, hquote, _⟩ := inverse_eq_ok_iff.mp hinverse
    exact ⟨hbase, hquote, hscale, abs_product_sub_one_le hinverse⟩
  back := by
    intro rate inverse scale mode mode₁ mode₂ amount converted back hinverse hcurrency hconvert
      hback
    refine ⟨?_, abs_back_sub_le hinverse hcurrency hconvert hback⟩
    obtain ⟨_, _, hbase, hquote, _⟩ := inverse_eq_ok_iff.mp hinverse
    obtain ⟨units, currency⟩ := converted
    obtain ⟨rfl, _⟩ := exact_of_convert hcurrency hconvert
    rw [(exact_of_convert hbase.symm hback).1, hquote, hcurrency]

/-- A hundred thousand to one: its reciprocal is nothing in hundredths. -/
def hundredThousand : Input where
  base := ⟨"KWD", 3⟩
  quote := ⟨"QAR", 2⟩
  mantissa := 100000
  scale := .real 0
  source := "treasury-feed"
  asOf := some epoch

theorem hundredThousand_not_inverted : ¬∀ (rate : ExchangeRate) (mode : RoundingMode) (scale : ℕ),
    scale ≤ MAX_SCALE →
      ∃ inverse, rate.inverse (fun _ ↦ "2") (.real scale) mode = .ok inverse := by
  intro hvalid
  obtain ⟨rate, hrate⟩ : ∃ rate, of (fun _ ↦ "0") hundredThousand = .ok rate := ⟨_, rfl⟩
  obtain ⟨_, _, hrateMantissa, hrateScale, _⟩ := of_eq_ok_iff.mp hrate
  have hscale : rate.scale = 0 := Option.some.inj hrateScale.symm
  obtain ⟨inverse, hinverse⟩ := hvalid rate .TRUNC 2 (by decide)
  obtain ⟨hexponent, hmantissa, _⟩ := inverse_eq_ok_iff.mp hinverse
  rw [Number.exponent?_natCast (by decide), Option.some.injEq] at hexponent
  have hzero : divideRounded (pow10 (2 + 0)) 100000 .TRUNC = .ok 0 := by decide
  rw [← hexponent, hscale, hrateMantissa, hundredThousand, hzero, Except.ok.injEq] at hmantissa
  have hpositive := inverse.positive
  omega

end Exact

end ExchangeRate

end Karar.SharedKernel
