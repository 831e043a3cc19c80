import CryptoDeal.Library.CanonicalDecimal
import CryptoDeal.DealService.Domain

/-!
# `DecimalConverter`

`boost::decimal::to_chars` in fixed notation is `fixedText`; it fails when the
text does not fit the caller's buffer. Everything after it is the source's own
string handling.
-/

namespace CryptoDeal.DealService.DecimalConverter

open CryptoDeal.DecimalText CryptoDeal.DecimalArithmetic

def maxDecimalPlaces : ℤ := 34

def decimalBufferSize : ℕ := 128

/-- `fromChars` is `boost::decimal::from_chars` on a text that it reads to the end. -/
def parseDecimal (fromChars : String → Option Decimal) (text : String) :
    Except ServiceFailure Decimal :=
  match fromChars text with
  | some value => .ok value
  | none => .error (.runtime "Invalid decimal value")

/-- The `while` loop of `trimTrailingZeros` over the reversed text. -/
def popZeros : List Char → List Char
  | last :: previous :: rest =>
      if last = '0' then popZeros (previous :: rest) else last :: previous :: rest
  | text => text

def trimTrailingZeros (text : List Char) : List Char :=
  let popped := (popZeros text.reverse).reverse
  let dotless := if popped.getLast? = some '.' then popped.dropLast else popped
  if dotless = ['-', '0'] then ['0'] else dotless

/-- `formatDecimal(value, decimals)`. -/
def formatDecimalTo (rounding : NearestRounding) (value : Decimal) (decimals : ℤ) :
    Except ServiceFailure String := do
  let decimals := (max 0 (min decimals maxDecimalPlaces)).toNat
  let buffer := fixedText rounding value decimals
  throwIf (decimalBufferSize < buffer.length) "formatDecimal: failed to format decimal value"
  return String.ofList (trimTrailingZeros buffer)

/-- `formatDecimal(value)`. -/
def formatDecimal (rounding : NearestRounding) (value : Decimal) :
    Except ServiceFailure String :=
  formatDecimalTo rounding value maxDecimalPlaces

def decimalsFromStep (rounding : NearestRounding) (step : Decimal) :
    Except ServiceFailure ℤ := do
  if step ≤ 0 then return 0
  let stepText := (← formatDecimal rounding step).toList
  match stepText.findIdx? (· == '.') with
  | none => return 0
  | some dotPos => return (stepText.length : ℤ) - dotPos - 1

def formatByStep (rounding : NearestRounding) (value stepSize : Decimal) :
    Except ServiceFailure String := do
  if stepSize ≤ 0 then return (← formatDecimal rounding value)
  formatDecimalTo rounding value (← decimalsFromStep rounding stepSize)

def ceilToStep (rounding : NearestRounding) (value stepSize : Decimal) : Decimal :=
  let toDecimal := rounding.arithmetic.toDecimal
  if stepSize ≤ 0 then value else toDecimal (⌈toDecimal (value / stepSize)⌉ * stepSize)

def floorToStep (rounding : NearestRounding) (value stepSize : Decimal) : Decimal :=
  let toDecimal := rounding.arithmetic.toDecimal
  if stepSize ≤ 0 then value else toDecimal (⌊toDecimal (value / stepSize)⌋ * stepSize)

/-! ## Quotients by a step -/

/-- Whole numbers of one decimal unit, with a digit to spare. -/
structure SharesScale (digits : ℕ) (value step : Decimal) : Prop where
  places : digits ≤ 34
  valueFits : HasFractionDigits digits value
  stepFits : HasFractionDigits digits step
  valueSmall : value * 10 ^ digits ≤ 10 ^ 33
  stepSmall : step * 10 ^ digits ≤ 10 ^ 33

section Scale

variable {digits : ℕ} {value step : Decimal}

/-- On one scale a rounded quotient is whole, and is rounded up, as the exact one. -/
theorem SharesScale.quotient (scale : SharesScale digits value step) (valuePositive : 0 < value)
    (stepPositive : 0 < step) (arithmetic : Arithmetic decimal128) :
    ((∃ whole : ℤ, arithmetic.toDecimal (value / step) = whole) ↔
      ∃ whole : ℤ, value / step = whole) ∧
    ⌈arithmetic.toDecimal (value / step)⌉ = ⌈value / step⌉ := by
  obtain ⟨dividend, dividendEq⟩ := scale.valueFits
  obtain ⟨divisor, divisorEq⟩ := scale.stepFits
  have power : (0 : ℚ) < 10 ^ digits := by positivity
  have same : value / step = dividend / divisor := by
    rw [← dividendEq, ← divisorEq, mul_div_mul_right _ _ power.ne']
  have dividendPositive : (0 : ℚ) < dividend := dividendEq ▸ mul_pos valuePositive power
  have divisorPositive : (0 : ℚ) < divisor := divisorEq ▸ mul_pos stepPositive power
  have dividendSmall : (dividend : ℚ) ≤ 10 ^ 33 := dividendEq ▸ scale.valueSmall
  have divisorSmall : (divisor : ℚ) ≤ 10 ^ 34 := by
    have small : (divisor : ℚ) ≤ 10 ^ 33 := divisorEq ▸ scale.stepSmall
    exact small.trans (by norm_num)
  rw [same]
  exact arithmetic.quotient_whole (by exact_mod_cast dividendPositive)
    (by exact_mod_cast divisorPositive) (by exact_mod_cast dividendSmall)
    (by exact_mod_cast divisorSmall)

theorem ceil_to_step_exact {rounding : NearestRounding} (exact : rounding.arithmetic.IsExact)
    (positive : 0 < step) : ceilToStep rounding value step = ⌈value / step⌉ * step := by
  simp only [ceilToStep, if_neg (not_le.2 positive), exact _]

theorem floor_to_step_exact {rounding : NearestRounding} (exact : rounding.arithmetic.IsExact)
    (positive : 0 < step) : floorToStep rounding value step = ⌊value / step⌋ * step := by
  simp only [floorToStep, if_neg (not_le.2 positive), exact _]

theorem ceil_to_step_scaled (rounding : NearestRounding) (scale : SharesScale digits value step)
    (valuePositive : 0 < value) (stepPositive : 0 < step) :
    ceilToStep rounding value step = ⌈value / step⌉ * step := by
  rw [ceilToStep, if_neg (not_le.2 stepPositive),
    (scale.quotient valuePositive stepPositive rounding.arithmetic).2]
  apply rounding.arithmetic.to_decimal_held
  obtain ⟨divisor, divisorEq⟩ := scale.stepFits
  have power : (0 : ℚ) < 10 ^ digits := by positivity
  refine ⟨⌈value / step⌉ * divisor, -digits, ?_, ?_, ?_⟩
  · have divisorPositive : (0 : ℚ) < divisor := divisorEq ▸ mul_pos stepPositive power
    have countNonneg : (0 : ℚ) ≤ ⌈value / step⌉ := by
      exact_mod_cast (Int.ceil_pos.2 (div_pos valuePositive stepPositive)).le
    have above : (⌈value / step⌉ : ℚ) * divisor < 10 ^ 34 := by
      calc
        (⌈value / step⌉ : ℚ) * divisor < (value / step + 1) * divisor :=
          mul_lt_mul_of_pos_right (Int.ceil_lt_add_one _) divisorPositive
        _ = value / step * (step * 10 ^ digits) + divisor := by rw [divisorEq]; ring
        _ = value * 10 ^ digits + step * 10 ^ digits := by
          rw [← mul_assoc, div_mul_cancel₀ _ stepPositive.ne', divisorEq]
        _ ≤ 10 ^ 33 + 10 ^ 33 := add_le_add scale.valueSmall scale.stepSmall
        _ < 10 ^ 34 := by norm_num
    have nonneg : (0 : ℚ) ≤ ⌈value / step⌉ * divisor :=
      mul_nonneg countNonneg divisorPositive.le
    rw [abs_of_nonneg (by exact_mod_cast nonneg)]
    exact_mod_cast above
  · have places := scale.places
    simp only [decimal128]
    omega
  · push_cast
    rw [← divisorEq, zpow_neg, zpow_natCast]
    field_simp

end Scale

/-! ## What the trimmed text denotes -/

theorem pop_zeros_stops_at_point (zeros rest : List Char) :
    popZeros (zeros ++ '.' :: rest) = zeros.dropWhile (· == '0') ++ '.' :: rest := by
  induction zeros with
  | nil => cases rest <;> simp [popZeros]
  | cons last zeros ih =>
      by_cases zero : last = '0'
      · subst zero
        obtain ⟨previous, later, shape⟩ : ∃ previous later,
            zeros ++ '.' :: rest = previous :: later := by
          cases zeros <;> simp
        rw [List.cons_append, shape, popZeros, if_pos rfl, ← shape, ih]
        simp
      · have kept : (last :: zeros).dropWhile (· == '0') = last :: zeros := by simp [zero]
        rw [kept]
        cases zeros <;> simp [popZeros, zero]

/-- A point shields the whole digits: only zeros of the fraction are dropped. -/
theorem trim_trailing_zeros_fraction (front fraction : List Char) (digits : Digits fraction) :
    trimTrailingZeros (front ++ '.' :: fraction) =
      if fraction.rdropWhile (· == '0') = [] then
        if front = ['-', '0'] then ['0'] else front
      else front ++ '.' :: fraction.rdropWhile (· == '0') := by
  have popped : (popZeros (front ++ '.' :: fraction).reverse).reverse =
      front ++ '.' :: fraction.rdropWhile (· == '0') := by
    have shape : (front ++ '.' :: fraction).reverse =
        fraction.reverse ++ '.' :: front.reverse := by simp
    rw [shape, pop_zeros_stops_at_point]
    simp [List.rdropWhile]
  simp only [trimTrailingZeros, popped]
  by_cases empty : fraction.rdropWhile (· == '0') = []
  · simp [empty]
  · obtain ⟨init, last, shape⟩ := (List.eq_nil_or_concat _).resolve_left empty
    rw [List.concat_eq_append] at shape
    have member : last ∈ fraction :=
      (List.rdropWhile_prefix (· == '0') fraction).subset (by rw [shape]; simp)
    have notPoint : some last ≠ some '.' := by
      rintro ⟨⟩
      exact absurd (digits '.' member) (by decide)
    have lastOne : (front ++ '.' :: fraction.rdropWhile (· == '0')).getLast? = some last := by
      rw [shape, ← List.cons_append, ← List.append_assoc, List.getLast?_concat]
    have notZero : front ++ '.' :: fraction.rdropWhile (· == '0') ≠ ['-', '0'] := by
      intro same
      have point : '.' ∈ front ++ '.' :: fraction.rdropWhile (· == '0') := by simp
      rw [same] at point
      exact absurd point (by decide)
    rw [lastOne, if_neg notPoint, if_neg notZero, if_neg empty]

/-- Without a point the loop eats into the whole number: a nonzero `value`
keeps its text only if it does not end in a zero. -/
theorem pop_zeros_whole (value : ℕ) (nonzero : value ≠ 0) :
    ∃ kept, kept ≠ 0 ∧ (value % 10 ≠ 0 → kept = value) ∧ (value % 10 = 0 → kept < value) ∧
      ∀ sign, popZeros ((Nat.toDigits 10 value).reverse ++ sign) =
        (Nat.toDigits 10 kept).reverse ++ sign := by
  induction value using Nat.strong_induction_on with
  | _ value ih =>
      rcases Nat.lt_or_ge value 10 with small | large
      · refine ⟨value, nonzero, fun _ => rfl, by omega, fun sign => ?_⟩
        rw [Nat.toDigits_of_lt_base small]
        cases sign <;> simp [popZeros, nonzero]
      · have digits := Nat.toDigits_of_base_le (b := 10) (by decide) large
        by_cases zero : value % 10 = 0
        · obtain ⟨kept, keptNonzero, keptSame, keptLess, popped⟩ :=
            ih (value / 10) (by omega) (by omega)
          have keptLe : kept ≤ value / 10 := by
            by_cases inner : value / 10 % 10 = 0
            · exact (keptLess inner).le
            · exact (keptSame inner).le
          refine ⟨kept, keptNonzero, by omega, by omega, fun sign => ?_⟩
          rw [digits, zero, List.reverse_append]
          obtain ⟨previous, later, shape⟩ : ∃ previous later,
              (Nat.toDigits 10 (value / 10)).reverse = previous :: later :=
            List.exists_cons_of_ne_nil (by simp)
          rw [← popped sign, shape]
          simp [popZeros]
        · refine ⟨value, nonzero, fun _ => rfl, by omega, fun sign => ?_⟩
          rw [digits]
          have last : Nat.digitChar (value % 10) ≠ '0' := by simpa using zero
          rw [List.reverse_append, List.reverse_singleton, List.singleton_append, List.cons_append]
          cases (Nat.toDigits 10 (value / 10)).reverse ++ sign <;> simp [popZeros, zero]

theorem decimal_value_digits {whole : List Char} (digits : Digits whole) :
    decimalValue whole = unsignedValue whole :=
  decimal_value_unsigned fun head member => digits head (List.mem_of_mem_head? member)

section Trimming

variable {whole fraction : List Char}

theorem front_is_negative_zero_iff {negative : Bool} (plain : PlainWhole whole) :
    signChars negative ++ whole = ['-', '0'] ↔ negative = true ∧ whole = ['0'] := by
  cases negative with
  | false =>
      apply iff_of_false
      · intro same
        rw [signChars, if_neg Bool.false_ne_true, List.nil_append] at same
        exact absurd (plain.digits '-' (by rw [same]; simp)) (by decide)
      · exact fun both => Bool.false_ne_true both.1
  | true => simp [signChars]

/-- The trimmer drops the last zeros of the fraction, the point after them and the sign of
a zero. -/
theorem trim_trailing_zeros_parts (negative : Bool) (plain : PlainWhole whole)
    (digits : Digits fraction) :
    ∃ sign, CanonicalParts sign whole (fraction.rdropWhile (· == '0')) ∧
      trimTrailingZeros (signChars negative ++ whole ++ '.' :: fraction) =
        signChars sign ++ whole ++ pointedFraction (fraction.rdropWhile (· == '0')) ∧
      signedValue sign (magnitudeOf whole fraction) =
        signedValue negative (magnitudeOf whole fraction) := by
  have trimmedDigits : Digits (fraction.rdropWhile (· == '0')) := fun char member =>
    digits char ((List.rdropWhile_prefix _ _).subset member)
  have trimmed : (fraction.rdropWhile (· == '0')).getLast? ≠ some '0' := by
    intro zero
    have nonempty : fraction.rdropWhile (· == '0') ≠ [] := by
      intro empty
      rw [empty] at zero
      cases zero
    rw [List.getLast?_eq_some_getLast nonempty, Option.some_inj] at zero
    exact List.rdropWhile_last_not _ _ nonempty (by rw [zero]; rfl)
  simp only [trim_trailing_zeros_fraction _ _ digits, front_is_negative_zero_iff plain]
  by_cases negativeZero : (negative = true ∧ whole = ['0']) ∧ fraction.rdropWhile (· == '0') = []
  · obtain ⟨⟨rfl, rfl⟩, empty⟩ := negativeZero
    refine ⟨false, ⟨plain, trimmedDigits, trimmed, nofun⟩, ?_, ?_⟩
    · simp [empty, signChars, pointedFraction]
    · have none : magnitudeOf ['0'] fraction = 0 := by
        rw [← magnitude_trimmed plain digits, empty, magnitude_of_zero]
      rw [none]
      rfl
  · refine ⟨negative, ⟨plain, trimmedDigits, trimmed, ?_⟩, ?_, rfl⟩
    · rintro isNegative ⟨zero, empty⟩
      exact negativeZero ⟨⟨isNegative, zero⟩, empty⟩
    · unfold pointedFraction
      split_ifs with empty zero
      · exact absurd ⟨zero, empty⟩ negativeZero
      · rw [List.append_nil]
      · rfl

end Trimming

theorem fixed_text_parts (rounding : NearestRounding) (value : Decimal) {decimals : ℕ}
    (positive : 0 < decimals) :
    fixedText rounding value decimals =
      signChars (decide (value < 0)) ++ wholeText rounding value decimals ++
        '.' :: fractionText rounding value decimals := by
  simp [fixedText, signText, signChars, positive.ne']

theorem signed_fixed_magnitude (rounding : NearestRounding) (value : Decimal) (decimals : ℕ) :
    signedValue (decide (value < 0))
        (magnitudeOf (wholeText rounding value decimals) (fractionText rounding value decimals)) =
      printedValue rounding value decimals := by
  have length : (fractionText rounding value decimals).length = decimals :=
    padded_digits_length _ _
  rw [magnitudeOf, length, printed_magnitude]
  simp [signedValue, printedValue]

/-- With at least one printed fractional digit the trimmed text spells the rounded value. -/
theorem decimal_value_trim_fraction (rounding : NearestRounding) (value : Decimal) (decimals : ℕ)
    (positive : 0 < decimals) :
    decimalValue (trimTrailingZeros (fixedText rounding value decimals)) =
      some (printedValue rounding value decimals) := by
  have plain : PlainWhole (wholeText rounding value decimals) := to_digits_plain _
  have digits := fraction_text_digits rounding value decimals
  obtain ⟨sign, parts, trimmed, same⟩ :=
    trim_trailing_zeros_parts (decide (value < 0)) plain digits
  rw [fixed_text_parts _ _ positive, trimmed, List.append_assoc,
    decimal_value_parts plain.nonempty plain.digits parts.fractionDigits,
    magnitude_trimmed plain digits, same, signed_fixed_magnitude]

/-- Zeros popped from the reversed whole text, sign and all. -/
theorem trim_trailing_zeros_whole (rounding : NearestRounding) (value : Decimal)
    (nonzero : scaledMagnitude rounding value 0 ≠ 0) :
    ∃ kept : ℕ,
      (scaledMagnitude rounding value 0 % 10 ≠ 0 → kept = scaledMagnitude rounding value 0) ∧
      (scaledMagnitude rounding value 0 % 10 = 0 → kept < scaledMagnitude rounding value 0) ∧
      decimalValue (trimTrailingZeros (fixedText rounding value 0)) =
        some (if value < 0 then -(kept : ℚ) else kept) := by
  obtain ⟨kept, keptNonzero, keptSame, keptLess, popped⟩ := pop_zeros_whole _ nonzero
  refine ⟨kept, keptSame, keptLess, ?_⟩
  have text : (fixedText rounding value 0).reverse =
      (Nat.toDigits 10 (scaledMagnitude rounding value 0)).reverse ++ (signText value).reverse := by
    simp [fixedText, wholeText]
  have keptDigits : Digits (Nat.toDigits 10 kept) := to_digits_are_digits kept
  obtain ⟨init, last, shape⟩ := (List.eq_nil_or_concat (Nat.toDigits 10 kept)).resolve_left
    Nat.toDigits_ne_nil
  rw [List.concat_eq_append] at shape
  have notPoint : some last ≠ some '.' := by
    rintro ⟨⟩
    exact absurd (keptDigits '.' (by rw [shape]; simp)) (by decide)
  have lastOne : (signText value ++ Nat.toDigits 10 kept).getLast? = some last := by
    rw [shape, ← List.append_assoc, List.getLast?_concat]
  have keptValue : unsignedValue (Nat.toDigits 10 kept) = some (kept : ℚ) := by
    rw [unsigned_value_whole Nat.toDigits_ne_nil keptDigits, digits_value_to_digits]
  have notZero : signText value ++ Nat.toDigits 10 kept ≠ ['-', '0'] := by
    intro same
    unfold signText at same
    split_ifs at same
    · have zero : Nat.toDigits 10 kept = ['0'] := by simpa using same
      have spelled := digits_value_to_digits kept
      rw [zero] at spelled
      exact keptNonzero spelled.symm
    · exact absurd (keptDigits '-' (by rw [List.nil_append] at same; simp [same])) (by decide)
  simp only [trimTrailingZeros, text, popped, List.reverse_append, List.reverse_reverse]
  rw [lastOne, if_neg notPoint, if_neg notZero]
  unfold signText
  split_ifs with negative
  · simp [decimalValue, keptValue]
  · rw [List.nil_append, decimal_value_digits keptDigits, keptValue]

/-- Whole texts lose the value when it is a nonzero multiple of ten. -/
theorem decimal_value_trim_whole_iff (rounding : NearestRounding) (value : Decimal) :
    decimalValue (trimTrailingZeros (fixedText rounding value 0)) = some value ↔
      HasFractionDigits 0 value ∧ ¬ (value ≠ 0 ∧ ∃ tens : ℤ, value = 10 * tens) := by
  have integral : HasFractionDigits 0 value →
      |value| = (scaledMagnitude rounding value 0 : ℚ) := fun fits => by
    simpa using (scaled_magnitude_exact rounding fits).symm
  by_cases zero : scaledMagnitude rounding value 0 = 0
  · have text : fixedText rounding value 0 = signText value ++ ['0'] := by
      simp [fixedText, wholeText, zero]
    rw [text]
    constructor
    · intro denotes
      by_cases negative : value < 0
      · rw [signText, if_pos negative] at denotes
        exact absurd denotes (by simp [trimTrailingZeros, popZeros, decimalValue, unsignedValue])
      · rw [signText, if_neg negative] at denotes
        have spelled : decimalValue (trimTrailingZeros ['0']) = some 0 := by decide
        rw [List.nil_append, spelled, Option.some_inj] at denotes
        exact ⟨⟨0, by simp [← denotes]⟩, fun nonzero => nonzero.1 denotes.symm⟩
    · rintro ⟨fits, -⟩
      have magnitude := integral fits
      rw [zero, Nat.cast_zero, abs_eq_zero] at magnitude
      rw [magnitude]
      decide
  · obtain ⟨kept, keptSame, keptLess, spelled⟩ := trim_trailing_zeros_whole rounding value zero
    rw [spelled, Option.some_inj]
    constructor
    · intro denotes
      have magnitude : |value| = (kept : ℚ) := by
        rw [← denotes]
        split_ifs <;> simp
      have fits : HasFractionDigits 0 value :=
        has_fraction_digits_iff_nat.2 ⟨kept, by simpa using magnitude⟩
      have keptAll : kept = scaledMagnitude rounding value 0 := by
        exact_mod_cast magnitude.symm.trans (integral fits)
      refine ⟨fits, ?_⟩
      rintro ⟨-, tens, multiple⟩
      have scaled : ((10 * tens.natAbs : ℕ) : ℚ) = (scaledMagnitude rounding value 0 : ℚ) := by
        rw [← integral fits, multiple, abs_mul]
        push_cast
        rw [Nat.cast_natAbs]
        simp
      have multipleOfTen : 10 * tens.natAbs = scaledMagnitude rounding value 0 := by
        exact_mod_cast scaled
      have shorter := keptLess (by omega)
      omega
    · rintro ⟨fits, notTens⟩
      have magnitude := integral fits
      have nonzero : value ≠ 0 := by
        rintro rfl
        rw [abs_zero] at magnitude
        exact zero (by exact_mod_cast magnitude.symm)
      have lastDigit : scaledMagnitude rounding value 0 % 10 ≠ 0 := by
        intro tens
        apply notTens
        refine ⟨nonzero, ?_⟩
        obtain ⟨count, scaled⟩ := Nat.dvd_of_mod_eq_zero tens
        rcases abs_choice value with same | flipped
        · exact ⟨count, by rw [← same, magnitude, scaled]; push_cast; ring⟩
        · refine ⟨-count, ?_⟩
          have flippedValue : value = -|value| := by rw [flipped, neg_neg]
          rw [flippedValue, magnitude, scaled]
          push_cast
          ring
      rw [keptSame lastDigit, ← magnitude]
      split_ifs with negative
      · rw [abs_of_neg negative, neg_neg]
      · exact abs_of_nonneg (not_lt.1 negative)

/-! ## The formatters -/

/-- The value `v` is spelled by the text. -/
def Denotes (text : String) (value : Decimal) : Prop := decimalValue text.toList = some value

instance (text : String) (value : Decimal) : Decidable (Denotes text value) :=
  inferInstanceAs (Decidable (_ = _))

/-- Whole-number formatting with a value whose own last digits are zeros. -/
def LosesTrailingZeros (step value : Decimal) : Prop :=
  HasFractionDigits 0 step ∧ value ≠ 0 ∧ ∃ tens : ℤ, value = 10 * tens

theorem format_decimal_to_ok {rounding : NearestRounding} {value : Decimal} {decimals : ℤ}
    {text : String} (formatted : formatDecimalTo rounding value decimals = .ok text) :
    text = String.ofList (trimTrailingZeros
      (fixedText rounding value (max 0 (min decimals maxDecimalPlaces)).toNat)) := by
  obtain ⟨_, -, printed⟩ := except_bind_ok.1 formatted
  exact (Except.ok.inj printed).symm

/-- A text of at most 34 places fits the buffer if it has at most 93 whole digits. -/
theorem format_decimal_to_short {rounding : NearestRounding} {value : Decimal} {decimals : ℤ}
    {digits : ℕ} (clamped : (max 0 (min decimals maxDecimalPlaces)).toNat = digits)
    (nonneg : 0 ≤ value) (whole : (wholeText rounding value digits).length ≤ 93) :
    ∃ text, formatDecimalTo rounding value decimals = .ok text := by
  have bound : digits ≤ 34 := by
    simp only [maxDecimalPlaces] at clamped
    omega
  have short : ¬ decimalBufferSize < (fixedText rounding value digits).length := by
    simp only [fixedText, signText, if_neg (not_lt.2 nonneg), List.nil_append, List.length_append,
      decimalBufferSize]
    split_ifs
    · simp only [List.length_nil]
      omega
    · simp only [List.length_cons, fractionText, padded_digits_length]
      omega
  refine ⟨String.ofList (trimTrailingZeros (fixedText rounding value digits)), ?_⟩
  simp only [formatDecimalTo, clamped]
  exact throw_if_bind_ok.2 ⟨short, rfl⟩

theorem format_decimal_to_fits {rounding : NearestRounding} {value : Decimal} {digits : ℕ}
    (bound : digits ≤ 34) (fits : HasFractionDigits digits value) (nonneg : 0 ≤ value)
    (small : value < 10 ^ 93) : ∃ text, formatDecimalTo rounding value digits = .ok text := by
  refine format_decimal_to_short ?_ nonneg
    ((whole_text_length_le_iff rounding fits (by decide)).2 (by rwa [abs_of_nonneg nonneg]))
  simp only [maxDecimalPlaces]
  omega

theorem format_decimal_ok_iff (rounding : NearestRounding) {value : Decimal}
    (fits : HasFractionDigits 34 value) (nonneg : 0 ≤ value) :
    (∃ text, formatDecimal rounding value = .ok text) ↔ value < 10 ^ 93 := by
  constructor
  · rintro ⟨text, formatted⟩
    obtain ⟨short, -⟩ := throw_if_bind_ok.1 formatted
    have length :
        (fixedText rounding value 34).length = (wholeText rounding value 34).length + 35 := by
      simp [fixedText, signText, not_lt.2 nonneg, fractionText]
    have whole : (wholeText rounding value 34).length ≤ 93 := by
      change ¬ 128 < (fixedText rounding value 34).length at short
      omega
    have below := (whole_text_length_le_iff rounding fits (by decide)).1 whole
    rwa [abs_of_nonneg nonneg] at below
  · exact format_decimal_to_fits le_rfl fits nonneg

theorem format_decimal_to_denotes_iff {rounding : NearestRounding} {value : Decimal}
    {digits : ℕ} {text : String} (bound : digits ≤ 34)
    (formatted : formatDecimalTo rounding value digits = .ok text) :
    Denotes text value ↔ HasFractionDigits digits value ∧
      ¬ (digits = 0 ∧ value ≠ 0 ∧ ∃ tens : ℤ, value = 10 * tens) := by
  have clamped : (max 0 (min (digits : ℤ) maxDecimalPlaces)).toNat = digits := by
    simp only [maxDecimalPlaces]
    omega
  rw [Denotes, format_decimal_to_ok formatted, clamped, String.toList_ofList]
  rcases Nat.eq_zero_or_pos digits with rfl | positive
  · rw [decimal_value_trim_whole_iff]
    simp
  · rw [decimal_value_trim_fraction _ _ _ positive, Option.some_inj, printed_value_eq_iff]
    simp [positive.ne']

theorem format_decimal_denotes_iff {rounding : NearestRounding} {value : Decimal} {text : String}
    (formatted : formatDecimal rounding value = .ok text) :
    Denotes text value ↔ HasFractionDigits 34 value := by
  rw [format_decimal_to_denotes_iff (le_refl 34) formatted]
  simp

/-- The step's digits are the fewest that write it exactly. -/
theorem decimals_from_step_spec {rounding : NearestRounding} {step : Decimal} {decimals : ℤ}
    (positive : 0 < step) (fits : HasFractionDigits 34 step)
    (derived : decimalsFromStep rounding step = .ok decimals) :
    ∃ digits : ℕ, decimals = digits ∧ digits ≤ 34 ∧
      ∀ fewer, HasFractionDigits fewer step ↔ digits ≤ fewer := by
  set whole := wholeText rounding step 34 with wholeDef
  set kept := (fractionText rounding step 34).rdropWhile (· == '0') with keptDef
  have keptLength : kept.length ≤ 34 := by
    have shorter := (List.rdropWhile_prefix (· == '0') (fractionText rounding step 34)).length_le
    rwa [fractionText, padded_digits_length] at shorter
  have wholeNoPoint : whole.findIdx? (· == '.') = none := by
    rw [List.findIdx?_eq_none_iff]
    intro char member
    simpa using digits_no_point (whole_text_digits rounding step 34) char member
  have count : decimals = kept.length := by
    rw [decimalsFromStep, if_neg (not_le.2 positive)] at derived
    obtain ⟨text, formatted, derived⟩ := except_bind_ok.1 derived
    have shown : text.toList =
        if kept = [] then if whole = ['-', '0'] then ['0'] else whole
        else whole ++ '.' :: kept := by
      rw [format_decimal_to_ok formatted, String.toList_ofList,
        ← trim_trailing_zeros_fraction _ _ (fraction_text_digits rounding step 34)]
      simp [fixedText, signText, not_lt.2 positive.le, maxDecimalPlaces, wholeDef]
    have signless : whole ≠ ['-', '0'] := by
      intro same
      exact absurd (whole_text_digits rounding step 34 '-' (by rw [← wholeDef, same]; simp))
        (by decide)
    simp only [shown, if_neg signless] at derived
    split_ifs at derived with empty
    · rw [wholeNoPoint] at derived
      rw [← Except.ok.inj derived, empty]
      rfl
    · rw [List.findIdx?_append, wholeNoPoint] at derived
      simp only [List.findIdx?_cons, beq_self_eq_true, if_true, Option.map_some,
        Option.none_or, Nat.zero_add, List.length_append, List.length_cons] at derived
      rw [← Except.ok.inj derived]
      push_cast
      ring
  refine ⟨kept.length, count, keptLength, fun fewer => ?_⟩
  rcases Nat.lt_or_ge 34 fewer with more | within
  · exact iff_of_true (fits.mono more.le) (keptLength.trans more.le)
  · rw [has_fraction_digits_iff_dvd rounding fits within, keptDef, fractionText,
      trimmed_digits_length_le_iff 34 _ fewer within]

theorem decimals_from_step_ok_iff (rounding : NearestRounding) {step : Decimal}
    (positive : 0 < step) (fits : HasFractionDigits 34 step) :
    (∃ decimals, decimalsFromStep rounding step = .ok decimals) ↔ step < 10 ^ 93 := by
  rw [← format_decimal_ok_iff rounding fits positive.le, decimalsFromStep,
    if_neg (not_le.2 positive)]
  constructor
  · rintro ⟨decimals, derived⟩
    obtain ⟨text, formatted, -⟩ := except_bind_ok.1 derived
    exact ⟨text, formatted⟩
  · rintro ⟨text, formatted⟩
    rw [formatted]
    change ∃ decimals, (match text.toList.findIdx? (· == '.') with
      | none => (.ok 0 : Except ServiceFailure ℤ)
      | some dotPos => .ok ((text.toList.length : ℤ) - dotPos - 1)) = .ok decimals
    cases text.toList.findIdx? (· == '.') with
    | none => exact ⟨_, rfl⟩
    | some dotPos => exact ⟨_, rfl⟩

/-- The text fits whenever the step's does and the value is written with the step's digits. -/
theorem format_by_step_ok (rounding : NearestRounding) {value step : Decimal}
    (positive : 0 < step) (fits : HasFractionDigits 34 step) (shown : step < 10 ^ 93)
    (own : FractionFits step value) (nonneg : 0 ≤ value) (small : value < 10 ^ 93) :
    ∃ text, formatByStep rounding value step = .ok text := by
  obtain ⟨decimals, derived⟩ := (decimals_from_step_ok_iff rounding positive fits).2
    shown
  obtain ⟨digits, rfl, bound, minimal⟩ := decimals_from_step_spec positive fits derived
  rw [formatByStep, if_neg (not_le.2 positive), derived]
  exact format_decimal_to_fits bound (own digits ((minimal digits).2 le_rfl)) nonneg small

/-- Whatever the digits, a value of at most 34 whole digits has a text. -/
theorem format_by_step_small {rounding : NearestRounding} {value step : Decimal} {decimals : ℤ}
    (derived : decimalsFromStep rounding step = .ok decimals) (nonneg : 0 ≤ value)
    (small : value < 10 ^ 34) : ∃ text, formatByStep rounding value step = .ok text := by
  have printed : ∀ decimals, ∃ text, formatDecimalTo rounding value decimals = .ok text := by
    intro decimals
    refine format_decimal_to_short rfl nonneg ?_
    have bound : |value| < 10 ^ 34 := by rwa [abs_of_nonneg nonneg]
    exact (whole_text_length_le rounding _ bound).trans (by decide)
  unfold formatByStep
  split_ifs
  · obtain ⟨text, formatted⟩ := printed maxDecimalPlaces
    exact ⟨text, formatted⟩
  · rw [derived]
    exact printed decimals

/-- Formatting by a step is faithful exactly for values that the step's digits
can write and whose text the zero trimmer leaves alone. -/
theorem format_by_step_denotes_iff {rounding : NearestRounding} {value step : Decimal}
    {text : String} (positive : 0 < step) (fits : HasFractionDigits 34 step)
    (formatted : formatByStep rounding value step = .ok text) :
    Denotes text value ↔ FractionFits step value ∧ ¬ LosesTrailingZeros step value := by
  rw [formatByStep, if_neg (not_le.2 positive)] at formatted
  obtain ⟨decimals, derived, formatted⟩ := except_bind_ok.1 formatted
  obtain ⟨digits, rfl, bound, minimal⟩ := decimals_from_step_spec positive fits derived
  rw [format_decimal_to_denotes_iff bound formatted, LosesTrailingZeros, minimal 0, Nat.le_zero]
  refine and_congr_left fun _ => ⟨fun own more stepFits => ?_, fun all => ?_⟩
  · exact own.mono ((minimal more).1 stepFits)
  · exact all digits ((minimal digits).2 le_rfl)

end CryptoDeal.DealService.DecimalConverter

namespace CryptoDeal.DealService

/-- The helper of both services for an optional decimal text. -/
def parseToDecimal (fromChars : String → Option Decimal) (text : Option String) :
    Except ServiceFailure Decimal :=
  match text.filter (· ≠ "") with
  | some text => DecimalConverter.parseDecimal fromChars text
  | none => .ok 0

end CryptoDeal.DealService
