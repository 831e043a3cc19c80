import CryptoDeal.OrderEntry.AcceptedTexts

/-!
# Suggested corrections

The form shows a suggestion with the digits of the increment, and its button
puts that text into the field.
-/

namespace CryptoDeal.OrderEntry.OrderInputValidation

open DealService DecimalConverter SymbolRuleValidator DecimalText Increments

/-! ## The shown text -/

theorem shortest_whole {whole : List Char} (nonempty : whole ≠ []) (digits : Digits whole) :
    ShortestDecimal whole where
  fixed := ⟨whole, nonempty, digits, .inl rfl⟩
  trimmed := by simp [fraction_of_whole digits]

theorem trimmed_whole_shortest (value : ℕ) :
    ShortestDecimal (trimTrailingZeros (Nat.toDigits 10 value)) := by
  by_cases zero : value = 0
  · subst zero
    exact shortest_whole (by decide) (by decide)
  · obtain ⟨kept, -, -, -, popped⟩ := pop_zeros_whole value zero
    have shown := popped []
    rw [List.append_nil, List.append_nil] at shown
    have digits := to_digits_are_digits kept
    have notPoint : (Nat.toDigits 10 kept).getLast? ≠ some '.' := fun point =>
      digits.noPoint (List.mem_of_mem_getLast? point)
    have notSigned : Nat.toDigits 10 kept ≠ ['-', '0'] := by
      intro same
      exact absurd (digits '-' (by simp [same])) (by decide)
    have trimmed : trimTrailingZeros (Nat.toDigits 10 value) = Nat.toDigits 10 kept := by
      simp only [trimTrailingZeros, shown, List.reverse_reverse, if_neg notPoint, if_neg notSigned]
    rw [trimmed]
    exact shortest_whole Nat.toDigits_ne_nil digits

theorem trimmed_text_shortest (rounding : NearestRounding) {value : Decimal} (nonneg : 0 ≤ value)
    (decimals : ℕ) : ShortestDecimal (trimTrailingZeros (fixedText rounding value decimals)) := by
  have signless : signText value = [] := if_neg (not_lt.2 nonneg)
  rcases Nat.eq_zero_or_pos decimals with rfl | positive
  · simpa [fixedText, signless, wholeText] using
      trimmed_whole_shortest (scaledMagnitude rounding value 0)
  · have wholeDigits := whole_text_digits rounding value decimals
    have wholeNonempty := whole_text_ne_nil rounding value decimals
    have fractionDigits := fraction_text_digits rounding value decimals
    have notSigned : wholeText rounding value decimals ≠ ['-', '0'] := by
      intro same
      exact absurd (wholeDigits '-' (by simp [same])) (by decide)
    have text : fixedText rounding value decimals =
        wholeText rounding value decimals ++ '.' :: fractionText rounding value decimals := by
      simp [fixedText, signless, positive.ne']
    rw [text, trim_trailing_zeros_fraction _ _ fractionDigits, if_neg notSigned]
    split_ifs with empty
    · exact shortest_whole wholeNonempty wholeDigits
    · have keptDigits : Digits ((fractionText rounding value decimals).rdropWhile (· == '0')) :=
        fun char member => fractionDigits char ((List.rdropWhile_prefix (· == '0') _).subset member)
      refine ⟨⟨_, wholeNonempty, wholeDigits, .inr ⟨_, empty, keptDigits, rfl⟩⟩, ?_⟩
      rw [fraction_of_pointed wholeDigits, List.getLast?_eq_some_getLast empty]
      intro zero
      exact List.rdropWhile_last_not _ _ empty (by simp [Option.some.inj zero])

theorem format_by_step_shortest {rounding : NearestRounding} {value step : Decimal}
    {shown : String} (nonneg : 0 ≤ value) (formatted : formatByStep rounding value step = .ok shown) :
    ShortestDecimal shown.toList := by
  have printed : ∀ decimals, formatDecimalTo rounding value decimals = .ok shown →
      ShortestDecimal shown.toList := by
    intro decimals returned
    rw [format_decimal_to_ok returned, String.toList_ofList]
    exact trimmed_text_shortest rounding nonneg _
  unfold formatByStep at formatted
  split_ifs at formatted
  · exact printed _ formatted
  · obtain ⟨decimals, -, returned⟩ := except_bind_ok.1 formatted
    exact printed decimals returned

section Suggestions

variable {rounding : NearestRounding} {fromChars : String → Option Decimal} {field : DecimalField}
  {correct : Decimal → Decimal → Decimal} {symbolInfo : SymbolInfo}

theorem parse_shortest_iff (exactly : ReadsExactly fromChars) {shown : String}
    (shortest : ShortestDecimal shown.toList) {value : Decimal} (positive : 0 < value) :
    parsePositiveDecimal fromChars shown = { value := some value } ↔
      Denotes shown value ∧ FitsPrecision 34 value := by
  obtain ⟨fixed, spelled⟩ := shortest.fixed.value
  rw [Denotes, spelled, Option.some_inj]
  by_cases significant : (significantDigits shown.toList).length ≤ 34
  · rw [parse_positive_decimal_eq exactly fixed significant]
    constructor
    · intro read
      split_ifs at read
      · cases read
      · have same : denotedValue shown.toList = value :=
          Option.some.inj (congrArg DecimalInputValidation.value read)
        exact ⟨same, same ▸ significant_fits significant⟩
    · rintro ⟨same, -⟩
      rw [same, if_neg (not_le.2 positive)]
  · have untyped : ¬ TypedNumber shown.toList := fun typed => significant typed.significant
    obtain ⟨invalid, -⟩ := parse_positive_decimal_untyped exactly untyped
    refine iff_of_false (fun read => ?_) ?_
    · rw [read] at invalid
      cases invalid
    · rintro ⟨same, fits⟩
      exact significant ((shortest.significant_iff 34).2 (same ▸ fits))

/-- The check of a text ends with this suggestion. -/
def Suggests (result : Except ServiceFailure DecimalInputValidation) (correction : Decimal) :
    Prop :=
  ∃ validation, result = .ok validation ∧ validation.correction = some correction

/-- The text that the form shows for a suggestion is read as the suggested value, and its own check
finds nothing wrong with the increment. -/
def AcceptedSuggestion (rounding : NearestRounding) (fromChars : String → Option Decimal)
    (validate : String → Except ServiceFailure DecimalInputValidation)
    (increment correction : Decimal) : Prop :=
  ∃ shown, formatByStep rounding correction increment = .ok shown ∧
    parsePositiveDecimal fromChars shown = { value := some correction } ∧
    ∀ again, validate shown = .ok again →
      again.value = some correction ∧ again.correction = none

theorem suggestion_accepted_iff (exactly : ReadsExactly fromChars)
    (lawful : field.Lawful rounding correct) (symbolInfo : SymbolInfo) {correction : Decimal}
    (positive : 0 < field.increment symbolInfo)
    (fits : HasFractionDigits 34 (field.increment symbolInfo))
    (shownIncrement : field.increment symbolInfo < 10 ^ 93)
    (multiple : IsMultiple (field.increment symbolInfo) correction)
    (correctionPositive : 0 < correction) (small : correction < 10 ^ 93) :
    AcceptedSuggestion rounding fromChars
        (fun text => validateField rounding fromChars field text symbolInfo)
        (field.increment symbolInfo) correction ↔
      ¬ LosesTrailingZeros (field.increment symbolInfo) correction ∧
        FitsPrecision 34 correction := by
  have own := fraction_fits_of_multiple multiple
  constructor
  · rintro ⟨shown, formatted, read, -⟩
    obtain ⟨denotes, precision⟩ := (parse_shortest_iff exactly
      (format_by_step_shortest correctionPositive.le formatted) correctionPositive).1 read
    exact ⟨((format_by_step_denotes_iff positive fits formatted).1 denotes).2, precision⟩
  · rintro ⟨kept, precision⟩
    obtain ⟨shown, formatted⟩ := format_by_step_ok rounding positive fits
      shownIncrement own correctionPositive.le small
    have denotes := (format_by_step_denotes_iff positive fits formatted).2 ⟨own, kept⟩
    have shortest := format_by_step_shortest correctionPositive.le formatted
    have same : denotedValue shown.toList = correction :=
      Option.some.inj (shortest.fixed.value.2.symm.trans denotes)
    have typed : TypedNumber shown.toList :=
      { fixed := shortest.fixed.value.1
        significant := (shortest.significant_iff 34).2 (same ▸ precision)
        positive := same ▸ correctionPositive }
    refine ⟨shown, formatted,
      (parse_shortest_iff exactly shortest correctionPositive).2 ⟨denotes, precision⟩,
      fun again validated => ?_⟩
    change validateField rounding fromChars field shown symbolInfo = .ok again at validated
    rw [← same] at multiple
    obtain ⟨places, lowest⟩ := exists_lowest_places positive fits shownIncrement
    obtain ⟨accepted, refused⟩ := validate_field_aligned rounding exactly lawful typed
      positive fits lowest multiple
    by_cases acceptable : AcceptableText shown.toList (field.increment symbolInfo) places
        (field.exchangePrecision symbolInfo) (field.minimum symbolInfo) (field.maximum symbolInfo)
    · rw [accepted acceptable] at validated
      cases validated
      exact ⟨congrArg some same, rfl⟩
    · obtain ⟨-, uncorrected, value⟩ := refused acceptable again validated
      exact ⟨value.trans (congrArg some same), uncorrected⟩

/-- A suggestion stands for a typed number off an increment that the form can show. -/
theorem suggests_iff (exactly : ReadsExactly fromChars) (exact : rounding.arithmetic.IsExact)
    (lawful : field.Lawful rounding correct) (symbolInfo : SymbolInfo) {text : String}
    {correction : Decimal}
    (positive : 0 < field.increment symbolInfo)
    (fits : HasFractionDigits 34 (field.increment symbolInfo)) :
    Suggests (validateField rounding fromChars field text symbolInfo) correction ↔
      TypedNumber text.toList ∧ ¬ IsMultiple (field.increment symbolInfo) (denotedValue text.toList) ∧
        field.increment symbolInfo < 10 ^ 93 ∧
        correction = correct (denotedValue text.toList) (field.increment symbolInfo) := by
  by_cases typed : TypedNumber text.toList
  · by_cases multiple : IsMultiple (field.increment symbolInfo) (denotedValue text.toList)
    · obtain ⟨places, lowest⟩ :=
        exists_lowest_places positive fits (typed_multiple_shown typed positive multiple)
      obtain ⟨accepted, refused⟩ := validate_field_aligned rounding exactly lawful
        typed positive fits lowest multiple
      refine iff_of_false ?_ fun offered => offered.2.1 multiple
      rintro ⟨validation, returned, suggested⟩
      by_cases acceptable : AcceptableText text.toList (field.increment symbolInfo) places
          (field.exchangePrecision symbolInfo) (field.minimum symbolInfo)
          (field.maximum symbolInfo)
      · rw [accepted acceptable] at returned
        cases returned
        cases suggested
      · rw [(refused acceptable validation returned).2.1] at suggested
        cases suggested
    · unfold Suggests
      have odd := fun valid => multiple ((increment_valid_iff exact positive).1 valid)
      rw [validate_field_mismatch exactly lawful typed positive odd]
      constructor
      · rintro ⟨validation, returned, suggested⟩
        obtain ⟨limit, formatted, shown⟩ := except_bind_ok.1 returned
        cases shown
        rw [formatLimit, formatByStep, if_neg (not_le.2 positive)] at formatted
        obtain ⟨decimals, derived, -⟩ := except_bind_ok.1 formatted
        exact ⟨typed, multiple,
          (decimals_from_step_ok_iff rounding positive fits).1 ⟨decimals, derived⟩,
          (Option.some.inj suggested).symm⟩
      · rintro ⟨-, -, shown, rfl⟩
        obtain ⟨limit, formatted⟩ := format_by_step_ok rounding positive fits shown
          (fun _ own => own) positive.le shown
        exact ⟨_, except_bind_ok.2 ⟨limit, formatted, rfl⟩, rfl⟩
  · obtain ⟨validation, returned, -, uncorrected⟩ :=
      validate_field_untyped rounding field symbolInfo exactly typed
    refine iff_of_false ?_ fun offered => typed offered.1
    rintro ⟨other, same, suggested⟩
    rw [returned] at same
    cases same
    rw [uncorrected] at suggested
    cases suggested

def LeastMultiple (increment value multiple : Decimal) : Prop :=
  IsLeast { multiple | IsMultiple increment multiple ∧ value ≤ multiple } multiple

theorem ceil_to_step_least (exact : rounding.arithmetic.IsExact) {step : Decimal}
    (positive : 0 < step) (value : Decimal) :
    LeastMultiple step value (ceilToStep rounding value step) := by
  rw [ceil_to_step_exact exact positive]
  exact least_multiple positive _

theorem nearest_increment_nearest (exact : rounding.arithmetic.IsExact) {tick value : Decimal}
    (positive : 0 < tick) (valuePositive : 0 < value) :
    NearestMultiple tick value (getNearestIncrement rounding value tick) := by
  simp only [getNearestIncrement, ceil_to_step_exact exact positive,
    floor_to_step_exact exact positive, exact _]
  exact nearest_of_neighbours valuePositive (greatest_multiple positive value)
    (least_multiple positive value)

/-- No suggestion outgrows both the increment and the values that can be typed. -/
theorem least_multiple_small {increment least : Decimal} {text : List Char}
    (typed : TypedNumber text) (positive : 0 < increment) (shown : increment < 10 ^ 93)
    (target : LeastMultiple increment (denotedValue text) least) : least < 10 ^ 93 := by
  have bound : denotedValue text < 10 ^ 34 := denoted_value_lt typed.significant
  rcases le_total (denotedValue text) increment with small | large
  · have single : least ≤ increment := target.2 ⟨⟨1, by simp⟩, small⟩
    exact single.trans_lt shown
  · have next : least ≤ ⌈denotedValue text / increment⌉ * increment :=
      target.2 (least_multiple positive _).1
    have below : (⌈denotedValue text / increment⌉ : ℚ) * increment <
        (denotedValue text / increment + 1) * increment :=
      mul_lt_mul_of_pos_right (Int.ceil_lt_add_one _) positive
    rw [add_mul, div_mul_cancel₀ _ positive.ne', one_mul] at below
    calc
      least ≤ ⌈denotedValue text / increment⌉ * increment := next
      _ < denotedValue text + increment := below
      _ < 10 ^ 34 + 10 ^ 34 := add_lt_add bound (large.trans_lt bound)
      _ < 10 ^ 93 := by norm_num

/-- One field's suggestions, whose goal is described by `Target`. -/
theorem field_suggestion_fixes_iff (exactly : ReadsExactly fromChars)
    (exact : rounding.arithmetic.IsExact) (lawful : field.Lawful rounding correct)
    {Target : Decimal → Decimal → Decimal → Prop}
    (spec : ∀ {increment value}, 0 < increment → 0 < value →
      Target increment value (correct value increment))
    (unique : ∀ {increment value first second}, Target increment value first →
      Target increment value second → first = second)
    (multiple : ∀ {increment value target}, Target increment value target →
      IsMultiple increment target)
    (between : ∀ {increment value target least}, 0 < value → Target increment value target →
      LeastMultiple increment value least → 0 < target ∧ target ≤ least)
    {text : String} {correction : Decimal} (positive : 0 < field.increment symbolInfo)
    (fits : HasFractionDigits 34 (field.increment symbolInfo))
    (offered : Suggests (validateField rounding fromChars field text symbolInfo) correction) :
    (Target (field.increment symbolInfo) (denotedValue text.toList) correction ∧
        AcceptedSuggestion rounding fromChars
          (fun text => validateField rounding fromChars field text symbolInfo)
          (field.increment symbolInfo) correction) ↔
      ∀ target, Target (field.increment symbolInfo) (denotedValue text.toList) target →
        ¬ LosesTrailingZeros (field.increment symbolInfo) target ∧ FitsPrecision 34 target := by
  obtain ⟨typed, -, shown, rfl⟩ :=
    (suggests_iff exactly exact lawful symbolInfo positive fits).1 offered
  have reached := spec positive typed.positive
  have least := least_multiple positive (denotedValue text.toList)
  obtain ⟨targetPositive, bounded⟩ := between typed.positive reached least
  have small := bounded.trans_lt (least_multiple_small typed positive shown least)
  rw [suggestion_accepted_iff exactly lawful symbolInfo positive fits shown (multiple reached)
    targetPositive small]
  constructor
  · rintro ⟨-, survives⟩ target goal
    rwa [unique goal reached]
  · exact fun all => ⟨reached, all _ reached⟩

/-- Accepting a suggestion fixes the increment exactly if the goal of the suggestion survives being
written with the digits of the increment and read back. -/
theorem suggestion_fixes_iff (exactly : ReadsExactly fromChars) (rounding : NearestRounding)
    (exact : rounding.arithmetic.IsExact) (text : String) (symbolInfo : SymbolInfo)
    (correction : Decimal) :
    (0 < symbolInfo.stepSize → HasFractionDigits 34 symbolInfo.stepSize →
      Suggests (validateQuantity rounding fromChars text symbolInfo) correction →
        ((LeastMultiple symbolInfo.stepSize (denotedValue text.toList) correction ∧
            AcceptedSuggestion rounding fromChars
              (fun text => validateQuantity rounding fromChars text symbolInfo)
              symbolInfo.stepSize correction) ↔
          ∀ least, LeastMultiple symbolInfo.stepSize (denotedValue text.toList) least →
            ¬ LosesTrailingZeros symbolInfo.stepSize least ∧ FitsPrecision 34 least)) ∧
    (0 < symbolInfo.tickSize → HasFractionDigits 34 symbolInfo.tickSize →
      Suggests (validatePrice rounding fromChars text symbolInfo) correction →
        ((NearestMultiple symbolInfo.tickSize (denotedValue text.toList) correction ∧
            AcceptedSuggestion rounding fromChars
              (fun text => validatePrice rounding fromChars text symbolInfo)
              symbolInfo.tickSize correction) ↔
          ∀ nearest, NearestMultiple symbolInfo.tickSize (denotedValue text.toList) nearest →
            ¬ LosesTrailingZeros symbolInfo.tickSize nearest ∧ FitsPrecision 34 nearest)) := by
  constructor
  · exact fun positive fits offered =>
      field_suggestion_fixes_iff exactly exact quantity_field_lawful
        (fun step _ => ceil_to_step_least exact step _) IsLeast.unique (fun target => target.1.1)
        (fun value target least => ⟨value.trans_le target.1.2, (target.unique least).le⟩)
        positive fits offered
  · exact fun positive fits offered =>
      field_suggestion_fixes_iff exactly exact price_field_lawful
        (nearest_increment_nearest exact) NearestMultiple.unique NearestMultiple.multiple
        (fun value target least => ⟨target.positive, target.le_least value least⟩)
        positive fits offered

end Suggestions

section Example

theorem tenths_fit : HasFractionDigits 34 (1 / 10 : Decimal) := ⟨10 ^ 33, by norm_num⟩

theorem quarter_odd : ¬ IsMultiple (1 / 10 : Decimal) (1 / 4) := by
  rintro ⟨units, same⟩
  have halves : (units : ℚ) * 2 = 5 := by linarith
  have whole : units * 2 = 5 := by exact_mod_cast halves
  omega

theorem tenths_survive {target : Decimal} (three : 3 / 10 = target) :
    ¬ LosesTrailingZeros (1 / 10) target ∧ FitsPrecision 34 target := by
  refine ⟨fun loses => ?_, 3, 1, by norm_num, by rw [← three]; norm_num⟩
  have one := tenths_need_one_place.2 loses.1
  omega

/-- 0.25 in tenths becomes 0.3, as an amount and as a price. -/
theorem quarter_corrected :
    (LeastMultiple (1 / 10) (denotedValue "0.25".toList) (3 / 10) ∧
      AcceptedSuggestion roundHalfUp readDecimal
        (fun text => validateQuantity roundHalfUp readDecimal text { stepSize := 1 / 10 })
        (1 / 10) (3 / 10)) ∧
    (NearestMultiple (1 / 10) (denotedValue "0.25".toList) (3 / 10) ∧
      AcceptedSuggestion roundHalfUp readDecimal
        (fun text => validatePrice roundHalfUp readDecimal text { tickSize := 1 / 10 })
        (1 / 10) (3 / 10)) := by
  obtain ⟨typed, value⟩ := quarter_typed
  have positive : (0 : Decimal) < 1 / 10 := by norm_num
  have odd : ¬ IsMultiple (1 / 10) (denotedValue "0.25".toList) := by
    rw [value]
    exact quarter_odd
  have least : 3 / 10 = ceilToStep roundHalfUp (denotedValue "0.25".toList) (1 / 10) := by
    rw [value]
    norm_num [ceil_to_step_exact half_up_exact]
  have nearest : 3 / 10 = getNearestIncrement roundHalfUp (denotedValue "0.25".toList) (1 / 10) := by
    rw [value]
    norm_num [getNearestIncrement, ceil_to_step_exact half_up_exact,
      floor_to_step_exact half_up_exact, half_up_exact _]
  constructor
  · have offered : Suggests
        (validateQuantity roundHalfUp readDecimal "0.25" { stepSize := 1 / 10 }) (3 / 10) :=
      (suggests_iff read_decimal_exactly half_up_exact quantity_field_lawful
        { stepSize := 1 / 10 } positive tenths_fit).2 ⟨typed, odd, by norm_num [quantityField], least⟩
    refine ((suggestion_fixes_iff read_decimal_exactly roundHalfUp half_up_exact "0.25"
      { stepSize := 1 / 10 } (3 / 10)).1 positive tenths_fit offered).2 fun target goal => ?_
    exact tenths_survive (least.trans ((ceil_to_step_least half_up_exact positive _).unique goal))
  · have offered : Suggests
        (validatePrice roundHalfUp readDecimal "0.25" { tickSize := 1 / 10 }) (3 / 10) :=
      (suggests_iff read_decimal_exactly half_up_exact price_field_lawful
        { tickSize := 1 / 10 } positive tenths_fit).2 ⟨typed, odd, by norm_num [priceField], nearest⟩
    refine ((suggestion_fixes_iff read_decimal_exactly roundHalfUp half_up_exact "0.25"
      { tickSize := 1 / 10 } (3 / 10)).2 positive tenths_fit offered).2 fun target goal => ?_
    exact tenths_survive
      (nearest.trans ((nearest_increment_nearest half_up_exact positive typed.positive).unique goal))

/-- With a step of 1, the suggestion for 9.5 is shown as 1. -/
theorem ten_shown_as_one :
    Suggests (validateQuantity roundHalfUp readDecimal "9.5" { stepSize := 1 }) 10 ∧
      ¬ AcceptedSuggestion roundHalfUp readDecimal
        (fun text => validateQuantity roundHalfUp readDecimal text { stepSize := 1 }) 1 10 := by
  have value : denotedValue "9.5".toList = 19 / 2 := by
    change denotedValue (['9'] ++ '.' :: ['5']) = 19 / 2
    have whole : digitsValue ['9'] = 9 := by decide
    have fraction : digitsValue ['5'] = 5 := by decide
    rw [denoted_value_pointed (by decide) (by decide), whole, fraction]
    norm_num
  have typed : TypedNumber "9.5".toList := ⟨by decide, by decide, by rw [value]; norm_num⟩
  have odd : ¬ IsMultiple (1 : Decimal) (denotedValue "9.5".toList) := by
    rw [value]
    rintro ⟨units, same⟩
    have doubled : (units : ℚ) * 2 = 19 := by linarith
    have whole : units * 2 = 19 := by exact_mod_cast doubled
    omega
  have least : 10 = ceilToStep roundHalfUp (denotedValue "9.5".toList) 1 := by
    rw [value]
    norm_num [ceil_to_step_exact half_up_exact]
  have positive : (0 : Decimal) < 1 := by norm_num
  have fits : ∀ digits, HasFractionDigits digits (1 : Decimal) := fun digits => by
    simpa using has_fraction_digits_of_int digits 1
  have offered : Suggests (validateQuantity roundHalfUp readDecimal "9.5" { stepSize := 1 }) 10 :=
    (suggests_iff read_decimal_exactly half_up_exact quantity_field_lawful { stepSize := 1 }
      positive (fits 34)).2
      ⟨typed, odd, by norm_num [quantityField], least⟩
  refine ⟨offered, fun accepted => ?_⟩
  have survives := (suggestion_accepted_iff read_decimal_exactly quantity_field_lawful
    { stepSize := 1 } positive (fits 34) (by norm_num [quantityField])
    ⟨10, by norm_num [quantityField]⟩ (by norm_num)
    (by norm_num)).1 accepted
  exact survives.1 ⟨fits 0, by norm_num, 1, by norm_num⟩

end Example

end CryptoDeal.OrderEntry.OrderInputValidation
