import CryptoDeal.Library.Increments
import CryptoDeal.OrderEntry.OrderInputValidation

/-!
# The texts that the order form accepts

A typed amount or price is accepted exactly if it is a well-formed positive
number that keeps the symbol's increment, places and bounds.
-/

namespace CryptoDeal.OrderEntry

open DealService DecimalConverter SymbolRuleValidator DecimalText Increments

namespace OrderInputValidation

/-- The parser is exact on the decimal texts of values that a `Decimal` can hold. -/
def ReadsExactly (fromChars : String → Option Decimal) : Prop :=
  ∀ text value, decimalValue text = some value → FitsPrecision 34 value →
    fromChars (String.ofList text) = some value

/-- A number that the form can read. -/
structure TypedNumber (text : List Char) : Prop where
  fixed : FixedNotation text
  significant : (significantDigits text).length ≤ 34
  positive : 0 < denotedValue text

/-- The two bounds of a field; a bound that is not positive is absent. -/
structure WithinBounds (minimum maximum value : Decimal) : Prop where
  minimum : 0 < minimum → minimum ≤ value
  maximum : 0 < maximum → value ≤ maximum

/-- A typed number that keeps a field's increment, places and bounds. -/
structure AcceptableText (text : List Char) (increment : Decimal) (places : ℕ)
    (exchangePrecision : ℤ) (minimum maximum : Decimal) : Prop extends TypedNumber text where
  multiple : IsMultiple increment (denotedValue text)
  fraction : ((fractionOf text).length : ℤ) ≤
    if 0 < exchangePrecision then min (places : ℤ) exchangePrecision else places
  bounds : WithinBounds minimum maximum (denotedValue text)

/-! ## Parsing -/

section Parsing

variable {fromChars : String → Option Decimal} {text : String}

/-- A text with the right characters and size is read exactly, and only its sign is left to check. -/
theorem parse_positive_decimal_eq (exactly : ReadsExactly fromChars)
    (fixed : FixedNotation text.toList)
    (significant : (significantDigits text.toList).length ≤ 34) :
    parsePositiveDecimal fromChars text =
      if denotedValue text.toList ≤ 0 then { error := "Value must be greater than 0." }
      else { value := some (denotedValue text.toList) } := by
  have nonempty : ¬ text.toList.isEmpty := by
    obtain ⟨char, member, -⟩ := fixed.digit
    simpa using List.ne_nil_of_mem member
  have syntactic : hasFixedDecimalSyntax text.toList := (has_fixed_decimal_syntax_iff _).2 fixed
  have short : ¬ maxSignificantDigits < getSignificantDigitCount text.toList := by
    rw [significant_digit_count_eq, maxSignificantDigits]
    omega
  have read : parseDecimal fromChars (String.ofList (normalizeDecimalText text.toList)) =
      .ok (denotedValue text.toList) := by
    rw [parseDecimal, exactly _ _ (normalized_value fixed) (significant_fits significant)]
  simp only [parsePositiveDecimal, if_neg nonempty, syntactic, not_true_eq_false, if_false,
    if_neg short, read]

theorem parse_positive_decimal_typed (exactly : ReadsExactly fromChars)
    (typed : TypedNumber text.toList) :
    parsePositiveDecimal fromChars text = { value := some (denotedValue text.toList) } := by
  rw [parse_positive_decimal_eq exactly typed.fixed typed.significant,
    if_neg (not_le.2 typed.positive)]

theorem parse_positive_decimal_untyped (exactly : ReadsExactly fromChars)
    (untyped : ¬ TypedNumber text.toList) :
    (parsePositiveDecimal fromChars text).isValid = false ∧
      (parsePositiveDecimal fromChars text).correction = none := by
  by_cases fixed : FixedNotation text.toList
  · by_cases significant : (significantDigits text.toList).length ≤ 34
    · have notPositive : denotedValue text.toList ≤ 0 :=
        not_lt.1 fun positive => untyped ⟨fixed, significant, positive⟩
      rw [parse_positive_decimal_eq exactly fixed significant, if_pos notPositive]
      exact ⟨rfl, rfl⟩
    · have long : maxSignificantDigits < getSignificantDigitCount text.toList := by
        rw [significant_digit_count_eq, maxSignificantDigits]
        omega
      unfold parsePositiveDecimal
      split_ifs
      all_goals exact ⟨rfl, rfl⟩
  · have refused : ¬ hasFixedDecimalSyntax text.toList :=
      fun accepted => fixed ((has_fixed_decimal_syntax_iff _).1 accepted)
    unfold parsePositiveDecimal
    split_ifs
    all_goals exact ⟨rfl, rfl⟩

theorem parse_positive_decimal_valid
    (valid : (parsePositiveDecimal fromChars text).isValid) :
    ∃ value, parsePositiveDecimal fromChars text = { value := some value } ∧ 0 < value := by
  unfold parsePositiveDecimal at valid ⊢
  split_ifs at valid ⊢
  · cases valid
  · cases valid
  · cases read : parseDecimal fromChars (String.ofList (normalizeDecimalText text.toList)) with
    | error failure =>
        rw [read] at valid
        cases valid
    | ok value =>
        simp only [read] at valid ⊢
        split_ifs at valid ⊢ with notPositive
        · cases valid
        · exact ⟨value, rfl, not_le.1 notPositive⟩
  · cases valid

theorem parse_positive_decimal_lt (exactly : ReadsExactly fromChars) {value : Decimal}
    (parsed : parsePositiveDecimal fromChars text = { value := some value }) : value < 10 ^ 34 := by
  have typed : TypedNumber text.toList := by
    by_contra untyped
    obtain ⟨invalid, -⟩ := parse_positive_decimal_untyped exactly untyped
    rw [parsed] at invalid
    cases invalid
  rw [parse_positive_decimal_typed exactly typed] at parsed
  have same : denotedValue text.toList = value :=
    Option.some.inj (congrArg DecimalInputValidation.value parsed)
  exact same ▸ denoted_value_lt typed.significant

end Parsing

/-! ## The fields -/

/-- A field's rules are an increment, with a suggestion for other values, and two bounds. -/
structure DecimalField.Lawful (field : DecimalField) (rounding : NearestRounding)
    (correct : Decimal → Decimal → Decimal) : Prop where
  rules : ∀ value symbolInfo, 0 < field.increment symbolInfo →
    field.validate rounding value symbolInfo =
      if ¬ isIncrementValid rounding value (field.increment symbolInfo) then
        { violation := field.mismatch
          correction := some (correct value (field.increment symbolInfo)) }
      else if 0 < field.minimum symbolInfo ∧ value < field.minimum symbolInfo then
        { violation := field.belowMinimum }
      else if 0 < field.maximum symbolInfo ∧ field.maximum symbolInfo < value then
        { violation := field.aboveMaximum }
      else {}
  distinct : [.none, field.unavailable, field.mismatch, field.belowMinimum,
    field.aboveMaximum].Nodup
  explained : field.unavailableText ≠ "" ∧ field.otherText ≠ ""

section Fields

variable {rounding : NearestRounding}

theorem quantity_field_lawful : quantityField.Lawful rounding (ceilToStep rounding) where
  rules value symbolInfo positive := by
    change 0 < symbolInfo.stepSize at positive
    exact if_neg (not_le.2 positive)
  distinct := by decide
  explained := by decide

theorem price_field_lawful : priceField.Lawful rounding (getNearestIncrement rounding) where
  rules value symbolInfo positive := by
    change 0 < symbolInfo.tickSize at positive
    exact if_neg (not_le.2 positive)
  distinct := by decide
  explained := by decide

variable {field : DecimalField} {correct : Decimal → Decimal → Decimal} {value : Decimal}
  {symbolInfo : SymbolInfo}

theorem DecimalField.Lawful.mismatched (lawful : field.Lawful rounding correct)
    (positive : 0 < field.increment symbolInfo)
    (odd : ¬ isIncrementValid rounding value (field.increment symbolInfo)) :
    field.validate rounding value symbolInfo =
      { violation := field.mismatch
        correction := some (correct value (field.increment symbolInfo)) } := by
  rw [lawful.rules value symbolInfo positive, if_pos odd]

theorem DecimalField.Lawful.aligned (lawful : field.Lawful rounding correct)
    (positive : 0 < field.increment symbolInfo)
    (valid : isIncrementValid rounding value (field.increment symbolInfo)) :
    ∃ violation, field.validate rounding value symbolInfo = { violation } ∧
      violation ≠ field.unavailable ∧ violation ≠ field.mismatch ∧
        (violation = .none ↔
          WithinBounds (field.minimum symbolInfo) (field.maximum symbolInfo) value) := by
  have distinct := lawful.distinct
  simp only [List.nodup_cons, List.mem_cons, List.not_mem_nil, or_false, not_or] at distinct
  obtain ⟨⟨noneUnavailable, noneMismatch, noneBelow, noneAbove⟩,
    ⟨-, unavailableBelow, unavailableAbove⟩, ⟨mismatchBelow, mismatchAbove⟩, -⟩ := distinct
  rw [lawful.rules value symbolInfo positive, if_neg (not_not.2 valid)]
  by_cases low : 0 < field.minimum symbolInfo ∧ value < field.minimum symbolInfo
  · rw [if_pos low]
    refine ⟨_, rfl, Ne.symm unavailableBelow, Ne.symm mismatchBelow,
      iff_of_false (Ne.symm noneBelow) fun bounds => ?_⟩
    exact not_lt.2 (bounds.minimum low.1) low.2
  · rw [if_neg low]
    by_cases high : 0 < field.maximum symbolInfo ∧ field.maximum symbolInfo < value
    · rw [if_pos high]
      refine ⟨_, rfl, Ne.symm unavailableAbove, Ne.symm mismatchAbove,
        iff_of_false (Ne.symm noneAbove) fun bounds => ?_⟩
      exact not_lt.2 (bounds.maximum high.1) high.2
    · rw [if_neg high]
      refine ⟨_, rfl, noneUnavailable, noneMismatch,
        iff_of_true rfl ⟨fun ruled => ?_, fun ruled => ?_⟩⟩
      · exact not_lt.1 fun less => low ⟨ruled, less⟩
      · exact not_lt.1 fun more => high ⟨ruled, more⟩

variable {fromChars : String → Option Decimal} {text : String}
  {validation : DecimalInputValidation}

/-- Whatever rule is violated, the field gets an error beside the rule's own suggestion. -/
theorem apply_rule_validation_refuses (lawful : field.Lawful rounding correct)
    {result : DecimalInputValidation} {ruleValidation : SymbolRuleValidation}
    (violated : ruleValidation.violation ≠ .none)
    (applied : applyRuleValidation rounding field validation ruleValidation symbolInfo =
      .ok result) :
    result.isValid = false ∧ result.correction = ruleValidation.correction ∧
      result.value = validation.value := by
  have refused : ∀ error, error ≠ "" →
      ({ validation with correction := ruleValidation.correction, error } :
        DecimalInputValidation).isValid = false := by
    intro error explained
    simp [DecimalInputValidation.isValid, explained]
  have spelled : ∀ front limit : String, front ++ limit ++ "." ≠ "" := by simp
  unfold applyRuleValidation at applied
  simp only [if_neg violated] at applied
  split_ifs at applied
  case pos =>
    cases applied
    exact ⟨refused _ lawful.explained.1, rfl, rfl⟩
  case neg =>
    cases applied
    exact ⟨refused _ lawful.explained.2, rfl, rfl⟩
  all_goals
    obtain ⟨limit, -, shown⟩ := except_bind_ok.1 applied
    cases shown
    exact ⟨refused _ (spelled _ limit), rfl, rfl⟩

theorem validate_field_valid (lawful : field.Lawful rounding correct)
    (returned : validateField rounding fromChars field text symbolInfo = .ok validation)
    (valid : validation.isValid) :
    ∃ value, validation = { value := some value } ∧
      parsePositiveDecimal fromChars text = { value := some value } ∧ 0 < value ∧
      (field.validate rounding value symbolInfo).isValid ∧
      ∃ decimals, decimalsFromStep rounding (field.increment symbolInfo) = .ok decimals := by
  have distinct := lawful.distinct
  simp only [List.nodup_cons, List.mem_cons, not_or] at distinct
  unfold validateField at returned
  by_cases parsed : (parsePositiveDecimal fromChars text).isValid
  · obtain ⟨value, same, positive⟩ := parse_positive_decimal_valid parsed
    rw [if_neg (not_not.2 parsed)] at returned
    simp only [same, Option.getD_some] at returned
    by_cases increment : (field.validate rounding value symbolInfo).violation = field.unavailable ∨
        (field.validate rounding value symbolInfo).violation = field.mismatch
    · rw [if_pos increment] at returned
      have violated : (field.validate rounding value symbolInfo).violation ≠ .none := by
        rcases increment with unavailable | mismatch
        · rw [unavailable]
          exact Ne.symm distinct.1.1
        · rw [mismatch]
          exact Ne.symm distinct.1.2.1
      rw [(apply_rule_validation_refuses lawful violated returned).1] at valid
      cases valid
    · rw [if_neg increment] at returned
      obtain ⟨allowed, places, rest⟩ := except_bind_ok.1 returned
      obtain ⟨decimals, derived, -⟩ := except_bind_ok.1 places
      split_ifs at rest with long kept
      · cases rest
        simp [DecimalInputValidation.isValid] at valid
      · cases rest
        exact ⟨value, rfl, same, positive, kept, decimals, derived⟩
      · have violated : (field.validate rounding value symbolInfo).violation ≠ .none := by
          simpa [SymbolRuleValidation.isValid] using kept
        rw [(apply_rule_validation_refuses lawful violated rest).1] at valid
        cases valid
  · rw [if_pos parsed] at returned
    cases returned
    exact absurd valid parsed

theorem validate_field_untyped (rounding : NearestRounding) (field : DecimalField)
    (symbolInfo : SymbolInfo) (exactly : ReadsExactly fromChars)
    (untyped : ¬ TypedNumber text.toList) :
    ∃ validation, validateField rounding fromChars field text symbolInfo = .ok validation ∧
      validation.isValid = false ∧ validation.correction = none := by
  obtain ⟨invalid, uncorrected⟩ := parse_positive_decimal_untyped exactly untyped
  refine ⟨parsePositiveDecimal fromChars text, ?_, invalid, uncorrected⟩
  simp [validateField, invalid, pure, Except.pure]

theorem validate_field_typed (exactly : ReadsExactly fromChars)
    (typed : TypedNumber text.toList) :
    validateField rounding fromChars field text symbolInfo = (do
      let ruleValidation := field.validate rounding (denotedValue text.toList) symbolInfo
      if ruleValidation.violation = field.unavailable ∨
          ruleValidation.violation = field.mismatch then
        return (← applyRuleValidation rounding field
          { value := some (denotedValue text.toList) } ruleValidation symbolInfo)
      let allowedDecimalPlaces ←
        getAllowedDecimalPlaces rounding (field.increment symbolInfo)
          (field.exchangePrecision symbolInfo)
      if allowedDecimalPlaces < (fractionOf text.toList).length then
        return {
          value := some (denotedValue text.toList)
          error := field.placesText ++ toString allowedDecimalPlaces ++ " decimal places." }
      if ¬ ruleValidation.isValid then
        return (← applyRuleValidation rounding field
          { value := some (denotedValue text.toList) } ruleValidation symbolInfo)
      return { value := some (denotedValue text.toList) }) := by
  have parsed := parse_positive_decimal_typed exactly typed
  have valid : DecimalInputValidation.isValid { value := some (denotedValue text.toList) } = true :=
    rfl
  simp only [validateField, parsed, valid, fractional_digit_count_eq, not_true_eq_false, if_false,
    Option.getD_some]

theorem validate_field_mismatch (exactly : ReadsExactly fromChars)
    (lawful : field.Lawful rounding correct) (typed : TypedNumber text.toList)
    (positive : 0 < field.increment symbolInfo)
    (odd : ¬ isIncrementValid rounding (denotedValue text.toList)
      (field.increment symbolInfo)) :
    validateField rounding fromChars field text symbolInfo = (do
      let limit ← formatLimit rounding (field.increment symbolInfo) (field.increment symbolInfo)
      return {
        value := some (denotedValue text.toList)
        correction := some (correct (denotedValue text.toList) (field.increment symbolInfo))
        error := field.mismatchText ++ limit ++ "." }) := by
  have distinct : field.mismatch ≠ field.unavailable := by
    have all := lawful.distinct
    simp only [List.nodup_cons, List.mem_cons, not_or] at all
    exact Ne.symm all.2.1.1
  rw [validate_field_typed exactly typed, lawful.mismatched positive odd]
  simp only [applyRuleValidation, or_true, if_true, if_neg distinct]

theorem exists_lowest_places {increment : Decimal} (positive : 0 < increment)
    (fits : HasFractionDigits 34 increment) (shown : increment < 10 ^ 93) :
    ∃ places, IsLeast { digits | HasFractionDigits digits increment } places := by
  obtain ⟨decimals, derived⟩ :=
    (decimals_from_step_ok_iff roundHalfUp positive fits).2 shown
  obtain ⟨digits, -, -, minimal⟩ := decimals_from_step_spec positive fits derived
  exact ⟨digits, (minimal digits).2 le_rfl, fun fewer own => (minimal fewer).1 own⟩

theorem allowed_decimal_places_eq {increment : Decimal} (positive : 0 < increment)
    (fits : HasFractionDigits 34 increment) (shown : increment < 10 ^ 93) {places : ℕ}
    (lowest : IsLeast { digits | HasFractionDigits digits increment } places)
    (exchangePrecision : ℤ) :
    getAllowedDecimalPlaces rounding increment exchangePrecision =
      .ok (if 0 < exchangePrecision then min (places : ℤ) exchangePrecision else places) := by
  obtain ⟨decimals, derived⟩ := (decimals_from_step_ok_iff rounding positive fits).2
    shown
  obtain ⟨digits, rfl, -, minimal⟩ := decimals_from_step_spec positive fits derived
  have same : digits = places :=
    le_antisymm ((minimal places).1 lowest.1) (lowest.2 ((minimal digits).2 le_rfl))
  rw [getAllowedDecimalPlaces, derived, same]
  rfl

theorem typed_multiple_shown {increment : Decimal} {text : List Char} (typed : TypedNumber text)
    (positive : 0 < increment) (multiple : IsMultiple increment (denotedValue text)) :
    increment < 10 ^ 93 := by
  calc
    increment ≤ denotedValue text := multiple.increment_le positive typed.positive
    _ < 10 ^ 34 := denoted_value_lt typed.significant
    _ < 10 ^ 93 := by norm_num

/-- A typed multiple of the increment is either taken as it is or refused without a suggestion. -/
theorem validate_field_aligned (rounding : NearestRounding) (exactly : ReadsExactly fromChars)
    (lawful : field.Lawful rounding correct) (typed : TypedNumber text.toList)
    (positive : 0 < field.increment symbolInfo)
    (fits : HasFractionDigits 34 (field.increment symbolInfo)) {places : ℕ}
    (lowest : IsLeast { digits | HasFractionDigits digits (field.increment symbolInfo) } places)
    (multiple : IsMultiple (field.increment symbolInfo) (denotedValue text.toList)) :
    (AcceptableText text.toList (field.increment symbolInfo) places
        (field.exchangePrecision symbolInfo) (field.minimum symbolInfo)
        (field.maximum symbolInfo) →
      validateField rounding fromChars field text symbolInfo =
        .ok { value := some (denotedValue text.toList) }) ∧
    (¬ AcceptableText text.toList (field.increment symbolInfo) places
        (field.exchangePrecision symbolInfo) (field.minimum symbolInfo)
        (field.maximum symbolInfo) →
      ∀ validation, validateField rounding fromChars field text symbolInfo = .ok validation →
        validation.isValid = false ∧ validation.correction = none ∧
          validation.value = some (denotedValue text.toList)) := by
  have shown := typed_multiple_shown typed positive multiple
  obtain ⟨violation, ruled, available, aligned, none⟩ :=
    lawful.aligned positive (increment_valid_of_multiple positive multiple.choose_spec)
  rw [validate_field_typed exactly typed, ruled,
    allowed_decimal_places_eq positive fits shown lowest]
  simp only [available, aligned, or_self, if_false]
  set allowed := if 0 < field.exchangePrecision symbolInfo then
    min (places : ℤ) (field.exchangePrecision symbolInfo) else places with allowedDef
  constructor
  · intro acceptable
    have short : ¬ allowed < (fractionOf text.toList).length := not_lt.2 acceptable.fraction
    simp only [Except.bind, bind, if_neg short, none.2 acceptable.bounds]
    rfl
  · intro refused validation validated
    by_cases long : allowed < (fractionOf text.toList).length
    · simp only [Except.bind, bind, if_pos long] at validated
      cases validated
      refine ⟨?_, rfl, rfl⟩
      simp [DecimalInputValidation.isValid]
    · have violated : violation ≠ .none := fun silent =>
        refused { typed with multiple, fraction := not_lt.1 long, bounds := none.1 silent }
      have invalid : ¬ SymbolRuleValidation.isValid { violation } := by
        simpa [SymbolRuleValidation.isValid] using violated
      simp only [Except.bind, bind, if_neg long, if_pos invalid] at validated
      exact apply_rule_validation_refuses lawful violated validated

/-- What a field promises of a text: it takes exactly the acceptable ones, at the value that
they denote, and suggests a correction exactly to a typed number off the increment. -/
structure AcceptsExactly (result : Except ServiceFailure DecimalInputValidation)
    (text : List Char) (increment : Decimal) (places : ℕ) (exchangePrecision : ℤ)
    (minimum maximum : Decimal) : Prop where
  valid : (∃ validation, result = .ok validation ∧ validation.isValid) ↔
    AcceptableText text increment places exchangePrecision minimum maximum
  value : ∀ validation, result = .ok validation → validation.isValid →
    validation.value = some (denotedValue text)
  correction : (∃ validation, result = .ok validation ∧ validation.correction.isSome) ↔
    TypedNumber text ∧ ¬ IsMultiple increment (denotedValue text)

theorem accepts_exactly_uncorrected {result : Except ServiceFailure DecimalInputValidation}
    {text : List Char} {increment : Decimal} {places : ℕ} {exchangePrecision : ℤ}
    {minimum maximum : Decimal}
    (aligned : TypedNumber text → IsMultiple increment (denotedValue text))
    (accepted : AcceptableText text increment places exchangePrecision minimum maximum →
      result = .ok { value := some (denotedValue text) })
    (refused : ¬ AcceptableText text increment places exchangePrecision minimum maximum →
      ∀ validation, result = .ok validation →
        validation.isValid = false ∧ validation.correction = none) :
    AcceptsExactly result text increment places exchangePrecision minimum maximum := by
  by_cases acceptable : AcceptableText text increment places exchangePrecision minimum maximum
  · rw [accepted acceptable]
    refine ⟨iff_of_true ⟨_, rfl, rfl⟩ acceptable, ?_, iff_of_false ?_ ?_⟩
    · rintro validation ⟨⟩ -
      rfl
    · rintro ⟨validation, ⟨⟩, offered⟩
      cases offered
    · exact fun odd => odd.2 (aligned odd.1)
  · have refusals := refused acceptable
    refine ⟨iff_of_false ?_ acceptable, ?_, iff_of_false ?_ ?_⟩
    · rintro ⟨validation, returned, valid⟩
      rw [(refusals validation returned).1] at valid
      cases valid
    · intro validation returned valid
      rw [(refusals validation returned).1] at valid
      cases valid
    · rintro ⟨validation, returned, offered⟩
      rw [(refusals validation returned).2] at offered
      cases offered
    · exact fun odd => odd.2 (aligned odd.1)

/-- Where the rule takes a typed number's increment, the field suggests nothing. -/
theorem validate_field_uncorrected (exactly : ReadsExactly fromChars)
    (lawful : field.Lawful rounding correct) (typed : TypedNumber text.toList)
    (positive : 0 < field.increment symbolInfo)
    (valid : isIncrementValid rounding (denotedValue text.toList) (field.increment symbolInfo))
    (returned : validateField rounding fromChars field text symbolInfo = .ok validation) :
    validation.correction = none := by
  obtain ⟨violation, ruled, available, aligned, -⟩ := lawful.aligned positive valid
  rw [validate_field_typed exactly typed, ruled] at returned
  simp only [available, aligned, or_self, if_false] at returned
  obtain ⟨allowed, -, rest⟩ := except_bind_ok.1 returned
  split_ifs at rest with long kept
  · cases rest
    rfl
  · cases rest
    rfl
  · have violated : violation ≠ .none := by simpa [SymbolRuleValidation.isValid] using kept
    exact (apply_rule_validation_refuses lawful violated rest).2.1

/-- A field keeps its promise unless the rounded quotient hides that a number is off the
increment, or the increment cannot be written into the error text. -/
theorem field_accepts_exactly_iff (exactly : ReadsExactly fromChars)
    (lawful : field.Lawful rounding correct) (text : String)
    (positive : 0 < field.increment symbolInfo)
    (fits : HasFractionDigits 34 (field.increment symbolInfo)) {places : ℕ}
    (lowest : IsLeast { digits | HasFractionDigits digits (field.increment symbolInfo) } places) :
    AcceptsExactly (validateField rounding fromChars field text symbolInfo) text.toList
        (field.increment symbolInfo) places (field.exchangePrecision symbolInfo)
        (field.minimum symbolInfo) (field.maximum symbolInfo) ↔
      (field.increment symbolInfo < 10 ^ 93 ∧
          (isIncrementValid rounding (denotedValue text.toList) (field.increment symbolInfo) →
            IsMultiple (field.increment symbolInfo) (denotedValue text.toList))) ∨
        ¬ TypedNumber text.toList := by
  by_cases typed : TypedNumber text.toList
  · by_cases multiple : IsMultiple (field.increment symbolInfo) (denotedValue text.toList)
    · have shown := typed_multiple_shown typed positive multiple
      obtain ⟨accepted, refused⟩ :=
        validate_field_aligned rounding exactly lawful typed positive fits lowest
          multiple
      have silent := fun unacceptable validation returned =>
        (refused unacceptable validation returned).imp_right And.left
      exact iff_of_true (accepts_exactly_uncorrected (fun _ => multiple) accepted silent)
        (.inl ⟨shown, fun _ => multiple⟩)
    · have unacceptable : ¬ AcceptableText text.toList (field.increment symbolInfo) places
          (field.exchangePrecision symbolInfo) (field.minimum symbolInfo)
          (field.maximum symbolInfo) := fun acceptable => multiple acceptable.multiple
      by_cases valid : isIncrementValid rounding (denotedValue text.toList)
        (field.increment symbolInfo)
      · refine iff_of_false (fun promised => ?_) ?_
        · obtain ⟨validation, returned, offered⟩ := promised.correction.2 ⟨typed, multiple⟩
          rw [validate_field_uncorrected exactly lawful typed positive valid returned] at offered
          cases offered
        · rintro (shown | untyped)
          · exact multiple (shown.2 valid)
          · exact untyped typed
      rw [validate_field_mismatch exactly lawful typed positive valid]
      constructor
      · intro promised
        obtain ⟨validation, returned, -⟩ := promised.correction.2 ⟨typed, multiple⟩
        obtain ⟨limit, formatted, -⟩ := except_bind_ok.1 returned
        rw [formatLimit, formatByStep, if_neg (not_le.2 positive)] at formatted
        obtain ⟨decimals, derived, -⟩ := except_bind_ok.1 formatted
        exact .inl ⟨(decimals_from_step_ok_iff rounding positive fits).1 ⟨decimals, derived⟩,
          fun taken => absurd taken valid⟩
      · intro shown
        have below := (shown.resolve_right (not_not.2 typed)).1
        obtain ⟨limit, formatted⟩ := format_by_step_ok rounding positive fits below
          (fun _ own => own) positive.le below
        rw [formatLimit, formatted]
        have refused : ∀ error : String, ¬ DecimalInputValidation.isValid
            { value := some (denotedValue text.toList)
              correction := some (correct (denotedValue text.toList) (field.increment symbolInfo))
              error := error ++ "." } := by simp [DecimalInputValidation.isValid]
        refine ⟨iff_of_false ?_ unacceptable, ?_, iff_of_true ⟨_, rfl, rfl⟩ ⟨typed, multiple⟩⟩
        · rintro ⟨validation, ⟨⟩, valid⟩
          exact refused _ valid
        · rintro validation ⟨⟩ valid
          exact absurd valid (refused _)
  · obtain ⟨validation, returned, invalid, uncorrected⟩ :=
      validate_field_untyped rounding field symbolInfo exactly typed
    refine iff_of_true (accepts_exactly_uncorrected (fun absurdly => absurd absurdly typed)
      (fun acceptable => absurd acceptable.toTypedNumber typed) fun _ other same => ?_) (.inr typed)
    rw [returned] at same
    cases same
    exact ⟨invalid, uncorrected⟩

/-- Both fields of the form take exactly the acceptable texts, unless the rounded quotient hides
that a number is off the increment or the increment is too large for the error text. -/
theorem input_accepted_iff (exactly : ReadsExactly fromChars) (rounding : NearestRounding)
    (text : String) (symbolInfo : SymbolInfo) :
    (∀ places, 0 < symbolInfo.stepSize → HasFractionDigits 34 symbolInfo.stepSize →
      IsLeast { digits | HasFractionDigits digits symbolInfo.stepSize } places →
        (AcceptsExactly (validateQuantity rounding fromChars text symbolInfo) text.toList
            symbolInfo.stepSize places symbolInfo.qtyPrecision symbolInfo.minQty
            symbolInfo.maxQty ↔
          (symbolInfo.stepSize < 10 ^ 93 ∧
              (isIncrementValid rounding (denotedValue text.toList) symbolInfo.stepSize →
                IsMultiple symbolInfo.stepSize (denotedValue text.toList))) ∨
            ¬ TypedNumber text.toList)) ∧
    (∀ places, 0 < symbolInfo.tickSize → HasFractionDigits 34 symbolInfo.tickSize →
      IsLeast { digits | HasFractionDigits digits symbolInfo.tickSize } places →
        (AcceptsExactly (validatePrice rounding fromChars text symbolInfo) text.toList
            symbolInfo.tickSize places symbolInfo.pricePrecision symbolInfo.minPrice
            symbolInfo.maxPrice ↔
          (symbolInfo.tickSize < 10 ^ 93 ∧
              (isIncrementValid rounding (denotedValue text.toList) symbolInfo.tickSize →
                IsMultiple symbolInfo.tickSize (denotedValue text.toList))) ∨
            ¬ TypedNumber text.toList)) :=
  ⟨fun _ positive fits lowest =>
      field_accepts_exactly_iff exactly quantity_field_lawful text positive fits lowest,
    fun _ positive fits lowest =>
      field_accepts_exactly_iff exactly price_field_lawful text positive fits lowest⟩

end Fields

section Example

/-- A parser without a limit on digits. -/
def readDecimal (text : String) : Option Decimal := decimalValue text.toList

theorem read_decimal_exactly : ReadsExactly readDecimal := by
  intro text value spelled _
  rw [readDecimal, String.toList_ofList, spelled]

theorem tenths_need_one_place :
    IsLeast { digits | HasFractionDigits digits (1 / 10 : Decimal) } 1 := by
  refine ⟨⟨1, by norm_num⟩, fun digits fits => Nat.one_le_iff_ne_zero.2 fun none => ?_⟩
  obtain ⟨units, scaled⟩ := fits
  rw [none, pow_zero, mul_one, div_eq_iff (by norm_num)] at scaled
  have whole : units * 10 = 1 := by exact_mod_cast scaled.symm
  omega

theorem quarter_typed : TypedNumber "0.25".toList ∧ denotedValue "0.25".toList = 1 / 4 := by
  have value : denotedValue "0.25".toList = 1 / 4 := by
    change denotedValue (['0'] ++ '.' :: ['2', '5']) = 1 / 4
    have whole : digitsValue ['0'] = 0 := by decide
    have fraction : digitsValue ['2', '5'] = 25 := by decide
    rw [denoted_value_pointed (by decide) (by decide), whole, fraction]
    norm_num
  exact ⟨⟨by decide, by decide, by rw [value]; norm_num⟩, value⟩

theorem quarter_on_scale : SharesScale 2 (1 / 4) (1 / 10) where
  places := by decide
  valueFits := ⟨25, by norm_num⟩
  stepFits := ⟨10, by norm_num⟩
  valueSmall := by norm_num
  stepSmall := by norm_num

/-- Amounts and prices in tenths, computed with 34 digits. -/
theorem tenths_accepted :
    AcceptsExactly
        (validateQuantity roundedHalfUp readDecimal "0.25" { stepSize := 1 / 10, minQty := 1 })
        "0.25".toList (1 / 10) 1 0 1 0 ∧
      AcceptsExactly (validatePrice roundedHalfUp readDecimal "2.5" { tickSize := 1 / 10 })
        "2.5".toList (1 / 10) 1 0 0 0 := by
  have fits : HasFractionDigits 34 (1 / 10 : Decimal) := ⟨10 ^ 33, by norm_num⟩
  constructor
  · refine ((input_accepted_iff read_decimal_exactly roundedHalfUp "0.25"
      { stepSize := 1 / 10, minQty := 1 }).1 1 (by norm_num) fits tenths_need_one_place).2
        (.inl ⟨by norm_num, ?_⟩)
    rw [quarter_typed.2]
    exact (increment_valid_scaled quarter_on_scale (by norm_num) (by norm_num)).1
  · refine ((input_accepted_iff read_decimal_exactly roundedHalfUp "2.5"
      { tickSize := 1 / 10 }).2 1 (by norm_num) fits tenths_need_one_place).2
        (.inl ⟨by norm_num, fun _ => ⟨25, ?_⟩⟩)
    change denotedValue (['2'] ++ '.' :: ['5']) = (25 : ℤ) * (1 / 10)
    have whole : digitsValue ['2'] = 2 := by decide
    have fraction : digitsValue ['5'] = 5 := by decide
    rw [denoted_value_pointed (by decide) (by decide), whole, fraction]
    norm_num

/-- In steps of 7 the form takes 34 nines, which leave a remainder, and in steps of `10 ^ 100` it
throws where it owes a correction. -/
theorem off_step_accepted :
    (HasFractionDigits 34 (7 : Decimal) ∧
      (∃ validation, validateQuantity roundedHalfUp readDecimal
        "9999999999999999999999999999999999" { stepSize := 7 } = .ok validation ∧
          validation.isValid) ∧
      ¬ AcceptableText "9999999999999999999999999999999999".toList 7 0 0 0 0) ∧
    (HasFractionDigits 34 (10 ^ 100 : Decimal) ∧
      validateQuantity roundedHalfUp readDecimal "1" { stepSize := 10 ^ 100 } =
        .error (.runtime "formatDecimal: failed to format decimal value") ∧
      TypedNumber "1".toList ∧ ¬ IsMultiple (10 ^ 100) (denotedValue "1".toList)) := by
  refine ⟨⟨⟨7 * 10 ^ 34, by norm_num⟩, ⟨{ value := some (10 ^ 34 - 1) }, by decide +kernel, rfl⟩,
    fun acceptable => ?_⟩, ⟨10 ^ 134, by norm_num⟩, by decide +kernel, ?_⟩
  · obtain ⟨units, same⟩ := acceptable.multiple
    have nines : digitsValue "9999999999999999999999999999999999".toList = 10 ^ 34 - 1 := by
      decide +kernel
    rw [denoted_value_whole (by decide), nines] at same
    have whole : units * 7 = 10 ^ 34 - 1 := by exact_mod_cast same.symm
    omega
  · have one : denotedValue "1".toList = 1 := by
      have digit : digitsValue "1".toList = 1 := by decide
      rw [denoted_value_whole (by decide), digit]
      norm_num
    refine ⟨⟨by decide, by decide, by rw [one]; norm_num⟩, ?_⟩
    rintro ⟨units, same⟩
    rw [one] at same
    have whole : units * 10 ^ 100 = 1 := by exact_mod_cast same.symm
    omega

end Example

end OrderInputValidation

end CryptoDeal.OrderEntry
