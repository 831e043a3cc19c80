import CryptoDeal.DealService.DecimalConverter

/-!
# Formatted decimals read back

A value that is printed with all its places keeps them through the trimming: the
text is its canonical one, whichever sign a zero was printed with. The places of a
step are read off such a text, so they are as few as the step allows.
-/

namespace CryptoDeal.DealService.DecimalConverter

open CryptoDeal.DecimalText

/-- The parser is exact on the texts of this value. -/
def ReadsAs (fromChars : String → Option Decimal) (value : Decimal) : Prop :=
  ∀ text, decimalValue text = some value → fromChars (String.ofList text) = some value

theorem parse_of_denotes {fromChars : String → Option Decimal} {value : Decimal} {text : String}
    (reads : ReadsAs fromChars value) (denotes : Denotes text value) :
    parseDecimal fromChars text = .ok value := by
  have read := reads text.toList denotes
  rw [String.ofList_toList] at read
  rw [parseDecimal, read]

/-! ## Trimming a printed text -/

/-- A printed value is trimmed to its canonical text. -/
theorem trim_fixed_print {places : ℕ} {value : Decimal} {buffer : List Char} (positive : 0 < places)
    (print : FixedPrint places value buffer) :
    IsCanonicalDecimal (trimTrailingZeros buffer) ∧
      decimalValue (trimTrailingZeros buffer) = some value := by
  obtain ⟨⟨negative, whole, fraction, plain, digits, length, rfl⟩, spells⟩ := print
  obtain ⟨sign, parts, trimmed, same⟩ := trim_trailing_zeros_parts negative plain digits
  rw [trimmed]
  refine ⟨⟨sign, whole, _, parts, rfl⟩, ?_⟩
  have fractionNonempty : fraction ≠ [] := List.length_pos_iff.1 (length ▸ positive)
  have pointed : '.' :: fraction = pointedFraction fraction := (if_neg fractionNonempty).symm
  rw [List.append_assoc, pointed, decimal_value_parts plain.nonempty plain.digits digits] at spells
  rw [List.append_assoc, decimal_value_parts plain.nonempty plain.digits parts.fractionDigits,
    magnitude_trimmed plain digits, same, spells]

theorem fixed_text_print (rounding : NearestRounding) {value : Decimal} {places : ℕ}
    (positive : 0 < places) (fits : HasFractionDigits places value) :
    FixedPrint places value (fixedText rounding value places) := by
  have text := fixed_text_parts rounding value positive
  have plain : PlainWhole (wholeText rounding value places) := to_digits_plain _
  have digits := fraction_text_digits rounding value places
  have length : (fractionText rounding value places).length = places := padded_digits_length _ _
  refine ⟨⟨_, _, _, plain, digits, length, text⟩, ?_⟩
  have pointed : '.' :: fractionText rounding value places =
      pointedFraction (fractionText rounding value places) := by
    refine (if_neg ?_).symm
    exact List.length_pos_iff.1 (length.symm ▸ positive)
  rw [text, pointed, List.append_assoc, decimal_value_parts plain.nonempty plain.digits digits,
    signed_fixed_magnitude, (printed_value_eq_iff rounding value places).2 fits]

/-! ## Round trip -/

theorem decimal_text_round_trip {rounding : NearestRounding} {fromChars : String → Option Decimal}
    {value : Decimal} {text : String} (fits : HasFractionDigits 34 value)
    (formatted : formatDecimal rounding value = .ok text) (reads : ReadsAs fromChars value) :
    parseDecimal fromChars text = .ok value ∧ IsCanonicalDecimal text.toList ∧
      (∀ buffer, FixedPrint 34 value buffer → trimTrailingZeros buffer = text.toList) ∧
      ∀ other, HasFractionDigits 34 other →
        (formatDecimal rounding value = formatDecimal rounding other ↔ value = other) := by
  have own := trim_fixed_print (by decide) (fixed_text_print rounding (by decide) fits)
  have shown : text.toList = trimTrailingZeros (fixedText rounding value 34) := by
    rw [format_decimal_to_ok formatted, String.toList_ofList]
    rfl
  rw [← shown] at own
  refine ⟨parse_of_denotes reads own.2, own.1, ?_, ?_⟩
  · intro buffer print
    have trimmed := trim_fixed_print (by decide) print
    exact canonical_decimal_unique trimmed.1 own.1 (trimmed.2.trans own.2.symm)
  · intro other otherFits
    constructor
    · intro same
      have otherDenotes := (format_decimal_denotes_iff (same ▸ formatted)).2 otherFits
      exact Option.some_inj.1 (own.2.symm.trans otherDenotes)
    · rintro rfl
      rfl

/-- The parser that reads what a text denotes. -/
def readDenoted (text : String) : Option Decimal := decimalValue text.toList

theorem read_denoted_reads (value : Decimal) : ReadsAs readDenoted value := by
  intro text spells
  rw [readDenoted, String.toList_ofList]
  exact spells

theorem negative_amount_round_trip :
    formatDecimal roundHalfUp (-5 / 4) = .ok "-1.25" ∧
      parseDecimal readDenoted "-1.25" = .ok (-5 / 4) := by
  have formatted : formatDecimal roundHalfUp (-5 / 4) = .ok "-1.25" := by decide +kernel
  have fits : HasFractionDigits 34 (-5 / 4) := ⟨-125 * 10 ^ 32, by norm_num⟩
  exact ⟨formatted, (decimal_text_round_trip fits formatted (read_denoted_reads _)).1⟩

/-! ## Precision of a step -/

/-- A text by a step with places is that of the multiple. -/
theorem format_by_step_reads {rounding : NearestRounding} {fromChars : String → Option Decimal}
    {step value : Decimal} {text : String} (positive : 0 < step) (fits : HasFractionDigits 34 step)
    (multiple : ∃ units : ℤ, value = units * step) (places : ¬ HasFractionDigits 0 step)
    (formatted : formatByStep rounding value step = .ok text) (reads : ReadsAs fromChars value) :
    parseDecimal fromChars text = .ok value := by
  apply parse_of_denotes reads
  apply (format_by_step_denotes_iff positive fits formatted).2
  exact ⟨fraction_fits_of_multiple multiple, fun loses => places loses.1⟩

theorem step_precision {rounding : NearestRounding} {step : Decimal} (positive : 0 < step)
    (fits : HasFractionDigits 34 step) :
    ((∃ decimals, decimalsFromStep rounding step = .ok decimals) ↔ step < 10 ^ 93) ∧
      ∀ decimals, decimalsFromStep rounding step = .ok decimals → ∃ digits : ℕ,
        decimals = digits ∧
        IsLeast { places : ℕ | ∃ units : ℤ, step * 10 ^ places = units } digits ∧
        ∀ value, (∃ units : ℤ, value = units * step) →
          printedValue rounding value digits = value ∧
          (0 ≤ value → value < 10 ^ 93 → ∃ text, formatByStep rounding value step = .ok text) ∧
          (0 < digits → ∀ text fromChars, formatByStep rounding value step = .ok text →
            ReadsAs fromChars value → parseDecimal fromChars text = .ok value) := by
  refine ⟨decimals_from_step_ok_iff rounding positive fits, ?_⟩
  intro decimals derived
  have shown := (decimals_from_step_ok_iff rounding positive fits).1 ⟨decimals, derived⟩
  obtain ⟨digits, same, -, minimal⟩ := decimals_from_step_spec positive fits derived
  refine ⟨digits, same, ⟨(minimal digits).2 le_rfl, fun places => (minimal places).1⟩, ?_⟩
  intro value multiple
  have own := fraction_fits_of_multiple multiple
  refine ⟨?_, format_by_step_ok rounding positive fits shown own, ?_⟩
  · exact (printed_value_eq_iff rounding value digits).2 (own digits ((minimal digits).2 le_rfl))
  · intro somePlaces text fromChars formatted reads
    have places : ¬ HasFractionDigits 0 step := by
      intro whole
      exact absurd ((minimal 0).1 whole) (not_le.2 somePlaces)
    exact format_by_step_reads positive fits multiple places formatted reads

theorem small_step_precision :
    ∃ digits : ℕ, decimalsFromStep roundHalfUp (1 / 20) = .ok digits ∧
      IsLeast { places : ℕ | ∃ units : ℤ, (1 / 20 : Decimal) * 10 ^ places = units } digits := by
  have fits : HasFractionDigits 34 (1 / 20) := ⟨5 * 10 ^ 32, by norm_num⟩
  obtain ⟨derives, precise⟩ := step_precision (by norm_num : (0 : Decimal) < 1 / 20) fits
  obtain ⟨decimals, derived⟩ := derives.2 (by norm_num)
  obtain ⟨digits, rfl, least, -⟩ := precise decimals derived
  exact ⟨digits, derived, least⟩

/-- A step that does not fit the buffer has no places at all. -/
theorem huge_step_throws :
    (0 : Decimal) < 10 ^ 93 ∧ HasFractionDigits 34 (10 ^ 93) ∧
      ∀ decimals, decimalsFromStep roundHalfUp (10 ^ 93) ≠ .ok decimals := by
  have fits : HasFractionDigits 34 (10 ^ 93) := ⟨10 ^ 127, by norm_num⟩
  refine ⟨by positivity, fits, ?_⟩
  intro decimals derived
  have shown := (decimals_from_step_ok_iff roundHalfUp (by positivity) fits).1 ⟨decimals, derived⟩
  exact lt_irrefl _ shown

end CryptoDeal.DealService.DecimalConverter
