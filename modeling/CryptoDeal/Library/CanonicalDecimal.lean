import CryptoDeal.Library.FixedNotation

/-!
# Canonical decimal texts

A signed decimal text without a zero too many: none leads the whole digits, none
ends the fraction, and zero has no sign. Each value has at most one such text.
-/

namespace CryptoDeal.DecimalText

def signChars (negative : Bool) : List Char := if negative then ['-'] else []

/-- The fraction with its point, if there is one. -/
def pointedFraction (fraction : List Char) : List Char :=
  if fraction = [] then [] else '.' :: fraction

/-- Digits that start with a zero only if they are that zero. -/
structure PlainWhole (whole : List Char) : Prop where
  nonempty : whole ≠ []
  digits : Digits whole
  noLeadingZero : whole.head? = some '0' → whole = ['0']

structure CanonicalParts (negative : Bool) (whole fraction : List Char) : Prop where
  plainWhole : PlainWhole whole
  fractionDigits : Digits fraction
  noTrailingZero : fraction.getLast? ≠ some '0'
  noNegativeZero : negative → ¬ (whole = ['0'] ∧ fraction = [])

def IsCanonicalDecimal (text : List Char) : Prop :=
  ∃ negative whole fraction, CanonicalParts negative whole fraction ∧
    text = signChars negative ++ whole ++ pointedFraction fraction

/-- The number that digits around a point spell. -/
def magnitudeOf (whole fraction : List Char) : ℚ :=
  digitsValue whole + digitsValue fraction / 10 ^ fraction.length

def signedValue (negative : Bool) (magnitude : ℚ) : ℚ := if negative then -magnitude else magnitude

section Values

variable {whole fraction : List Char}

theorem unsigned_value_parts (nonempty : whole ≠ []) (digits : Digits whole)
    (fractionDigits : Digits fraction) :
    unsignedValue (whole ++ pointedFraction fraction) = some (magnitudeOf whole fraction) := by
  unfold pointedFraction magnitudeOf
  split_ifs with empty
  · rw [List.append_nil, unsigned_value_whole nonempty digits, empty]
    simp [digitsValue]
  · exact unsigned_value_fraction nonempty digits empty fractionDigits

theorem decimal_value_signed {negative : Bool} {text : List Char} {magnitude : ℚ}
    (head : ∀ char ∈ text.head?, char.isDigit) (value : unsignedValue text = some magnitude) :
    decimalValue (signChars negative ++ text) = some (signedValue negative magnitude) := by
  cases negative with
  | false =>
      rw [signChars, if_neg Bool.false_ne_true, List.nil_append, decimal_value_unsigned head, value]
      rfl
  | true =>
      change (unsignedValue text).map _ = _
      rw [value]
      rfl

theorem decimal_value_parts {negative : Bool} (nonempty : whole ≠ []) (digits : Digits whole)
    (fractionDigits : Digits fraction) :
    decimalValue (signChars negative ++ (whole ++ pointedFraction fraction)) =
      some (signedValue negative (magnitudeOf whole fraction)) := by
  apply decimal_value_signed
  · intro char member
    rw [List.head?_append_of_ne_nil _ nonempty] at member
    exact digits char (List.mem_of_mem_head? member)
  · exact unsigned_value_parts nonempty digits fractionDigits

theorem magnitude_nonneg : 0 ≤ magnitudeOf whole fraction := by
  unfold magnitudeOf
  positivity

end Values

theorem abs_signed_value {negative : Bool} {magnitude : ℚ} (nonneg : 0 ≤ magnitude) :
    |signedValue negative magnitude| = magnitude := by
  cases negative <;> simp [signedValue, abs_of_nonneg nonneg]

theorem signed_value_neg_iff {negative : Bool} {magnitude : ℚ} (positive : 0 < magnitude) :
    signedValue negative magnitude < 0 ↔ negative = true := by
  cases negative <;> simp [signedValue, positive, positive.le]

/-! ## Uniqueness -/

section Uniqueness

variable {first second : List Char}

theorem digits_injective (firstDigits : Digits first) (secondDigits : Digits second)
    (lengths : first.length = second.length) (values : digitsValue first = digitsValue second) :
    first = second := by
  induction first using List.reverseRecOn generalizing second with
  | nil => exact (List.length_eq_zero_iff.1 lengths.symm).symm
  | append_singleton init last ih =>
      obtain ⟨other, final, rfl⟩ : ∃ other final, second = other ++ [final] := by
        apply (List.eq_nil_or_concat' second).resolve_left
        rintro rfl
        simp at lengths
      obtain ⟨digit, bound, lastShape, -⟩ := digit_as_char (firstDigits last (by simp))
      obtain ⟨otherDigit, otherBound, finalShape, -⟩ := digit_as_char (secondDigits final (by simp))
      rw [lastShape, finalShape, digits_value_append_digit _ _ bound,
        digits_value_append_digit _ _ otherBound] at values
      have sameDigit : digit = otherDigit := by omega
      have rest : init = other := by
        apply ih (fun char member => firstDigits char (by simp [member]))
          (fun char member => secondDigits char (by simp [member]))
        · simpa using lengths
        · omega
      rw [rest, lastShape, finalShape, sameDigit]

theorem PlainWhole.length_le_iff (plain : PlainWhole first) (notZero : first ≠ ['0']) (limit : ℕ) :
    first.length ≤ limit ↔ digitsValue first < 10 ^ limit := by
  have kept : first.dropWhile (· == '0') = first := by
    cases first with
    | nil => rfl
    | cons head tail =>
        apply List.dropWhile_cons_of_neg
        intro zero
        exact notZero (plain.noLeadingZero (congrArg some (by simpa using zero)))
  rw [← significant_length_le_iff plain.digits, kept]

theorem PlainWhole.zero_iff (plain : PlainWhole first) : digitsValue first = 0 ↔ first = ['0'] := by
  constructor
  · intro zero
    by_contra notZero
    have short : first.length ≤ 0 := (plain.length_le_iff notZero 0).2 (by simp [zero])
    exact plain.nonempty (List.length_eq_zero_iff.1 (Nat.le_zero.1 short))
  · rintro rfl
    decide

theorem PlainWhole.unique (firstPlain : PlainWhole first) (secondPlain : PlainWhole second)
    (values : digitsValue first = digitsValue second) : first = second := by
  by_cases zero : digitsValue first = 0
  · rw [firstPlain.zero_iff.1 zero, secondPlain.zero_iff.1 (values ▸ zero)]
  · have lengths : ∀ limit, first.length ≤ limit ↔ second.length ≤ limit := by
      intro limit
      rw [firstPlain.length_le_iff (mt firstPlain.zero_iff.2 zero), values,
        secondPlain.length_le_iff (mt secondPlain.zero_iff.2 (values ▸ zero))]
    exact digits_injective firstPlain.digits secondPlain.digits
      (le_antisymm ((lengths _).2 le_rfl) ((lengths _).1 le_rfl)) values

/-- A fraction without a last zero has no place too many. -/
theorem fraction_length_le (digits : Digits first) (trimmed : first.getLast? ≠ some '0')
    {units places : ℕ} (value : (digitsValue first : ℚ) / 10 ^ first.length = units / 10 ^ places) :
    first.length ≤ places := by
  by_contra longer
  have nonempty : first ≠ [] := by
    rintro rfl
    exact longer (Nat.zero_le places)
  obtain ⟨extra, split⟩ := Nat.exists_eq_add_of_le (not_le.1 longer)
  -- in units of the last place, a value with fewer places is a multiple of ten
  apply not_tens_of_last digits nonempty trimmed
  refine ⟨units * 10 ^ extra, ?_⟩
  rw [div_eq_div_iff (by positivity) (by positivity), split] at value
  have power : (10 : ℚ) ^ (places.succ + extra) = 10 ^ extra * 10 * 10 ^ places := by
    rw [pow_add, pow_succ]
    ring
  rw [power, ← mul_assoc] at value
  have cancelled := mul_right_cancel₀ (by positivity) value
  rw [← mul_assoc] at cancelled
  rw [mul_comm]
  exact_mod_cast cancelled

/-- Fractions without a last zero that stand for the same part of one. -/
theorem fraction_unique (firstDigits : Digits first) (secondDigits : Digits second)
    (firstTrimmed : first.getLast? ≠ some '0') (secondTrimmed : second.getLast? ≠ some '0')
    (values : (digitsValue first : ℚ) / 10 ^ first.length =
      digitsValue second / 10 ^ second.length) : first = second := by
  have lengths : first.length = second.length :=
    le_antisymm (fraction_length_le firstDigits firstTrimmed values)
      (fraction_length_le secondDigits secondTrimmed values.symm)
  rw [lengths] at values
  have same := (div_left_inj' (by positivity : (10 : ℚ) ^ second.length ≠ 0)).1 values
  exact digits_injective firstDigits secondDigits lengths (by exact_mod_cast same)

theorem fraction_lt_one (digits : Digits first) :
    (digitsValue first : ℚ) / 10 ^ first.length < 1 := by
  rw [div_lt_one (by positivity)]
  exact_mod_cast digits_value_lt_length digits

/-- Digits around a point are determined by what they spell. -/
theorem magnitude_unique {firstFraction secondFraction : List Char} (firstPlain : PlainWhole first)
    (secondPlain : PlainWhole second) (firstDigits : Digits firstFraction)
    (secondDigits : Digits secondFraction) (firstTrimmed : firstFraction.getLast? ≠ some '0')
    (secondTrimmed : secondFraction.getLast? ≠ some '0')
    (same : magnitudeOf first firstFraction = magnitudeOf second secondFraction) :
    first = second ∧ firstFraction = secondFraction := by
  have wholes : digitsValue first = digitsValue second := by
    have floors := congrArg Nat.floor same
    have below := fraction_lt_one firstDigits
    have otherBelow := fraction_lt_one secondDigits
    have floored : ∀ {whole fraction : List Char}, Digits fraction →
        ⌊magnitudeOf whole fraction⌋₊ = digitsValue whole := by
      intro whole fraction digits
      rw [magnitudeOf, Nat.floor_eq_iff (by positivity)]
      have part := fraction_lt_one digits
      have nonneg : 0 ≤ (digitsValue fraction : ℚ) / 10 ^ fraction.length := by positivity
      constructor <;> linarith
    rwa [floored firstDigits, floored secondDigits] at floors
  refine ⟨firstPlain.unique secondPlain wholes, ?_⟩
  apply fraction_unique firstDigits secondDigits firstTrimmed secondTrimmed
  rw [magnitudeOf, magnitudeOf, wholes] at same
  exact add_left_cancel same

theorem magnitude_of_zero : magnitudeOf ['0'] [] = 0 := by
  rw [magnitudeOf, (by decide : digitsValue ['0'] = 0)]
  simp [digitsValue]

theorem CanonicalParts.magnitude_zero {negative : Bool} {whole fraction : List Char}
    (parts : CanonicalParts negative whole fraction) (zero : magnitudeOf whole fraction = 0) :
    negative = false := by
  have plain : PlainWhole ['0'] := ⟨by simp, by decide, fun _ => rfl⟩
  have same := magnitude_unique parts.plainWhole plain parts.fractionDigits
    (by decide : Digits []) parts.noTrailingZero (by simp) (zero.trans magnitude_of_zero.symm)
  cases negative with
  | false => rfl
  | true => exact absurd same (parts.noNegativeZero rfl)

/-- A value has one canonical text. -/
theorem canonical_decimal_unique (firstCanonical : IsCanonicalDecimal first)
    (secondCanonical : IsCanonicalDecimal second)
    (values : decimalValue first = decimalValue second) : first = second := by
  obtain ⟨negative, whole, fraction, parts, rfl⟩ := firstCanonical
  obtain ⟨otherNegative, otherWhole, otherFraction, otherParts, rfl⟩ := secondCanonical
  rw [List.append_assoc, List.append_assoc,
    decimal_value_parts parts.plainWhole.nonempty parts.plainWhole.digits parts.fractionDigits,
    decimal_value_parts otherParts.plainWhole.nonempty otherParts.plainWhole.digits
      otherParts.fractionDigits, Option.some_inj] at values
  have magnitudes : magnitudeOf whole fraction = magnitudeOf otherWhole otherFraction := by
    rw [← abs_signed_value magnitude_nonneg, values, abs_signed_value magnitude_nonneg]
  have signs : negative = otherNegative := by
    by_cases zero : magnitudeOf whole fraction = 0
    · rw [parts.magnitude_zero zero, otherParts.magnitude_zero (magnitudes ▸ zero)]
    · have positive : 0 < magnitudeOf whole fraction := magnitude_nonneg.lt_of_ne' zero
      rw [Bool.eq_iff_iff, ← signed_value_neg_iff positive, values]
      exact signed_value_neg_iff (magnitudes ▸ positive)
  obtain ⟨rfl, rfl⟩ := magnitude_unique parts.plainWhole otherParts.plainWhole
    parts.fractionDigits otherParts.fractionDigits parts.noTrailingZero otherParts.noTrailingZero
    magnitudes
  rw [signs]

end Uniqueness

/-! ## Trimming -/

theorem to_digits_plain (value : ℕ) : PlainWhole (Nat.toDigits 10 value) where
  nonempty := Nat.toDigits_ne_nil
  digits := to_digits_are_digits value
  noLeadingZero := by
    intro leading
    obtain ⟨tail, shape⟩ := List.head?_eq_some_iff.1 leading
    rw [shape]
    by_contra longer
    have tailNonempty : 0 < tail.length := by
      apply List.length_pos_iff.2
      rintro rfl
      exact longer rfl
    have digits := to_digits_are_digits value
    rw [shape] at digits
    obtain ⟨head, -, zero, spelled⟩ := digits_value_cons (digits '0' (by simp)) tail
    have below :=
      digits_value_lt_length fun char member => digits char (List.mem_cons_of_mem _ member)
    rw [zero.2 rfl, zero_mul, zero_add, ← shape, digits_value_to_digits] at spelled
    have short := (Nat.length_toDigits_le_iff (by decide) tailNonempty).2 (spelled ▸ below)
    rw [shape, List.length_cons] at short
    omega

/-- Dropping a fraction's last zeros keeps what it stands for. -/
theorem magnitude_trimmed {whole fraction : List Char} (plain : PlainWhole whole)
    (digits : Digits fraction) :
    magnitudeOf whole (fraction.rdropWhile (· == '0')) = magnitudeOf whole fraction := by
  have trimmedDigits : Digits (fraction.rdropWhile (· == '0')) := fun char member =>
    digits char ((List.rdropWhile_prefix _ _).subset member)
  have trimmed := unsigned_value_trimmed_fraction plain.nonempty plain.digits fraction digits
  have same : whole ++ pointedFraction (fraction.rdropWhile (· == '0')) =
      if fraction.rdropWhile (· == '0') = [] then whole
      else whole ++ '.' :: fraction.rdropWhile (· == '0') := by
    unfold pointedFraction
    split_ifs
    · exact List.append_nil whole
    · rfl
  rw [← same, unsigned_value_parts plain.nonempty plain.digits trimmedDigits, Option.some_inj]
    at trimmed
  exact trimmed

/-- A sign, plain whole digits and so many fractional digits that spell the value; a zero may have
either sign. -/
structure FixedPrint (places : ℕ) (value : ℚ) (text : List Char) : Prop where
  shape : ∃ negative whole fraction, PlainWhole whole ∧ Digits fraction ∧
    fraction.length = places ∧ text = signChars negative ++ whole ++ '.' :: fraction
  spells : decimalValue text = some value

end CryptoDeal.DecimalText
