import CryptoDeal.Library.DecimalArithmetic
import Mathlib.Data.List.DropRight
import Mathlib.Tactic.FieldSimp
import Mathlib.Tactic.Linarith
import Mathlib.Tactic.Ring

/-!
# Decimal texts and the rationals they denote

Fixed-point printing of a rational with a chosen number of fractional digits,
and reading such a text back. The printer rounds the scaled magnitude to a
nearest natural number; which neighbour a tie takes is left open, so every
fact below holds for half-even, half-up and any other nearest rounding.
-/

namespace CryptoDeal.DecimalText

open CryptoDeal.DecimalArithmetic

/-- How a decimal library rounds: a non-negative magnitude that it prints, to a nearest
natural number, and the results that it computes. -/
structure NearestRounding where
  round : ℚ → ℕ
  nearest : ∀ magnitude, 0 ≤ magnitude → |(round magnitude : ℚ) - magnitude| ≤ 1 / 2
  arithmetic : Arithmetic decimal128

/-- Ties go up, and results are exact. -/
def roundHalfUp : NearestRounding where
  arithmetic := exactArithmetic decimal128
  round := fun magnitude => ⌊magnitude + 1 / 2⌋.toNat
  nearest := by
    intro magnitude nonneg
    have floorNonneg : (0 : ℤ) ≤ ⌊magnitude + 1 / 2⌋ := Int.floor_nonneg.2 (by linarith)
    have cast : ((⌊magnitude + 1 / 2⌋.toNat : ℕ) : ℚ) = (⌊magnitude + 1 / 2⌋ : ℚ) := by
      exact_mod_cast Int.toNat_of_nonneg floorNonneg
    rw [cast, abs_le]
    have lower := Int.lt_floor_add_one (magnitude + 1 / 2)
    have upper := Int.floor_le (magnitude + 1 / 2)
    constructor <;> linarith

theorem half_up_exact : roundHalfUp.arithmetic.IsExact :=
  exact_arithmetic_is_exact decimal128

/-- Results have 34 digits. -/
def roundedHalfUp : NearestRounding :=
  { roundHalfUp with arithmetic := nearestArithmetic decimal128 }

namespace NearestRounding

variable (rounding : NearestRounding)

theorem round_natCast (count : ℕ) : rounding.round count = count := by
  have close := rounding.nearest count (Nat.cast_nonneg count)
  have strict : |((rounding.round count : ℤ) : ℚ) - ((count : ℤ) : ℚ)| < 1 := by
    push_cast
    linarith
  rw [← Int.cast_sub, ← Int.cast_abs] at strict
  have zero : |(rounding.round count : ℤ) - (count : ℤ)| < 1 := by exact_mod_cast strict
  have equal := Int.abs_lt_one_iff.1 zero
  omega

end NearestRounding

/-- `value` is an integer multiple of `10 ^ -digits`. -/
def HasFractionDigits (digits : ℕ) (value : ℚ) : Prop :=
  ∃ units : ℤ, value * 10 ^ digits = units

theorem HasFractionDigits.mono {fewer more : ℕ} {value : ℚ} (le : fewer ≤ more)
    (fits : HasFractionDigits fewer value) : HasFractionDigits more value := by
  obtain ⟨units, scaled⟩ := fits
  obtain ⟨extra, rfl⟩ := Nat.exists_eq_add_of_le le
  refine ⟨units * 10 ^ extra, ?_⟩
  push_cast
  rw [← scaled, pow_add]
  ring

theorem HasFractionDigits.int_mul {digits : ℕ} {value : ℚ} (factor : ℤ)
    (fits : HasFractionDigits digits value) : HasFractionDigits digits (factor * value) := by
  obtain ⟨units, scaled⟩ := fits
  exact ⟨factor * units, by push_cast; rw [← scaled]; ring⟩

theorem has_fraction_digits_abs {digits : ℕ} {value : ℚ} :
    HasFractionDigits digits |value| ↔ HasFractionDigits digits value := by
  rcases abs_choice value with same | flipped
  · rw [same]
  · rw [flipped]
    constructor <;> rintro ⟨units, scaled⟩ <;> exact ⟨-units, by push_cast; linarith⟩

/-- A magnitude with at most `digits` fractional digits scales to a natural number. -/
theorem has_fraction_digits_iff_nat {digits : ℕ} {value : ℚ} :
    HasFractionDigits digits value ↔ ∃ units : ℕ, |value| * 10 ^ digits = units := by
  rw [← has_fraction_digits_abs]
  constructor
  · rintro ⟨units, scaled⟩
    have nonneg : (0 : ℚ) ≤ (units : ℚ) := by rw [← scaled]; positivity
    obtain ⟨count, rfl⟩ := Int.eq_ofNat_of_zero_le (by exact_mod_cast nonneg : 0 ≤ units)
    exact ⟨count, by rw [scaled]; norm_cast⟩
  · rintro ⟨units, scaled⟩
    exact ⟨units, by rw [scaled]; norm_cast⟩

/-! ## Digits -/

/-- The `width` low decimal digits of `value`, most significant first. -/
def paddedDigits : ℕ → ℕ → List Char
  | 0, _ => []
  | width + 1, value => paddedDigits width (value / 10) ++ [Nat.digitChar (value % 10)]

def Digits (text : List Char) : Prop := ∀ char ∈ text, char.isDigit

instance (text : List Char) : Decidable (Digits text) :=
  decidable_of_iff (text.all Char.isDigit = true) List.all_eq_true

@[simp] theorem padded_digits_length (width value : ℕ) :
    (paddedDigits width value).length = width := by
  induction width generalizing value with
  | zero => rfl
  | succ width ih => simp [paddedDigits, ih]

theorem padded_digits_are_digits (width value : ℕ) : Digits (paddedDigits width value) := by
  induction width generalizing value with
  | zero => simp [paddedDigits, Digits]
  | succ width ih =>
      intro char member
      rcases List.mem_append.1 member with earlier | last
      · exact ih _ char earlier
      · rw [List.mem_singleton.1 last, Nat.isDigit_digitChar]
        exact decide_eq_true (Nat.mod_lt _ (by decide))

theorem to_digits_are_digits (value : ℕ) : Digits (Nat.toDigits 10 value) :=
  fun _ member => Nat.isDigit_of_mem_toDigits (by decide) (by decide) member

/-- The number a digit string spells. -/
def digitsValue (text : List Char) : ℕ := Nat.ofDigitChars 10 text 0

@[simp] theorem digits_value_to_digits (value : ℕ) :
    digitsValue (Nat.toDigits 10 value) = value :=
  Nat.ofDigitChars_ten_toDigits

theorem digits_value_append_digit (text : List Char) (digit : ℕ) (bound : digit < 10) :
    digitsValue (text ++ [Nat.digitChar digit]) = 10 * digitsValue text + digit := by
  rw [digitsValue, Nat.ofDigitChars_append, Nat.ofDigitChars_cons_digitChar_of_lt_ten bound,
    Nat.ofDigitChars_nil, digitsValue]

theorem digits_value_append_zero (text : List Char) :
    digitsValue (text ++ ['0']) = 10 * digitsValue text :=
  digits_value_append_digit text 0 (by decide)

theorem digits_value_padded (width value : ℕ) :
    digitsValue (paddedDigits width value) = value % 10 ^ width := by
  induction width generalizing value with
  | zero => simp [paddedDigits, digitsValue, Nat.mod_one]
  | succ width ih =>
      rw [paddedDigits, digits_value_append_digit _ _ (Nat.mod_lt _ (by decide)), ih,
        Nat.pow_succ', Nat.mod_mul]
      omega

/-- Of `width` digits, those left after trailing zeros go are as many as the
fractional digits that `value` needs in units of `10 ^ -width`. -/
theorem trimmed_digits_length_le_iff (width value digits : ℕ) (bound : digits ≤ width) :
    ((paddedDigits width value).rdropWhile (· == '0')).length ≤ digits ↔
      10 ^ (width - digits) ∣ value := by
  induction width generalizing value with
  | zero => simp [paddedDigits, Nat.le_zero.1 bound]
  | succ width ih =>
      rw [paddedDigits]
      by_cases zero : value % 10 = 0
      · rw [List.rdropWhile_concat_pos _ _ _ (by simp [zero])]
        have tens : value = 10 * (value / 10) := by omega
        rcases Nat.lt_or_ge width digits with beyond | within
        · have all : digits = width + 1 := by omega
          have prefixLength := (List.rdropWhile_prefix (· == '0')
            (l := paddedDigits width (value / 10))).length_le
          rw [padded_digits_length] at prefixLength
          simp only [all, Nat.sub_self, pow_zero, one_dvd, iff_true]
          omega
        · rw [ih (value / 10) within, Nat.succ_sub within, pow_succ']
          conv_rhs => rw [tens]
          exact (Nat.mul_dvd_mul_iff_left (by decide)).symm
      · have digitNonzero : Nat.digitChar (value % 10) ≠ '0' := by simpa using zero
        rw [List.rdropWhile_concat_neg _ _ _ (by simpa using digitNonzero)]
        rw [List.length_append, padded_digits_length, List.length_singleton]
        constructor
        · intro all
          simp [Nat.sub_eq_zero_of_le all]
        · intro divides
          by_contra less
          have ten : 10 ∣ value :=
            (dvd_pow_self 10 (by omega)).trans divides
          omega

/-! ## Reading a text -/

/-- Digits, or digits, a point and digits. -/
def unsignedValue (text : List Char) : Option ℚ :=
  let whole := text.takeWhile (· != '.')
  if whole = [] ∨ ¬ Digits whole then none
  else
    match text.dropWhile (· != '.') with
    | [] => some (digitsValue whole)
    | _ :: fraction =>
        if fraction = [] ∨ ¬ Digits fraction then none
        else some (digitsValue whole + digitsValue fraction / 10 ^ fraction.length)

/-- The rational that a decimal text denotes, if it is one. -/
def decimalValue : List Char → Option ℚ
  | '-' :: magnitude => (unsignedValue magnitude).map fun value => -value
  | text => unsignedValue text

theorem digits_no_point {text : List Char} (digits : Digits text) :
    ∀ char ∈ text, (char != '.') = true := by
  intro char member
  have isDigit := digits char member
  rw [bne_iff_ne]
  rintro rfl
  exact absurd isDigit (by decide)

theorem unsigned_value_whole {whole : List Char} (nonempty : whole ≠ []) (digits : Digits whole) :
    unsignedValue whole = some (digitsValue whole : ℚ) := by
  have noPoint := digits_no_point digits
  have taken : whole.takeWhile (· != '.') = whole := List.takeWhile_eq_self_iff.2 noPoint
  have dropped : whole.dropWhile (· != '.') = [] := List.dropWhile_eq_nil_iff.2 noPoint
  simp [unsignedValue, taken, dropped, nonempty, digits]

theorem unsigned_value_fraction {whole fraction : List Char} (nonempty : whole ≠ [])
    (digits : Digits whole) (fractionNonempty : fraction ≠ []) (fractionDigits : Digits fraction) :
    unsignedValue (whole ++ '.' :: fraction) =
      some ((digitsValue whole : ℚ) + digitsValue fraction / 10 ^ fraction.length) := by
  have noPoint := digits_no_point digits
  have taken : (whole ++ '.' :: fraction).takeWhile (· != '.') = whole := by
    rw [List.takeWhile_append_of_pos noPoint]
    simp
  have dropped : (whole ++ '.' :: fraction).dropWhile (· != '.') = '.' :: fraction := by
    rw [List.dropWhile_append_of_pos noPoint]
    simp
  simp [unsignedValue, taken, dropped, nonempty, digits, fractionNonempty, fractionDigits]

/-- Trailing zeros of the fraction, and then a bare point, carry no value. -/
theorem unsigned_value_trimmed_fraction {whole : List Char} (nonempty : whole ≠ [])
    (digits : Digits whole) (fraction : List Char) (fractionDigits : Digits fraction) :
    unsignedValue
        (if fraction.rdropWhile (· == '0') = [] then whole
         else whole ++ '.' :: fraction.rdropWhile (· == '0')) =
      some ((digitsValue whole : ℚ) + digitsValue fraction / 10 ^ fraction.length) := by
  induction fraction using List.reverseRecOn with
  | nil => simp [unsigned_value_whole nonempty digits, digitsValue]
  | append_singleton init last ih =>
      have initDigits : Digits init := fun char member =>
        fractionDigits char (List.mem_append_left _ member)
      by_cases zero : last = '0'
      · subst zero
        rw [List.rdropWhile_concat_pos _ _ _ (by rfl), ih initDigits, digits_value_append_zero,
          List.length_append, List.length_singleton, pow_succ]
        congr 2
        push_cast
        field_simp
      · have kept : (init ++ [last]).rdropWhile (· == '0') = init ++ [last] :=
          List.rdropWhile_concat_neg _ _ _ (by simpa using zero)
        rw [kept, if_neg (by simp)]
        exact unsigned_value_fraction nonempty digits (by simp) fractionDigits

/-- Digits, or digits, a point and digits. -/
def IsFixedDecimal (text : List Char) : Prop :=
  ∃ whole, whole ≠ [] ∧ Digits whole ∧
    (text = whole ∨ ∃ fraction, fraction ≠ [] ∧ Digits fraction ∧ text = whole ++ '.' :: fraction)

theorem idx_of_point {whole : List Char} (noPoint : '.' ∉ whole) (fraction : List Char) :
    (whole ++ '.' :: fraction).idxOf? '.' = some whole.length := by
  induction whole with
  | nil => simp [List.idxOf?, List.findIdx?_cons]
  | cons head whole ih =>
      rw [List.mem_cons, not_or] at noPoint
      have later := ih noPoint.2
      simp only [List.idxOf?] at later
      simp [List.idxOf?, List.findIdx?_cons, Ne.symm noPoint.1, later]

theorem digits_of_pointless {text : List Char} (noPoint : '.' ∉ text) :
    (∀ char ∈ text, char = '.' ∨ char.isDigit) ↔ Digits text := by
  refine forall₂_congr fun char member => ?_
  exact or_iff_right fun point => noPoint (point ▸ member)

theorem Digits.noPoint {text : List Char} (digits : Digits text) : '.' ∉ text := by
  intro member
  exact absurd (digits '.' member) (by decide)

theorem is_fixed_decimal_whole {text : List Char} (noPoint : '.' ∉ text) :
    IsFixedDecimal text ↔ text ≠ [] ∧ Digits text := by
  constructor
  · rintro ⟨whole, nonempty, digits, rfl | ⟨fraction, _, _, rfl⟩⟩
    · exact ⟨nonempty, digits⟩
    · exact absurd (by simp) noPoint
  · rintro ⟨nonempty, digits⟩
    exact ⟨text, nonempty, digits, .inl rfl⟩

theorem is_fixed_decimal_fraction {whole fraction : List Char} (noPoint : '.' ∉ whole) :
    IsFixedDecimal (whole ++ '.' :: fraction) ↔
      (whole ≠ [] ∧ Digits whole) ∧ fraction ≠ [] ∧ Digits fraction := by
  constructor
  · rintro ⟨front, nonempty, digits, same | ⟨rest, restNonempty, restDigits, same⟩⟩
    · have point : '.' ∈ front := by simp [← same]
      exact absurd point digits.noPoint
    · have lengths := (idx_of_point noPoint fraction).symm.trans
        ((congrArg _ same).trans (idx_of_point digits.noPoint rest))
      obtain ⟨rfl, tails⟩ := List.append_inj same (Option.some.inj lengths)
      cases tails
      exact ⟨⟨nonempty, digits⟩, restNonempty, restDigits⟩
  · rintro ⟨⟨nonempty, digits⟩, fractionNonempty, fractionDigits⟩
    exact ⟨whole, nonempty, digits, .inr ⟨fraction, fractionNonempty, fractionDigits, rfl⟩⟩

theorem decimal_value_unsigned {text : List Char} (digits : ∀ head ∈ text.head?, head.isDigit) :
    decimalValue text = unsignedValue text := by
  unfold decimalValue
  split
  · exact absurd (digits '-' (by simp)) (by decide)
  · rfl

/-! ## Printing -/

/-- The magnitude in units of `10 ^ -decimals`, rounded. -/
def scaledMagnitude (rounding : NearestRounding) (value : ℚ) (decimals : ℕ) : ℕ :=
  rounding.round (|value| * 10 ^ decimals)

theorem scaled_magnitude_exact (rounding : NearestRounding) {value : ℚ} {decimals : ℕ}
    (fits : HasFractionDigits decimals value) :
    (scaledMagnitude rounding value decimals : ℚ) = |value| * 10 ^ decimals := by
  obtain ⟨units, scaled⟩ := has_fraction_digits_iff_nat.1 fits
  rw [scaledMagnitude, scaled, rounding.round_natCast]

/-- In units of `10 ^ -width`, fewer digits suffice exactly for multiples of a power of ten. -/
theorem has_fraction_digits_iff_dvd (rounding : NearestRounding) {value : ℚ} {width fewer : ℕ}
    (fits : HasFractionDigits width value) (le : fewer ≤ width) :
    HasFractionDigits fewer value ↔
      10 ^ (width - fewer) ∣ scaledMagnitude rounding value width := by
  have scaled := scaled_magnitude_exact rounding fits
  have split : (10 : ℚ) ^ width = 10 ^ fewer * 10 ^ (width - fewer) := by
    rw [← pow_add, Nat.add_sub_cancel' le]
  have positive : (0 : ℚ) < 10 ^ (width - fewer) := by positivity
  rw [has_fraction_digits_iff_nat]
  constructor
  · rintro ⟨units, whole⟩
    refine ⟨units, ?_⟩
    have product : (scaledMagnitude rounding value width : ℚ) =
        10 ^ (width - fewer) * units := by
      rw [scaled, split, ← mul_assoc, whole, mul_comm]
    exact_mod_cast product
  · rintro ⟨units, product⟩
    refine ⟨units, mul_right_cancel₀ positive.ne' ?_⟩
    rw [mul_assoc, ← split, ← scaled, product]
    push_cast
    ring

def signText (value : ℚ) : List Char := if value < 0 then ['-'] else []

def wholeText (rounding : NearestRounding) (value : ℚ) (decimals : ℕ) : List Char :=
  Nat.toDigits 10 (scaledMagnitude rounding value decimals / 10 ^ decimals)

def fractionText (rounding : NearestRounding) (value : ℚ) (decimals : ℕ) : List Char :=
  paddedDigits decimals (scaledMagnitude rounding value decimals)

/-- Fixed notation: sign, whole digits without leading zeros, and exactly
`decimals` fractional digits, with a point only if there is one. -/
def fixedText (rounding : NearestRounding) (value : ℚ) (decimals : ℕ) : List Char :=
  signText value ++ wholeText rounding value decimals ++
    if decimals = 0 then [] else '.' :: fractionText rounding value decimals

theorem whole_text_ne_nil (rounding : NearestRounding) (value : ℚ) (decimals : ℕ) :
    wholeText rounding value decimals ≠ [] := Nat.toDigits_ne_nil

theorem whole_text_digits (rounding : NearestRounding) (value : ℚ) (decimals : ℕ) :
    Digits (wholeText rounding value decimals) := to_digits_are_digits _

theorem fraction_text_digits (rounding : NearestRounding) (value : ℚ) (decimals : ℕ) :
    Digits (fractionText rounding value decimals) := padded_digits_are_digits _ _

theorem whole_text_length_le_iff (rounding : NearestRounding) {value : ℚ} {decimals : ℕ}
    (fits : HasFractionDigits decimals value) {digits : ℕ} (positive : 0 < digits) :
    (wholeText rounding value decimals).length ≤ digits ↔ |value| < 10 ^ digits := by
  have scaled := scaled_magnitude_exact rounding fits
  have power : (0 : ℚ) < 10 ^ decimals := by positivity
  rw [wholeText, Nat.length_toDigits_le_iff (by decide) positive,
    Nat.div_lt_iff_lt_mul (by positivity), ← mul_lt_mul_iff_left₀ power, ← scaled]
  norm_cast

/-- Rounding adds at most one whole digit. -/
theorem whole_text_length_le (rounding : NearestRounding) {value : ℚ} (decimals : ℕ) {digits : ℕ}
    (bound : |value| < 10 ^ digits) :
    (wholeText rounding value decimals).length ≤ digits + 1 := by
  have power : (0 : ℚ) < 10 ^ decimals := by positivity
  have scaledBound : |value| * 10 ^ decimals < 10 ^ digits * 10 ^ decimals :=
    mul_lt_mul_of_pos_right bound power
  have close := abs_le.1 (rounding.nearest (|value| * 10 ^ decimals) (by positivity))
  have below : (scaledMagnitude rounding value decimals : ℚ) < 10 ^ digits * 10 ^ decimals + 1 := by
    rw [scaledMagnitude]
    linarith [close.2]
  have whole : scaledMagnitude rounding value decimals ≤ 10 ^ digits * 10 ^ decimals := by
    exact_mod_cast Nat.lt_add_one_iff.1 (by exact_mod_cast below)
  rw [wholeText, Nat.length_toDigits_le_iff (by decide) (Nat.succ_pos digits)]
  calc
    scaledMagnitude rounding value decimals / 10 ^ decimals
        ≤ 10 ^ digits * 10 ^ decimals / 10 ^ decimals := Nat.div_le_div_right whole
    _ = 10 ^ digits := Nat.mul_div_cancel _ (by positivity)
    _ < 10 ^ (digits + 1) := Nat.pow_lt_pow_right (by decide) (Nat.lt_succ_self digits)

/-- The whole and fractional digits together spell the scaled magnitude. -/
theorem printed_magnitude (rounding : NearestRounding) (value : ℚ) (decimals : ℕ) :
    (digitsValue (wholeText rounding value decimals) : ℚ) +
        digitsValue (fractionText rounding value decimals) / 10 ^ decimals =
      scaledMagnitude rounding value decimals / 10 ^ decimals := by
  rw [wholeText, fractionText, digits_value_to_digits, digits_value_padded]
  have split := Nat.div_add_mod (scaledMagnitude rounding value decimals) (10 ^ decimals)
  have positive : (0 : ℚ) < 10 ^ decimals := by positivity
  rw [eq_div_iff positive.ne', add_mul, div_mul_cancel₀ _ positive.ne']
  exact_mod_cast (by rw [Nat.mul_comm]; exact split)

/-- The value that the printed digits and sign spell. -/
def printedValue (rounding : NearestRounding) (value : ℚ) (decimals : ℕ) : ℚ :=
  if value < 0 then -(scaledMagnitude rounding value decimals / 10 ^ decimals)
  else scaledMagnitude rounding value decimals / 10 ^ decimals

/-- Rounding changes nothing exactly when the value has that few fractional digits. -/
theorem printed_value_eq_iff (rounding : NearestRounding) (value : ℚ) (decimals : ℕ) :
    printedValue rounding value decimals = value ↔ HasFractionDigits decimals value := by
  have positive : (0 : ℚ) < 10 ^ decimals := by positivity
  have magnitude : printedValue rounding value decimals = value ↔
      (scaledMagnitude rounding value decimals : ℚ) / 10 ^ decimals = |value| := by
    unfold printedValue
    split_ifs with negative
    · rw [abs_of_neg negative, neg_eq_iff_eq_neg]
    · rw [abs_of_nonneg (not_lt.1 negative)]
  rw [magnitude, div_eq_iff positive.ne']
  constructor
  · intro exactly
    exact has_fraction_digits_iff_nat.2 ⟨_, exactly.symm⟩
  · exact scaled_magnitude_exact rounding

theorem has_fraction_digits_of_int (digits : ℕ) (value : ℤ) :
    HasFractionDigits digits (value : ℚ) :=
  HasFractionDigits.mono (Nat.zero_le digits) ⟨value, by simp⟩

/-- Digits of `step` suffice for `value`: whatever number of fractional digits writes
`step` exactly also writes `value` exactly. -/
def FractionFits (step value : ℚ) : Prop :=
  ∀ digits, HasFractionDigits digits step → HasFractionDigits digits value

theorem fraction_fits_of_multiple {step value : ℚ} (multiple : ∃ units : ℤ, value = units * step) :
    FractionFits step value := by
  obtain ⟨units, rfl⟩ := multiple
  exact fun digits fits => fits.int_mul units

end CryptoDeal.DecimalText
