import CryptoDeal.Library.DecimalText
import Mathlib.Tactic.IntervalCases

/-!
# Decimal texts as they are typed

A typed number may start or end with its point. What it denotes is read off the
characters alone: all its digits as one number, shifted by the places that stand
after the point.
-/

namespace CryptoDeal.DecimalText

/-- Digits with at most one point, and at least one digit. -/
structure FixedNotation (text : List Char) : Prop where
  characters : ∀ char ∈ text, char.isDigit ∨ char = '.'
  onePoint : text.count '.' ≤ 1
  digit : ∃ char ∈ text, char.isDigit

instance (text : List Char) : Decidable (FixedNotation text) :=
  decidable_of_iff (text.all (fun char => char.isDigit || char == '.') = true ∧
      text.count '.' ≤ 1 ∧ text.any Char.isDigit = true)
    (by
      rw [List.all_eq_true, List.any_eq_true]
      constructor
      · rintro ⟨characters, onePoint, digit⟩
        exact ⟨fun char member => by simpa using characters char member, onePoint, digit⟩
      · rintro ⟨characters, onePoint, digit⟩
        exact ⟨fun char member => by simpa using characters char member, onePoint, digit⟩)

def digitsOf (text : List Char) : List Char := text.filter Char.isDigit

/-- The digits from the first nonzero one on. -/
def significantDigits (text : List Char) : List Char := (digitsOf text).dropWhile (· == '0')

/-- The characters after the first point. -/
def fractionOf (text : List Char) : List Char := (text.dropWhile (· != '.')).drop 1

def denotedValue (text : List Char) : ℚ :=
  digitsValue (digitsOf text) / 10 ^ (fractionOf text).length

/-! ## Digit strings -/

theorem digits_of_self {text : List Char} (digits : Digits text) : digitsOf text = text :=
  List.filter_eq_self.2 digits

theorem digits_of_digits (text : List Char) : Digits (digitsOf text) :=
  fun _ member => (List.mem_filter.1 member).2

theorem digits_value_append (front back : List Char) :
    digitsValue (front ++ back) = digitsValue front * 10 ^ back.length + digitsValue back := by
  rw [digitsValue, Nat.ofDigitChars_append, Nat.ofDigitChars_eq_ofDigitChars_zero, digitsValue,
    digitsValue, Nat.mul_comm]

theorem digit_as_char {char : Char} (digit : char.isDigit) :
    ∃ value < 10, char = Nat.digitChar value ∧ (value = 0 ↔ char = '0') := by
  have bounds : 48 ≤ char.toNat ∧ char.toNat ≤ 57 := by
    simpa [Char.isDigit, UInt32.le_iff_toNat_le] using digit
  have restored : Char.ofNat char.toNat = char := Char.ofNat_toNat char
  generalize char.toNat = code at bounds restored
  obtain ⟨lower, upper⟩ := bounds
  subst restored
  refine ⟨code - 48, by omega, ?_⟩
  interval_cases code <;> decide

theorem digits_value_cons {head : Char} (digit : head.isDigit) (tail : List Char) :
    ∃ value < 10, (value = 0 ↔ head = '0') ∧
      digitsValue (head :: tail) = value * 10 ^ tail.length + digitsValue tail := by
  obtain ⟨value, bound, rfl, zero⟩ := digit_as_char digit
  refine ⟨value, bound, zero, ?_⟩
  have single : digitsValue [Nat.digitChar value] = value := by
    simpa [digitsValue] using digits_value_append_digit [] value bound
  rw [← List.singleton_append, digits_value_append, single]

theorem digits_value_lt_length {text : List Char} (digits : Digits text) :
    digitsValue text < 10 ^ text.length := by
  induction text with
  | nil => simp [digitsValue]
  | cons head tail ih =>
      obtain ⟨value, bound, -, spelled⟩ := digits_value_cons (digits head (by simp)) tail
      have rest := ih fun char member => digits char (List.mem_cons_of_mem _ member)
      have scaled : value * 10 ^ tail.length ≤ 9 * 10 ^ tail.length :=
        Nat.mul_le_mul_right _ (by omega)
      rw [spelled, List.length_cons, pow_succ]
      omega

/-- Digits that do not end in a zero. -/
theorem not_tens_of_last {text : List Char} (digits : Digits text) (nonempty : text ≠ [])
    (trimmed : text.getLast? ≠ some '0') : ¬ 10 ∣ digitsValue text := by
  obtain ⟨init, last, rfl⟩ := (List.eq_nil_or_concat' text).resolve_left nonempty
  obtain ⟨digit, bound, shape, zero⟩ := digit_as_char (digits last (by simp))
  have digitNonzero : digit ≠ 0 := by
    intro none
    apply trimmed
    rw [List.getLast?_concat, zero.1 none]
  rw [shape, digits_value_append_digit _ _ bound]
  omega

/-- As many significant digits as the number has. -/
theorem significant_length_le_iff {text : List Char} (digits : Digits text) (limit : ℕ) :
    (text.dropWhile (· == '0')).length ≤ limit ↔ digitsValue text < 10 ^ limit := by
  induction text with
  | nil => simp [digitsValue]
  | cons head tail ih =>
      have tailDigits : Digits tail := fun char member => digits char (List.mem_cons_of_mem _ member)
      obtain ⟨value, bound, zero, spelled⟩ :=
        digits_value_cons (digits head (by simp)) tail
      by_cases leading : head = '0'
      · rw [spelled, zero.2 leading, leading, List.dropWhile_cons_of_pos (by simp), ih tailDigits]
        simp
      · rw [List.dropWhile_cons_of_neg (by simpa using leading)]
        constructor
        · intro short
          exact (digits_value_lt_length digits).trans_le (Nat.pow_le_pow_right (by decide) short)
        · intro small
          by_contra long
          have nonzero : 1 ≤ value := Nat.one_le_iff_ne_zero.2 fun none => leading (zero.1 none)
          have shift : 10 ^ limit ≤ 10 ^ tail.length :=
            Nat.pow_le_pow_right (by decide) (by rw [List.length_cons] at long; omega)
          have first : 1 * 10 ^ tail.length ≤ value * 10 ^ tail.length :=
            Nat.mul_le_mul_right _ nonzero
          omega

/-! ## The two shapes of a typed number -/

theorem fixed_notation_whole {whole : List Char} (digits : Digits whole) (nonempty : whole ≠ []) :
    FixedNotation whole where
  characters char member := .inl (digits char member)
  onePoint := by rw [List.count_eq_zero_of_not_mem digits.noPoint]; omega
  digit := (List.exists_mem_of_ne_nil _ nonempty).imp fun char member => ⟨member, digits char member⟩

theorem fixed_notation_pointed {whole fraction : List Char} (digits : Digits whole)
    (fractionDigits : Digits fraction) (nonempty : whole ++ fraction ≠ []) :
    FixedNotation (whole ++ '.' :: fraction) where
  characters char member := by
    rcases List.mem_append.1 member with inside | after
    · exact .inl (digits char inside)
    · rcases List.mem_cons.1 after with point | inside
      · exact .inr point
      · exact .inl (fractionDigits char inside)
  onePoint := by
    rw [List.count_append, List.count_cons_self, List.count_eq_zero_of_not_mem digits.noPoint,
      List.count_eq_zero_of_not_mem fractionDigits.noPoint]
  digit := by
    obtain ⟨char, member⟩ := List.exists_mem_of_ne_nil _ nonempty
    rcases List.mem_append.1 member with inside | inside
    · exact ⟨char, by simp [inside], digits char inside⟩
    · exact ⟨char, by simp [inside], fractionDigits char inside⟩

/-- A typed number is digits, or digits around a point. -/
theorem FixedNotation.shape {text : List Char} (fixed : FixedNotation text) :
    (Digits text ∧ text ≠ []) ∨ ∃ whole fraction, Digits whole ∧ Digits fraction ∧
      whole ++ fraction ≠ [] ∧ text = whole ++ '.' :: fraction := by
  obtain ⟨characters, onePoint, digit⟩ := fixed
  by_cases point : '.' ∈ text
  · obtain ⟨whole, fraction, rfl⟩ := List.append_of_mem point
    rw [List.count_append, List.count_cons_self] at onePoint
    have wholeNoPoint : '.' ∉ whole := List.count_eq_zero.1 (by omega)
    have fractionNoPoint : '.' ∉ fraction := List.count_eq_zero.1 (by omega)
    refine .inr ⟨whole, fraction, (digits_of_pointless wholeNoPoint).1 fun char member => ?_,
      (digits_of_pointless fractionNoPoint).1 fun char member => ?_, ?_, rfl⟩
    · exact (characters char (by simp [member])).symm
    · exact (characters char (by simp [member])).symm
    · intro empty
      obtain ⟨char, member, isDigit⟩ := digit
      obtain ⟨rfl, rfl⟩ := List.append_eq_nil_iff.1 empty
      rw [List.mem_singleton.1 member] at isDigit
      exact absurd isDigit (by decide)
  · obtain ⟨char, member, -⟩ := digit
    refine .inl ⟨(digits_of_pointless point).1 fun char member => (characters char member).symm, ?_⟩
    exact List.ne_nil_of_mem member

theorem fraction_of_whole {whole : List Char} (digits : Digits whole) : fractionOf whole = [] := by
  have dropped : whole.dropWhile (· != '.') = [] :=
    List.dropWhile_eq_nil_iff.2 (digits_no_point digits)
  rw [fractionOf, dropped, List.drop_nil]

theorem fraction_of_pointed {whole : List Char} (digits : Digits whole) (fraction : List Char) :
    fractionOf (whole ++ '.' :: fraction) = fraction := by
  rw [fractionOf, List.dropWhile_append_of_pos (digits_no_point digits)]
  simp

theorem digits_of_pointed {whole fraction : List Char} (digits : Digits whole)
    (fractionDigits : Digits fraction) :
    digitsOf (whole ++ '.' :: fraction) = whole ++ fraction := by
  rw [digitsOf, List.filter_append, List.filter_cons_of_neg (by decide)]
  exact congrArg₂ _ (digits_of_self digits) (digits_of_self fractionDigits)

theorem denoted_value_whole {whole : List Char} (digits : Digits whole) :
    denotedValue whole = digitsValue whole := by
  rw [denotedValue, fraction_of_whole digits, digits_of_self digits, List.length_nil, pow_zero,
    div_one]

theorem denoted_value_pointed {whole fraction : List Char} (digits : Digits whole)
    (fractionDigits : Digits fraction) :
    denotedValue (whole ++ '.' :: fraction) =
      digitsValue whole + digitsValue fraction / 10 ^ fraction.length := by
  rw [denotedValue, fraction_of_pointed digits, digits_of_pointed digits fractionDigits,
    digits_value_append, eq_comm, eq_div_iff (by positivity)]
  push_cast
  rw [add_mul, div_mul_cancel₀ _ (by positivity)]

/-- At most `limit` significant digits keep a typed number below `10 ^ limit`. -/
theorem denoted_value_lt {text : List Char} {limit : ℕ}
    (significant : (significantDigits text).length ≤ limit) : denotedValue text < 10 ^ limit := by
  have small := (significant_length_le_iff (digits_of_digits text) limit).1 significant
  calc
    denotedValue text ≤ digitsValue (digitsOf text) :=
      div_le_self (by positivity) (one_le_pow₀ (by norm_num))
    _ < 10 ^ limit := by exact_mod_cast small

/-- A complete decimal text reads as what it denotes as a typed one. -/
theorem IsFixedDecimal.value {text : List Char} (fixed : IsFixedDecimal text) :
    FixedNotation text ∧ decimalValue text = some (denotedValue text) := by
  obtain ⟨whole, nonempty, digits, rfl | ⟨fraction, fractionNonempty, fractionDigits, rfl⟩⟩ := fixed
  · refine ⟨fixed_notation_whole digits nonempty, ?_⟩
    rw [decimal_value_unsigned fun head member => digits head (List.mem_of_mem_head? member),
      unsigned_value_whole nonempty digits, denoted_value_whole digits]
  · refine ⟨fixed_notation_pointed digits fractionDigits (by simp [nonempty]), ?_⟩
    have unsigned : decimalValue (whole ++ '.' :: fraction) =
        unsignedValue (whole ++ '.' :: fraction) := by
      refine decimal_value_unsigned fun head member => ?_
      rw [List.head?_append_of_ne_nil _ nonempty] at member
      exact digits head (List.mem_of_mem_head? member)
    rw [unsigned, unsigned_value_fraction nonempty digits fractionNonempty fractionDigits,
      denoted_value_pointed digits fractionDigits]

/-! ## Precision -/

/-- At most `digits` decimal digits, and as many places as it takes. -/
def FitsPrecision (digits : ℕ) (value : ℚ) : Prop :=
  ∃ coefficient places : ℕ, coefficient < 10 ^ digits ∧ value = coefficient / 10 ^ places

theorem significant_fits {text : List Char} {limit : ℕ}
    (significant : (significantDigits text).length ≤ limit) :
    FitsPrecision limit (denotedValue text) :=
  ⟨_, _, (significant_length_le_iff (digits_of_digits text) limit).1 significant, rfl⟩

/-- A complete decimal text without zeros at the end of its fraction. -/
structure ShortestDecimal (text : List Char) : Prop where
  fixed : IsFixedDecimal text
  trimmed : (fractionOf text).getLast? ≠ some '0'

/-- A shortest text has as few places as its value allows. -/
theorem ShortestDecimal.places_le {text : List Char} (shortest : ShortestDecimal text)
    {coefficient places : ℕ} (value : denotedValue text = coefficient / 10 ^ places) :
    (fractionOf text).length ≤ places := by
  obtain ⟨⟨whole, nonempty, digits, rfl | ⟨fraction, fractionNonempty, fractionDigits, rfl⟩⟩,
    trimmed⟩ := shortest
  · rw [fraction_of_whole digits]
    exact Nat.zero_le places
  · rw [fraction_of_pointed digits] at trimmed ⊢
    by_contra longer
    obtain ⟨extra, split⟩ := Nat.exists_eq_add_of_le (not_le.1 longer)
    have last : (whole ++ fraction).getLast? ≠ some '0' := by
      rwa [List.getLast?_append_of_ne_nil _ fractionNonempty]
    have allDigits : Digits (whole ++ fraction) := fun char member =>
      (List.mem_append.1 member).elim (digits char) (fractionDigits char)
    -- in units of the last place, a value with fewer places is a multiple of ten
    apply not_tens_of_last allDigits (by simp [nonempty]) last
    refine ⟨coefficient * 10 ^ extra, ?_⟩
    rw [denotedValue, fraction_of_pointed digits, digits_of_pointed digits fractionDigits,
      div_eq_div_iff (by positivity) (by positivity), split] at value
    have power : (10 : ℚ) ^ (places.succ + extra) = 10 * 10 ^ extra * 10 ^ places := by
      rw [pow_add, pow_succ]
      ring
    rw [power, ← mul_assoc] at value
    have cancelled := mul_right_cancel₀ (by positivity) value
    rw [← mul_assoc, mul_comm (coefficient : ℚ), mul_assoc] at cancelled
    exact_mod_cast cancelled

theorem ShortestDecimal.significant_iff {text : List Char} (shortest : ShortestDecimal text)
    (limit : ℕ) :
    (significantDigits text).length ≤ limit ↔ FitsPrecision limit (denotedValue text) := by
  refine ⟨significant_fits, ?_⟩
  rintro ⟨coefficient, places, small, value⟩
  refine (significant_length_le_iff (digits_of_digits text) limit).2 ?_
  obtain ⟨extra, split⟩ := Nat.exists_eq_add_of_le (shortest.places_le value)
  have power : (10 : ℚ) ^ ((fractionOf text).length + extra) =
      10 ^ extra * 10 ^ (fractionOf text).length := by ring
  rw [denotedValue, div_eq_div_iff (by positivity) (by positivity), split, power,
    ← mul_assoc] at value
  have scaled : (digitsValue (digitsOf text) : ℚ) * 10 ^ extra = coefficient :=
    mul_right_cancel₀ (by positivity) value
  have natural : digitsValue (digitsOf text) * 10 ^ extra = coefficient := by exact_mod_cast scaled
  calc
    digitsValue (digitsOf text) ≤ digitsValue (digitsOf text) * 10 ^ extra :=
      Nat.le_mul_of_pos_right _ (by positivity)
    _ = coefficient := natural
    _ < 10 ^ limit := small

end CryptoDeal.DecimalText
