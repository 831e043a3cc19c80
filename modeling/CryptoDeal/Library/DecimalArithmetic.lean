import Mathlib.Algebra.Order.Round
import Mathlib.Data.Int.Log
import Mathlib.Data.Rat.Floor
import Mathlib.Tactic.Linarith
import Mathlib.Tactic.Positivity
import Mathlib.Tactic.Ring

/-!
# Arithmetic on decimals of limited size

An operation is carried out on the rationals and its result is brought back to
a decimal of so many digits: to one of the two decimals around it, which of them
is left open. An arithmetic that leaves every result as it is counts as well, so
what is shown of all of them holds with and without rounding.
-/

namespace CryptoDeal.DecimalArithmetic

/-- Coefficients of so many digits, scaled by powers of ten that are not too small. -/
structure DecimalFormat where
  digits : ℕ
  leastExponent : ℤ
  positive : 0 < digits
  room : leastExponent + 2 * digits ≤ 1

def decimal128 : DecimalFormat where
  digits := 34
  leastExponent := -6176
  positive := by decide
  room := by decide

def DecimalFormat.Holds (format : DecimalFormat) (value : ℚ) : Prop :=
  ∃ coefficient exponent : ℤ, |coefficient| < 10 ^ format.digits ∧
    format.leastExponent ≤ exponent ∧ value = coefficient * 10 ^ exponent

/-- A result stays or becomes a decimal, and never passes a decimal on the way. -/
structure Arithmetic (format : DecimalFormat) where
  toDecimal : ℚ → ℚ
  written : ∀ value, toDecimal value = value ∨ format.Holds (toDecimal value)
  above : ∀ decimal value, format.Holds decimal → decimal ≤ value → decimal ≤ toDecimal value
  below : ∀ decimal value, format.Holds decimal → value ≤ decimal → toDecimal value ≤ decimal

def Arithmetic.IsExact {format : DecimalFormat} (arithmetic : Arithmetic format) : Prop :=
  ∀ value, arithmetic.toDecimal value = value

def exactArithmetic (format : DecimalFormat) : Arithmetic format where
  toDecimal := id
  written := fun _ => .inl rfl
  above := fun _ _ _ => id
  below := fun _ _ _ => id

theorem exact_arithmetic_is_exact (format : DecimalFormat) :
    (exactArithmetic format).IsExact := fun _ => rfl

namespace DecimalFormat

variable {format : DecimalFormat}

theorem holds_int {whole : ℤ} (small : |whole| < 10 ^ format.digits) : format.Holds whole :=
  ⟨whole, 0, small, by have := format.room; have := format.positive; omega, by simp⟩

/-- A coefficient may reach the power of ten itself. -/
theorem holds_scaled {coefficient exponent : ℤ} (bound : |coefficient| ≤ 10 ^ format.digits)
    (room : format.leastExponent ≤ exponent) : format.Holds (coefficient * 10 ^ exponent) := by
  rcases bound.lt_or_eq with small | full
  · exact ⟨coefficient, exponent, small, room, rfl⟩
  · obtain ⟨fewer, digits⟩ := Nat.exists_eq_succ_of_ne_zero format.positive.ne'
    have power : (10 : ℤ) ^ format.digits = 10 ^ fewer * 10 := by rw [digits, pow_succ]
    have smaller : (10 : ℤ) ^ fewer < 10 ^ format.digits := by
      rw [power]
      have positive : (0 : ℤ) < 10 ^ fewer := by positivity
      linarith
    have split : (10 : ℚ) ^ (exponent + 1) = 10 ^ exponent * 10 := by
      rw [zpow_add₀ (by norm_num), zpow_one]
    rcases abs_choice coefficient with same | flipped
    · refine ⟨10 ^ fewer, exponent + 1, by rwa [abs_of_nonneg (by positivity)], by omega, ?_⟩
      rw [← same, full, power, split]
      push_cast
      ring
    · refine ⟨-10 ^ fewer, exponent + 1, ?_, by omega, ?_⟩
      · rwa [abs_neg, abs_of_nonneg (by positivity)]
      · have value : coefficient = -10 ^ format.digits := by rw [← full, flipped, neg_neg]
        rw [value, power, split]
        push_cast
        ring

end DecimalFormat

namespace Arithmetic

variable {format : DecimalFormat} (arithmetic : Arithmetic format)

theorem to_decimal_held {value : ℚ} (held : format.Holds value) :
    arithmetic.toDecimal value = value :=
  le_antisymm (arithmetic.below _ _ held le_rfl) (arithmetic.above _ _ held le_rfl)

/-- A decimal that needs all the digits before the point has none after it. -/
theorem held_whole {value : ℚ} (held : format.Holds value)
    (large : (10 : ℚ) ^ (format.digits - 1) ≤ |value|) : ∃ whole : ℤ, value = whole := by
  obtain ⟨coefficient, exponent, small, -, rfl⟩ := held
  have nonneg : 0 ≤ exponent := by
    by_contra negative
    have shrinks : (10 : ℚ) ^ exponent ≤ 10 ^ (-1 : ℤ) :=
      zpow_le_zpow_right₀ (by norm_num) (by omega)
    obtain ⟨fewer, digits⟩ := Nat.exists_eq_succ_of_ne_zero format.positive.ne'
    have bound : |(coefficient : ℚ)| < 10 ^ fewer * 10 := by
      rw [← pow_succ, ← Nat.succ_eq_add_one, ← digits]
      exact_mod_cast small
    have scale : (0 : ℚ) < 10 ^ exponent := zpow_pos (by norm_num) _
    rw [digits, Nat.succ_sub_one, abs_mul, abs_of_pos scale] at large
    have product : |(coefficient : ℚ)| * 10 ^ exponent ≤ |(coefficient : ℚ)| * 10 ^ (-1 : ℤ) :=
      mul_le_mul_of_nonneg_left shrinks (abs_nonneg _)
    rw [zpow_neg_one] at product
    linarith
  obtain ⟨power, rfl⟩ := Int.eq_ofNat_of_zero_le nonneg
  exact ⟨coefficient * 10 ^ power, by push_cast; rw [zpow_natCast]⟩

theorem to_decimal_int (whole : ℤ) : ∃ rounded : ℤ, arithmetic.toDecimal whole = rounded := by
  rcases lt_or_ge |whole| (10 ^ format.digits) with small | large
  · exact ⟨whole, arithmetic.to_decimal_held (DecimalFormat.holds_int small)⟩
  · rcases arithmetic.written whole with same | held
    · exact ⟨whole, same⟩
    · refine held_whole held (le_trans (pow_le_pow_right₀ (by norm_num) (Nat.sub_le _ _)) ?_)
      have bound : format.Holds ((10 ^ format.digits : ℤ) * (10 : ℚ) ^ (0 : ℤ)) :=
        DecimalFormat.holds_scaled (by simp) (by have := format.room; have := format.positive; omega)
      have power : ((10 ^ format.digits : ℤ) * (10 : ℚ) ^ (0 : ℤ)) = 10 ^ format.digits := by simp
      have opposite : format.Holds (-(10 : ℚ) ^ format.digits) := by
        have scaled : format.Holds ((-10 ^ format.digits : ℤ) * (10 : ℚ) ^ (0 : ℤ)) :=
          DecimalFormat.holds_scaled (by simp)
            (by have := format.room; have := format.positive; omega)
        simpa using scaled
      rw [power] at bound
      have reach : (10 : ℚ) ^ format.digits ≤ |(whole : ℚ)| := by exact_mod_cast large
      rcases le_abs.1 reach with up | down
      · exact le_abs.2 (.inl (arithmetic.above _ _ bound up))
      · refine le_abs.2 (.inr ?_)
        have fallen := arithmetic.below _ _ opposite (le_neg_of_le_neg down)
        linarith

/-- The whole units of a power of ten around a value that has at most that many digits there. -/
theorem units_held {value : ℚ} {exponent units : ℤ} (room : format.leastExponent ≤ exponent)
    (small : |value| < 10 ^ exponent * 10 ^ format.digits)
    (near : |(units : ℚ) - value / 10 ^ exponent| < 1) :
    format.Holds (units * 10 ^ exponent) := by
  apply DecimalFormat.holds_scaled _ room
  have scale : (0 : ℚ) < 10 ^ exponent := zpow_pos (by norm_num) _
  have scaled : |value / 10 ^ exponent| < 10 ^ format.digits := by
    rw [abs_div, abs_of_pos scale, div_lt_iff₀ scale, mul_comm]
    exact small
  have reached : |(units : ℚ)| < (10 ^ format.digits : ℤ) + 1 := by
    have triangle := abs_sub_abs_le_abs_sub (units : ℚ) (value / 10 ^ exponent)
    push_cast
    linarith
  exact Int.lt_add_one_iff.1 (by exact_mod_cast reached)

/-- The exponent of a value's last digit. -/
theorem last_digit {value : ℚ} (nonzero : value ≠ 0) {exponent : ℤ}
    (shift : exponent = Int.log 10 |value| + 1 - format.digits) :
    (10 : ℚ) ^ exponent * 10 ^ (format.digits - 1) ≤ |value| ∧
      |value| < 10 ^ exponent * 10 ^ format.digits := by
  have positive := format.positive
  constructor
  · have floor : ((10 : ℕ) : ℚ) ^ Int.log 10 |value| ≤ |value| :=
      Int.zpow_log_le_self (by decide) (abs_pos.2 nonzero)
    have power : Int.log 10 |value| = exponent + ((format.digits - 1 : ℕ) : ℤ) := by omega
    rwa [power, Nat.cast_ofNat, zpow_add₀ (by norm_num), zpow_natCast] at floor
  · have ceiling : |value| < ((10 : ℕ) : ℚ) ^ (Int.log 10 |value| + 1) :=
      Int.lt_zpow_succ_log_self (by decide) _
    have power : Int.log 10 |value| + 1 = exponent + (format.digits : ℤ) := by omega
    rwa [power, Nat.cast_ofNat, zpow_add₀ (by norm_num), zpow_natCast] at ceiling

/-- A result of usual size moves by less than a unit of its last digit. -/
theorem relative_error {value : ℚ}
    (usual : (10 : ℚ) ^ (format.leastExponent + format.digits - 1) ≤ |value|) :
    |arithmetic.toDecimal value - value| * 10 ^ (format.digits - 1) < |value| := by
  have positive : 0 < |value| := lt_of_lt_of_le (zpow_pos (by norm_num) _) usual
  obtain ⟨exponent, shift⟩ : ∃ exponent : ℤ, exponent = Int.log 10 |value| + 1 - format.digits :=
    ⟨_, rfl⟩
  have room : format.leastExponent ≤ exponent := by
    have reached : format.leastExponent + format.digits - 1 ≤ Int.log 10 |value| :=
      (Int.zpow_le_iff_le_log (by decide) positive).1 (by exact_mod_cast usual)
    omega
  obtain ⟨lower, upper⟩ := last_digit (abs_pos.1 positive) shift
  have scale : (0 : ℚ) < 10 ^ exponent := zpow_pos (by norm_num) _
  have units : value = value / 10 ^ exponent * 10 ^ exponent := (div_mul_cancel₀ _ scale.ne').symm
  have floorLe := Int.floor_le (value / (10 : ℚ) ^ exponent)
  have ltFloor := Int.lt_floor_add_one (value / (10 : ℚ) ^ exponent)
  have leCeil := Int.le_ceil (value / (10 : ℚ) ^ exponent)
  have ceilLt := Int.ceil_lt_add_one (value / (10 : ℚ) ^ exponent)
  have above := arithmetic.above (⌊value / (10 : ℚ) ^ exponent⌋ * 10 ^ exponent) value
    (units_held room upper (abs_lt.2 ⟨by linarith, by linarith⟩))
    (by rw [← le_div_iff₀ scale]; exact floorLe)
  have below := arithmetic.below (⌈value / (10 : ℚ) ^ exponent⌉ * 10 ^ exponent) value
    (units_held room upper (abs_lt.2 ⟨by linarith, by linarith⟩))
    (by rw [← div_le_iff₀ scale]; exact leCeil)
  have near : |arithmetic.toDecimal value - value| < 10 ^ exponent := by
    rw [abs_lt]
    have started : (value / 10 ^ exponent) * 10 ^ exponent <
        (⌊value / 10 ^ exponent⌋ + 1) * 10 ^ exponent := mul_lt_mul_of_pos_right ltFloor scale
    have ended : (⌈value / 10 ^ exponent⌉ : ℚ) * 10 ^ exponent <
        (value / 10 ^ exponent + 1) * 10 ^ exponent := mul_lt_mul_of_pos_right ceilLt scale
    rw [add_mul, one_mul, ← units] at ended
    rw [add_mul, one_mul, ← units] at started
    constructor <;> linarith
  calc
    |arithmetic.toDecimal value - value| * 10 ^ (format.digits - 1)
        < 10 ^ exponent * 10 ^ (format.digits - 1) := mul_lt_mul_of_pos_right near (by positivity)
    _ ≤ |value| := lower

/-! ## Quotients of whole numbers -/

section Quotients

variable {dividend divisor : ℤ}

/-- The quotient of whole numbers with a digit to spare stays between the same whole numbers. -/
theorem quotient_between (positive : 0 < dividend) (divisorPositive : 0 < divisor)
    (small : dividend ≤ 10 ^ (format.digits - 1)) (divisorSmall : divisor ≤ 10 ^ format.digits)
    {whole : ℤ} (above : (whole : ℚ) < dividend / divisor)
    (below : (dividend : ℚ) / divisor < whole + 1) :
    (whole : ℚ) < arithmetic.toDecimal (dividend / divisor) ∧
      arithmetic.toDecimal (dividend / divisor) < whole + 1 := by
  have divisorCast : (0 : ℚ) < divisor := by exact_mod_cast divisorPositive
  have dividendCast : (1 : ℚ) ≤ dividend := by exact_mod_cast positive
  have quotient : (0 : ℚ) < dividend / divisor := div_pos (by linarith) divisorCast
  have usual : (10 : ℚ) ^ (format.leastExponent + format.digits - 1) ≤
      |(dividend : ℚ) / divisor| := by
    have room := format.room
    have shrinks : (10 : ℚ) ^ (format.leastExponent + format.digits - 1) ≤
        10 ^ (-(format.digits : ℤ)) := zpow_le_zpow_right₀ (by norm_num) (by omega)
    have bound : (divisor : ℚ) ≤ 10 ^ format.digits := by exact_mod_cast divisorSmall
    rw [abs_of_pos quotient, le_div_iff₀ divisorCast]
    calc
      (10 : ℚ) ^ (format.leastExponent + format.digits - 1) * divisor
          ≤ 10 ^ (-(format.digits : ℤ)) * 10 ^ format.digits :=
        mul_le_mul shrinks bound divisorCast.le (zpow_nonneg (by norm_num) _)
      _ = 1 := by rw [zpow_neg, zpow_natCast, inv_mul_cancel₀ (by positivity)]
      _ ≤ dividend := dividendCast
  have moved := arithmetic.relative_error usual
  rw [abs_of_pos quotient] at moved
  have bound : (dividend : ℚ) ≤ 10 ^ (format.digits - 1) := by exact_mod_cast small
  have gap : |arithmetic.toDecimal (dividend / divisor) - dividend / divisor| * divisor < 1 := by
    have power : (0 : ℚ) < 10 ^ (format.digits - 1) := by positivity
    have scaled : |arithmetic.toDecimal (dividend / divisor) - dividend / divisor| * divisor *
        10 ^ (format.digits - 1) < 1 * 10 ^ (format.digits - 1) := by
      calc
        _ = |arithmetic.toDecimal (dividend / divisor) - dividend / divisor| *
              10 ^ (format.digits - 1) * divisor := by ring
        _ < dividend / divisor * divisor := mul_lt_mul_of_pos_right moved divisorCast
        _ = dividend := div_mul_cancel₀ _ divisorCast.ne'
        _ ≤ 1 * 10 ^ (format.digits - 1) := by rwa [one_mul]
    exact lt_of_mul_lt_mul_right scaled power.le
  obtain ⟨left, right⟩ := abs_le.1 (le_refl
    |arithmetic.toDecimal (dividend / divisor) - dividend / divisor|)
  -- a quotient that is not whole is at least one part of the divisor away from the next whole one
  have lower : (1 : ℚ) ≤ ((dividend : ℚ) / divisor - whole) * divisor := by
    rw [sub_mul, div_mul_cancel₀ _ divisorCast.ne']
    have strict : (whole : ℚ) * divisor < dividend := (lt_div_iff₀ divisorCast).1 above
    have integral : whole * divisor + 1 ≤ dividend := by exact_mod_cast strict
    have cast : (whole : ℚ) * divisor + 1 ≤ dividend := by exact_mod_cast integral
    linarith
  have upper : (1 : ℚ) ≤ (whole + 1 - (dividend : ℚ) / divisor) * divisor := by
    rw [sub_mul, div_mul_cancel₀ _ divisorCast.ne']
    have strict : (dividend : ℚ) < (whole + 1) * divisor := (div_lt_iff₀ divisorCast).1 below
    have integral : dividend + 1 ≤ (whole + 1) * divisor := by exact_mod_cast strict
    have cast : (dividend : ℚ) + 1 ≤ (whole + 1) * divisor := by exact_mod_cast integral
    linarith
  constructor
  · by_contra reached
    nlinarith
  · by_contra reached
    nlinarith

/-- Such a quotient is a whole number after rounding only if it was one, and is rounded up alike. -/
theorem quotient_whole (positive : 0 < dividend) (divisorPositive : 0 < divisor)
    (small : dividend ≤ 10 ^ (format.digits - 1)) (divisorSmall : divisor ≤ 10 ^ format.digits) :
    ((∃ whole : ℤ, arithmetic.toDecimal (dividend / divisor) = whole) ↔
      ∃ whole : ℤ, (dividend : ℚ) / divisor = whole) ∧
    ⌈arithmetic.toDecimal (dividend / divisor)⌉ = ⌈(dividend : ℚ) / divisor⌉ := by
  have divisorCast : (1 : ℚ) ≤ divisor := by exact_mod_cast divisorPositive
  have dividendCast : (0 : ℚ) < dividend := by exact_mod_cast positive
  by_cases whole : ∃ whole : ℤ, (dividend : ℚ) / divisor = whole
  · obtain ⟨count, same⟩ := whole
    have held : format.Holds ((dividend : ℚ) / divisor) := by
      rw [same]
      apply DecimalFormat.holds_int
      have nonneg : (0 : ℚ) ≤ count := same ▸ (div_pos dividendCast (by linarith)).le
      have bound : (count : ℚ) ≤ dividend := same ▸ div_le_self dividendCast.le divisorCast
      rw [abs_of_nonneg (by exact_mod_cast nonneg)]
      calc
        count ≤ dividend := by exact_mod_cast bound
        _ ≤ 10 ^ (format.digits - 1) := small
        _ < 10 ^ format.digits :=
          pow_lt_pow_right₀ (by norm_num) (Nat.sub_lt format.positive (by decide))
    rw [arithmetic.to_decimal_held held]
    exact ⟨Iff.rfl, rfl⟩
  · have floorBelow : ((⌊(dividend : ℚ) / divisor⌋ : ℤ) : ℚ) < dividend / divisor :=
      lt_of_le_of_ne (Int.floor_le _) fun same => whole ⟨_, same.symm⟩
    obtain ⟨above, below⟩ := arithmetic.quotient_between positive divisorPositive small
      divisorSmall floorBelow (Int.lt_floor_add_one _)
    constructor
    · refine iff_of_false ?_ whole
      rintro ⟨count, same⟩
      rw [same] at above below
      have more : ⌊(dividend : ℚ) / divisor⌋ < count := by exact_mod_cast above
      have less : count < ⌊(dividend : ℚ) / divisor⌋ + 1 := by exact_mod_cast below
      omega
    · have next : ∀ value : ℚ, (⌊(dividend : ℚ) / divisor⌋ : ℚ) < value →
          value < ⌊(dividend : ℚ) / divisor⌋ + 1 → ⌈value⌉ = ⌊(dividend : ℚ) / divisor⌋ + 1 := by
        intro value more less
        rw [Int.ceil_eq_iff]
        push_cast
        exact ⟨by linarith, less.le⟩
      rw [next _ above below, next _ floorBelow (Int.lt_floor_add_one _)]

end Quotients

end Arithmetic

/-! ## Rounding to the nearest decimal -/

/-- The exponent that a value is rounded at. -/
def DecimalFormat.exponent (format : DecimalFormat) (value : ℚ) : ℤ :=
  max format.leastExponent (Int.log 10 |value| + 1 - format.digits)

def DecimalFormat.roundTo (format : DecimalFormat) (value : ℚ) : ℚ :=
  round (value / 10 ^ format.exponent value) * 10 ^ format.exponent value

@[simp] theorem DecimalFormat.exponent_neg (format : DecimalFormat) (value : ℚ) :
    format.exponent (-value) = format.exponent value := by
  rw [DecimalFormat.exponent, abs_neg, DecimalFormat.exponent]

theorem DecimalFormat.Holds.neg {format : DecimalFormat} {value : ℚ} (held : format.Holds value) :
    format.Holds (-value) := by
  obtain ⟨coefficient, exponent, small, room, rfl⟩ := held
  exact ⟨-coefficient, exponent, by rwa [abs_neg], room, by push_cast; ring⟩

theorem exponent_bound (format : DecimalFormat) (value : ℚ) :
    |value| < 10 ^ format.exponent value * 10 ^ format.digits := by
  by_cases zero : value = 0
  · rw [zero, abs_zero]
    exact mul_pos (zpow_pos (by norm_num) _) (by positivity)
  · refine (@Arithmetic.last_digit format value zero _ rfl).2.trans_le ?_
    apply mul_le_mul_of_nonneg_right _ (by positivity)
    exact zpow_le_zpow_right₀ (by norm_num) (le_max_right _ _)

/-- Between a decimal and a value above it there are whole units that the value is rounded in. -/
theorem units_between {format : DecimalFormat} {decimal value : ℚ} (held : format.Holds decimal)
    (below : decimal ≤ value) : ∃ units : ℤ, decimal ≤ units * 10 ^ format.exponent value ∧
      units * 10 ^ format.exponent value ≤ value := by
  obtain ⟨coefficient, exponent, small, room, rfl⟩ := held
  rcases le_or_gt (format.exponent value) exponent with coarse | fine
  · obtain ⟨more, rfl⟩ := Int.le.dest coarse
    have same : (coefficient : ℚ) * 10 ^ (format.exponent value + more) =
        (coefficient * 10 ^ more : ℤ) * 10 ^ format.exponent value := by
      rw [zpow_add₀ (by norm_num), zpow_natCast]
      push_cast
      ring
    exact ⟨_, same.le, same ▸ below⟩
  by_cases zero : value = 0
  · exact ⟨0, by simpa [zero] using below, by simp [zero]⟩
  -- a decimal with finer digits is smaller than the power of ten that the value's digits start at
  have shift : format.exponent value = Int.log 10 |value| + 1 - format.digits := by
    rw [DecimalFormat.exponent] at fine ⊢
    omega
  have lower := (@Arithmetic.last_digit format value zero _ shift).1
  obtain ⟨fewer, digits⟩ := Nat.exists_eq_succ_of_ne_zero format.positive.ne'
  rw [digits, Nat.succ_sub_one, mul_comm] at lower
  have finer : (10 : ℚ) ^ exponent * 10 ≤ 10 ^ format.exponent value := by
    rw [← zpow_add_one₀ (by norm_num)]
    exact zpow_le_zpow_right₀ (by norm_num) (by omega)
  have within : |(coefficient : ℚ) * 10 ^ exponent| ≤
      10 ^ fewer * 10 ^ format.exponent value := by
    have scale : (0 : ℚ) < 10 ^ exponent := zpow_pos (by norm_num) _
    have bound : |(coefficient : ℚ)| < 10 ^ fewer * 10 := by
      rw [← pow_succ, ← Nat.succ_eq_add_one, ← digits]
      exact_mod_cast small
    rw [abs_mul, abs_of_pos scale]
    calc
      |(coefficient : ℚ)| * 10 ^ exponent ≤ 10 ^ fewer * 10 * 10 ^ exponent :=
        mul_le_mul_of_nonneg_right bound.le scale.le
      _ = 10 ^ fewer * (10 ^ exponent * 10) := by ring
      _ ≤ 10 ^ fewer * 10 ^ format.exponent value :=
        mul_le_mul_of_nonneg_left finer (by positivity)
  obtain ⟨left, right⟩ := abs_le.1 within
  rcases le_abs.1 lower with up | down
  · exact ⟨10 ^ fewer, by push_cast; exact right, by push_cast; exact up⟩
  · refine ⟨-10 ^ fewer, ?_, ?_⟩ <;> push_cast <;> linarith

/-- Rounding to whole units passes none of them. -/
theorem units_le_round {value scale : ℚ} {units : ℤ} (positive : 0 < scale)
    (below : units * scale ≤ value) : units * scale ≤ round (value / scale) * scale := by
  have reached : (units : ℚ) ≤ value / scale := (le_div_iff₀ positive).2 below
  have close := (abs_le.1 (abs_sub_round (value / scale))).2
  have next : (units : ℚ) < round (value / scale) + 1 := by linarith
  have whole : units ≤ round (value / scale) := Int.lt_add_one_iff.1 (by exact_mod_cast next)
  exact mul_le_mul_of_nonneg_right (by exact_mod_cast whole) positive.le

theorem round_le_units {value scale : ℚ} {units : ℤ} (positive : 0 < scale)
    (above : value ≤ units * scale) : round (value / scale) * scale ≤ units * scale := by
  have reached : value / scale ≤ units := (div_le_iff₀ positive).2 above
  have close := (abs_le.1 (abs_sub_round (value / scale))).1
  have next : (round (value / scale) : ℚ) < units + 1 := by linarith
  have whole : round (value / scale) ≤ units := Int.lt_add_one_iff.1 (by exact_mod_cast next)
  exact mul_le_mul_of_nonneg_right (by exact_mod_cast whole) positive.le

theorem round_to_held (format : DecimalFormat) (value : ℚ) :
    format.Holds (format.roundTo value) := by
  have close := abs_sub_round (value / (10 : ℚ) ^ format.exponent value)
  rw [abs_sub_comm] at close
  exact Arithmetic.units_held (le_max_left _ _) (exponent_bound format value) (by linarith)

/-- To the nearest decimal; a tie goes up. -/
def nearestArithmetic (format : DecimalFormat) : Arithmetic format where
  toDecimal := format.roundTo
  written := fun value => .inr (round_to_held format value)
  above := by
    intro decimal value held below
    obtain ⟨units, reached, within⟩ := units_between held below
    exact reached.trans (units_le_round (zpow_pos (by norm_num) _) within)
  below := by
    intro decimal value held above
    obtain ⟨units, reached, within⟩ := units_between held.neg (neg_le_neg above)
    rw [DecimalFormat.exponent_neg] at reached within
    refine le_trans (@round_le_units value _ (-units) (zpow_pos (by norm_num) _) ?_) ?_ <;>
      push_cast <;> linarith

end CryptoDeal.DecimalArithmetic
