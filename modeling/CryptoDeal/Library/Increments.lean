import Mathlib.Algebra.Order.Floor.Ring
import Mathlib.Order.Bounds.Basic
import Mathlib.Tactic.Linarith

/-!
# Multiples of an increment

The multiples around a value in an ordered field with a floor: the least one
not below it, the greatest one not above it, and the nearest positive one.
-/

namespace CryptoDeal.Increments

variable {Value : Type*} [Field Value] [LinearOrder Value]

def IsMultiple (increment value : Value) : Prop := ∃ units : ℤ, value = units * increment

/-- A positive multiple that no other comes closer to; of two equally close ones, the larger. -/
structure NearestMultiple (increment value nearest : Value) : Prop where
  multiple : IsMultiple increment nearest
  positive : 0 < nearest
  closest : ∀ other, IsMultiple increment other → 0 < other →
    |nearest - value| ≤ |other - value|
  tie : ∀ other, IsMultiple increment other → 0 < other →
    |other - value| = |nearest - value| → other ≤ nearest

theorem NearestMultiple.unique {increment value first second : Value}
    (left : NearestMultiple increment value first)
    (right : NearestMultiple increment value second) : first = second := by
  have equallyClose : |first - value| = |second - value| :=
    le_antisymm (left.closest second right.multiple right.positive)
      (right.closest first left.multiple left.positive)
  exact le_antisymm (right.tie first left.multiple left.positive equallyClose)
    (left.tie second right.multiple right.positive equallyClose.symm)

variable [IsStrictOrderedRing Value]

theorem IsMultiple.increment_le {increment value : Value} (positive : 0 < increment)
    (valuePositive : 0 < value) (multiple : IsMultiple increment value) : increment ≤ value := by
  obtain ⟨units, rfl⟩ := multiple
  have sign : (0 : Value) < units := pos_of_mul_pos_left valuePositive positive.le
  have whole : 0 < units := by exact_mod_cast sign
  have atLeastOne : (1 : Value) ≤ units := by exact_mod_cast (by omega : 1 ≤ units)
  exact le_mul_of_one_le_left positive.le atLeastOne

/-- The nearer of the two neighbours, the upper one on a tie or if the lower one is not positive. -/
theorem nearest_of_neighbours {increment value lower upper : Value} (valuePositive : 0 < value)
    (below : IsGreatest { multiple | IsMultiple increment multiple ∧ multiple ≤ value } lower)
    (above : IsLeast { multiple | IsMultiple increment multiple ∧ value ≤ multiple } upper) :
    NearestMultiple increment value
      (if lower ≤ 0 then upper
      else if value - lower < upper - value then lower else upper) := by
  obtain ⟨⟨lowerMultiple, lowerBelow⟩, greatest⟩ := below
  obtain ⟨⟨upperMultiple, upperAbove⟩, least⟩ := above
  have upperPositive : 0 < upper := valuePositive.trans_le upperAbove
  have lowerGap : |lower - value| = value - lower := by
    rw [abs_sub_comm, abs_of_nonneg (sub_nonneg.2 lowerBelow)]
  have upperGap : |upper - value| = upper - value := abs_of_nonneg (sub_nonneg.2 upperAbove)
  -- every other multiple lies beyond one of the two neighbours
  have beyond : ∀ other, IsMultiple increment other →
      (other ≤ lower ∧ |other - value| = value - other) ∨
        (upper ≤ other ∧ |other - value| = other - value) := by
    intro other multiple
    rcases le_total other value with down | up
    · refine .inl ⟨greatest ⟨multiple, down⟩, ?_⟩
      rw [abs_sub_comm, abs_of_nonneg (sub_nonneg.2 down)]
    · exact .inr ⟨least ⟨multiple, up⟩, abs_of_nonneg (sub_nonneg.2 up)⟩
  split_ifs with absent closer
  · refine ⟨upperMultiple, upperPositive, fun other multiple positive => ?_,
      fun other multiple positive same => ?_⟩
    · rcases beyond other multiple with ⟨down, -⟩ | ⟨up, gap⟩
      · exact absurd (positive.trans_le down) (not_lt.2 absent)
      · rw [upperGap, gap]
        linarith
    · rcases beyond other multiple with ⟨down, -⟩ | ⟨-, gap⟩
      · exact absurd (positive.trans_le down) (not_lt.2 absent)
      · rw [upperGap, gap] at same
        linarith
  · refine ⟨lowerMultiple, not_le.1 absent, fun other multiple _ => ?_,
      fun other multiple _ same => ?_⟩
    · rcases beyond other multiple with ⟨down, gap⟩ | ⟨up, gap⟩
      · rw [lowerGap, gap]
        linarith
      · rw [lowerGap, gap]
        linarith
    · rcases beyond other multiple with ⟨down, -⟩ | ⟨up, gap⟩
      · exact down
      · rw [lowerGap, gap] at same
        linarith
  · refine ⟨upperMultiple, upperPositive, fun other multiple _ => ?_,
      fun other multiple _ same => ?_⟩
    · rcases beyond other multiple with ⟨down, gap⟩ | ⟨up, gap⟩
      · rw [upperGap, gap]
        linarith
      · rw [upperGap, gap]
        linarith
    · rcases beyond other multiple with ⟨down, -⟩ | ⟨-, gap⟩
      · linarith
      · rw [upperGap, gap] at same
        linarith

theorem NearestMultiple.le_least {increment value nearest least : Value}
    (closest : NearestMultiple increment value nearest) (valuePositive : 0 < value)
    (above : IsLeast { multiple | IsMultiple increment multiple ∧ value ≤ multiple } least) :
    nearest ≤ least := by
  obtain ⟨⟨multiple, up⟩, -⟩ := above
  by_contra beyond
  have gap := closest.closest least multiple (valuePositive.trans_le up)
  rw [abs_of_nonneg (sub_nonneg.2 up), abs_of_nonneg (by linarith [not_le.1 beyond])] at gap
  linarith

section Floor

variable [FloorRing Value] {increment : Value}

theorem least_multiple (positive : 0 < increment) (value : Value) :
    IsLeast { multiple | IsMultiple increment multiple ∧ value ≤ multiple }
      (⌈value / increment⌉ * increment) := by
  refine ⟨⟨⟨_, rfl⟩, (div_le_iff₀ positive).1 (Int.le_ceil _)⟩, ?_⟩
  rintro other ⟨⟨units, rfl⟩, above⟩
  have ceiling : ⌈value / increment⌉ ≤ units := Int.ceil_le.2 ((div_le_iff₀ positive).2 above)
  exact mul_le_mul_of_nonneg_right (by exact_mod_cast ceiling) positive.le

theorem greatest_multiple (positive : 0 < increment) (value : Value) :
    IsGreatest { multiple | IsMultiple increment multiple ∧ multiple ≤ value }
      (⌊value / increment⌋ * increment) := by
  refine ⟨⟨⟨_, rfl⟩, (le_div_iff₀ positive).1 (Int.floor_le _)⟩, ?_⟩
  rintro other ⟨⟨units, rfl⟩, below⟩
  have floored : units ≤ ⌊value / increment⌋ := Int.le_floor.2 ((le_div_iff₀ positive).2 below)
  exact mul_le_mul_of_nonneg_right (by exact_mod_cast floored) positive.le

end Floor

end CryptoDeal.Increments
