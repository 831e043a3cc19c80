import CryptoDeal.DealService.DecimalConverter

/-!
# Symbol trading rules

`SymbolRuleValidator`, and the checks that both services build on it. The
services turn a violation into an error text; a text that cannot be formatted
throws instead.
-/

namespace CryptoDeal.DealService

open CryptoDeal.DecimalText

inductive SymbolRuleViolation where
  | none
  | quantityStepUnavailable
  | quantityStepMismatch
  | quantityBelowMinimum
  | quantityAboveMaximum
  | priceTickUnavailable
  | priceTickMismatch
  | priceBelowMinimum
  | priceAboveMaximum
  | notionalBelowMinimum
  | notionalAboveMaximum
  deriving DecidableEq, Repr

structure SymbolRuleValidation where
  violation : SymbolRuleViolation := .none
  correction : Option Decimal := none
  deriving DecidableEq

def SymbolRuleValidation.isValid (validation : SymbolRuleValidation) : Bool :=
  validation.violation = .none

namespace SymbolRuleValidator

open DecimalConverter

variable (rounding : NearestRounding)

def isIncrementValid (value increment : Decimal) : Bool :=
  let units := rounding.arithmetic.toDecimal (value / increment)
  units = (⌊units⌋ : ℤ)

def getNearestIncrement (value increment : Decimal) : Decimal :=
  let toDecimal := rounding.arithmetic.toDecimal
  let lower := floorToStep rounding value increment
  let upper := ceilToStep rounding value increment
  if lower ≤ 0 then upper
  else if toDecimal (value - lower) < toDecimal (upper - value) then lower else upper

def validateQuantity (quantity : Decimal) (symbolInfo : SymbolInfo) : SymbolRuleValidation :=
  if symbolInfo.stepSize ≤ 0 then { violation := .quantityStepUnavailable }
  else if ¬ isIncrementValid rounding quantity symbolInfo.stepSize then
    { violation := .quantityStepMismatch
      correction := some (ceilToStep rounding quantity symbolInfo.stepSize) }
  else if 0 < symbolInfo.minQty ∧ quantity < symbolInfo.minQty then
    { violation := .quantityBelowMinimum }
  else if 0 < symbolInfo.maxQty ∧ symbolInfo.maxQty < quantity then
    { violation := .quantityAboveMaximum }
  else {}

def validatePrice (price : Decimal) (symbolInfo : SymbolInfo) : SymbolRuleValidation :=
  if symbolInfo.tickSize ≤ 0 then { violation := .priceTickUnavailable }
  else if ¬ isIncrementValid rounding price symbolInfo.tickSize then
    { violation := .priceTickMismatch
      correction := some (getNearestIncrement rounding price symbolInfo.tickSize) }
  else if 0 < symbolInfo.minPrice ∧ price < symbolInfo.minPrice then
    { violation := .priceBelowMinimum }
  else if 0 < symbolInfo.maxPrice ∧ symbolInfo.maxPrice < price then
    { violation := .priceAboveMaximum }
  else {}

def validateNotional (notional : Decimal) (symbolInfo : SymbolInfo) : SymbolRuleValidation :=
  if 0 < symbolInfo.minNotional ∧ notional < symbolInfo.minNotional then
    { violation := .notionalBelowMinimum }
  else if 0 < symbolInfo.maxNotional ∧ symbolInfo.maxNotional < notional then
    { violation := .notionalAboveMaximum }
  else {}

end SymbolRuleValidator

section Acceptance

variable (symbolInfo : SymbolInfo) (rounding : NearestRounding)

def SymbolInfo.AcceptsQuantity (quantity : Decimal) : Prop :=
  (SymbolRuleValidator.validateQuantity rounding quantity symbolInfo).isValid = true

def SymbolInfo.AcceptsPrice (price : Decimal) : Prop :=
  (SymbolRuleValidator.validatePrice rounding price symbolInfo).isValid = true

def SymbolInfo.AcceptsNotional (notional : Decimal) : Prop :=
  (SymbolRuleValidator.validateNotional notional symbolInfo).isValid = true

instance (quantity : Decimal) : Decidable (symbolInfo.AcceptsQuantity rounding quantity) :=
  inferInstanceAs (Decidable (_ = true))

instance (price : Decimal) : Decidable (symbolInfo.AcceptsPrice rounding price) :=
  inferInstanceAs (Decidable (_ = true))

instance (notional : Decimal) : Decidable (symbolInfo.AcceptsNotional notional) :=
  inferInstanceAs (Decidable (_ = true))

end Acceptance

namespace SymbolRuleValidator

section Increments

variable {rounding : NearestRounding} {value increment : Decimal}

theorem increment_valid_whole : isIncrementValid rounding value increment ↔
    ∃ units : ℤ, rounding.arithmetic.toDecimal (value / increment) = units := by
  rw [isIncrementValid, decide_eq_true_iff]
  constructor
  · exact fun whole => ⟨_, whole⟩
  · rintro ⟨units, whole⟩
    rw [whole, Int.floor_intCast]

/-- A multiple is valid however results are rounded. -/
theorem increment_valid_of_multiple (positive : 0 < increment) {units : ℤ}
    (multiple : value = units * increment) : isIncrementValid rounding value increment := by
  rw [increment_valid_whole, multiple, mul_div_cancel_right₀ _ positive.ne']
  exact rounding.arithmetic.to_decimal_int units

theorem increment_valid_iff (exact : rounding.arithmetic.IsExact) (positive : 0 < increment) :
    isIncrementValid rounding value increment ↔ ∃ units : ℤ, value = units * increment := by
  rw [increment_valid_whole, exact]
  exact exists_congr fun units => div_eq_iff positive.ne'

/-- On one scale with the increment a value is a multiple if its rounded quotient is whole. -/
theorem increment_valid_scaled {digits : ℕ}
    (scale : DecimalConverter.SharesScale digits value increment)
    (valuePositive : 0 < value) (positive : 0 < increment) :
    isIncrementValid rounding value increment ↔ ∃ units : ℤ, value = units * increment := by
  rw [increment_valid_whole, (scale.quotient valuePositive positive rounding.arithmetic).1]
  exact exists_congr fun units => div_eq_iff positive.ne'

end Increments

section Multiples

variable {rounding : NearestRounding} (exact : rounding.arithmetic.IsExact)
include exact

theorem quantity_valid_increment {quantity : Decimal} {symbolInfo : SymbolInfo}
    (valid : symbolInfo.AcceptsQuantity rounding quantity) :
    ∃ units : ℤ, quantity = units * symbolInfo.stepSize := by
  by_cases unavailable : symbolInfo.stepSize ≤ 0
  · rw [SymbolInfo.AcceptsQuantity, validateQuantity, if_pos unavailable] at valid
    exact absurd valid (by decide)
  · refine (increment_valid_iff exact (not_le.1 unavailable)).1 (by_contra fun mismatch => ?_)
    rw [SymbolInfo.AcceptsQuantity, validateQuantity, if_neg unavailable, if_pos mismatch] at valid
    exact absurd valid (by simp [SymbolRuleValidation.isValid])

theorem price_valid_increment {price : Decimal} {symbolInfo : SymbolInfo}
    (valid : symbolInfo.AcceptsPrice rounding price) :
    ∃ units : ℤ, price = units * symbolInfo.tickSize := by
  by_cases unavailable : symbolInfo.tickSize ≤ 0
  · rw [SymbolInfo.AcceptsPrice, validatePrice, if_pos unavailable] at valid
    exact absurd valid (by decide)
  · refine (increment_valid_iff exact (not_le.1 unavailable)).1 (by_contra fun mismatch => ?_)
    rw [SymbolInfo.AcceptsPrice, validatePrice, if_neg unavailable, if_pos mismatch] at valid
    exact absurd valid (by simp [SymbolRuleValidation.isValid])

end Multiples

def HasNotionalRule (symbolInfo : SymbolInfo) : Prop :=
  0 < symbolInfo.minNotional ∨ 0 < symbolInfo.maxNotional

instance (symbolInfo : SymbolInfo) : Decidable (HasNotionalRule symbolInfo) :=
  inferInstanceAs (Decidable (_ ∨ _))

theorem notional_valid_without_rule {symbolInfo : SymbolInfo}
    (unruled : ¬ HasNotionalRule symbolInfo) (notional : Decimal) :
    symbolInfo.AcceptsNotional notional := by
  rw [HasNotionalRule, not_or] at unruled
  simp [SymbolInfo.AcceptsNotional, validateNotional, unruled.1, unruled.2,
    SymbolRuleValidation.isValid]

end SymbolRuleValidator

/-! ## The services' checks -/

section Checks

open DecimalConverter

variable (rounding : NearestRounding)

/-- `name` with its value on the wrong side of a bound. -/
def boundText (front : String) (value : Decimal) (relation : String) (bound : Decimal) :
    Except ServiceFailure (Option String) := do
  let valueText ← formatDecimal rounding value
  let limitText ← formatDecimal rounding bound
  return some (front ++ valueText ++ relation ++ limitText)

/-- The quantity part of either service's `validateQuantity`. -/
def quantityError (quantity : Decimal) (symbolInfo : SymbolInfo) :
    Except ServiceFailure (Option String) :=
  match (SymbolRuleValidator.validateQuantity rounding quantity symbolInfo).violation with
  | .quantityStepUnavailable => return some "quantity step information is unavailable"
  | .quantityStepMismatch => return some "quantity is not valid for step size"
  | .quantityBelowMinimum =>
      boundText rounding "quantity " quantity " is below minQty " symbolInfo.minQty
  | .quantityAboveMaximum =>
      boundText rounding "quantity " quantity " is above maxQty " symbolInfo.maxQty
  | .none => return none
  | _ => return some "quantity does not satisfy symbol rules"

/-- Either service's `validatePrice`. -/
def priceError (price : Decimal) (symbolInfo : SymbolInfo) :
    Except ServiceFailure (Option String) :=
  match (SymbolRuleValidator.validatePrice rounding price symbolInfo).violation with
  | .priceTickUnavailable => return some "price tick information is unavailable"
  | .priceTickMismatch => return some "price is not valid for tick size"
  | .priceBelowMinimum => boundText rounding "price " price " is below minPrice " symbolInfo.minPrice
  | .priceAboveMaximum => boundText rounding "price " price " is above maxPrice " symbolInfo.maxPrice
  | .none => return none
  | _ => return some "price does not satisfy symbol rules"

/-- The notional check in a service's own words. -/
def notionalError (front below above : String) (notional : Decimal) (symbolInfo : SymbolInfo) :
    Except ServiceFailure (Option String) :=
  match (SymbolRuleValidator.validateNotional notional symbolInfo).violation with
  | .notionalBelowMinimum => boundText rounding front notional below symbolInfo.minNotional
  | .notionalAboveMaximum => boundText rounding front notional above symbolInfo.maxNotional
  | _ => return none

/-- A service's `validateQuantity`, given its notional check. -/
def quantityAndNotionalError
    (checkNotional : Decimal → SymbolInfo → Except ServiceFailure (Option String))
    (quantity price : Decimal) (symbolInfo : SymbolInfo) :
    Except ServiceFailure (Option String) := do
  if let some text ← quantityError rounding quantity symbolInfo then
    return some text
  if SymbolRuleValidator.HasNotionalRule symbolInfo ∧ price ≤ 0 then
    return some "price is required for notional validation"
  if 0 < price then
    return (← checkNotional (quantity * price) symbolInfo)
  return none

variable {rounding}

theorem bound_text_ne_none {front relation : String} {value bound : Decimal} :
    boundText rounding front value relation bound ≠ .ok none := by
  intro silent
  obtain ⟨_, -, rest⟩ := except_bind_ok.1 silent
  obtain ⟨_, -, shown⟩ := except_bind_ok.1 rest
  cases shown

theorem quantity_error_none {quantity : Decimal} {symbolInfo : SymbolInfo}
    (silent : quantityError rounding quantity symbolInfo = .ok none) :
    symbolInfo.AcceptsQuantity rounding quantity := by
  unfold quantityError at silent
  split at silent
  case h_5 accepted => simp [SymbolInfo.AcceptsQuantity, SymbolRuleValidation.isValid, accepted]
  all_goals first
    | exact absurd silent bound_text_ne_none
    | cases silent

theorem price_error_none {price : Decimal} {symbolInfo : SymbolInfo}
    (silent : priceError rounding price symbolInfo = .ok none) :
    symbolInfo.AcceptsPrice rounding price := by
  unfold priceError at silent
  split at silent
  case h_5 accepted => simp [SymbolInfo.AcceptsPrice, SymbolRuleValidation.isValid, accepted]
  all_goals first
    | exact absurd silent bound_text_ne_none
    | cases silent

theorem notional_error_none {front below above : String} {notional : Decimal}
    {symbolInfo : SymbolInfo}
    (silent : notionalError rounding front below above notional symbolInfo = .ok none) :
    symbolInfo.AcceptsNotional notional := by
  unfold notionalError SymbolRuleValidator.validateNotional at silent
  unfold SymbolInfo.AcceptsNotional SymbolRuleValidator.validateNotional
  split_ifs at silent ⊢
  all_goals first
    | exact absurd silent bound_text_ne_none
    | rfl

/-- A silent check means that the quantity is in the rules, and its notional
too unless there is no price to compute one from. -/
theorem quantity_and_notional_error_none
    {checkNotional : Decimal → SymbolInfo → Except ServiceFailure (Option String)}
    {quantity price : Decimal} {symbolInfo : SymbolInfo}
    (sound : ∀ notional, checkNotional notional symbolInfo = .ok none →
      symbolInfo.AcceptsNotional notional)
    (silent : quantityAndNotionalError rounding checkNotional quantity price symbolInfo
      = .ok none) :
    symbolInfo.AcceptsQuantity rounding quantity ∧
      symbolInfo.AcceptsNotional (quantity * price) := by
  obtain ⟨error, quantityChecked, rest⟩ := except_bind_ok.1 silent
  cases error with
  | some text => cases rest
  | none =>
      refine ⟨quantity_error_none quantityChecked, ?_⟩
      by_cases priceless : SymbolRuleValidator.HasNotionalRule symbolInfo ∧ price ≤ 0
      · simp [priceless] at rest
        cases rest
      · simp only [if_neg priceless] at rest
        by_cases positive : 0 < price
        · simp only [if_pos positive] at rest
          exact sound _ rest
        · exact SymbolRuleValidator.notional_valid_without_rule
            (fun ruled => priceless ⟨ruled, not_lt.1 positive⟩) _

end Checks

end CryptoDeal.DealService
