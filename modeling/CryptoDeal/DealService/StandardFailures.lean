import CryptoDeal.DealService.BybitPlacement

/-!
# Standard exceptions

What the checks of a Bybit placement throw is derived from `std::exception`, so a
`catch (const exception &)` around a placement misses nothing of theirs.
-/

namespace CryptoDeal.DealService

open DecimalText DecimalConverter

/-- Not an exception of another kind. -/
def IsStandard {Result : Type} (outcome : Except ServiceFailure Result) : Prop :=
  outcome ≠ .error .nonStandard

section Outcomes

variable {First Result : Type}

theorem standard_ok (result : Result) : IsStandard (.ok result) := by
  intro same
  cases same

theorem standard_runtime (what : String) :
    IsStandard (.error (.runtime what) : Except ServiceFailure Result) := by
  intro same
  cases same

theorem standard_throw_if (condition : Prop) [Decidable condition] (message : String) :
    IsStandard (throwIf condition message) := by
  unfold throwIf
  split_ifs
  · exact standard_runtime message
  · exact standard_ok ()

theorem IsStandard.bind {first : Except ServiceFailure First}
    {next : First → Except ServiceFailure Result} (standard : IsStandard first)
    (continues : ∀ value, IsStandard (next value)) : IsStandard (first >>= next) := by
  cases first with
  | ok value => exact continues value
  | error failure =>
      rintro ⟨⟩
      exact standard rfl

theorem standard_optional_value (option : Option Result) : IsStandard (optionalValue option) := by
  cases option with
  | none => exact standard_runtime _
  | some value => exact standard_ok value

end Outcomes

section Decimals

variable (rounding : NearestRounding)

theorem standard_format_decimal_to (value : Decimal) (decimals : ℤ) :
    IsStandard (formatDecimalTo rounding value decimals) :=
  (standard_throw_if _ _).bind fun _ => standard_ok _

theorem standard_format_decimal (value : Decimal) : IsStandard (formatDecimal rounding value) :=
  standard_format_decimal_to rounding value maxDecimalPlaces

theorem standard_decimals_from_step (step : Decimal) :
    IsStandard (decimalsFromStep rounding step) := by
  unfold decimalsFromStep
  split_ifs
  · exact standard_ok 0
  · apply (standard_format_decimal rounding step).bind
    intro text
    dsimp only
    split <;> exact standard_ok _

theorem standard_format_by_step (value stepSize : Decimal) :
    IsStandard (formatByStep rounding value stepSize) := by
  unfold formatByStep
  split_ifs
  · exact standard_format_decimal rounding value
  · apply (standard_decimals_from_step rounding stepSize).bind
    exact standard_format_decimal_to rounding value

theorem standard_parse_decimal (fromChars : String → Option Decimal) (text : String) :
    IsStandard (parseDecimal fromChars text) := by
  unfold parseDecimal
  split
  · exact standard_ok _
  · exact standard_runtime _

end Decimals

section Checks

variable (rounding : NearestRounding)

theorem standard_bound_text (front relation : String) (value bound : Decimal) :
    IsStandard (boundText rounding front value relation bound) := by
  apply (standard_format_decimal rounding value).bind
  intro valueText
  exact (standard_format_decimal rounding bound).bind fun _ => standard_ok _

theorem standard_quantity_error (quantity : Decimal) (symbolInfo : SymbolInfo) :
    IsStandard (quantityError rounding quantity symbolInfo) := by
  unfold quantityError
  split
  all_goals first
    | exact standard_bound_text rounding _ _ _ _
    | exact standard_ok _

theorem standard_price_error (price : Decimal) (symbolInfo : SymbolInfo) :
    IsStandard (priceError rounding price symbolInfo) := by
  unfold priceError
  split
  all_goals first
    | exact standard_bound_text rounding _ _ _ _
    | exact standard_ok _

theorem standard_notional_error (front below above : String) (notional : Decimal)
    (symbolInfo : SymbolInfo) :
    IsStandard (notionalError rounding front below above notional symbolInfo) := by
  unfold notionalError
  split
  all_goals first
    | exact standard_bound_text rounding _ _ _ _
    | exact standard_ok _

theorem standard_require_no_error {label : String}
    {error : Except ServiceFailure (Option String)} (standard : IsStandard error) :
    IsStandard (requireNoError label error) :=
  standard.bind fun _ => standard_throw_if _ _

theorem standard_check_limit_price (label : String) (request : PlaceOrderRequest)
    (info : SymbolInfo) : IsStandard (checkLimitPrice rounding label request info) := by
  unfold checkLimitPrice
  cases request.type with
  | market => exact standard_ok ()
  | limit =>
      apply (standard_optional_value request.price).bind
      exact fun price => standard_require_no_error (standard_price_error rounding price info)

theorem standard_check_stop_limit_price (label : String) (request : PlaceOcoRequest)
    (info : SymbolInfo) : IsStandard (checkStopLimitPrice rounding label request info) := by
  unfold checkStopLimitPrice
  split
  · exact standard_require_no_error (standard_price_error rounding _ info)
  · exact standard_ok ()

theorem standard_require_quote_balance (info : SymbolInfo) (quoteFree required : Decimal) :
    IsStandard (requireQuoteBalance rounding info quoteFree required) := by
  apply (standard_format_decimal rounding required).bind
  intro requiredText
  apply (standard_format_decimal rounding quoteFree).bind
  intro freeText
  exact (standard_throw_if _ _).bind fun _ => standard_throw_if _ _

theorem standard_require_base_balance (info : SymbolInfo) (baseFree quantity : Decimal) :
    IsStandard (requireBaseBalance rounding info baseFree quantity) := by
  apply (standard_format_decimal rounding quantity).bind
  intro requiredText
  apply (standard_format_decimal rounding baseFree).bind
  exact fun freeText => standard_throw_if _ _

end Checks

namespace Bybit

variable (rounding : NearestRounding)

theorem standard_validate_place_order_request (request : PlaceOrderRequest) :
    IsStandard (validatePlaceOrderRequest request) := by
  apply (standard_throw_if _ _).bind
  intro _
  apply (standard_throw_if _ _).bind
  intro _
  split_ifs
  · exact (standard_throw_if _ _).bind fun _ => standard_throw_if _ _
  · exact standard_ok ()

theorem standard_validate_place_oco_request (request : PlaceOcoRequest) :
    IsStandard (validatePlaceOcoRequest request) := by
  apply (standard_throw_if _ _).bind
  intro _
  apply (standard_throw_if _ _).bind
  intro _
  apply (standard_throw_if _ _).bind
  intro _
  apply (standard_throw_if _ _).bind
  exact fun _ => standard_throw_if _ _

theorem standard_validate_notional (notional : Decimal) (info : SymbolInfo) :
    IsStandard (validateNotional rounding notional info) :=
  standard_notional_error rounding _ _ _ notional info

theorem standard_validate_quantity (quantity price : Decimal) (info : SymbolInfo) :
    IsStandard (validateQuantity rounding quantity price info) := by
  apply (standard_quantity_error rounding quantity info).bind
  intro error
  cases error with
  | some text => exact standard_ok _
  | none =>
      dsimp only
      split_ifs
      · exact standard_ok _
      · exact standard_validate_notional rounding _ info
      · exact standard_ok _

theorem standard_require_within_limit (fromChars : String → Option Decimal)
    (beyond : Decimal → Decimal → Bool) (missing relation : String) (price : Decimal)
    (limitText : Option String) :
    IsStandard (requireWithinLimit rounding fromChars beyond missing relation price limitText) := by
  apply (standard_throw_if _ _).bind
  intro _
  apply (standard_optional_value limitText).bind
  intro text
  apply (standard_parse_decimal fromChars text).bind
  intro limit
  apply (standard_format_decimal rounding price).bind
  intro priceText
  exact (standard_format_decimal rounding limit).bind fun _ => standard_throw_if _ _

theorem standard_limit_fields (request : PlaceOrderRequest) (info : SymbolInfo) :
    IsStandard (limitFields rounding request info) := by
  unfold limitFields
  cases request.type with
  | market => exact standard_ok _
  | limit =>
      apply (standard_optional_value request.price).bind
      intro price
      apply (standard_format_by_step rounding price info.tickSize).bind
      intro text
      exact (standard_optional_value request.timeInForce).bind fun _ => standard_ok _

theorem standard_create_request_body (request : PlaceOrderRequest) (info : SymbolInfo) :
    IsStandard (createRequestBody rounding request info) := by
  apply (standard_format_by_step rounding request.quantity info.stepSize).bind
  intro qty
  exact (standard_limit_fields rounding request info).bind fun _ => standard_ok _

end Bybit

end CryptoDeal.DealService
