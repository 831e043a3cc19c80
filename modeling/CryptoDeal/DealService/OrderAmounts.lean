import CryptoDeal.DealService.BinancePlacement
import CryptoDeal.DealService.BybitPlacement

/-!
# Amounts on the wire

The texts of a create call against the amounts that the caller asked for. A
text is written with the digits of the symbol's step or tick, and trailing
zeros are then trimmed whether or not a point precedes them.
-/

namespace CryptoDeal.DealService

open CryptoDeal.DecimalText DecimalConverter

/-- What the placing functions depend on besides the market and the request. -/
structure PlacementContext where
  rounding : NearestRounding
  recvWindow : ℤ := 5000
  fromChars : String → Option Decimal

/-- A placing call. -/
inductive Placement where
  | binanceOrder (request : PlaceOrderRequest)
  | binanceOco (request : PlaceOcoRequest)
  | bybitOrder (request : PlaceOrderRequest)
  | bybitOco (request : PlaceOcoRequest)

def Placement.Requests (context : PlacementContext) (market : Market) :
    Placement → PlacementEffect → Prop
  | .binanceOrder request =>
      market.Requests (Binance.placeOrder context.rounding context.recvWindow request)
  | .binanceOco request =>
      market.Requests (Binance.placeOco context.rounding context.recvWindow request)
  | .bybitOrder request =>
      market.Requests (Bybit.placeOrder context.rounding context.fromChars request)
  | .bybitOco request =>
      market.Requests (Bybit.placeOco context.rounding context.fromChars request)

/-- The text spells the amount, and there is a text only for an amount. -/
def Carries : Option String → Option Decimal → Prop
  | some text, some value => Denotes text value
  | none, none => True
  | _, _ => False

instance (text : Option String) (value : Option Decimal) : Decidable (Carries text value) := by
  cases text <;> cases value <;> unfold Carries <;> infer_instance

/-- The leg of a Bybit OCO that a create call is for. -/
def isStopLeg (body : CreateOrderRequestDto) : Bool := body.orderFilter = some "StopOrder"

/-- The price field of a Bybit OCO leg. -/
def legPrice (request : PlaceOcoRequest) (body : CreateOrderRequestDto) : Option Decimal :=
  if isStopLeg body then request.stopLimitPrice else some request.price

/-- Every quantity and price text of the create call denotes the amount of the request. -/
def AmountsExact : Placement → PlacementEffect → Prop
  | .binanceOrder request, .createBinanceOrder parameterMap =>
      Carries (parameterMap.lookup "quantity") (some request.quantity) ∧
        Carries (parameterMap.lookup "price") (limitPrice request)
  | .binanceOco request, .createBinanceOco parameterMap =>
      Carries (parameterMap.lookup "quantity") (some request.quantity) ∧
        Carries (parameterMap.lookup "abovePrice") (some request.price) ∧
        Carries (parameterMap.lookup "belowPrice") (some (Binance.belowPrice request)) ∧
        Carries (parameterMap.lookup "belowStopPrice") (some request.stopPrice)
  | .bybitOrder request, .createBybitOrder body =>
      Carries (some body.qty) (some request.quantity) ∧ Carries body.price (limitPrice request)
  | .bybitOco request, .createBybitOrder body =>
      Carries (some body.qty) (some request.quantity) ∧
        Carries body.price (legPrice request body) ∧
        (isStopLeg body → Carries body.triggerPrice (some request.stopPrice))
  | _, _ => False

/-- No amount of the request is a nonzero multiple of ten in whole steps, and a
Bybit quantity that no check has aligned to the step has no finer fraction. -/
def AmountsSurvive (market : Market) : Placement → PlacementEffect → Prop
  | .binanceOrder request, _ =>
      ¬ LosesTrailingZeros market.symbolInfo.stepSize request.quantity ∧
        ∀ price ∈ limitPrice request, ¬ LosesTrailingZeros market.symbolInfo.tickSize price
  | .binanceOco request, _ =>
      ¬ LosesTrailingZeros market.symbolInfo.stepSize request.quantity ∧
        ∀ price ∈ [request.price, Binance.belowPrice request, request.stopPrice],
          ¬ LosesTrailingZeros market.symbolInfo.tickSize price
  | .bybitOrder request, _ =>
      (request.side = .sell ∨ Bybit.IsQuoteMarketBuy request →
          FractionFits market.symbolInfo.stepSize request.quantity) ∧
        ¬ LosesTrailingZeros market.symbolInfo.stepSize request.quantity ∧
        ∀ price ∈ limitPrice request, ¬ LosesTrailingZeros market.symbolInfo.tickSize price
  | .bybitOco request, .createBybitOrder body =>
      (request.side = .sell → FractionFits market.symbolInfo.stepSize request.quantity) ∧
        ¬ LosesTrailingZeros market.symbolInfo.stepSize request.quantity ∧
        ∀ price ∈ legPrice request body, ¬ LosesTrailingZeros market.symbolInfo.tickSize price
  | .bybitOco _, _ => False

section Carried

variable {rounding : NearestRounding} {step : Decimal} {text : Option String}
  {value : Option Decimal}

theorem carries_iff (positive : 0 < step) (digits : HasFractionDigits 34 step)
    (carried : CarriesByStep rounding step text value) :
    Carries text value ↔
      ∀ amount ∈ value, FractionFits step amount ∧ ¬ LosesTrailingZeros step amount := by
  cases value with
  | none =>
      cases carried
      simp [Carries]
  | some amount =>
      obtain ⟨written, rfl, formatted⟩ := carried
      simp only [Carries, Option.mem_some_iff, forall_eq']
      exact format_by_step_denotes_iff positive digits formatted

/-- Amounts aligned to the step only have their trailing zeros to lose. -/
theorem carries_multiple_iff (positive : 0 < step) (digits : HasFractionDigits 34 step)
    (carried : CarriesByStep rounding step text value)
    (aligned : ∀ amount ∈ value, ∃ units : ℤ, amount = units * step) :
    Carries text value ↔ ∀ amount ∈ value, ¬ LosesTrailingZeros step amount := by
  rw [carries_iff positive digits carried]
  refine forall₂_congr fun amount member => and_iff_right ?_
  exact fraction_fits_of_multiple (aligned amount member)

end Carried

section Exact

variable {rounding : NearestRounding} {market : Market} (exact : rounding.arithmetic.IsExact)
  (stepPositive : 0 < market.symbolInfo.stepSize) (tickPositive : 0 < market.symbolInfo.tickSize)
  (stepDigits : HasFractionDigits 34 market.symbolInfo.stepSize)
  (tickDigits : HasFractionDigits 34 market.symbolInfo.tickSize)

include stepPositive stepDigits in
theorem carries_quantity_iff {text : Option String} {quantity : Decimal}
    (carried : CarriesByStep rounding market.symbolInfo.stepSize text (some quantity)) :
    Carries text (some quantity) ↔ FractionFits market.symbolInfo.stepSize quantity ∧
      ¬ LosesTrailingZeros market.symbolInfo.stepSize quantity := by
  rw [carries_iff stepPositive stepDigits carried]
  simp

include exact stepPositive stepDigits in
theorem carries_accepted_quantity_iff {text : Option String} {quantity : Decimal}
    (carried : CarriesByStep rounding market.symbolInfo.stepSize text (some quantity))
    (accepted : market.symbolInfo.AcceptsQuantity rounding quantity) :
    Carries text (some quantity) ↔ ¬ LosesTrailingZeros market.symbolInfo.stepSize quantity := by
  rw [carries_quantity_iff stepPositive stepDigits carried]
  exact and_iff_right (fraction_fits_of_multiple
    (SymbolRuleValidator.quantity_valid_increment exact accepted))

include exact tickPositive tickDigits in
theorem carries_accepted_price_iff {text : Option String} {price : Option Decimal}
    (carried : CarriesByStep rounding market.symbolInfo.tickSize text price)
    (accepted : ∀ value ∈ price, market.symbolInfo.AcceptsPrice rounding value) :
    Carries text price ↔
      ∀ value ∈ price, ¬ LosesTrailingZeros market.symbolInfo.tickSize value :=
  carries_multiple_iff tickPositive tickDigits carried fun value member =>
    SymbolRuleValidator.price_valid_increment exact (accepted value member)

include exact stepPositive tickPositive stepDigits tickDigits in
theorem binance_oco_exact_iff {request : PlaceOcoRequest} {parameterMap : ParameterMap}
    (sent : Binance.OcoSent rounding market request parameterMap) :
    AmountsExact (.binanceOco request) (.createBinanceOco parameterMap) ↔
      AmountsSurvive market (.binanceOco request) (.createBinanceOco parameterMap) := by
  have price : ∀ {text : Option String} {value : Decimal},
      CarriesByStep rounding market.symbolInfo.tickSize text (some value) →
      market.symbolInfo.AcceptsPrice rounding value →
      (Carries text (some value) ↔ ¬ LosesTrailingZeros market.symbolInfo.tickSize value) := by
    intro text value carried accepted
    rw [carries_accepted_price_iff exact tickPositive tickDigits carried (by simpa using accepted)]
    simp
  have quantity :=
    carries_accepted_quantity_iff exact stepPositive stepDigits sent.quantity sent.quantityValid
  have above := price sent.abovePrice (sent.priceValid _ (by simp))
  have below := price sent.belowPrice (sent.priceValid _ (by simp))
  have stop := price sent.belowStopPrice (sent.priceValid _ (by simp))
  simp [AmountsExact, AmountsSurvive, quantity, above, below, stop]

include exact stepPositive stepDigits in
/-- A Bybit quantity is aligned by its `BUY` checks, unless it counts quote units. -/
theorem bybit_quantity_exact_iff {request : PlaceOrderRequest} {body : CreateOrderRequestDto}
    (sent : Bybit.OrderSent rounding market request body) :
    Carries (some body.qty) (some request.quantity) ↔
      (request.side = .sell ∨ Bybit.IsQuoteMarketBuy request →
          FractionFits market.symbolInfo.stepSize request.quantity) ∧
        ¬ LosesTrailingZeros market.symbolInfo.stepSize request.quantity := by
  by_cases unchecked : request.side = .sell ∨ Bybit.IsQuoteMarketBuy request
  · rw [carries_quantity_iff stepPositive stepDigits sent.quantity, imp_iff_right unchecked]
  · have buy : request.side = .buy := by
      cases side : request.side with
      | buy => rfl
      | sell => exact absurd (Or.inl side) unchecked
    have rules := sent.buyValid buy
    rw [Bybit.BuyRulesHold, if_neg fun quote => unchecked (.inr quote)] at rules
    rw [carries_accepted_quantity_iff exact stepPositive stepDigits sent.quantity rules.1]
    exact (and_iff_right fun held => absurd held unchecked).symm

include exact stepPositive tickPositive stepDigits tickDigits in
/-- An OCO leg: the stop leg's trigger price is written with all digits. -/
theorem bybit_leg_exact_iff {request : PlaceOcoRequest} {body : CreateOrderRequestDto}
    (sent : Bybit.LegSent rounding market request body) :
    AmountsExact (.bybitOco request) (.createBybitOrder body) ↔
      AmountsSurvive market (.bybitOco request) (.createBybitOrder body) := by
  cases sent with
  | takeProfit linkId sent =>
      have leg : isStopLeg body = false := by
        simp [isStopLeg, sent.orderFilter, Bybit.takeProfitRequest]
      have notQuote : ¬ Bybit.IsQuoteMarketBuy (Bybit.takeProfitRequest request linkId) :=
        fun quote => nomatch quote.1
      have quantity := bybit_quantity_exact_iff exact stepPositive stepDigits sent
      have price :=
        carries_accepted_price_iff exact tickPositive tickDigits sent.price sent.priceValid
      simp only [notQuote, or_false] at quantity
      simp only [AmountsExact, AmountsSurvive, legPrice, leg, Bool.false_eq_true, if_false,
        false_imp_iff, and_true]
      exact (and_congr quantity price).trans and_assoc
  | stopLoss linkId triggerPrice stopPriceValid written sent =>
      have leg : isStopLeg body = true := by
        simp [isStopLeg, sent.orderFilter, Bybit.stopLossRequest]
      have notQuote :
          ¬ Bybit.IsQuoteMarketBuy (Bybit.stopLossRequest request linkId triggerPrice) := by
        rintro ⟨-, -, unit⟩
        simp only [Bybit.stopLossRequest] at unit
        split_ifs at unit
        exact absurd (Option.some.inj unit) (by decide)
      have wire : limitPrice (Bybit.stopLossRequest request linkId triggerPrice) =
          request.stopLimitPrice := by
        cases limit : request.stopLimitPrice <;> simp [limitPrice, Bybit.stopLossRequest, limit]
      have quantity := bybit_quantity_exact_iff exact stepPositive stepDigits sent
      have price :=
        carries_accepted_price_iff exact tickPositive tickDigits sent.price sent.priceValid
      have trigger : Carries body.triggerPrice (some request.stopPrice) := by
        obtain ⟨units, aligned⟩ := SymbolRuleValidator.price_valid_increment exact stopPriceValid
        rw [sent.triggerPrice]
        exact (format_decimal_denotes_iff written).2 (aligned ▸ tickDigits.int_mul units)
      simp only [notQuote, or_false] at quantity
      rw [wire] at price
      simp only [AmountsExact, AmountsSurvive, legPrice, leg, if_true, true_imp_iff, trigger,
        and_true]
      exact (and_congr quantity price).trans and_assoc

end Exact

/-- A create call carries its request's amounts exactly when they survive the formatting. -/
theorem create_call_amounts_exact_iff (context : PlacementContext) (market : Market)
    (exact : context.rounding.arithmetic.IsExact)
    (stepPositive : 0 < market.symbolInfo.stepSize) (tickPositive : 0 < market.symbolInfo.tickSize)
    (stepDigits : HasFractionDigits 34 market.symbolInfo.stepSize)
    (tickDigits : HasFractionDigits 34 market.symbolInfo.tickSize)
    (placement : Placement) (call : PlacementEffect) (creates : call.isCreate)
    (requested : placement.Requests context market call) :
    AmountsExact placement call ↔ AmountsSurvive market placement call := by
  cases placement with
  | binanceOrder request =>
      have sent := (Binance.yields_place_order request).requested requested
      cases call with
      | createBinanceOrder parameterMap =>
          exact and_congr
            (carries_accepted_quantity_iff exact stepPositive stepDigits sent.quantity
              sent.quantityValid)
            (carries_accepted_price_iff exact tickPositive tickDigits sent.price sent.priceValid)
      | createBinanceOco parameterMap => exact sent.elim
      | createBybitOrder body => exact sent.elim
      | _ => cases creates
  | binanceOco request =>
      have sent := (Binance.yields_place_oco request).requested requested
      cases call with
      | createBinanceOco parameterMap =>
          exact binance_oco_exact_iff exact stepPositive tickPositive stepDigits tickDigits sent
      | createBinanceOrder parameterMap => exact sent.elim
      | createBybitOrder body => exact sent.elim
      | _ => cases creates
  | bybitOrder request =>
      have sent := (Bybit.yields_place_order request fun _ sent => sent).requested requested
      cases call with
      | createBybitOrder body =>
          simp only [AmountsExact, AmountsSurvive,
            bybit_quantity_exact_iff exact stepPositive stepDigits sent,
            carries_accepted_price_iff exact tickPositive tickDigits sent.price sent.priceValid,
            and_assoc]
      | createBinanceOrder parameterMap => exact sent.elim
      | createBinanceOco parameterMap => exact sent.elim
      | _ => cases creates
  | bybitOco request =>
      have sent := (Bybit.yields_place_oco request).requested requested
      cases call with
      | createBybitOrder body =>
          exact bybit_leg_exact_iff exact stepPositive tickPositive stepDigits tickDigits sent
      | createBinanceOrder parameterMap => exact sent.elim
      | createBinanceOco parameterMap => exact sent.elim
      | _ => cases creates

/-- A symbol traded in whole units and priced in cents. -/
def wholeUnitMarket : Market where
  symbolInfo := {
    symbol := "DOGEUSDT"
    baseAsset := "DOGE"
    quoteAsset := "USDT"
    tickSize := 1 / 100
    stepSize := 1
    minQty := 1 }
  tickerPrice := 1 / 4

def halfUpContext : PlacementContext where
  rounding := roundHalfUp
  fromChars := fun text => decimalValue text.toList

def marketBuy (quantity : Decimal) : PlaceOrderRequest where
  symbol := "DOGEUSDT"
  side := .buy
  type := .market
  quantity

def marketBuyCall (quantity : String) : PlacementEffect :=
  .createBinanceOrder [("newOrderRespType", "RESULT"), ("quantity", quantity),
    ("recvWindow", "5000"), ("side", "BUY"), ("symbol", "DOGEUSDT"), ("timestamp", "0"),
    ("type", "MARKET")]

theorem whole_unit_step_positive : 0 < wholeUnitMarket.symbolInfo.stepSize := by
  norm_num [wholeUnitMarket]

theorem whole_unit_tick_positive : 0 < wholeUnitMarket.symbolInfo.tickSize := by
  norm_num [wholeUnitMarket]

theorem whole_unit_step_digits : HasFractionDigits 34 wholeUnitMarket.symbolInfo.stepSize :=
  ⟨10 ^ 34, by norm_num [wholeUnitMarket]⟩

theorem whole_unit_tick_digits : HasFractionDigits 34 wholeUnitMarket.symbolInfo.tickSize :=
  ⟨10 ^ 32, by norm_num [wholeUnitMarket]⟩

theorem create_call_amounts_exact_25 :
    AmountsExact (.binanceOrder (marketBuy 25)) (marketBuyCall "25") ↔
      AmountsSurvive wholeUnitMarket (.binanceOrder (marketBuy 25)) (marketBuyCall "25") :=
  create_call_amounts_exact_iff halfUpContext wholeUnitMarket half_up_exact whole_unit_step_positive
    whole_unit_tick_positive whole_unit_step_digits whole_unit_tick_digits
    (.binanceOrder (marketBuy 25)) (marketBuyCall "25") rfl
    (Market.requests_of_first_request (by decide +kernel))

/-- An order for one hundred units goes out as an order for one. -/
theorem create_call_amount_of_100_is_1 :
    0 < wholeUnitMarket.symbolInfo.stepSize ∧ 0 < wholeUnitMarket.symbolInfo.tickSize ∧
      HasFractionDigits 34 wholeUnitMarket.symbolInfo.stepSize ∧
      HasFractionDigits 34 wholeUnitMarket.symbolInfo.tickSize ∧
      (Placement.binanceOrder (marketBuy 100)).Requests halfUpContext wholeUnitMarket
        (marketBuyCall "1") ∧
      ¬ AmountsExact (.binanceOrder (marketBuy 100)) (marketBuyCall "1") := by
  refine ⟨whole_unit_step_positive, whole_unit_tick_positive, whole_unit_step_digits,
    whole_unit_tick_digits, Market.requests_of_first_request (by decide +kernel), ?_⟩
  rintro ⟨quantity, -⟩
  exact absurd quantity (by decide)

end CryptoDeal.DealService
