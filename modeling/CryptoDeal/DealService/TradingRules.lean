import CryptoDeal.DealService.OrderAmounts

/-!
# Trading rules of sent orders

Which symbol rules hold of an order once its create call goes out. The Bybit
`SELL` side checks the price only, so its quantity and notional are whatever
the caller asked for.
-/

namespace CryptoDeal.DealService

open CryptoDeal.DecimalText

/-- The notional of a market buy in quote units: the quantity itself, or the
product that every other order has. -/
inductive QuoteNotional where
  | quantity
  | product
  deriving DecidableEq

section Rules

variable (rounding : NearestRounding) (market : Market) (reading : QuoteNotional)
  (quoteUnits : Prop) [Decidable quoteUnits]

/-- The amount that the notional rule is about, where there is a price for it. -/
def orderNotional (request : PlaceOrderRequest) : Option Decimal :=
  match request.type, request.price with
  | .limit, some price => some (request.quantity * price)
  | _, _ =>
      if quoteUnits ∧ reading = .quantity then some request.quantity
      else if 0 < market.tickerPrice then some (request.quantity * market.tickerPrice)
      else none

def QuantityRule (request : PlaceOrderRequest) : Prop :=
  ¬ quoteUnits → market.symbolInfo.AcceptsQuantity rounding request.quantity

def NotionalRule (request : PlaceOrderRequest) : Prop :=
  ∀ notional ∈ orderNotional market reading quoteUnits request,
    market.symbolInfo.AcceptsNotional notional

/-- Every rule that applies to the order accepts it. -/
structure OrderRulesHold (request : PlaceOrderRequest) : Prop where
  quantity : QuantityRule rounding market quoteUnits request
  price : ∀ price ∈ limitPrice request, market.symbolInfo.AcceptsPrice rounding price
  notional : NotionalRule market reading quoteUnits request

end Rules

/-- The order that a Bybit OCO leg's create call is for. -/
def legRequest (request : PlaceOcoRequest) (body : CreateOrderRequestDto) : PlaceOrderRequest :=
  if isStopLeg body then
    Bybit.stopLossRequest request (body.orderLinkId.getD "") (body.triggerPrice.getD "")
  else Bybit.takeProfitRequest request (body.orderLinkId.getD "")

/-- The symbol rules accept what the create call asks for. -/
def RulesHold (rounding : NearestRounding) (market : Market) (reading : QuoteNotional) :
    Placement → PlacementEffect → Prop
  | .binanceOrder request, .createBinanceOrder _ =>
      OrderRulesHold rounding market reading False request
  | .binanceOco request, .createBinanceOco _ =>
      market.symbolInfo.AcceptsQuantity rounding request.quantity ∧
        (∀ price ∈ [request.price, Binance.belowPrice request, request.stopPrice],
          market.symbolInfo.AcceptsPrice rounding price) ∧
        ∀ price ∈ [request.price, Binance.belowPrice request],
          market.symbolInfo.AcceptsNotional (request.quantity * price)
  | .bybitOrder request, .createBybitOrder _ =>
      OrderRulesHold rounding market reading (Bybit.IsQuoteMarketBuy request) request
  | .bybitOco request, .createBybitOrder body =>
      OrderRulesHold rounding market reading (Bybit.IsQuoteMarketBuy (legRequest request body))
        (legRequest request body)
  | _, _ => False

/-- What Bybit leaves unchecked: quantity and notional of a `SELL`, and the
product of a market buy in quote units. -/
def BybitUncheckedRulesHold (rounding : NearestRounding) (market : Market)
    (reading : QuoteNotional) (request : PlaceOrderRequest) : Prop :=
  (request.side = .sell → market.symbolInfo.AcceptsQuantity rounding request.quantity ∧
      NotionalRule market reading False request) ∧
    (Bybit.IsQuoteMarketBuy request ∧ reading = .product →
      NotionalRule market reading False request)

def UncheckedRulesHold (rounding : NearestRounding) (market : Market) (reading : QuoteNotional) :
    Placement → PlacementEffect → Prop
  | .bybitOrder request, _ => BybitUncheckedRulesHold rounding market reading request
  | .bybitOco request, .createBybitOrder body =>
      BybitUncheckedRulesHold rounding market reading (legRequest request body)
  | _, _ => True

section Sent

variable {rounding : NearestRounding} {market : Market} {reading : QuoteNotional}

theorem notional_rule_of_product {request : PlaceOrderRequest}
    (accepted : market.symbolInfo.AcceptsNotional (request.quantity * market.orderPrice request)) :
    NotionalRule market reading False request := by
  intro notional member
  unfold orderNotional at member
  split at member
  next price limit known =>
    rw [Market.order_price_of_limit limit known] at accepted
    exact Option.mem_some_iff.1 member ▸ accepted
  next unpriced =>
    rw [Market.order_price_of_unpriced unpriced] at accepted
    simp only [false_and, if_false] at member
    split_ifs at member
    · exact Option.mem_some_iff.1 member ▸ accepted
    · cases member

theorem binance_rules_hold {request : PlaceOrderRequest} {parameterMap : ParameterMap}
    (sent : Binance.OrderSent rounding market request parameterMap) :
    OrderRulesHold rounding market reading False request where
  quantity := fun _ => sent.quantityValid
  price := sent.priceValid
  notional := notional_rule_of_product sent.notionalValid

theorem bybit_rules_hold_iff {request : PlaceOrderRequest} {body : CreateOrderRequestDto}
    (sent : Bybit.OrderSent rounding market request body) :
    OrderRulesHold rounding market reading (Bybit.IsQuoteMarketBuy request) request ↔
      BybitUncheckedRulesHold rounding market reading request := by
  by_cases quote : Bybit.IsQuoteMarketBuy request
  · have buy : request.side ≠ .sell := by simp [quote.2.1]
    have rules := sent.buyValid quote.2.1
    rw [Bybit.BuyRulesHold, if_pos quote] at rules
    cases reading with
    | quantity =>
        have notional : NotionalRule market .quantity (Bybit.IsQuoteMarketBuy request) request := by
          intro notional member
          simp only [orderNotional, quote.1] at member
          rw [if_pos ⟨quote, trivial⟩, Option.mem_some_iff] at member
          exact member ▸ rules
        exact iff_of_true ⟨fun base => absurd quote base, sent.priceValid, notional⟩
          ⟨fun sell => absurd sell buy, fun product => absurd product.2 (by decide)⟩
    | product =>
        have same : orderNotional market .product (Bybit.IsQuoteMarketBuy request) request =
            orderNotional market .product False request := by
          simp [orderNotional]
        constructor
        · intro holds
          refine ⟨fun sell => absurd sell buy, fun _ notional member => ?_⟩
          exact holds.notional notional (same ▸ member)
        · intro unchecked
          refine ⟨fun base => absurd quote base, sent.priceValid, fun notional member => ?_⟩
          exact unchecked.2 ⟨quote, rfl⟩ notional (same ▸ member)
  · have same : orderNotional market reading (Bybit.IsQuoteMarketBuy request) request =
        orderNotional market reading False request := by
      simp [orderNotional, quote]
    cases side : request.side with
    | buy =>
        have rules := sent.buyValid side
        rw [Bybit.BuyRulesHold, if_neg quote] at rules
        have notional : NotionalRule market reading False request :=
          notional_rule_of_product rules.2
        refine iff_of_true ⟨fun _ => rules.1, sent.priceValid, ?_⟩ ⟨fun sell => ?_, fun both => ?_⟩
        · rw [NotionalRule, same]
          exact notional
        · rw [side] at sell
          cases sell
        · exact absurd both.1 quote
    | sell =>
        constructor
        · intro holds
          refine ⟨fun _ => ⟨holds.quantity quote, ?_⟩, fun both => absurd both.1 quote⟩
          have notional := holds.notional
          rwa [NotionalRule, same] at notional
        · intro unchecked
          obtain ⟨quantity, notional⟩ := unchecked.1 side
          refine ⟨fun _ => quantity, sent.priceValid, ?_⟩
          rw [NotionalRule, same]
          exact notional

/-- The leg that a create call names is the leg that was sent. -/
theorem leg_request_sent {request : PlaceOcoRequest} {body : CreateOrderRequestDto}
    (sent : Bybit.LegSent rounding market request body) :
    Bybit.OrderSent rounding market (legRequest request body) body := by
  cases sent with
  | takeProfit linkId sent =>
      have leg : isStopLeg body = false := by
        simp [isStopLeg, sent.orderFilter, Bybit.takeProfitRequest]
      have named : body.orderLinkId = some linkId := sent.orderLinkId
      rw [legRequest, leg, named]
      exact sent
  | stopLoss linkId triggerPrice _ _ sent =>
      have leg : isStopLeg body = true := by
        simp [isStopLeg, sent.orderFilter, Bybit.stopLossRequest]
      have named : body.orderLinkId = some linkId := sent.orderLinkId
      have triggered : body.triggerPrice = some triggerPrice := sent.triggerPrice
      rw [legRequest, leg, named, triggered]
      exact sent

end Sent

/-! ## What a placement that returns has sent -/

/-- Some run in this market returns after these calls. -/
def Market.Returns (market : Market) {Result : Type} (program : PlacementProgram Result)
    (calls : List PlacementEffect) : Prop :=
  ∃ history result, calls = history.map Sigma.fst ∧
    Interaction.Follows (market.contract fun _ => True) program history (.returned result)

theorem Market.returns_by {market : Market} {Result : Type} {program : PlacementProgram Result}
    (found : Interaction.returnsBy market.steadyAnswers program) :
    ∃ calls, market.Returns program calls := by
  have started : Interaction.Follows (market.contract fun _ => True) program [] program := .start
  obtain ⟨history, result, run⟩ := started.returns_by (fun _ => market.steady_answers_kept) found
  exact ⟨_, history, result, rfl, run⟩

def Placement.Returns (context : PlacementContext) (market : Market) :
    Placement → List PlacementEffect → Prop
  | .binanceOrder request =>
      market.Returns (Binance.placeOrder context.rounding context.recvWindow request)
  | .binanceOco request =>
      market.Returns (Binance.placeOco context.rounding context.recvWindow request)
  | .bybitOrder request =>
      market.Returns (Bybit.placeOrder context.rounding context.fromChars request)
  | .bybitOco request =>
      market.Returns (Bybit.placeOco context.rounding context.fromChars request)

/-- The create call of every order that a placement is made of. -/
def SendsEvery (sent : PlacementEffect → Prop) : Placement → Prop
  | .binanceOrder _ => ∃ parameterMap, sent (.createBinanceOrder parameterMap)
  | .binanceOco _ => ∃ parameterMap, sent (.createBinanceOco parameterMap)
  | .bybitOrder _ => ∃ body, sent (.createBybitOrder body)
  | .bybitOco _ => ∀ stopLeg, ∃ body, isStopLeg body = stopLeg ∧ sent (.createBybitOrder body)

section Returned

open Interaction

variable {context : PlacementContext} {market : Market}

theorem market_returns_performed {Result : Type} {program : PlacementProgram Result}
    {such : PlacementEffect → Prop} {calls : List PlacementEffect} (performs : Performs such program)
    (returns : market.Returns program calls) :
    ∃ call, such call ∧ call ∈ calls ∧ market.Requests program call := by
  obtain ⟨history, result, rfl, run⟩ := returns
  obtain ⟨event, member, one⟩ := performs.follows run
  obtain ⟨earlier, next, requested⟩ := run.requested member
  exact ⟨event.1, one, List.mem_map_of_mem member, earlier, next, requested⟩

theorem performs_catch_exception {Result : Type} {program : PlacementProgram Result}
    {handler : String → PlacementProgram Result} {such : PlacementEffect → Prop}
    (performs : Performs such program) (handled : ∀ what, Performs such (handler what)) :
    Performs such (program.catchException handler) := by
  refine performs.handle fun failure => ?_
  cases failure with
  | runtime what => exact handled what
  | interrupted what => exact handled what
  | nonStandard => exact performs_threw _

theorem Binance.performs_place_order (request : PlaceOrderRequest) :
    Performs (fun call => ∃ parameterMap, call = .createBinanceOrder parameterMap)
      (Binance.placeOrder context.rounding context.recvWindow request) := by
  unfold Binance.placeOrder
  refine performs_bind fun _ => performs_bind fun _ => performs_bind fun _ => ?_
  refine performs_bind fun _ => performs_bind fun _ => performs_bind fun _ => ?_
  exact performs_bind fun parameterMap => performs_request ⟨parameterMap, rfl⟩ _

theorem Binance.performs_place_oco (request : PlaceOcoRequest) :
    Performs (fun call => ∃ parameterMap, call = .createBinanceOco parameterMap)
      (Binance.placeOco context.rounding context.recvWindow request) := by
  unfold Binance.placeOco
  refine performs_bind fun _ => performs_bind fun _ => performs_bind fun _ => ?_
  exact performs_bind fun parameterMap => performs_request ⟨parameterMap, rfl⟩ _

theorem Bybit.performs_place_order (request : PlaceOrderRequest) :
    Performs
      (fun call => ∃ body, body.orderFilter = request.orderFilter ∧ call = .createBybitOrder body)
      (Bybit.placeOrder context.rounding context.fromChars request) := by
  unfold Bybit.placeOrder
  refine performs_bind fun _ => performs_bind fun _ => performs_bind fun _ => ?_
  refine performs_bind fun _ => performs_bind fun _ => performs_lift_bind fun body created => ?_
  obtain ⟨-, -, -, -, orderFilter⟩ := Bybit.create_request_body_ok created
  exact performs_bind fun _ => performs_request ⟨body, orderFilter, rfl⟩ _

/-- The create call of one leg. -/
def IsLegCall (stopLeg : Bool) (call : PlacementEffect) : Prop :=
  ∃ body, isStopLeg body = stopLeg ∧ call = .createBybitOrder body

theorem Bybit.performs_leg_order {request : PlaceOrderRequest} {stopLeg : Bool}
    (filtered : decide (request.orderFilter = some "StopOrder") = stopLeg) :
    Performs (IsLegCall stopLeg) (Bybit.placeOrder context.rounding context.fromChars request) := by
  intro history
  apply (Bybit.performs_place_order request history).weaken
  rintro later result ⟨event, member, body, orderFilter, same⟩
  exact ⟨event, member, body, by rw [isStopLeg, orderFilter, filtered], same⟩

theorem Bybit.performs_place_oco (request : PlaceOcoRequest) (stopLeg : Bool) :
    Performs (IsLegCall stopLeg)
      (Bybit.placeOco context.rounding context.fromChars request) := by
  have legs : ∀ groupId first second, Performs (IsLegCall stopLeg)
      (Bybit.placeOcoLegs context.rounding context.fromChars request groupId first second) := by
    intro groupId first second
    cases stopLeg with
    | false =>
        have takeProfit : Performs (IsLegCall false) (Bybit.createTakeProfitOcoRequest
            context.rounding context.fromChars request first) :=
          performs_catch_exception (Bybit.performs_leg_order rfl) fun what => performs_threw _
        exact takeProfit.bind _
    | true =>
        refine performs_bind fun _ => Performs.bind (performs_bind fun triggerPrice => ?_) _
        exact performs_catch_exception (Bybit.performs_leg_order rfl)
          fun what => performs_bind fun _ => performs_threw _
  unfold Bybit.placeOco
  refine performs_bind fun _ => performs_bind fun _ => performs_bind fun _ => ?_
  refine performs_bind fun _ => performs_bind fun _ => performs_bind fun _ => ?_
  refine performs_bind fun _ => performs_bind fun _ => performs_bind fun _ => ?_
  exact ((legs _ _ _).handle fun failure => performs_bind fun _ => performs_threw failure).bind _

/-- No placement returns without its create calls: a refusal is an exception. -/
theorem returned_sends_every {placement : Placement} {calls : List PlacementEffect}
    (returns : placement.Returns context market calls) :
    SendsEvery (fun call => call ∈ calls ∧ placement.Requests context market call) placement := by
  cases placement with
  | binanceOrder request =>
      obtain ⟨_, ⟨parameterMap, rfl⟩, sent⟩ :=
        market_returns_performed (Binance.performs_place_order request) returns
      exact ⟨parameterMap, sent⟩
  | binanceOco request =>
      obtain ⟨_, ⟨parameterMap, rfl⟩, sent⟩ :=
        market_returns_performed (Binance.performs_place_oco request) returns
      exact ⟨parameterMap, sent⟩
  | bybitOrder request =>
      obtain ⟨_, ⟨body, -, rfl⟩, sent⟩ :=
        market_returns_performed (Bybit.performs_place_order request) returns
      exact ⟨body, sent⟩
  | bybitOco request =>
      intro stopLeg
      obtain ⟨_, ⟨body, leg, rfl⟩, sent⟩ :=
        market_returns_performed (Bybit.performs_place_oco request stopLeg) returns
      exact ⟨body, leg, sent⟩

end Returned

/-- Symbol rules hold of a sent order exactly when those hold that Bybit does not check, and a
placement ends with an exception unless it has sent its orders. -/
theorem create_call_rules_hold_iff (context : PlacementContext) (market : Market)
    (reading : QuoteNotional) (placement : Placement) :
    (∀ call, call.isCreate → placement.Requests context market call →
      (RulesHold context.rounding market reading placement call ↔
        UncheckedRulesHold context.rounding market reading placement call)) ∧
    ∀ calls, placement.Returns context market calls →
      SendsEvery (fun call => call ∈ calls ∧ placement.Requests context market call)
        placement := by
  refine ⟨fun call creates requested => ?_, fun calls returns => returned_sends_every returns⟩
  cases placement with
  | binanceOrder request =>
      have sent := (Binance.yields_place_order request).requested requested
      cases call with
      | createBinanceOrder parameterMap => exact iff_of_true (binance_rules_hold sent) trivial
      | createBinanceOco parameterMap => exact sent.elim
      | createBybitOrder body => exact sent.elim
      | _ => cases creates
  | binanceOco request =>
      have sent := (Binance.yields_place_oco request).requested requested
      cases call with
      | createBinanceOco parameterMap =>
          exact iff_of_true ⟨sent.quantityValid, sent.priceValid, sent.notionalValid⟩ trivial
      | createBinanceOrder parameterMap => exact sent.elim
      | createBybitOrder body => exact sent.elim
      | _ => cases creates
  | bybitOrder request =>
      have sent := (Bybit.yields_place_order request fun _ sent => sent).requested requested
      cases call with
      | createBybitOrder body => exact bybit_rules_hold_iff sent
      | createBinanceOrder parameterMap => exact sent.elim
      | createBinanceOco parameterMap => exact sent.elim
      | _ => cases creates
  | bybitOco request =>
      have sent := (Bybit.yields_place_oco request).requested requested
      cases call with
      | createBybitOrder body => exact bybit_rules_hold_iff (leg_request_sent sent)
      | createBinanceOrder parameterMap => exact sent.elim
      | createBinanceOco parameterMap => exact sent.elim
      | _ => cases creates

def bybitMarketSell (quantity : Decimal) : PlaceOrderRequest where
  symbol := "DOGEUSDT"
  side := .sell
  type := .market
  quantity

def bybitMarketSellCall (quantity : String) : PlacementEffect :=
  .createBybitOrder {
    category := "spot"
    symbol := "DOGEUSDT"
    side := "Sell"
    orderType := "Market"
    qty := quantity
    price := none
    timeInForce := none
    orderLinkId := none
    triggerPrice := none
    orderFilter := none
    marketUnit := none }

theorem create_call_rules_hold_sell_25 :
    (RulesHold roundHalfUp wholeUnitMarket .quantity (.bybitOrder (bybitMarketSell 25))
        (bybitMarketSellCall "25") ↔
      UncheckedRulesHold roundHalfUp wholeUnitMarket .quantity (.bybitOrder (bybitMarketSell 25))
        (bybitMarketSellCall "25")) ∧
    ∃ calls body, .createBybitOrder body ∈ calls ∧
      (Placement.bybitOrder (bybitMarketSell 25)).Returns halfUpContext wholeUnitMarket calls := by
  obtain ⟨rules, sends⟩ := create_call_rules_hold_iff halfUpContext wholeUnitMarket .quantity
    (.bybitOrder (bybitMarketSell 25))
  constructor
  · exact rules _ rfl (Market.requests_of_first_request (by decide +kernel))
  · obtain ⟨calls, returns⟩ : ∃ calls, (Placement.bybitOrder (bybitMarketSell 25)).Returns
        halfUpContext wholeUnitMarket calls := Market.returns_by (by decide +kernel)
    obtain ⟨body, sent, -⟩ := sends calls returns
    exact ⟨calls, body, sent, returns⟩

/-- A `SELL` of half a unit is sent to a market of whole units. -/
theorem create_call_breaks_quantity_rule :
    (Placement.bybitOrder (bybitMarketSell (1 / 2))).Requests halfUpContext wholeUnitMarket
        (bybitMarketSellCall "1") ∧
      ∀ reading, ¬ RulesHold roundHalfUp wholeUnitMarket reading
        (.bybitOrder (bybitMarketSell (1 / 2))) (bybitMarketSellCall "1") := by
  refine ⟨Market.requests_of_first_request (by decide +kernel), fun reading holds => ?_⟩
  have accepted := holds.quantity (by decide)
  exact absurd accepted (by decide +kernel)

end CryptoDeal.DealService
