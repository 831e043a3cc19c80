import CryptoDeal.DealService.Placement

/-!
# Placing Bybit orders

`BybitDealService::placeOrder` and `placeOco`, whose two legs are orders of
their own, and what an order has passed by the time its create call goes out.
`fromChars` reads the exchange's decimal texts.
-/

namespace CryptoDeal.DealService.Bybit

open CryptoDeal.DecimalText DecimalConverter PlacementProgram Interaction

def sideText : OrderOperation → String
  | .buy => "Buy"
  | .sell => "Sell"

def typeText : OrderType → String
  | .market => "Market"
  | .limit => "Limit"

def categoryText : OrderCategory → String
  | .spot => "spot"

def ocoGroupIdMaxLength : ℕ := 33

def validatePlaceOrderRequest (request : PlaceOrderRequest) : Except ServiceFailure Unit := do
  throwIf (request.symbol = "") "Symbol cannot be empty"
  throwIf (request.quantity ≤ 0) "Quantity must be greater than 0"
  if request.type = .limit then
    throwIf (request.price.all (· ≤ 0)) "Price must be > 0 for LIMIT orders"
    throwIf (request.timeInForce.all (· = "")) "TimeInForce required for LIMIT orders"

def validatePlaceOcoRequest (request : PlaceOcoRequest) : Except ServiceFailure Unit := do
  throwIf (request.symbol = "") "Symbol cannot be empty"
  throwIf (request.quantity ≤ 0) "Quantity must be greater than 0"
  throwIf (request.price ≤ 0) "Price must be greater than 0"
  throwIf (request.stopPrice ≤ 0) "StopPrice must be greater than 0"
  throwIf (request.stopLimitPrice.any (· ≤ 0)) "StopLimitPrice must be greater than 0 if set"

/-- A `BUY` that counts its quantity in the quote asset. -/
def IsQuoteMarketBuy (request : PlaceOrderRequest) : Prop :=
  request.type = .market ∧ request.side = .buy ∧ request.marketUnit = some "quoteCoin"

instance (request : PlaceOrderRequest) : Decidable (IsQuoteMarketBuy request) :=
  inferInstanceAs (Decidable (_ ∧ _))

section Programs

variable (rounding : NearestRounding) (fromChars : String → Option Decimal)

def validateNotional (notional : Decimal) (info : SymbolInfo) :
    Except ServiceFailure (Option String) :=
  notionalError rounding "" " is below minOrderAmt " " is above maxOrderAmt " notional info

def validateQuantity (quantity price : Decimal) (info : SymbolInfo) :
    Except ServiceFailure (Option String) :=
  quantityAndNotionalError rounding (validateNotional rounding) quantity price info

def validatePrice (price : Decimal) (info : SymbolInfo) : Except ServiceFailure (Option String) :=
  priceError rounding price info

/-- One side of `validateOrderPriceLimit`. -/
def requireWithinLimit (beyond : Decimal → Decimal → Bool) (missing relation : String)
    (price : Decimal) (limitText : Option String) : Except ServiceFailure Unit := do
  throwIf (limitText.all (· = "")) missing
  let limit ← parseDecimal fromChars (← optionalValue limitText)
  let priceText ← formatDecimal rounding price
  let limitText ← formatDecimal rounding limit
  throwIf (beyond price limit) ("Bybit placeOrder: price " ++ priceText ++ relation ++ limitText)

def validateOrderPriceLimit (request : PlaceOrderRequest) : PlacementProgram Unit :=
  match request.type with
  | .market => pure ()
  | .limit => do
      let priceLimit ← getOrderPriceLimit request.symbol request.category
      let price ← optionalValue request.price
      match request.side with
      | .buy =>
          requireWithinLimit rounding fromChars (fun price limit => limit < price)
            "Bybit placeOrder: missing buyLmt in price limit response" " is above buyLmt "
            price priceLimit.buyLmt
      | .sell =>
          requireWithinLimit rounding fromChars (fun price limit => price < limit)
            "Bybit placeOrder: missing sellLmt in price limit response" " is below sellLmt "
            price priceLimit.sellLmt

/-- The rule checks of a `BUY`, and the quote amount that it needs. -/
def requiredQuoteAmount (request : PlaceOrderRequest) (info : SymbolInfo) :
    PlacementProgram Decimal :=
  match request.type, request.price with
  | .limit, some price => do
      requireNoError "Bybit placeOrder: notional "
        (validateQuantity rounding request.quantity price info)
      return request.quantity * price
  | _, _ =>
      if IsQuoteMarketBuy request then do
        requireNoError "Bybit placeOrder: quote quantity "
          (validateNotional rounding request.quantity info)
        return request.quantity
      else do
        let marketLastPrice ← getTickerPrice request.symbol
        requireNoError "Bybit placeOrder: notional "
          (validateQuantity rounding request.quantity marketLastPrice info)
        return if 0 < marketLastPrice then request.quantity * marketLastPrice else 0

def checkBalance (request : PlaceOrderRequest) (info : SymbolInfo) : PlacementProgram Unit :=
  match request.side with
  | .buy => do
      let quoteFree ← freeBalance info.quoteAsset
      let required ← requiredQuoteAmount rounding request info
      requireQuoteBalance rounding info quoteFree required
  -- no symbol rule is looked at on this side
  | .sell => do
      let baseFree ← freeBalance info.baseAsset
      requireBaseBalance rounding info baseFree request.quantity

/-- The price and the time in force that a `LIMIT` body carries. -/
def limitFields (request : PlaceOrderRequest) (info : SymbolInfo) :
    Except ServiceFailure (Option String × Option String) :=
  match request.type with
  | .limit => do
      let price ← formatByStep rounding (← optionalValue request.price) info.tickSize
      let timeInForce ← optionalValue request.timeInForce
      return (some price, some timeInForce)
  | .market => return (none, none)

def createRequestBody (request : PlaceOrderRequest) (info : SymbolInfo) :
    Except ServiceFailure CreateOrderRequestDto := do
  let qty ← formatByStep rounding request.quantity info.stepSize
  let (price, timeInForce) ← limitFields rounding request info
  return {
    category := categoryText request.category
    symbol := request.symbol
    side := sideText request.side
    orderType := typeText request.type
    qty
    price
    timeInForce
    orderLinkId := request.clientOrderId
    triggerPrice := request.triggerPrice
    orderFilter := request.orderFilter
    marketUnit := request.marketUnit }

def placeOrder (request : PlaceOrderRequest) : PlacementProgram OrderInfo := do
  validatePlaceOrderRequest request
  let info ← getSymbolInfo request.symbol request.category
  checkLimitPrice rounding "Bybit placeOrder: " request info
  validateOrderPriceLimit rounding fromChars request
  checkBalance rounding request info
  let body ← createRequestBody rounding request info
  let _timestamp ← getServerTimestamp
  createBybitOrder body

def buyCryptoRequest (baseAsset quoteAsset : String) (quantity : Decimal) : PlaceOrderRequest :=
  { marketRequest .buy baseAsset quoteAsset quantity with marketUnit := some "baseCoin" }

def buyCrypto (baseAsset quoteAsset : String) (quantity : Decimal) : PlacementProgram OrderInfo :=
  placeOrder rounding fromChars (buyCryptoRequest baseAsset quoteAsset quantity)

def sellCrypto (baseAsset quoteAsset : String) (quantity : Decimal) : PlacementProgram OrderInfo :=
  placeOrder rounding fromChars (marketRequest .sell baseAsset quoteAsset quantity)

def takeProfitRequest (request : PlaceOcoRequest) (takeProfitOrderLinkId : String) :
    PlaceOrderRequest where
  symbol := request.symbol
  side := request.side
  type := .limit
  quantity := request.quantity
  price := some request.price
  timeInForce := some "GTC"
  clientOrderId := some takeProfitOrderLinkId

def stopLossRequest (request : PlaceOcoRequest) (stopLossOrderLinkId triggerPrice : String) :
    PlaceOrderRequest where
  symbol := request.symbol
  side := request.side
  type := if request.stopLimitPrice.isSome then .limit else .market
  quantity := request.quantity
  price := request.stopLimitPrice
  timeInForce := request.stopLimitPrice.map fun _ => request.stopLimitTimeInForce.getD "GTC"
  clientOrderId := some stopLossOrderLinkId
  triggerPrice := some triggerPrice
  orderFilter := some "StopOrder"
  marketUnit := if request.stopLimitPrice.isSome then none else some "baseCoin"

def createTakeProfitOcoRequest (request : PlaceOcoRequest) (takeProfitOrderLinkId : String) :
    PlacementProgram OrderInfo :=
  catchException (placeOrder rounding fromChars (takeProfitRequest request takeProfitOrderLinkId))
    fun what => .threw (.runtime ("Bybit placeOco: failed to place TP leg: " ++ what))

def rollbackOcoRequests (request : PlaceOcoRequest) (takeProfitOrderLinkId : String) :
    PlacementProgram (Option String) :=
  catchException
    (do
      let _ ← cancelOrder { symbol := request.symbol, clientOrderId := some takeProfitOrderLinkId }
      return none)
    fun what => return some ("; Rollback failed: " ++ what)

def createStopLossOcoRequest (request : PlaceOcoRequest)
    (stopLossOrderLinkId takeProfitOrderLinkId : String) : PlacementProgram OrderInfo := do
  let triggerPrice ← formatDecimal rounding request.stopPrice
  catchException
    (placeOrder rounding fromChars (stopLossRequest request stopLossOrderLinkId triggerPrice))
    fun what => do
      let rollbackError ← rollbackOcoRequests request takeProfitOrderLinkId
      .threw (.runtime ("Bybit placeOco: failed to place SL leg: " ++ what ++
        rollbackError.getD ""))

def createOcoGroup (request : PlaceOcoRequest)
    (groupId takeProfitOrderLinkId stopLossOrderLinkId : String)
    (takeProfitOrderInfo stopLossOrderInfo : OrderInfo) : BybitOcoGroup where
  groupId
  takeProfit := {
    symbol := request.symbol
    orderId := some takeProfitOrderInfo.orderId
    clientOrderId := some takeProfitOrderLinkId }
  stopLeg := {
    symbol := request.symbol
    orderId := some stopLossOrderInfo.orderId
    clientOrderId := some stopLossOrderLinkId }
  tpOrderLinkId := takeProfitOrderLinkId
  slOrderLinkId := stopLossOrderLinkId

/-- Both legs and the group, while the placement is registered. -/
def placeOcoLegs (request : PlaceOcoRequest)
    (groupId takeProfitOrderLinkId stopLossOrderLinkId : String) :
    PlacementProgram (OrderInfo × OrderInfo × Option String) := do
  let takeProfitOrderInfo ←
    createTakeProfitOcoRequest rounding fromChars request takeProfitOrderLinkId
  let stopLossOrderInfo ←
    createStopLossOcoRequest rounding fromChars request stopLossOrderLinkId takeProfitOrderLinkId
  let pendingFilledOrderLinkId ← PlacementProgram.createOcoGroup
    (createOcoGroup request groupId takeProfitOrderLinkId stopLossOrderLinkId takeProfitOrderInfo
      stopLossOrderInfo)
  return (takeProfitOrderInfo, stopLossOrderInfo, pendingFilledOrderLinkId)

def resolveGroupId (request : PlaceOcoRequest) : PlacementProgram String :=
  if request.listClientOrderId.getD "" = "" then generateUniqueOcoId
  else return request.listClientOrderId.getD ""

/-- The cancellation of the other leg when one filled during the placement. -/
def settlePendingFill (groupId : String) : Option String → PlacementProgram Unit
  | none => pure ()
  | some orderLinkId => do
      let pendingOcoError ← processOcoUpdate orderLinkId
      throwIf pendingOcoError.isSome ("Bybit OCO " ++ groupId ++
        " failed while cancelling the unfilled child: " ++ pendingOcoError.getD "")

def placeOco (request : PlaceOcoRequest) : PlacementProgram OcoInfo := do
  validatePlaceOcoRequest request
  let symbolInfo ← getSymbolInfo request.symbol .spot
  requireNoError "Bybit placeOco take-profit price: "
    (validatePrice rounding request.price symbolInfo)
  requireNoError "Bybit placeOco stop price: " (validatePrice rounding request.stopPrice symbolInfo)
  checkStopLimitPrice rounding "Bybit placeOco stop-limit price: " request symbolInfo
  ensureUserStreamConnected
  let groupId ← resolveGroupId request
  throwIf (ocoGroupIdMaxLength < groupId.utf8ByteSize)
    ("Bybit placeOco: listClientOrderId must be at most " ++ toString ocoGroupIdMaxLength ++
      " characters")
  let takeProfitOrderLinkId := groupId ++ "_TP"
  let stopLossOrderLinkId := groupId ++ "_SL"
  registerOcoPlacement groupId takeProfitOrderLinkId stopLossOrderLinkId
  -- the registration is released as soon as the group exists
  let (takeProfitOrderInfo, stopLossOrderInfo, pendingFilledOrderLinkId) ←
    (placeOcoLegs rounding fromChars request groupId takeProfitOrderLinkId
      stopLossOrderLinkId).onFailure
      (clearOcoPlacementRegistration takeProfitOrderLinkId stopLossOrderLinkId)
  settlePendingFill groupId pendingFilledOrderLinkId
  return {
    orderListId := groupId
    listClientOrderId := groupId
    transactTimeMs := takeProfitOrderInfo.createdTimeMs
    takeProfitOrder := takeProfitOrderInfo
    stopLossOrder := stopLossOrderInfo }

end Programs

/-! ## What a sent order has passed -/

variable {rounding : NearestRounding} {fromChars : String → Option Decimal} {market : Market}

/-- The symbol rules that the `BUY` side checks. -/
def BuyRulesHold (rounding : NearestRounding) (market : Market) (request : PlaceOrderRequest) :
    Prop :=
  if IsQuoteMarketBuy request then
    market.symbolInfo.AcceptsNotional request.quantity
  else
    market.symbolInfo.AcceptsQuantity rounding request.quantity ∧
      market.symbolInfo.AcceptsNotional (request.quantity * market.orderPrice request)

structure OrderSent (rounding : NearestRounding) (market : Market) (request : PlaceOrderRequest)
    (body : CreateOrderRequestDto) : Prop where
  quantity : CarriesByStep rounding market.symbolInfo.stepSize (some body.qty)
    (some request.quantity)
  price : CarriesByStep rounding market.symbolInfo.tickSize body.price (limitPrice request)
  orderLinkId : body.orderLinkId = request.clientOrderId
  triggerPrice : body.triggerPrice = request.triggerPrice
  orderFilter : body.orderFilter = request.orderFilter
  priced : request.type = .limit → request.price.isSome
  priceValid : ∀ price ∈ limitPrice request,
    market.symbolInfo.AcceptsPrice rounding price
  buyValid : request.side = .buy → BuyRulesHold rounding market request

/-- The create calls that a Bybit placement may send. -/
def createsOnly (order : CreateOrderRequestDto → Prop) : PlacementEffect → Prop
  | .createBinanceOrder _ => False
  | .createBinanceOco _ => False
  | .createBybitOrder body => order body
  | _ => True

theorem validate_quantity_none {quantity price : Decimal} {info : SymbolInfo}
    (silent : validateQuantity rounding quantity price info = .ok none) :
    info.AcceptsQuantity rounding quantity ∧
      info.AcceptsNotional (quantity * price) :=
  quantity_and_notional_error_none (fun _ => notional_error_none) silent

section Yields

variable {order : CreateOrderRequestDto → Prop}

theorem yields_validate_order_price_limit (request : PlaceOrderRequest) :
    market.Yields (createsOnly order) (fun _ => True)
      (validateOrderPriceLimit rounding fromChars request) := by
  unfold validateOrderPriceLimit
  split
  · exact Market.yields_returned trivial
  · refine Market.Yields.followed_by
      (Market.yields_request trivial fun _ _ => Market.yields_except fun _ _ => trivial)
      fun priceLimit => ?_
    refine Market.yields_except_bind fun price _ => ?_
    split
    · exact Market.yields_except fun _ _ => trivial
    · exact Market.yields_except fun _ _ => trivial

theorem yields_required_quote_amount (request : PlaceOrderRequest) :
    market.Yields (createsOnly order) (fun _ => BuyRulesHold rounding market request)
      (requiredQuoteAmount rounding request market.symbolInfo) := by
  unfold requiredQuoteAmount
  split
  next price limit known =>
    have notQuote : ¬ IsQuoteMarketBuy request := fun quote => by simp [quote.1] at limit
    refine Market.yields_except_bind fun _ checked => Market.yields_returned ?_
    rw [BuyRulesHold, if_neg notQuote, Market.order_price_of_limit limit known]
    exact validate_quantity_none (require_no_error_ok checked)
  next unpriced =>
    have price : market.orderPrice request = market.tickerPrice :=
      Market.order_price_of_unpriced unpriced
    split_ifs with quote
    · refine Market.yields_except_bind fun _ checked => Market.yields_returned ?_
      rw [BuyRulesHold, if_pos quote]
      exact notional_error_none (require_no_error_ok checked)
    · refine (Market.yields_get_ticker_price trivial).bind ?_
      rintro ticker rfl
      refine Market.yields_except_bind fun _ checked => Market.yields_returned ?_
      rw [BuyRulesHold, if_neg quote, price]
      exact validate_quantity_none (require_no_error_ok checked)

theorem yields_check_balance (request : PlaceOrderRequest) :
    market.Yields (createsOnly order)
      (fun _ => request.side = .buy → BuyRulesHold rounding market request)
      (checkBalance rounding request market.symbolInfo) := by
  unfold checkBalance
  split
  next =>
    refine (Market.yields_free_balance trivial).bind fun free _ => ?_
    refine (yields_required_quote_amount request).bind fun required rules => ?_
    exact Market.yields_except fun _ _ _ => rules
  next sell =>
    refine (Market.yields_free_balance trivial).bind fun free _ => ?_
    refine Market.yields_except fun _ _ buy => ?_
    rw [sell] at buy
    cases buy

/-- What `createRequestBody` writes. -/
theorem create_request_body_ok {request : PlaceOrderRequest} {info : SymbolInfo}
    {body : CreateOrderRequestDto} (created : createRequestBody rounding request info = .ok body) :
    CarriesByStep rounding info.stepSize (some body.qty) (some request.quantity) ∧
      CarriesByStep rounding info.tickSize body.price (limitPrice request) ∧
      body.orderLinkId = request.clientOrderId ∧ body.triggerPrice = request.triggerPrice ∧
      body.orderFilter = request.orderFilter := by
  obtain ⟨qty, qtyText, rest⟩ := except_bind_ok.1 created
  obtain ⟨⟨price, timeInForce⟩, limited, rest⟩ := except_bind_ok.1 rest
  cases rest
  refine ⟨⟨qty, rfl, qtyText⟩, ?_, rfl, rfl, rfl⟩
  unfold limitFields at limited
  split at limited
  next limit =>
    obtain ⟨value, known, rest⟩ := except_bind_ok.1 limited
    obtain ⟨text, written, rest⟩ := except_bind_ok.1 rest
    obtain ⟨_, _, same⟩ := except_bind_ok.1 rest
    cases same
    rw [optional_value_ok] at known
    simp only [limitPrice, limit, known]
    exact ⟨text, rfl, written⟩
  next market =>
    cases limited
    simp [limitPrice, market, CarriesByStep]

theorem yields_place_order (request : PlaceOrderRequest)
    (permitted : ∀ body, OrderSent rounding market request body → order body) :
    market.Yields (createsOnly order) (fun _ => True) (placeOrder rounding fromChars request) := by
  unfold placeOrder
  refine Market.yields_except_bind fun _ _ => ?_
  refine (Market.yields_get_symbol_info trivial).bind ?_
  rintro info rfl
  refine Market.yields_except_bind fun _ priceChecked => ?_
  refine (yields_validate_order_price_limit request).bind fun _ _ => ?_
  refine (yields_check_balance request).bind fun _ buyValid => ?_
  refine Market.yields_except_bind fun body created => ?_
  refine Market.Yields.followed_by
    (Market.yields_request trivial fun _ _ => Market.yields_except fun _ _ => trivial)
    fun _ => ?_
  obtain ⟨priced, priceValid⟩ := check_limit_price_ok priceChecked
  obtain ⟨quantity, price, orderLinkId, triggerPrice, orderFilter⟩ := create_request_body_ok created
  have sent : OrderSent rounding market request body :=
    { quantity, price, orderLinkId, triggerPrice, orderFilter, priced, priceValid, buyValid }
  exact Market.yields_request (permitted body sent) fun _ _ => Market.yields_except fun _ _ => trivial

/-- A create call of `placeOco` belongs to one of the two legs. -/
inductive LegSent (rounding : NearestRounding) (market : Market) (request : PlaceOcoRequest)
    (body : CreateOrderRequestDto) : Prop where
  | takeProfit (linkId : String)
      (sent : OrderSent rounding market (takeProfitRequest request linkId) body)
  | stopLoss (linkId triggerPrice : String)
      (stopPriceValid : market.symbolInfo.AcceptsPrice rounding request.stopPrice)
      (written : formatDecimal rounding request.stopPrice = .ok triggerPrice)
      (sent : OrderSent rounding market (stopLossRequest request linkId triggerPrice) body)

theorem yields_rollback_oco_requests (request : PlaceOcoRequest) (linkId : String) :
    market.Yields (createsOnly order) (fun _ => True) (rollbackOcoRequests request linkId) := by
  refine Market.Yields.catch_exception ?_ fun what => Market.yields_returned trivial
  exact Market.Yields.followed_by
    (Market.yields_request trivial fun _ _ => Market.yields_except fun _ _ => trivial)
    fun _ => Market.yields_returned trivial

theorem yields_place_oco_legs (request : PlaceOcoRequest) (groupId first second : String)
    (stopPriceValid : market.symbolInfo.AcceptsPrice rounding request.stopPrice) :
    market.Yields (createsOnly (LegSent rounding market request)) (fun _ => True)
      (placeOcoLegs rounding fromChars request groupId first second) := by
  have takeProfit : market.Yields (createsOnly (LegSent rounding market request)) (fun _ => True)
      (createTakeProfitOcoRequest rounding fromChars request first) :=
    Market.Yields.catch_exception
      (yields_place_order _ fun body sent => .takeProfit first sent)
      fun what => Market.yields_threw _
  have stopLoss : market.Yields (createsOnly (LegSent rounding market request)) (fun _ => True)
      (createStopLossOcoRequest rounding fromChars request second first) := by
    refine Market.yields_except_bind fun triggerPrice written => ?_
    refine Market.Yields.catch_exception
      (yields_place_order _ fun body sent =>
        .stopLoss second triggerPrice stopPriceValid written sent) fun what => ?_
    exact (yields_rollback_oco_requests request first).bind fun _ _ => Market.yields_threw _
  refine takeProfit.bind fun _ _ => stopLoss.bind fun _ _ => ?_
  exact Market.Yields.followed_by
    (Market.yields_request trivial fun _ _ => Market.yields_returned trivial)
    fun _ => Market.yields_returned trivial

theorem yields_settle_pending_fill (groupId : String) (pending : Option String) :
    market.Yields (createsOnly order) (fun _ => True) (settlePendingFill groupId pending) := by
  cases pending with
  | none => exact Market.yields_returned trivial
  | some orderLinkId =>
      exact Market.Yields.followed_by
        (Market.yields_request trivial fun _ _ => Market.yields_except fun _ _ => trivial)
        fun _ => Market.yields_except fun _ _ => trivial

theorem yields_resolve_group_id (request : PlaceOcoRequest) :
    market.Yields (createsOnly order) (fun _ => True) (resolveGroupId request) := by
  unfold resolveGroupId
  split_ifs
  · exact Market.yields_request trivial fun _ _ => Market.yields_returned trivial
  · exact Market.yields_returned trivial

theorem yields_place_oco (request : PlaceOcoRequest) :
    market.Yields (createsOnly (LegSent rounding market request)) (fun _ => True)
      (placeOco rounding fromChars request) := by
  unfold placeOco
  refine Market.yields_except_bind fun _ _ => ?_
  refine (Market.yields_get_symbol_info trivial).bind ?_
  rintro info rfl
  refine Market.yields_except_bind fun _ _ => Market.yields_except_bind fun _ stopChecked => ?_
  refine Market.yields_except_bind fun _ _ => ?_
  refine Market.Yields.followed_by
    (Market.yields_request trivial fun _ _ => Market.yields_except fun _ _ => trivial)
    fun _ => ?_
  refine (yields_resolve_group_id request).bind fun groupId _ => ?_
  refine Market.yields_except_bind fun _ _ => ?_
  refine Market.Yields.followed_by
    (Market.yields_request trivial fun _ _ => Market.yields_except fun _ _ => trivial)
    fun _ => ?_
  have stopPriceValid := price_error_none (require_no_error_ok stopChecked)
  have legs : market.Yields (createsOnly (LegSent rounding market request)) (fun _ => True)
      ((placeOcoLegs rounding fromChars request groupId (groupId ++ "_TP") (groupId ++ "_SL")).onFailure
        (clearOcoPlacementRegistration (groupId ++ "_TP") (groupId ++ "_SL"))) :=
    (yields_place_oco_legs request groupId _ _ stopPriceValid).handle fun failure =>
      Market.yields_request trivial fun _ _ => Market.yields_threw failure
  refine legs.followed_by fun placed => ?_
  exact (yields_settle_pending_fill groupId _).followed_by fun _ => Market.yields_returned trivial

end Yields

end CryptoDeal.DealService.Bybit
