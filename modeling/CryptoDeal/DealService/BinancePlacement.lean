import CryptoDeal.DealService.Placement

/-!
# Placing Binance orders

`BinanceDealService::placeOrder` and `placeOco` up to the parsed response, and
what both have checked by the time their create call goes out.
-/

namespace CryptoDeal.DealService.Binance

open CryptoDeal.DecimalText DecimalConverter PlacementProgram Interaction

def sideText : OrderOperation → String
  | .buy => "BUY"
  | .sell => "SELL"

def typeText : OrderType → String
  | .market => "MARKET"
  | .limit => "LIMIT"

def setParameterIfPresent (key : String) : Option String → ParameterMap
  | none => []
  | some value => [(key, value)]

def validatePlaceOrderRequest (request : PlaceOrderRequest) : Except ServiceFailure Unit := do
  throwIf (request.symbol = "") "Symbol cannot be empty"
  throwIf (request.quantity ≤ 0) "Quantity must be greater than 0"
  if request.type = .limit then
    throwIf (request.price.all (· ≤ 0)) "Price must be > 0 for LIMIT orders"
    throwIf (request.timeInForce.all (· = "")) "TimeInForce required for LIMIT orders"

def validatePlaceOcoRequest (request : PlaceOcoRequest) : Except ServiceFailure Unit := do
  throwIf (request.symbol = "") "Symbol cannot be empty"
  throwIf (request.quantity ≤ 0) "Quantity must be > 0"
  throwIf (request.price ≤ 0) "Price must be > 0"
  throwIf (request.stopPrice ≤ 0) "Stop Price must be > 0"
  if request.stopLimitPrice.any (0 < ·) then
    throwIf (request.stopLimitTimeInForce.all (· = ""))
      "stopLimitTimeInForce required if stopLimitPrice is set"

section Programs

variable (rounding : NearestRounding) (recvWindow : ℤ)

def validateNotional (notional : Decimal) (info : SymbolInfo) :
    Except ServiceFailure (Option String) :=
  notionalError rounding "notional " " is below minNotional " " is above maxNotional " notional info

def validateQuantity (quantity price : Decimal) (info : SymbolInfo) :
    Except ServiceFailure (Option String) :=
  quantityAndNotionalError rounding (validateNotional rounding) quantity price info

def validatePrice (price : Decimal) (info : SymbolInfo) : Except ServiceFailure (Option String) :=
  priceError rounding price info

/-- `checkBalance(PlaceOrderRequest)`. -/
def checkOrderBalance (request : PlaceOrderRequest) (info : SymbolInfo)
    (validationPrice : Decimal) : PlacementProgram Unit :=
  match request.side with
  | .buy => do
      let quoteFree ← freeBalance info.quoteAsset
      requireQuoteBalance rounding info quoteFree (request.quantity * validationPrice)
  | .sell => do
      let baseFree ← freeBalance info.baseAsset
      requireBaseBalance rounding info baseFree request.quantity

def belowPrice (request : PlaceOcoRequest) : Decimal :=
  request.stopLimitPrice.getD request.stopPrice

/-- `checkBalance(PlaceOcoRequest)`. -/
def checkOcoBalance (request : PlaceOcoRequest) (info : SymbolInfo) : PlacementProgram Unit :=
  match request.side with
  | .buy => do
      let quoteFree ← freeBalance info.quoteAsset
      let requiredPrice := if belowPrice request < request.price then request.price
        else belowPrice request
      requireQuoteBalance rounding info quoteFree (request.quantity * requiredPrice)
  | .sell => do
      let baseFree ← freeBalance info.baseAsset
      requireBaseBalance rounding info baseFree request.quantity

/-- `setRequestParameters(PlaceOrderRequest)`. -/
def orderParameters (request : PlaceOrderRequest) (info : SymbolInfo) :
    PlacementProgram ParameterMap := do
  let quantity ← formatByStep rounding request.quantity info.stepSize
  let timestamp ← getServerTimestamp
  let parameterMap : ParameterMap :=
    [("newOrderRespType", "RESULT"), ("quantity", quantity), ("recvWindow", toString recvWindow),
      ("side", sideText request.side), ("symbol", request.symbol),
      ("timestamp", toString timestamp), ("type", typeText request.type)]
  let clientOrderId := setParameterIfPresent "newClientOrderId"
    (request.clientOrderId.filter (· ≠ ""))
  match request.type with
  | .limit =>
      let price ← optionalValue request.price
      let price ← formatByStep rounding price info.tickSize
      let timeInForce ← optionalValue request.timeInForce
      return parameterMap ++ [("price", price), ("timeInForce", timeInForce)] ++ clientOrderId
  | .market => return parameterMap ++ clientOrderId

/-- The checks that `setRequestParameters(PlaceOcoRequest)` makes of both legs. -/
def checkOcoRules (request : PlaceOcoRequest) (info : SymbolInfo) :
    Except ServiceFailure Unit := do
  requireNoError "Binance placeOco above leg: " (validatePrice rounding request.price info)
  requireNoError "Binance placeOco stop price: " (validatePrice rounding request.stopPrice info)
  checkStopLimitPrice rounding "Binance placeOco below leg: " request info
  requireNoError "Binance placeOco above leg: "
    (validateQuantity rounding request.quantity request.price info)
  requireNoError "Binance placeOco below leg: "
    (validateQuantity rounding request.quantity (belowPrice request) info)

/-- `setRequestParameters(PlaceOcoRequest)`. -/
def ocoParameters (request : PlaceOcoRequest) : PlacementProgram ParameterMap := do
  throwIf (request.symbol = "") "Binance placeOco: symbol cannot be empty"
  throwIf (request.quantity ≤ 0) "Binance placeOco: quantity must be > 0"
  throwIf (request.price ≤ 0) "Binance placeOco: price must be > 0"
  throwIf (request.stopPrice ≤ 0) "Binance placeOco: stopPrice must be > 0"
  let info ← getSymbolInfo request.symbol .spot
  checkOcoRules rounding request info
  let abovePrice ← formatByStep rounding request.price info.tickSize
  let belowPriceText ← formatByStep rounding (belowPrice request) info.tickSize
  let belowStopPrice ← formatByStep rounding request.stopPrice info.tickSize
  let quantity ← formatByStep rounding request.quantity info.stepSize
  let timestamp ← getServerTimestamp
  return [("abovePrice", abovePrice), ("aboveType", "LIMIT_MAKER"), ("belowPrice", belowPriceText),
      ("belowStopPrice", belowStopPrice),
      ("belowTimeInForce", request.stopLimitTimeInForce.getD "GTC"),
      ("belowType", "STOP_LOSS_LIMIT"), ("quantity", quantity),
      ("recvWindow", toString recvWindow), ("side", sideText request.side),
      ("symbol", request.symbol), ("timestamp", toString timestamp)] ++
    setParameterIfPresent "listClientOrderId" request.listClientOrderId ++
    setParameterIfPresent "aboveClientOrderId" request.limitClientOrderId ++
    setParameterIfPresent "belowClientOrderId" request.stopClientOrderId

def getValidationPrice (request : PlaceOrderRequest) : PlacementProgram Decimal :=
  match request.type, request.price with
  | .limit, some price => pure price
  | _, _ => getTickerPrice request.symbol

def placeOrder (request : PlaceOrderRequest) : PlacementProgram OrderInfo := do
  validatePlaceOrderRequest request
  let info ← getSymbolInfo request.symbol .spot
  checkLimitPrice rounding "Binance placeOrder: " request info
  let validationPrice ← getValidationPrice request
  requireNoError "Binance placeOrder: "
    (validateQuantity rounding request.quantity validationPrice info)
  checkOrderBalance rounding request info validationPrice
  let parameterMap ← orderParameters rounding recvWindow request info
  createBinanceOrder parameterMap

def placeOco (request : PlaceOcoRequest) : PlacementProgram OcoInfo := do
  validatePlaceOcoRequest request
  let info ← getSymbolInfo request.symbol .spot
  checkOcoBalance rounding request info
  let parameterMap ← ocoParameters rounding recvWindow request
  createBinanceOco parameterMap

def buyCrypto (baseAsset quoteAsset : String) (quantity : Decimal) : PlacementProgram OrderInfo :=
  placeOrder rounding recvWindow (marketRequest .buy baseAsset quoteAsset quantity)

def sellCrypto (baseAsset quoteAsset : String) (quantity : Decimal) : PlacementProgram OrderInfo :=
  placeOrder rounding recvWindow (marketRequest .sell baseAsset quoteAsset quantity)

end Programs

/-! ## What a sent order has passed -/

variable {rounding : NearestRounding} {recvWindow : ℤ} {market : Market}

structure OrderSent (rounding : NearestRounding) (market : Market) (request : PlaceOrderRequest)
    (parameterMap : ParameterMap) : Prop where
  quantity : CarriesByStep rounding market.symbolInfo.stepSize (parameterMap.lookup "quantity")
    (some request.quantity)
  price : CarriesByStep rounding market.symbolInfo.tickSize (parameterMap.lookup "price")
    (limitPrice request)
  priced : request.type = .limit → request.price.isSome
  quantityValid :
    market.symbolInfo.AcceptsQuantity rounding request.quantity
  priceValid : ∀ price ∈ limitPrice request,
    market.symbolInfo.AcceptsPrice rounding price
  notionalValid : market.symbolInfo.AcceptsNotional (request.quantity * market.orderPrice request)

structure OcoSent (rounding : NearestRounding) (market : Market) (request : PlaceOcoRequest)
    (parameterMap : ParameterMap) : Prop where
  quantity : CarriesByStep rounding market.symbolInfo.stepSize (parameterMap.lookup "quantity")
    (some request.quantity)
  abovePrice : CarriesByStep rounding market.symbolInfo.tickSize
    (parameterMap.lookup "abovePrice") (some request.price)
  belowPrice : CarriesByStep rounding market.symbolInfo.tickSize
    (parameterMap.lookup "belowPrice") (some (belowPrice request))
  belowStopPrice : CarriesByStep rounding market.symbolInfo.tickSize
    (parameterMap.lookup "belowStopPrice") (some request.stopPrice)
  quantityValid :
    market.symbolInfo.AcceptsQuantity rounding request.quantity
  priceValid : ∀ price ∈ [request.price, Binance.belowPrice request, request.stopPrice],
    market.symbolInfo.AcceptsPrice rounding price
  notionalValid : ∀ price ∈ [request.price, Binance.belowPrice request],
    market.symbolInfo.AcceptsNotional (request.quantity * price)

/-- The create calls that a Binance placement may send. -/
def createsOnly (order oco : ParameterMap → Prop) : PlacementEffect → Prop
  | .createBinanceOrder parameterMap => order parameterMap
  | .createBinanceOco parameterMap => oco parameterMap
  | .createBybitOrder _ => False
  | _ => True

section Yields

variable {order oco : ParameterMap → Prop}

theorem yields_check_order_balance (request : PlaceOrderRequest) (info : SymbolInfo)
    (price : Decimal) :
    market.Yields (createsOnly order oco) (fun _ => True)
      (checkOrderBalance rounding request info price) := by
  unfold checkOrderBalance
  split
  · exact (Market.yields_free_balance trivial).bind fun _ _ => Market.yields_except fun _ _ => trivial
  · exact (Market.yields_free_balance trivial).bind fun _ _ => Market.yields_except fun _ _ => trivial

theorem yields_check_oco_balance (request : PlaceOcoRequest) (info : SymbolInfo) :
    market.Yields (createsOnly order oco) (fun _ => True)
      (checkOcoBalance rounding request info) := by
  unfold checkOcoBalance
  split
  · exact (Market.yields_free_balance trivial).bind fun _ _ => Market.yields_except fun _ _ => trivial
  · exact (Market.yields_free_balance trivial).bind fun _ _ => Market.yields_except fun _ _ => trivial

theorem yields_get_validation_price (request : PlaceOrderRequest) :
    market.Yields (createsOnly order oco) (· = market.orderPrice request)
      (getValidationPrice request) := by
  unfold getValidationPrice
  split
  next price limit known =>
    rw [Market.order_price_of_limit limit known]
    exact Market.yields_returned rfl
  next unpriced =>
    rw [Market.order_price_of_unpriced unpriced]
    exact Market.yields_get_ticker_price trivial

theorem yields_get_server_timestamp :
    market.Yields (createsOnly order oco) (fun _ => True) getServerTimestamp :=
  Market.yields_request trivial fun _ _ => Market.yields_except fun _ _ => trivial

end Yields

theorem validate_quantity_none {quantity price : Decimal} {info : SymbolInfo}
    (silent : validateQuantity rounding quantity price info = .ok none) :
    info.AcceptsQuantity rounding quantity ∧
      info.AcceptsNotional (quantity * price) :=
  quantity_and_notional_error_none (fun _ => notional_error_none) silent

theorem lookup_set_parameter_if_present_ne {key other : String} (differ : (other == key) = false)
    (value : Option String) : (setParameterIfPresent key value).lookup other = none := by
  cases value <;> simp [setParameterIfPresent, differ]

/-- The texts that `setRequestParameters` writes are the amounts by step. -/
theorem yields_order_parameters (request : PlaceOrderRequest) (info : SymbolInfo)
    {order oco : ParameterMap → Prop} :
    market.Yields (createsOnly order oco)
      (fun parameterMap =>
        CarriesByStep rounding info.stepSize (parameterMap.lookup "quantity")
            (some request.quantity) ∧
          CarriesByStep rounding info.tickSize (parameterMap.lookup "price") (limitPrice request))
      (orderParameters rounding recvWindow request info) := by
  unfold orderParameters
  refine Market.yields_except_bind fun quantity quantityText => ?_
  refine yields_get_server_timestamp.bind fun timestamp _ => ?_
  split
  next limit =>
    refine Market.yields_except_bind fun price known => ?_
    refine Market.yields_except_bind fun priceText written => ?_
    refine Market.yields_except_bind fun timeInForce _ => Market.yields_returned ?_
    rw [optional_value_ok] at known
    simp only [limitPrice, limit, known]
    exact ⟨⟨quantity, rfl, quantityText⟩, ⟨priceText, rfl, written⟩⟩
  next market =>
    refine Market.yields_returned ?_
    simp only [limitPrice, market]
    exact ⟨⟨quantity, rfl, quantityText⟩, lookup_set_parameter_if_present_ne rfl _⟩

theorem yields_place_order (request : PlaceOrderRequest) :
    market.Yields (createsOnly (OrderSent rounding market request) fun _ => False)
      (fun _ => True) (placeOrder rounding recvWindow request) := by
  unfold placeOrder
  refine Market.yields_except_bind fun _ _ => ?_
  refine (Market.yields_get_symbol_info trivial).bind ?_
  rintro info rfl
  refine Market.yields_except_bind fun _ priceChecked => ?_
  refine (yields_get_validation_price request).bind ?_
  rintro price rfl
  refine Market.yields_except_bind fun _ quantityChecked => ?_
  refine (yields_check_order_balance request _ _).bind fun _ _ => ?_
  refine (yields_order_parameters request _).bind fun parameterMap written => ?_
  obtain ⟨priced, priceValid⟩ := check_limit_price_ok priceChecked
  obtain ⟨quantityValid, notionalValid⟩ :=
    validate_quantity_none (require_no_error_ok quantityChecked)
  exact Market.yields_request ⟨written.1, written.2, priced, quantityValid, priceValid, notionalValid⟩
    fun _ _ => Market.yields_except fun _ _ => trivial

theorem check_oco_rules_ok {request : PlaceOcoRequest} {info : SymbolInfo} {done : Unit}
    (passed : checkOcoRules rounding request info = .ok done) :
    info.AcceptsQuantity rounding request.quantity ∧
      (∀ price ∈ [request.price, belowPrice request, request.stopPrice],
        info.AcceptsPrice rounding price) ∧
      ∀ price ∈ [request.price, belowPrice request],
        info.AcceptsNotional (request.quantity * price) := by
  obtain ⟨_, aboveChecked, rest⟩ := except_bind_ok.1 passed
  obtain ⟨_, stopChecked, rest⟩ := except_bind_ok.1 rest
  obtain ⟨_, belowChecked, rest⟩ := except_bind_ok.1 rest
  obtain ⟨_, aboveQuantity, belowQuantity⟩ := except_bind_ok.1 rest
  have above := price_error_none (require_no_error_ok aboveChecked)
  have stop := price_error_none (require_no_error_ok stopChecked)
  have below : info.AcceptsPrice rounding (belowPrice request) := by
    unfold belowPrice
    cases limit : request.stopLimitPrice with
    | none => exact stop
    | some stopLimitPrice => exact check_stop_limit_price_ok belowChecked _ limit
  obtain ⟨quantityValid, aboveNotional⟩ :=
    validate_quantity_none (require_no_error_ok aboveQuantity)
  obtain ⟨-, belowNotional⟩ := validate_quantity_none (require_no_error_ok belowQuantity)
  refine ⟨quantityValid, ?_, ?_⟩
  · simp [above, stop, below]
  · simp [aboveNotional, belowNotional]

theorem yields_oco_parameters (request : PlaceOcoRequest) {order oco : ParameterMap → Prop} :
    market.Yields (createsOnly order oco) (OcoSent rounding market request)
      (ocoParameters rounding recvWindow request) := by
  unfold ocoParameters
  refine Market.yields_except_bind fun _ _ => Market.yields_except_bind fun _ _ => ?_
  refine Market.yields_except_bind fun _ _ => Market.yields_except_bind fun _ _ => ?_
  refine (Market.yields_get_symbol_info trivial).bind ?_
  rintro info rfl
  refine Market.yields_except_bind fun _ checked => ?_
  refine Market.yields_except_bind fun above aboveText => ?_
  refine Market.yields_except_bind fun below belowText => ?_
  refine Market.yields_except_bind fun stop stopText => ?_
  refine Market.yields_except_bind fun quantity quantityText => ?_
  refine yields_get_server_timestamp.bind fun timestamp _ => Market.yields_returned ?_
  obtain ⟨quantityValid, priceValid, notionalValid⟩ := check_oco_rules_ok checked
  exact {
    quantity := ⟨quantity, rfl, quantityText⟩
    abovePrice := ⟨above, rfl, aboveText⟩
    belowPrice := ⟨below, rfl, belowText⟩
    belowStopPrice := ⟨stop, rfl, stopText⟩
    quantityValid
    priceValid
    notionalValid }

theorem yields_place_oco (request : PlaceOcoRequest) :
    market.Yields (createsOnly (fun _ => False) (OcoSent rounding market request))
      (fun _ => True) (placeOco rounding recvWindow request) := by
  unfold placeOco
  refine Market.yields_except_bind fun _ _ => ?_
  refine (Market.yields_get_symbol_info trivial).bind ?_
  rintro info rfl
  refine (yields_check_oco_balance request _).bind fun _ _ => ?_
  refine (yields_oco_parameters request).bind fun parameterMap sent => ?_
  exact Market.yields_request sent fun _ _ => Market.yields_except fun _ _ => trivial

end CryptoDeal.DealService.Binance
