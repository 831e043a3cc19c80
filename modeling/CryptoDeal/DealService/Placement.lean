import CryptoDeal.DealService.SymbolRuleValidator
import CryptoDeal.Library.Interaction

/-!
# Placing orders

What the placing functions of both services ask of the world: REST calls,
the balance cache and the Bybit OCO registry. Each answer is free; a REST call
may throw. The create calls carry the amounts as the texts that go on the wire.
-/

namespace CryptoDeal.DealService

open CryptoDeal.DecimalText

structure OrderPriceLimitDto where
  buyLmt : Option String := none
  sellLmt : Option String := none
  deriving DecidableEq

structure CreateOrderRequestDto where
  category : String
  symbol : String
  side : String
  orderType : String
  qty : String
  price : Option String
  timeInForce : Option String
  orderLinkId : Option String
  triggerPrice : Option String
  orderFilter : Option String
  marketUnit : Option String
  deriving DecidableEq

structure BybitOcoGroup where
  groupId : String
  takeProfit : OrderQuery
  stopLeg : OrderQuery
  tpOrderLinkId : String
  slOrderLinkId : String
  deriving DecidableEq

/-- `std::map<string, string>` as its entries in the order of assignment. -/
abbrev ParameterMap := List (String × String)

inductive PlacementEffect where
  | getSymbolInfo (symbol : String) (category : OrderCategory)
  | getTickerPrice (symbol : String)
  | getOrderPriceLimit (symbol : String) (category : OrderCategory)
  | getBalance (asset : String)
  | getServerTimestamp
  | createBinanceOrder (parameterMap : ParameterMap)
  | createBinanceOco (parameterMap : ParameterMap)
  | createBybitOrder (body : CreateOrderRequestDto)
  | cancelOrder (query : OrderQuery)
  | ensureUserStreamConnected
  | generateUniqueOcoId
  | registerOcoPlacement (groupId takeProfitOrderLinkId stopLossOrderLinkId : String)
  | clearOcoPlacementRegistration (takeProfitOrderLinkId stopLossOrderLinkId : String)
  | createOcoGroup (group : BybitOcoGroup)
  | processOcoUpdate (orderLinkId : String)
  deriving DecidableEq

namespace PlacementEffect

@[reducible] def Answer : PlacementEffect → Type
  | getSymbolInfo _ _ => Except ServiceFailure SymbolInfo
  | getTickerPrice _ => Except ServiceFailure Decimal
  | getOrderPriceLimit _ _ => Except ServiceFailure OrderPriceLimitDto
  | getBalance _ => Option AssetBalance
  | getServerTimestamp => Except ServiceFailure ℤ
  | createBinanceOrder _ => Except ServiceFailure OrderInfo
  | createBinanceOco _ => Except ServiceFailure OcoInfo
  | createBybitOrder _ => Except ServiceFailure OrderInfo
  | cancelOrder _ => Except ServiceFailure OrderInfo
  | ensureUserStreamConnected => Except ServiceFailure Unit
  | generateUniqueOcoId => String
  | registerOcoPlacement _ _ _ => Except ServiceFailure Unit
  | clearOcoPlacementRegistration _ _ => Unit
  -- the link id of a leg that filled while the group was being placed
  | createOcoGroup _ => Option String
  | processOcoUpdate _ => Except ServiceFailure (Option String)

def isCreate : PlacementEffect → Bool
  | createBinanceOrder _ => true
  | createBinanceOco _ => true
  | createBybitOrder _ => true
  | _ => false

end PlacementEffect

abbrev PlacementProgram (Result : Type) :=
  Interaction PlacementEffect PlacementEffect.Answer ServiceFailure Result

namespace PlacementProgram

def getSymbolInfo (symbol : String) (category : OrderCategory) : PlacementProgram SymbolInfo :=
  .request (.getSymbolInfo symbol category) .ofExcept

def getTickerPrice (symbol : String) : PlacementProgram Decimal :=
  .request (.getTickerPrice symbol) .ofExcept

def getOrderPriceLimit (symbol : String) (category : OrderCategory) :
    PlacementProgram OrderPriceLimitDto :=
  .request (.getOrderPriceLimit symbol category) .ofExcept

def getBalance (asset : String) : PlacementProgram (Option AssetBalance) :=
  .request (.getBalance asset) .returned

def getServerTimestamp : PlacementProgram ℤ := .request .getServerTimestamp .ofExcept

def createBinanceOrder (parameterMap : ParameterMap) : PlacementProgram OrderInfo :=
  .request (.createBinanceOrder parameterMap) .ofExcept

def createBinanceOco (parameterMap : ParameterMap) : PlacementProgram OcoInfo :=
  .request (.createBinanceOco parameterMap) .ofExcept

def createBybitOrder (body : CreateOrderRequestDto) : PlacementProgram OrderInfo :=
  .request (.createBybitOrder body) .ofExcept

def cancelOrder (query : OrderQuery) : PlacementProgram OrderInfo :=
  .request (.cancelOrder query) .ofExcept

def ensureUserStreamConnected : PlacementProgram Unit :=
  .request .ensureUserStreamConnected .ofExcept

def generateUniqueOcoId : PlacementProgram String := .request .generateUniqueOcoId .returned

def registerOcoPlacement (groupId takeProfitOrderLinkId stopLossOrderLinkId : String) :
    PlacementProgram Unit :=
  .request (.registerOcoPlacement groupId takeProfitOrderLinkId stopLossOrderLinkId) .ofExcept

def clearOcoPlacementRegistration (takeProfitOrderLinkId stopLossOrderLinkId : String) :
    PlacementProgram Unit :=
  .request (.clearOcoPlacementRegistration takeProfitOrderLinkId stopLossOrderLinkId) .returned

def createOcoGroup (group : BybitOcoGroup) : PlacementProgram (Option String) :=
  .request (.createOcoGroup group) .returned

def processOcoUpdate (orderLinkId : String) : PlacementProgram (Option String) :=
  .request (.processOcoUpdate orderLinkId) .ofExcept

/-- `catch (const exception &e)`: a non-standard exception passes through. -/
def catchException {Result : Type} (program : PlacementProgram Result)
    (handler : String → PlacementProgram Result) : PlacementProgram Result :=
  program.handle fun
    | .runtime what => handler what
    | .interrupted what => handler what
    | .nonStandard => .threw .nonStandard

end PlacementProgram

/-! ## Steps that both services share -/

section Shared

/-- `std::optional::value`. -/
def optionalValue {Value : Type} : Option Value → Except ServiceFailure Value
  | some value => .ok value
  | none => .error (.runtime "bad optional access")

theorem optional_value_ok {Value : Type} {option : Option Value} {value : Value} :
    optionalValue option = .ok value ↔ option = some value := by
  cases option <;> simp [optionalValue]

def freeBalance (asset : String) : PlacementProgram Decimal := do
  let balance ← PlacementProgram.getBalance asset
  return (balance.map (·.free)).getD 0

variable (rounding : NearestRounding)

/-- The `BUY` refusals of `checkBalance`. -/
def requireQuoteBalance (info : SymbolInfo) (quoteFree requiredQuoteAmount : Decimal) :
    Except ServiceFailure Unit := do
  let requiredText ← DecimalConverter.formatDecimal rounding requiredQuoteAmount
  let freeText ← DecimalConverter.formatDecimal rounding quoteFree
  throwIf (0 < requiredQuoteAmount ∧ quoteFree < requiredQuoteAmount)
    ("Insufficient balance: need " ++ requiredText ++ " " ++ info.quoteAsset ++ ", have " ++ freeText)
  throwIf (quoteFree ≤ 0) ("Insufficient balance: no free " ++ info.quoteAsset)

/-- The `SELL` refusal of `checkBalance`. -/
def requireBaseBalance (info : SymbolInfo) (baseFree quantity : Decimal) :
    Except ServiceFailure Unit := do
  let requiredText ← DecimalConverter.formatDecimal rounding quantity
  let freeText ← DecimalConverter.formatDecimal rounding baseFree
  throwIf (baseFree < quantity)
    ("Insufficient balance: need " ++ requiredText ++ " " ++ info.baseAsset ++ ", have " ++ freeText)

/-- `throwIf(error.has_value(), label + error.value_or(""))`. -/
def requireNoError (label : String) (error : Except ServiceFailure (Option String)) :
    Except ServiceFailure Unit := do
  let text ← error
  throwIf text.isSome (label ++ text.getD "")

theorem require_no_error_ok {label : String} {error : Except ServiceFailure (Option String)}
    {done : Unit} (passed : requireNoError label error = .ok done) : error = .ok none := by
  obtain ⟨text, known, absent⟩ := except_bind_ok.1 passed
  cases text with
  | none => exact known
  | some text => simp [throwIf] at absent

/-- The limit-price check at the start of `placeOrder`. -/
def checkLimitPrice (label : String) (request : PlaceOrderRequest) (info : SymbolInfo) :
    Except ServiceFailure Unit :=
  match request.type with
  | .limit => do requireNoError label (priceError rounding (← optionalValue request.price) info)
  | .market => .ok ()

/-- The check of an OCO's stop-limit price, where it has one. -/
def checkStopLimitPrice (label : String) (request : PlaceOcoRequest) (info : SymbolInfo) :
    Except ServiceFailure Unit :=
  match request.stopLimitPrice with
  | some stopLimitPrice => requireNoError label (priceError rounding stopLimitPrice info)
  | none => .ok ()

/-- The request of the market orders `buyCrypto` and `sellCrypto`. -/
def marketRequest (side : OrderOperation) (baseAsset quoteAsset : String) (quantity : Decimal) :
    PlaceOrderRequest where
  symbol := baseAsset ++ quoteAsset
  side
  type := .market
  quantity

/-- The limit price that an order puts on the wire. -/
def limitPrice (request : PlaceOrderRequest) : Option Decimal :=
  match request.type with
  | .limit => request.price
  | .market => none

/-- The wire text of an amount is its step-formatted text, and there is none
for an absent amount. -/
def CarriesByStep (step : Decimal) (text : Option String) : Option Decimal → Prop
  | none => text = none
  | some value =>
      ∃ written, text = some written ∧ DecimalConverter.formatByStep rounding value step = .ok written

end Shared

theorem check_limit_price_ok {rounding : NearestRounding} {label : String}
    {request : PlaceOrderRequest} {info : SymbolInfo} {done : Unit}
    (passed : checkLimitPrice rounding label request info = .ok done) :
    (request.type = .limit → request.price.isSome) ∧
      ∀ price ∈ limitPrice request, info.AcceptsPrice rounding price := by
  unfold checkLimitPrice at passed
  split at passed
  next limit =>
    obtain ⟨price, known, valid⟩ := except_bind_ok.1 passed
    rw [optional_value_ok] at known
    simp only [limitPrice, limit, known, Option.isSome_some, Option.mem_some_iff]
    refine ⟨fun _ => trivial, ?_⟩
    rintro _ rfl
    exact price_error_none (require_no_error_ok valid)
  next market => simp [limitPrice, market]

theorem check_stop_limit_price_ok {rounding : NearestRounding} {label : String}
    {request : PlaceOcoRequest} {info : SymbolInfo} {done : Unit}
    (passed : checkStopLimitPrice rounding label request info = .ok done) :
    ∀ price ∈ request.stopLimitPrice,
      info.AcceptsPrice rounding price := by
  intro price limit
  rw [checkStopLimitPrice, Option.mem_def.1 limit] at passed
  exact price_error_none (require_no_error_ok passed)

/-! ## The market as an environment -/

/-- What the exchange says about one symbol while an order is being placed. -/
structure Market where
  symbolInfo : SymbolInfo
  tickerPrice : Decimal

namespace Market

variable (market : Market)

/-- Symbol rules and ticker answers are those of the market, or the call
throws; every other answer is free. -/
def Answers : (effect : PlacementEffect) → effect.Answer → Prop
  | .getSymbolInfo _ _, answer => ∀ symbolInfo, answer = .ok symbolInfo →
      symbolInfo = market.symbolInfo
  | .getTickerPrice _, answer => ∀ price, answer = .ok price → price = market.tickerPrice
  | _, _ => True

def contract (allowed : PlacementEffect → Prop) :
    Interaction.Contract PlacementEffect PlacementEffect.Answer where
  requires := fun _ effect => allowed effect
  ensures := fun _ effect answer => market.Answers effect answer

/-- Some run in this market makes the program's next action the given effect. -/
def Requests {Result : Type} (program : PlacementProgram Result) (effect : PlacementEffect) :
    Prop :=
  ∃ history next, Interaction.Follows (market.contract fun _ => True) program history
    (.request effect next)

/-- In every run in this market the program requests allowed effects only, and
what it returns satisfies `fact`. -/
def Yields {Result : Type} (allowed : PlacementEffect → Prop) (fact : Result → Prop)
    (program : PlacementProgram Result) : Prop :=
  ∀ history, Interaction.Meets (market.contract allowed)
    (fun _ outcome => ∀ result, outcome = .ok result → fact result) program history

/-- Every call succeeds, and every balance covers the order. -/
def steadyAnswers : (effect : PlacementEffect) → effect.Answer
  | .getSymbolInfo _ _ => .ok market.symbolInfo
  | .getTickerPrice _ => .ok market.tickerPrice
  | .getOrderPriceLimit _ _ => .ok {}
  | .getBalance asset => some { asset, free := 1000000 }
  | .getServerTimestamp => .ok 0
  | .createBinanceOrder _ => .ok {}
  | .createBinanceOco _ => .ok {}
  | .createBybitOrder _ => .ok {}
  | .cancelOrder _ => .ok {}
  | .ensureUserStreamConnected => .ok ()
  | .generateUniqueOcoId => "oco"
  | .registerOcoPlacement _ _ _ => .ok ()
  | .clearOcoPlacementRegistration _ _ => ()
  | .createOcoGroup _ => none
  | .processOcoUpdate _ => .ok none

theorem steady_answers_kept (effect : PlacementEffect) :
    market.Answers effect (market.steadyAnswers effect) := by
  cases effect <;> simp [Answers, steadyAnswers, eq_comm]

/-- The price of an order's notional. -/
def orderPrice (request : PlaceOrderRequest) : Decimal :=
  match request.type, request.price with
  | .limit, some price => price
  | _, _ => market.tickerPrice

variable {market} in
theorem order_price_of_limit {request : PlaceOrderRequest} {price : Decimal}
    (limit : request.type = .limit) (known : request.price = some price) :
    market.orderPrice request = price := by
  simp [orderPrice, limit, known]

variable {market} in
theorem order_price_of_unpriced {request : PlaceOrderRequest}
    (unpriced : ∀ price, request.type = .limit → request.price = some price → False) :
    market.orderPrice request = market.tickerPrice := by
  unfold orderPrice
  split
  next price limit known => exact absurd known (unpriced price limit)
  next => rfl

variable {market} {Result Other : Type} {allowed : PlacementEffect → Prop} {fact : Result → Prop}

theorem requests_of_first_request {program : PlacementProgram Result} {effect : PlacementEffect}
    (found : Interaction.firstRequest market.steadyAnswers PlacementEffect.isCreate program
      = some effect) : market.Requests program effect :=
  Interaction.Follows.first_request (fun _ => market.steady_answers_kept) .start found

theorem Yields.requested {program : PlacementProgram Result} {effect : PlacementEffect}
    (yields : market.Yields allowed fact program) (requests : market.Requests program effect) :
    allowed effect := by
  obtain ⟨history, next, run⟩ := requests
  exact ((yields []).follows (run.mono fun _ _ _ kept => kept)).1

theorem yields_threw (failure : ServiceFailure) : market.Yields allowed fact (.threw failure) :=
  fun _ => nofun

theorem yields_returned {result : Result} (holds : fact result) :
    market.Yields allowed fact (.returned result) := by
  rintro _ _ ⟨⟩
  exact holds

theorem yields_except {outcome : Except ServiceFailure Result}
    (holds : ∀ result, outcome = .ok result → fact result) :
    market.Yields allowed fact (liftM outcome) := by
  intro history
  rw [Interaction.meets_lift]
  exact holds

theorem Yields.bind {program : PlacementProgram Other} {middle : Other → Prop}
    {continuation : Other → PlacementProgram Result}
    (first : market.Yields allowed middle program)
    (second : ∀ result, middle result → market.Yields allowed fact (continuation result)) :
    market.Yields allowed fact (program >>= continuation) :=
  fun history => (first history).bind (fun later result known => second result (known _ rfl) later)
    fun _ _ _ => nofun

theorem Yields.followed_by {program : PlacementProgram Other}
    {continuation : Other → PlacementProgram Result}
    (first : market.Yields allowed (fun _ => True) program)
    (second : ∀ result, market.Yields allowed fact (continuation result)) :
    market.Yields allowed fact (program >>= continuation) :=
  first.bind fun result _ => second result

theorem Yields.handle {program : PlacementProgram Result}
    {handler : ServiceFailure → PlacementProgram Result}
    (body : market.Yields allowed fact program)
    (handled : ∀ failure, market.Yields allowed fact (handler failure)) :
    market.Yields allowed fact (Interaction.handle program handler) := by
  intro history
  rw [Interaction.meets_handle]
  refine (body history).weaken fun later outcome known => ?_
  cases outcome with
  | ok result => exact known
  | error failure => exact handled failure later

theorem Yields.catch_exception {program : PlacementProgram Result}
    {handler : String → PlacementProgram Result} (body : market.Yields allowed fact program)
    (handled : ∀ what, market.Yields allowed fact (handler what)) :
    market.Yields allowed fact (program.catchException handler) := by
  refine body.handle fun failure => ?_
  cases failure with
  | runtime what => exact handled what
  | interrupted what => exact handled what
  | nonStandard => exact yields_threw _

theorem yields_request {effect : PlacementEffect}
    {next : effect.Answer → PlacementProgram Result} (permitted : allowed effect)
    (continues : ∀ answer, market.Answers effect answer →
      market.Yields allowed fact (next answer)) :
    market.Yields allowed fact (.request effect next) :=
  fun _ => ⟨permitted, fun answer kept => continues answer kept _⟩

/-- A refusal ends the program, so what follows may rely on its absence. -/
theorem yields_except_bind {outcome : Except ServiceFailure Other}
    {continuation : Other → PlacementProgram Result}
    (next : ∀ result, outcome = .ok result → market.Yields allowed fact (continuation result)) :
    market.Yields allowed fact (liftM outcome >>= continuation) :=
  (yields_except fun _ same => same).bind next

theorem yields_free_balance {asset : String} (permitted : allowed (.getBalance asset)) :
    market.Yields allowed (fun _ => True) (freeBalance asset) :=
  Yields.followed_by (yields_request permitted fun _ _ => yields_returned trivial)
    fun _ => yields_returned trivial

/-- Once `getSymbolInfo` returns, the rules at hand are the market's. -/
theorem yields_get_symbol_info {symbol : String} {category : OrderCategory}
    (permitted : allowed (.getSymbolInfo symbol category)) :
    market.Yields allowed (· = market.symbolInfo)
      (PlacementProgram.getSymbolInfo symbol category) :=
  yields_request permitted fun _ kept => yields_except kept

theorem yields_get_ticker_price {symbol : String} (permitted : allowed (.getTickerPrice symbol)) :
    market.Yields allowed (· = market.tickerPrice) (PlacementProgram.getTickerPrice symbol) :=
  yields_request permitted fun _ kept => yields_except kept

end Market

end CryptoDeal.DealService
