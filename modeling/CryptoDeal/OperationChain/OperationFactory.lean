import CryptoDeal.Library.Interaction
import CryptoDeal.OperationChain.Definition

/-!
# Operations

The executable operations of `OperationFactory`. An operation is a program: it
asks the cancellation coordinator and the deal services, reports that its order
was accepted, and assigns the context, which keeps the assignments made before
an exception.
-/

namespace CryptoDeal

open DealService Interaction

/-- `exchangersPull` is known by the exchanges that it holds a service for. -/
structure OperationContext where
  exchangerType : ExchangerType
  exchangersPull : List ExchangerType
  inAsset : String
  quantity : Decimal

/-- An order that is live on an exchange, as the coordinator registers it. -/
inductive OrderAction where
  | ordinary (service : ExchangerType) (orderInfo : OrderInfo)
  | oco (service : ExchangerType) (ocoInfo : OcoInfo)
  deriving DecidableEq

/-- Names the stop state that a token was taken from. -/
abbrev StopSource := ℕ

inductive OperationCall where
  | isCancellationRequested
  | buyCrypto (service : ExchangerType) (outAsset inAsset : String) (quantity : Decimal)
  | sellCrypto (service : ExchangerType) (inAsset outAsset : String) (quantity : Decimal)
  | placeOrder (service : ExchangerType) (request : PlaceOrderRequest)
  | placeOco (service : ExchangerType) (request : PlaceOcoRequest)
  | register (action : OrderAction)
  | getWaitStopToken
  | waitUntilOrderFilled (service : ExchangerType) (symbol orderId : String) (token : StopSource)
  | waitUntilOcoOrderFilled (service : ExchangerType) (ocoInfo : OcoInfo) (token : StopSource)
  | completeActionNaturally
  | printSending (context : OperationContext) (config : SendToConfig)

namespace OperationCall

@[reducible] def Answer : OperationCall → Type
  | isCancellationRequested => Bool
  | buyCrypto _ _ _ _ | sellCrypto _ _ _ _ | placeOrder _ _ => Except ServiceFailure OrderInfo
  | placeOco _ _ => Except ServiceFailure OcoInfo
  | register _ => Except ServiceFailure Unit
  | getWaitStopToken => StopSource
  | waitUntilOrderFilled _ _ _ _ => Except ServiceFailure OrderInfo
  | waitUntilOcoOrderFilled _ _ _ => Except ServiceFailure OcoWaitResult
  | completeActionNaturally => Unit
  | printSending _ _ => Unit

/-- The calls that create an order on an exchange. -/
def placesOrder : OperationCall → Bool
  | buyCrypto _ _ _ _ | sellCrypto _ _ _ _ | placeOrder _ _ | placeOco _ _ => true
  | _ => false

end OperationCall

inductive OperationEffect where
  | call (asked : OperationCall)
  | reportAwaiting (identifiers : OperationAcceptedIdentifiers)
  | assignContext (context : OperationContext)

@[reducible] def OperationEffect.Answer : OperationEffect → Type
  | .call asked => asked.Answer
  | .reportAwaiting _ => Except ServiceFailure Unit
  | .assignContext _ => Unit

/-- `OperationCancellationRequested` is thrown by the coordinator's own check only. -/
inductive OperationFailure where
  | cancellationRequested (what : String)
  | thrown (failure : ServiceFailure)
  deriving DecidableEq

abbrev OperationProgram (Result : Type) :=
  Interaction OperationEffect OperationEffect.Answer OperationFailure Result

abbrev Operation := OperationContext → OperationProgram Unit

namespace OperationFactory

/-- Rethrow what a deal service or the coordinator threw. -/
def ofService {Result : Type} : Except ServiceFailure Result → OperationProgram Result
  | .ok result => .returned result
  | .error failure => .threw (.thrown failure)

def throwIfCancellationRequested : OperationProgram Unit :=
  .request (.call .isCancellationRequested) fun requested =>
    if requested then .threw (.cancellationRequested "Operation-chain cancellation was requested")
    else .returned ()

def getExchanger (context : OperationContext) : OperationProgram ExchangerType :=
  if context.exchangerType ∈ context.exchangersPull then .returned context.exchangerType
  else .threw (.thrown (.runtime "flat_map::at key not found"))

def register (action : OrderAction) : OperationProgram Unit :=
  .request (.call (.register action)) ofService

def reportAwaiting (identifiers : OperationAcceptedIdentifiers) : OperationProgram Unit :=
  .request (.reportAwaiting identifiers) ofService

def getWaitStopToken : OperationProgram StopSource :=
  .request (.call .getWaitStopToken) .returned

def waitUntilOrderFilled (service : ExchangerType) (symbol orderId : String) (token : StopSource) :
    OperationProgram OrderInfo :=
  .request (.call (.waitUntilOrderFilled service symbol orderId token)) ofService

def waitUntilOcoOrderFilled (service : ExchangerType) (ocoInfo : OcoInfo) (token : StopSource) :
    OperationProgram OcoWaitResult :=
  .request (.call (.waitUntilOcoOrderFilled service ocoInfo token)) ofService

def completeActionNaturally : OperationProgram Unit :=
  .request (.call .completeActionNaturally) .returned

def assignContext (context : OperationContext) : OperationProgram Unit :=
  .request (.assignContext context) .returned

def getIdentifierIfPresent (identifier : String) : Option String :=
  if identifier = "" then none else some identifier

def orderIdentifiers (orderInfo : OrderInfo) : OperationAcceptedIdentifiers :=
  { orderId := getIdentifierIfPresent orderInfo.orderId }

def ocoIdentifiers (ocoInfo : OcoInfo) : OperationAcceptedIdentifiers :=
  { ocoGroupId := getIdentifierIfPresent ocoInfo.orderListId
    takeProfitOrderId := getIdentifierIfPresent ocoInfo.takeProfitOrder.orderId
    stopLossOrderId := getIdentifierIfPresent ocoInfo.stopLossOrder.orderId }

def getReceivedQuantity (orderInfo : OrderInfo) : OrderOperation → Decimal
  | .sell => orderInfo.cumQuoteQty
  | .buy => if 0 < orderInfo.executedQty then orderInfo.executedQty else orderInfo.origQty

/-- The symbol of a `PLACE_ORDER` or `PLACE_OCO` request. -/
def requestSymbol (context : OperationContext) (outAsset : String) : OrderOperation → String
  | .buy => outAsset ++ context.inAsset
  | .sell => context.inAsset ++ outAsset

/-- The body that `BUY_CRYPTO`, `SELL_CRYPTO` and `PLACE_ORDER` share around their own call. -/
def ordinaryOrderOperation (outAsset : String) (side : OrderOperation)
    (submit : OperationContext → ExchangerType → OperationProgram OrderInfo) : Operation :=
  fun context => do
    throwIfCancellationRequested
    let service ← getExchanger context
    let orderInfo ← submit context service
    register (.ordinary service orderInfo)
    reportAwaiting (orderIdentifiers orderInfo)
    let token ← getWaitStopToken
    let completeOrderInfo ← waitUntilOrderFilled service orderInfo.symbol orderInfo.orderId token
    completeActionNaturally
    assignContext { context with
      quantity := getReceivedQuantity completeOrderInfo side
      inAsset := outAsset }

def buyCrypto (preset : BaseConfig) : Operation :=
  ordinaryOrderOperation preset.outAsset .buy fun context service =>
    .request (.call (.buyCrypto service preset.outAsset context.inAsset context.quantity)) ofService

def sellCrypto (preset : BaseConfig) : Operation :=
  ordinaryOrderOperation preset.outAsset .sell fun context service =>
    .request (.call (.sellCrypto service context.inAsset preset.outAsset context.quantity)) ofService

def placeOrderRequest (preset : PlaceOrderConfig) (context : OperationContext) :
    PlaceOrderRequest where
  symbol := requestSymbol context preset.outAsset preset.side
  side := preset.side
  type := preset.type
  quantity := context.quantity
  price := some preset.price
  timeInForce := preset.timeInForce
  category := .spot
  triggerPrice := preset.triggerPrice
  orderFilter := preset.orderFilter
  marketUnit := preset.marketUnit

def placeOrder (preset : PlaceOrderConfig) : Operation :=
  ordinaryOrderOperation preset.outAsset preset.side fun context service =>
    .request (.call (.placeOrder service (placeOrderRequest preset context))) ofService

def placeOcoRequest (preset : PlaceOcoConfig) (context : OperationContext) : PlaceOcoRequest where
  symbol := requestSymbol context preset.outAsset preset.side
  side := preset.side
  quantity := context.quantity
  price := preset.price
  stopPrice := preset.stopPrice
  stopLimitPrice := preset.stopLimitPrice
  stopLimitTimeInForce := preset.stopLimitTimeInForce
  listClientOrderId := preset.listClientOrderId
  limitClientOrderId := preset.limitClientOrderId
  stopClientOrderId := preset.stopClientOrderId

def submitOco (preset : PlaceOcoConfig) (context : OperationContext) (service : ExchangerType) :
    OperationProgram OcoInfo :=
  .request (.call (.placeOco service (placeOcoRequest preset context))) ofService

def placeOco (preset : PlaceOcoConfig) : Operation :=
  fun context => do
    throwIfCancellationRequested
    let service ← getExchanger context
    let ocoInfo ← submitOco preset context service
    register (.oco service ocoInfo)
    reportAwaiting (ocoIdentifiers ocoInfo)
    let token ← getWaitStopToken
    let result ← waitUntilOcoOrderFilled service ocoInfo token
    completeActionNaturally
    assignContext { context with
      quantity := getReceivedQuantity result.filledOrder preset.side
      inAsset := preset.outAsset }

def sendTo (preset : SendToConfig) : Operation :=
  fun context => do
    throwIfCancellationRequested
    .request (.call (.printSending context preset)) .returned
    assignContext { context with exchangerType := preset.destinationExchanger }

/-- `get` of another alternative of the variant throws. -/
def create : OperationType → Config → Except ServiceFailure Operation
  | .buyCrypto, .base preset => .ok (buyCrypto preset)
  | .sellCrypto, .base preset => .ok (sellCrypto preset)
  | .placeOrder, .placeOrder preset => .ok (placeOrder preset)
  | .placeOco, .placeOco preset => .ok (placeOco preset)
  | .sendTo, .sendTo preset => .ok (sendTo preset)
  | _, _ => .error (.runtime "std::get: wrong index for variant")

end OperationFactory

end CryptoDeal
