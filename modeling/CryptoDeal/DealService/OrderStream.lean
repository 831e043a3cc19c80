import CryptoDeal.DealService.BalanceCache
import CryptoDeal.DealService.OcoRun
import CryptoDeal.DealService.SingleOrders

/-!
# Bybit's stream messages

`handleUserStreamMessage` with the order updates of one message. Its requests are
the sections on the store of pending orders and on the OCO registry, and the
network calls that close a group. The parser and the conversions to DTOs are
given by what they make of a message.
-/

namespace CryptoDeal.DealService.Bybit

open DecimalText OrderStatusUtil Interaction

structure StreamOrderDto where
  category : Option String := none
  symbol : Option String := none
  orderId : Option String := none
  orderLinkId : Option String := none
  side : Option String := none
  orderType : Option String := none
  timeInForce : Option String := none
  orderStatus : Option String := none
  price : Option String := none
  qty : Option String := none
  cumExecQty : Option String := none
  cumExecValue : Option String := none
  leavesQty : Option String := none
  avgPrice : Option String := none
  createdTime : Option String := none
  updatedTime : Option String := none
  rejectReason : Option String := none
  cancelType : Option String := none

structure StreamOrderMessageDto where
  data : Option (List StreamOrderDto) := none

/-- A value of the `data` array; each conversion gives a DTO or the `what()` of its exception. -/
structure StreamItem where
  walletAccount : Except String WalletAccountDto
  order : Except String StreamOrderDto

/-- A received text as the parser sees it. -/
inductive StreamText where
  | unparsed
  | notObject
  | object (topic : Except String (Option String))
      (data : Except String (Option (List StreamItem)))

/-- A message of the `order` topic. -/
def orderMessage (items : List StreamItem) : StreamText :=
  .object (.ok (some "order")) (.ok (some items))

/-- An outcome whose exception is derived from `std::exception`. -/
def standardOutcome {Result : Type} (outcome : Except String Result) :
    Except ServiceFailure Result :=
  outcome.mapError .runtime

/-- `json::value_to` of a message, with one conversion for all its items. -/
def convertData {Dto : Type} (item : StreamItem → Except String Dto)
    (data : Except String (Option (List StreamItem))) : Except String (Option (List Dto)) := do
  match ← data with
  | none => return none
  | some items => return some (← items.mapM item)

/-! ## Programs -/

inductive OrderStreamEffect where
  | handleWalletUpdate (message : StreamMessageDto)
  | oco (effect : OcoEffect)
  | findOcoLegs (orderLinkId : String)
  | publishOrderUpdate (orderInfo : OrderInfo)
  | publishOrderWaitError (orderInfo : OrderInfo) (error : String)

@[reducible] def OrderStreamEffect.Answer : OrderStreamEffect → Type
  | handleWalletUpdate _ => Except ServiceFailure Unit
  | oco effect => effect.Answer
  | findOcoLegs _ => Option (OrderInfo × OrderInfo)
  | publishOrderUpdate _ | publishOrderWaitError _ _ => Unit

abbrev OrderStreamProgram (Result : Type) :=
  Interaction OrderStreamEffect OrderStreamEffect.Answer ServiceFailure Result

namespace OrderStreamProgram

def handleWalletUpdate (message : StreamMessageDto) : OrderStreamProgram Unit :=
  .request (.handleWalletUpdate message) .ofExcept

def processOcoUpdate (orderLinkId : String) : OrderStreamProgram (Option String) :=
  (Bybit.processOcoUpdate orderLinkId).interpret fun effect => .request (.oco effect) .returned

def findOcoLegs (orderLinkId : String) : OrderStreamProgram (Option (OrderInfo × OrderInfo)) :=
  .request (.findOcoLegs orderLinkId) .returned

def publishOrderUpdate (orderInfo : OrderInfo) : OrderStreamProgram Unit :=
  .request (.publishOrderUpdate orderInfo) .returned

def publishOrderWaitError (orderInfo : OrderInfo) (error : String) : OrderStreamProgram Unit :=
  .request (.publishOrderWaitError orderInfo error) .returned

/-- `catch (const exception &e)` around a message, which only logs. -/
def logException : ServiceFailure → OrderStreamProgram Unit
  | .runtime _ | .interrupted _ => .returned ()
  | .nonStandard => .threw .nonStandard

def publishOcoError (orderLinkId error : String) : OrderStreamProgram Unit := do
  match ← findOcoLegs orderLinkId with
  | none => return ()
  | some (takeProfitOrder, stopLossOrder) => do
      publishOrderWaitError takeProfitOrder error
      publishOrderWaitError stopLossOrder error

end OrderStreamProgram

section Messages

variable (fromChars : String → Option Decimal) (stoll : String → Except String ℤ)

def StreamOrderDto.createOrderInfo (order : StreamOrderDto) : Except ServiceFailure OrderInfo := do
  let rejectReason := order.rejectReason.getD ""
  let price ← parseToDecimal fromChars order.price
  let origQty ← parseToDecimal fromChars order.qty
  let executedQty ← parseToDecimal fromChars order.cumExecQty
  let cumQuoteQty ← parseToDecimal fromChars order.cumExecValue
  let leavesQty ← parseToDecimal fromChars order.leavesQty
  let avgPrice ← parseToDecimal fromChars order.avgPrice
  let createdTimeMs ← parseTimestamp (fun text => standardOutcome (stoll text)) order.createdTime
  let updatedTimeMs ← parseTimestamp (fun text => standardOutcome (stoll text)) order.updatedTime
  return {
    symbol := order.symbol.getD ""
    orderId := order.orderId.getD ""
    clientOrderId := order.orderLinkId.getD ""
    side := order.side.getD ""
    type := order.orderType.getD ""
    timeInForce := order.timeInForce.getD ""
    status := order.orderStatus.getD ""
    statusReason := if rejectReason = "" then order.cancelType.getD "" else rejectReason
    category := order.category.getD ""
    price
    origQty
    executedQty
    cumQuoteQty
    leavesQty
    avgPrice
    createdTimeMs
    updatedTimeMs }

/-- What follows `createOrderInfo` in the loop of `handleOrderUpdate`. -/
def deliverOrderInfo (orderInfo : OrderInfo) : OrderStreamProgram Unit := do
  if isOrderFilled .bybit orderInfo.status ∧ orderInfo.clientOrderId ≠ "" then
    match ← OrderStreamProgram.processOcoUpdate orderInfo.clientOrderId with
    | none => OrderStreamProgram.publishOrderUpdate orderInfo
    | some ocoError => OrderStreamProgram.publishOcoError orderInfo.clientOrderId ocoError
  else OrderStreamProgram.publishOrderUpdate orderInfo

def handleOrders : List StreamOrderDto → OrderStreamProgram Unit
  | [] => return ()
  | order :: orders => do
      let orderInfo ← order.createOrderInfo fromChars stoll
      deliverOrderInfo orderInfo
      handleOrders orders

def handleOrderUpdate (message : StreamOrderMessageDto) : OrderStreamProgram Unit :=
  match message.data with
  | none => return ()
  | some orders => handleOrders fromChars stoll orders

/-- The `try` block of `handleUserStreamMessage`. -/
def dispatchMessage : StreamText → OrderStreamProgram Unit
  | .unparsed | .notObject => return ()
  | .object topic data => do
      let topic ← standardOutcome topic
      let accounts ← standardOutcome (convertData (·.walletAccount) data)
      if topic = some "wallet" then OrderStreamProgram.handleWalletUpdate { data := accounts }
      else if topic = some "order" then do
        let orders ← standardOutcome (convertData (·.order) data)
        handleOrderUpdate fromChars stoll { data := orders }

def handleUserStreamMessage (msg : StreamText) : OrderStreamProgram Unit :=
  (dispatchMessage fromChars stoll msg).handle OrderStreamProgram.logException

namespace StreamItem

/-- The item stops no conversion of its message. -/
def converts (item : StreamItem) : Bool := item.walletAccount.isOk && item.order.isOk

/-- What a message of this item alone would deliver. -/
def orderInfo (item : StreamItem) : Except ServiceFailure OrderInfo := do
  let _ ← standardOutcome item.walletAccount
  let order ← standardOutcome item.order
  order.createOrderInfo fromChars stoll

def isWellFormed (item : StreamItem) : Bool := (item.orderInfo fromChars stoll).isOk

end StreamItem

/-- Each item in a message of its own. -/
def deliverSeparately : List StreamItem → OrderStreamProgram Unit
  | [] => return ()
  | item :: items => do
      handleUserStreamMessage fromChars stoll (orderMessage [item])
      deliverSeparately items

end Messages

/-! ## The store and the registry -/

/-- The section of `publishOcoError` under `ocoMutex`. -/
def OcoRegistry.findOcoLegs (registry : OcoRegistry) (orderLinkId : String) :
    Option (OrderInfo × OrderInfo) := do
  let groupId ← registry.ocoLegToGroup orderLinkId
  let group ← registry.ocoGroups groupId
  let legInfo := fun (leg : OrderQuery) => ({
    symbol := leg.symbol
    orderId := leg.orderId.getD ""
    clientOrderId := leg.clientOrderId.getD "" } : OrderInfo)
  return (legInfo group.takeProfit, legInfo group.stopLeg)

structure OrderStreamState where
  pendingOrderWaits : PendingOrderWaits := noPendingOrderWaits
  registry : OcoRegistry := {}

/-- What goes on around a message: the network, and the calls of other threads before a step. -/
structure Surroundings (World : Type) where
  meanwhile : World → OrderStreamState → World × OrderStreamState :=
    fun world state => (world, state)
  network : World → (effect : OcoEffect) → effect.Answer
  walletUpdate : World → StreamMessageDto → Except ServiceFailure Unit := fun _ _ => .ok ()

namespace OrderStreamState

variable {World : Type}

def answerEffect (surroundings : Surroundings World) (world : World) (state : OrderStreamState) :
    (effect : OrderStreamEffect) → Option (effect.Answer × OrderStreamState)
  | .handleWalletUpdate message => some (surroundings.walletUpdate world message, state)
  | .oco effect =>
      (ocoRespond (surroundings.network world) state.registry effect).map fun answered =>
        (answered.1, { state with registry := answered.2 })
  | .findOcoLegs orderLinkId => some (state.registry.findOcoLegs orderLinkId, state)
  | .publishOrderUpdate orderInfo =>
      some ((), { state with
        pendingOrderWaits :=
          DealService.publishOrderUpdate .bybit orderInfo state.pendingOrderWaits })
  | .publishOrderWaitError orderInfo error =>
      some ((), { state with
        pendingOrderWaits :=
          DealService.publishOrderWaitError orderInfo error state.pendingOrderWaits })

/-- One request, after what the others did. -/
def perform (surroundings : Surroundings World) (state : World × OrderStreamState)
    (effect : OrderStreamEffect) : Option (effect.Answer × (World × OrderStreamState)) :=
  let current := surroundings.meanwhile state.1 state.2
  (current.2.answerEffect surroundings current.1 effect).map fun answered =>
    (answered.1, (current.1, answered.2))

end OrderStreamState

end CryptoDeal.DealService.Bybit
