import CryptoDeal.DealService.BybitPlacement
import CryptoDeal.DealService.PendingOrderStore

/-!
# Querying and cancelling one order

`getOrder` and `cancelOrder` of both services, down to the parsed responses. A
Binance cancellation answers with the order and its status; a Bybit one answers
with the order's ids only, and the service writes the status itself.
-/

namespace CryptoDeal.DealService

open Interaction

namespace Binance

structure OrderDto where
  symbol : Option String := none
  orderId : Option ℤ := none
  clientOrderId : Option String := none
  side : Option String := none
  type : Option String := none
  timeInForce : Option String := none
  status : Option String := none
  price : Option String := none
  origQty : Option String := none
  executedQty : Option String := none
  cummulativeQuoteQty : Option String := none
  cumulativeQuoteQty : Option String := none
  transactTime : Option ℤ := none

end Binance

namespace Bybit

/-- What acknowledges a cancellation. -/
structure OrderResultDto where
  orderId : Option String := none
  orderLinkId : Option String := none

structure OrderDto where
  symbol : Option String := none
  orderId : Option String := none
  orderLinkId : Option String := none
  side : Option String := none
  orderType : Option String := none
  timeInForce : Option String := none
  orderStatus : Option String := none
  price : Option String := none
  qty : Option String := none
  cumExecQty : Option String := none
  cumExecValue : Option String := none
  leavesQty : Option String := none
  avgPrice : Option String := none
  createdTime : Option String := none
  updatedTime : Option String := none

end Bybit

/-- The requests of the two services' `getOrder` and `cancelOrder`; `other` stands for all that the
rest of the services does. -/
inductive OrderEffect (Other : Type) where
  | getServerTimestamp
  | getBinanceOrder (request : OrderQuery)
  | cancelBinanceOrder (request : OrderQuery)
  | getBybitOrder (request : OrderQuery)
  | cancelBybitOrder (request : OrderQuery)
  | other (effect : Other)

/-- The validated response of a request, or what sending and validating it threw. -/
@[reducible] def OrderEffect.Answer {Other : Type} (OtherAnswer : Other → Type) :
    OrderEffect Other → Type
  | getServerTimestamp => Except ServiceFailure ℤ
  | getBinanceOrder _ | cancelBinanceOrder _ => Except ServiceFailure Binance.OrderDto
  -- the optional result object, with its list of orders
  | getBybitOrder _ => Except ServiceFailure (Option (List Bybit.OrderDto))
  | cancelBybitOrder _ => Except ServiceFailure (Option Bybit.OrderResultDto)
  | other effect => OtherAnswer effect

section Programs

variable {Other : Type} {OtherAnswer : Other → Type} (fromChars : String → Option Decimal)
  (stoll : String → Except ServiceFailure ℤ)

/-- An optional field that must be present. -/
def requiredField {Value : Type} (name : String) : Option Value → Except ServiceFailure Value
  | some value => .ok value
  | none => .error (.runtime ("Missing required string field: " ++ name))

/-- The identity that a query must give. -/
def validateOrderQuery (request : OrderQuery) : Except ServiceFailure Unit := do
  throwIf (request.symbol = "") "Symbol cannot be empty"
  throwIf (request.orderId = none ∧ request.clientOrderId = none)
    "Either orderId or clientOrderId must be provided"

namespace Binance

def createOrderInfo (order : OrderDto) : Except ServiceFailure OrderInfo := do
  let symbol ← requiredField "symbol" order.symbol
  let orderId ← requiredField "orderId" order.orderId
  let side ← requiredField "side" order.side
  let type ← requiredField "type" order.type
  let status ← requiredField "status" order.status
  let price ← parseToDecimal fromChars order.price
  let origQty ← parseToDecimal fromChars order.origQty
  let executedQty ← parseToDecimal fromChars order.executedQty
  -- the misspelt field is the exchange's older name
  let cumQuoteQty ←
    parseToDecimal fromChars (order.cummulativeQuoteQty.or order.cumulativeQuoteQty)
  return {
    symbol
    orderId := toString orderId
    clientOrderId := order.clientOrderId.getD ""
    side
    type
    status
    timeInForce := order.timeInForce.getD ""
    price
    origQty
    executedQty
    cumQuoteQty
    createdTimeMs := order.transactTime.getD 0
    updatedTimeMs := order.transactTime.getD 0
    leavesQty := origQty - executedQty
    avgPrice := if 0 < executedQty then cumQuoteQty / executedQty else 0 }

/-- `setRequestParameters` and one signed request. -/
def requestOrder (effect : OrderEffect Other)
    (order : OrderEffect.Answer OtherAnswer effect → Except ServiceFailure OrderDto)
    (request : OrderQuery) :
    Interaction (OrderEffect Other) (OrderEffect.Answer OtherAnswer) ServiceFailure OrderInfo := do
  validateOrderQuery request
  let _timestamp ← Interaction.request .getServerTimestamp .ofExcept
  let response ← Interaction.request effect fun answer => .ofExcept (order answer)
  createOrderInfo fromChars response

def getOrder (request : OrderQuery) :
    Interaction (OrderEffect Other) (OrderEffect.Answer OtherAnswer) ServiceFailure OrderInfo :=
  requestOrder fromChars (.getBinanceOrder request) id request

def cancelOrder (request : OrderQuery) :
    Interaction (OrderEffect Other) (OrderEffect.Answer OtherAnswer) ServiceFailure OrderInfo :=
  requestOrder fromChars (.cancelBinanceOrder request) id request

end Binance

namespace Bybit

def parseTimestamp (text : Option String) : Except ServiceFailure ℤ :=
  match text.filter (· ≠ "") with
  | some text => stoll text
  | none => .ok 0

/-- The overload for a cancellation: the status is the service's own, not the exchange's. -/
def OrderResultDto.createOrderInfo (result : OrderResultDto) (request : OrderQuery)
    (timestamp : ℤ) : OrderInfo where
  symbol := request.symbol
  category := categoryText request.category
  status := "Cancelled"
  updatedTimeMs := timestamp
  orderId := request.orderId.getD (result.orderId.getD "")
  clientOrderId := request.clientOrderId.getD (result.orderLinkId.getD "")

/-- The overload for a queried order. -/
def OrderDto.createOrderInfo (order : OrderDto) (request : OrderQuery) (timestamp : ℤ) :
    Except ServiceFailure OrderInfo := do
  let symbol := order.symbol.getD ""
  let price ← parseToDecimal fromChars order.price
  let origQty ← parseToDecimal fromChars order.qty
  let executedQty ← parseToDecimal fromChars order.cumExecQty
  let cumQuoteQty ← parseToDecimal fromChars order.cumExecValue
  let leavesQty ← parseToDecimal fromChars order.leavesQty
  let avgPrice ← parseToDecimal fromChars order.avgPrice
  let createdTimeMs ← parseTimestamp stoll order.createdTime
  let updatedTimeMs ← parseTimestamp stoll order.updatedTime
  return {
    symbol := if symbol = "" then request.symbol else symbol
    category := categoryText request.category
    orderId := (order.orderId.or request.orderId).getD ""
    clientOrderId := (order.orderLinkId.or request.clientOrderId).getD ""
    side := order.side.getD ""
    type := order.orderType.getD ""
    timeInForce := order.timeInForce.getD ""
    status := order.orderStatus.getD ""
    price
    origQty
    executedQty
    cumQuoteQty
    leavesQty
    avgPrice
    createdTimeMs
    updatedTimeMs := if updatedTimeMs = 0 then timestamp else updatedTimeMs }

def cancelOrder (request : OrderQuery) :
    Interaction (OrderEffect Other) (OrderEffect.Answer OtherAnswer) ServiceFailure OrderInfo := do
  validateOrderQuery request
  let timestamp ← Interaction.request .getServerTimestamp .ofExcept
  match ← Interaction.request (.cancelBybitOrder request) .ofExcept with
  | none => .threw (.runtime "Missing result object in response")
  | some result => return result.createOrderInfo request timestamp

def getOrder (request : OrderQuery) :
    Interaction (OrderEffect Other) (OrderEffect.Answer OtherAnswer) ServiceFailure OrderInfo := do
  validateOrderQuery request
  let timestamp ← Interaction.request .getServerTimestamp .ofExcept
  match ← Interaction.request (.getBybitOrder request) .ofExcept with
  | none => .threw (.runtime "Missing result object in response")
  | some [] => .threw (.runtime "Order not found (empty list)")
  | some (order :: _) => order.createOrderInfo fromChars stoll request timestamp

end Bybit

end Programs

/-! ## What the exchange states -/

section Reports

variable {Other : Type} {OtherAnswer : Other → Type} {fromChars : String → Option Decimal}
  {stoll : String → Except ServiceFailure ℤ}

/-- The answer states the status of the order that was asked about. The acknowledgement of a Bybit
cancellation states none. -/
inductive StatesStatus (query : OrderQuery) (status : String) :
    ExchangerType → Sigma (OrderEffect.Answer OtherAnswer) → Prop where
  | binanceOrder {order : Binance.OrderDto} (stated : order.status = some status) :
      StatesStatus query status .binance ⟨.getBinanceOrder query, .ok order⟩
  | binanceCancellation {order : Binance.OrderDto} (stated : order.status = some status) :
      StatesStatus query status .binance ⟨.cancelBinanceOrder query, .ok order⟩
  | bybitOrder {order : Bybit.OrderDto} {orders : List Bybit.OrderDto}
      (stated : order.orderStatus.getD "" = status) :
      StatesStatus query status .bybit ⟨.getBybitOrder query, .ok (some (order :: orders))⟩

/-- Some answer states this status of the order. -/
def StatusStated (exchangerType : ExchangerType) (query : OrderQuery) (status : String)
    (history : History (OrderEffect Other) (OrderEffect.Answer OtherAnswer)) : Prop :=
  ∃ answered ∈ history, StatesStatus query status exchangerType answered

theorem StatusStated.grows {exchangerType : ExchangerType} {query : OrderQuery} {status : String}
    {earlier later : History (OrderEffect Other) (OrderEffect.Answer OtherAnswer)}
    (stated : StatusStated exchangerType query status earlier) (grown : earlier <:+ later) :
    StatusStated exchangerType query status later := by
  obtain ⟨answered, member, states⟩ := stated
  exact ⟨answered, grown.subset member, states⟩

theorem required_field_ok {Value : Type} {name : String} {field : Option Value} {value : Value} :
    requiredField name field = .ok value ↔ field = some value := by
  cases field <;> simp [requiredField]

theorem Binance.create_order_info_status {order : Binance.OrderDto} {orderInfo : OrderInfo}
    (created : Binance.createOrderInfo fromChars order = .ok orderInfo) :
    order.status = some orderInfo.status := by
  simp only [Binance.createOrderInfo, except_bind_ok, required_field_ok] at created
  obtain ⟨symbol, _, orderId, _, side, _, type, _, status, stated, rest⟩ := created
  obtain ⟨price, _, origQty, _, executedQty, _, cumQuoteQty, _, same⟩ := rest
  cases same
  exact stated

theorem Bybit.create_order_info_status {order : Bybit.OrderDto} {request : OrderQuery}
    {timestamp : ℤ} {orderInfo : OrderInfo}
    (created : order.createOrderInfo fromChars stoll request timestamp = .ok orderInfo) :
    order.orderStatus.getD "" = orderInfo.status := by
  simp only [Bybit.OrderDto.createOrderInfo, except_bind_ok] at created
  obtain ⟨price, _, origQty, _, executedQty, _, cumQuoteQty, _, rest⟩ := created
  obtain ⟨leavesQty, _, avgPrice, _, createdTimeMs, _, updatedTimeMs, _, same⟩ := rest
  cases same
  rfl

variable {request : OrderQuery}
  {history : History (OrderEffect Other) (OrderEffect.Answer OtherAnswer)}

theorem Binance.request_order_stated {effect : OrderEffect Other}
    {order : OrderEffect.Answer OtherAnswer effect → Except ServiceFailure Binance.OrderDto}
    (states : ∀ answer dto status, order answer = .ok dto → dto.status = some status →
      StatesStatus request status .binance ⟨effect, answer⟩) :
    Returns (fun later orderInfo => StatusStated .binance request orderInfo.status later)
      (Binance.requestOrder fromChars effect order request) history := by
  unfold Binance.requestOrder
  apply (returns_growing _ history).bind
  intro validated _ _
  apply (returns_growing _ validated).bind
  intro timed timestamp _
  apply returns_request
  intro answer
  dsimp only
  cases parsed : order answer with
  | error failure => exact returns_threw failure
  | ok dto =>
      apply returns_of_except
      intro orderInfo created
      have stated := Binance.create_order_info_status created
      exact ⟨_, List.mem_cons_self, states answer dto _ parsed stated⟩

theorem Binance.get_order_stated :
    Returns (fun later orderInfo => StatusStated .binance request orderInfo.status later)
      (Binance.getOrder fromChars request) history := by
  apply Binance.request_order_stated
  rintro answer dto status ⟨⟩ stated
  exact .binanceOrder stated

theorem Binance.cancel_order_stated :
    Returns (fun later orderInfo => StatusStated .binance request orderInfo.status later)
      (Binance.cancelOrder fromChars request) history := by
  apply Binance.request_order_stated
  rintro answer dto status ⟨⟩ stated
  exact .binanceCancellation stated

theorem Bybit.get_order_stated :
    Returns (fun later orderInfo => StatusStated .bybit request orderInfo.status later)
      (Bybit.getOrder fromChars stoll request) history := by
  unfold Bybit.getOrder
  apply (returns_growing _ history).bind
  intro validated _ _
  apply (returns_growing _ validated).bind
  intro timed timestamp _
  apply returns_request
  intro answer
  rcases answer with failure | (_ | (_ | ⟨order, orders⟩))
  · exact returns_threw failure
  · exact returns_threw _
  · exact returns_threw _
  · apply returns_of_except
    intro orderInfo created
    have stated := Bybit.create_order_info_status created
    exact ⟨_, List.mem_cons_self, .bybitOrder stated⟩

/-- Whatever the exchange acknowledges, the order is taken for cancelled. -/
theorem Bybit.cancel_order_status :
    Returns (fun _ orderInfo => orderInfo.status = "Cancelled")
      (Bybit.cancelOrder request) history := by
  unfold Bybit.cancelOrder
  apply (returns_growing _ history).bind
  intro validated _ _
  apply (returns_growing _ validated).bind
  intro timed timestamp _
  apply returns_request
  intro answer
  rcases answer with failure | (_ | result)
  · exact returns_threw failure
  · exact returns_threw _
  · exact returns_returned rfl

end Reports

end CryptoDeal.DealService
