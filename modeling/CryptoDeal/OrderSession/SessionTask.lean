import CryptoDeal.DealService.Placement
import CryptoDeal.OrderSession.Entry

/-!
# Background tasks of the session

The calls of a deal service that the session runs on worker threads. The
service itself is a parameter: each of its calls is a program over effects that
the session knows nothing about.
-/

namespace CryptoDeal.OrderSession

open DealService

/-- The part of the `DealService` interface that the session uses. -/
structure DealServiceCalls (Effect : Type) (Answer : Effect → Type) where
  buyCrypto (outAsset inAsset : String) (quantity : Decimal) :
    Interaction Effect Answer ServiceFailure OrderInfo
  sellCrypto (inAsset outAsset : String) (quantity : Decimal) :
    Interaction Effect Answer ServiceFailure OrderInfo
  placeOrder (request : PlaceOrderRequest) : Interaction Effect Answer ServiceFailure OrderInfo
  placeOco (request : PlaceOcoRequest) : Interaction Effect Answer ServiceFailure OcoInfo
  getOrder (query : OrderQuery) : Interaction Effect Answer ServiceFailure OrderInfo
  cancelOrder (query : OrderQuery) : Interaction Effect Answer ServiceFailure OrderInfo
  cancelOco (query : OrderListQuery) : Interaction Effect Answer ServiceFailure Unit
  cancelAllOpenOrders (symbol : String) (category : OrderCategory) :
    Interaction Effect Answer ServiceFailure Unit
  waitUntilOrderFilled (symbol orderId : String) :
    Interaction Effect Answer ServiceFailure OrderInfo
  waitUntilOcoOrderFilled (ocoInfo : OcoInfo) :
    Interaction Effect Answer ServiceFailure OcoWaitResult

/-- Which of an entry's three `UiTaskState`s a task runs under. -/
inductive TaskPart where
  | submission
  | wait
  | action
  deriving DecidableEq, Repr

inductive SessionTask where
  | submitBasic (entryId : EntryId) (draft : BasicOrderDraft)
  | submitOco (entryId : EntryId) (draft : OcoOrderDraft)
  | orderWait (entryId : EntryId) (waitRevision : ℕ) (exchangerType : ExchangerType)
      (symbol orderId : String)
  | ocoWait (entryId : EntryId) (waitRevision : ℕ) (exchangerType : ExchangerType)
      (ocoInfo : OcoInfo)
  | refresh (exchangerType : ExchangerType) (request : EntryRefreshRequest)
  | cancelBasic (exchangerType : ExchangerType) (request : EntryRefreshRequest)
  | cancelOco (exchangerType : ExchangerType) (request : EntryRefreshRequest) (ocoInfo : OcoInfo)
  | cancelAll (contextId : EntryId) (exchangerType : ExchangerType) (symbol : String)
      (requests : List EntryRefreshRequest)
  deriving DecidableEq

namespace SessionTask

@[reducible] def Result : SessionTask → Type
  | submitBasic _ _ => OrderInfo
  | submitOco _ _ => OcoInfo
  | orderWait _ _ _ _ _ => OrderInfo
  | ocoWait _ _ _ _ => OcoWaitResult
  | refresh _ _ => EntryRefreshResult
  | cancelBasic _ _ => EntryRefreshResult
  | cancelOco _ _ _ => EntryRefreshResult
  | cancelAll _ _ _ _ => List EntryRefreshResult

/-- The entry whose task state is loading meanwhile. -/
def slot : SessionTask → EntryId × TaskPart
  | submitBasic entryId _ | submitOco entryId _ => (entryId, .submission)
  | orderWait entryId _ _ _ _ | ocoWait entryId _ _ _ => (entryId, .wait)
  | refresh _ request | cancelBasic _ request | cancelOco _ request _ =>
      (request.entryId, .action)
  | cancelAll contextId _ _ _ => (contextId, .action)

/-- The exchange whose service the task calls. -/
def exchangerType : SessionTask → ExchangerType
  | submitBasic _ draft => draft.exchangerType
  | submitOco _ draft => draft.exchangerType
  | orderWait _ _ exchangerType _ _ | ocoWait _ _ exchangerType _ | refresh exchangerType _
  | cancelBasic exchangerType _ | cancelOco exchangerType _ _ | cancelAll _ exchangerType _ _ =>
      exchangerType

/-- The type of entry that the task is made for, if it is made for one. -/
def entryType : SessionTask → Option EntryType
  | submitBasic _ _ | orderWait _ _ _ _ _ | cancelBasic _ _ => some .basicOrder
  | submitOco _ _ | ocoWait _ _ _ _ | cancelOco _ _ _ => some .ocoGroup
  | refresh _ _ | cancelAll _ _ _ _ => none

/-- The task calls the entry's exchange in the way that the entry's type asks for. -/
def Fits (task : SessionTask) (entry : Entry) : Prop :=
  task.exchangerType = entry.exchangerType ∧ ∀ type ∈ task.entryType, entry.type = type

/-- The entry that a wait is for, and the revision it was started with. -/
def waited : SessionTask → Option (EntryId × ℕ)
  | orderWait entryId waitRevision _ _ _ | ocoWait entryId waitRevision _ _ =>
      some (entryId, waitRevision)
  | submitBasic _ _ | submitOco _ _ | refresh _ _ | cancelBasic _ _ | cancelOco _ _ _
  | cancelAll _ _ _ _ => none

/-- The refresh requests that an action works for. -/
def requests : SessionTask → List EntryRefreshRequest
  | refresh _ request | cancelBasic _ request | cancelOco _ request _ => [request]
  | cancelAll _ _ _ requests => requests
  | submitBasic _ _ | submitOco _ _ | orderWait _ _ _ _ _ | ocoWait _ _ _ _ => []

/-- The action that an entry shows while the task is in flight. -/
def action : SessionTask → Action
  | refresh _ _ => .refreshing
  | cancelBasic _ _ | cancelOco _ _ _ => .cancelling
  | cancelAll _ _ _ _ => .cancellingAll
  | submitBasic _ _ | submitOco _ _ | orderWait _ _ _ _ _ | ocoWait _ _ _ _ => .none

end SessionTask

section Work

variable {Effect : Type} {Answer : Effect → Type}

def isBasicOrderOperation : OperationType → Bool
  | .buyCrypto | .sellCrypto | .placeOrder => true
  | .placeOco | .sendTo => false

def placeCustomOrder (dealService : DealServiceCalls Effect Answer) (draft : BasicOrderDraft) :
    Interaction Effect Answer ServiceFailure OrderInfo :=
  dealService.placeOrder {
    symbol := draft.pair.symbol
    side := draft.side
    type := draft.type
    quantity := draft.quantity
    price := draft.price
    timeInForce := draft.timeInForce
    category := .spot
    marketUnit :=
      if draft.exchangerType = .bybit ∧ draft.side = .buy ∧ draft.type = .market then
        some "baseCoin"
      else none }

def placeBasicOrder (dealService : DealServiceCalls Effect Answer) (draft : BasicOrderDraft) :
    Interaction Effect Answer ServiceFailure OrderInfo :=
  match draft.operation with
  | .buyCrypto =>
      dealService.buyCrypto draft.pair.baseAsset draft.pair.quoteAsset draft.quantity
  | .sellCrypto =>
      dealService.sellCrypto draft.pair.baseAsset draft.pair.quoteAsset draft.quantity
  | .placeOrder => placeCustomOrder dealService draft
  | .placeOco | .sendTo => .threw (.runtime "Unsupported basic order operation")

def placeOcoOrder (dealService : DealServiceCalls Effect Answer) (draft : OcoOrderDraft) :
    Interaction Effect Answer ServiceFailure OcoInfo :=
  dealService.placeOco {
    symbol := draft.pair.symbol
    side := draft.side
    quantity := draft.quantity
    price := draft.limitPrice
    stopPrice := draft.stopPrice
    stopLimitPrice := draft.stopLimitPrice
    stopLimitTimeInForce := draft.stopLimitTimeInForce }

/-- What a `catch` block records of a failure. -/
def refreshErrorText : ServiceFailure → String
  | .runtime what | .interrupted what => what
  | .nonStandard => "Non-standard exception"

/-- One child's query: the order, or the text of what it threw. -/
def queryOrder (dealService : DealServiceCalls Effect Answer) (query : OrderQuery) :
    Interaction Effect Answer ServiceFailure (Option OrderInfo × Option String) := do
  match ← (dealService.getOrder query).attempt with
  | .ok orderInfo => return (some orderInfo, none)
  | .error failure => return (none, some (refreshErrorText failure))

def queryOptional (dealService : DealServiceCalls Effect Answer) :
    Option OrderQuery →
      Interaction Effect Answer ServiceFailure (Option OrderInfo × Option String)
  | some query => queryOrder dealService query
  | none => return (none, none)

def getEntryRefreshResult (dealService : DealServiceCalls Effect Answer)
    (request : EntryRefreshRequest) :
    Interaction Effect Answer ServiceFailure EntryRefreshResult :=
  match request.basicOrder with
  | some query => do
      let (basicOrder, basicError) ← queryOrder dealService query
      return { request, basicOrder, basicError }
  | none => do
      let (takeProfitOrder, takeProfitError) ← queryOptional dealService request.takeProfitOrder
      let (stopLossOrder, stopLossError) ← queryOptional dealService request.stopLossOrder
      return { request, takeProfitOrder, takeProfitError, stopLossOrder, stopLossError }

def getEntryRefreshResults (dealService : DealServiceCalls Effect Answer) :
    List EntryRefreshRequest →
      Interaction Effect Answer ServiceFailure (List EntryRefreshResult)
  | [] => return []
  | request :: requests => do
      let result ← getEntryRefreshResult dealService request
      let results ← getEntryRefreshResults dealService requests
      return result :: results

def ocoListQuery (ocoInfo : OcoInfo) : OrderListQuery where
  symbol := ocoInfo.takeProfitOrder.symbol
  orderListId := if ocoInfo.orderListId ≠ "" then some ocoInfo.orderListId else none
  listClientOrderId :=
    if ocoInfo.listClientOrderId ≠ "" then some ocoInfo.listClientOrderId else none

def cancelBasicOrder (dealService : DealServiceCalls Effect Answer)
    (request : EntryRefreshRequest) :
    Interaction Effect Answer ServiceFailure EntryRefreshResult := do
  let query ← optionalValue request.basicOrder
  let basicOrder ← dealService.cancelOrder query
  return { request, basicOrder := some basicOrder }

def cancelOcoOrders (dealService : DealServiceCalls Effect Answer)
    (request : EntryRefreshRequest) (ocoInfo : OcoInfo) :
    Interaction Effect Answer ServiceFailure EntryRefreshResult := do
  dealService.cancelOco (ocoListQuery ocoInfo)
  getEntryRefreshResult dealService request

def cancelPairOrders (dealService : DealServiceCalls Effect Answer) (symbol : String)
    (requests : List EntryRefreshRequest) :
    Interaction Effect Answer ServiceFailure (List EntryRefreshResult) := do
  dealService.cancelAllOpenOrders symbol .spot
  getEntryRefreshResults dealService requests

/-- What the worker thread runs; `stopRequested` is what a wait's stop token says at its start. -/
def SessionTask.work (services : ExchangerType → DealServiceCalls Effect Answer)
    (stopRequested : Bool) :
    (task : SessionTask) → Interaction Effect Answer ServiceFailure task.Result
  | .submitBasic _ draft => placeBasicOrder (services draft.exchangerType) draft
  | .submitOco _ draft => placeOcoOrder (services draft.exchangerType) draft
  | .orderWait _ _ exchangerType symbol orderId => do
      throwIf (stopRequested = true) "Order status monitoring stopped before it started"
      (services exchangerType).waitUntilOrderFilled symbol orderId
  | .ocoWait _ _ exchangerType ocoInfo => do
      throwIf (stopRequested = true) "OCO status monitoring stopped before it started"
      (services exchangerType).waitUntilOcoOrderFilled ocoInfo
  | .refresh exchangerType request => getEntryRefreshResult (services exchangerType) request
  | .cancelBasic exchangerType request => cancelBasicOrder (services exchangerType) request
  | .cancelOco exchangerType request ocoInfo =>
      cancelOcoOrders (services exchangerType) request ocoInfo
  | .cancelAll _ exchangerType symbol requests =>
      cancelPairOrders (services exchangerType) symbol requests

/-! ## What an action returns -/

/-- The results that an action's success callback gets. -/
def SessionTask.refreshResults : (task : SessionTask) → task.Result → List EntryRefreshResult
  | .refresh _ _, result | .cancelBasic _ _, result | .cancelOco _ _ _, result => [result]
  | .cancelAll _ _ _ _, results => results
  | .submitBasic _ _, _ | .submitOco _ _, _ | .orderWait _ _ _ _ _, _ | .ocoWait _ _ _ _, _ => []

/-- A result is for its request and has a basic order only if it was asked for one. -/
def EntryRefreshResult.AnswersTo (result : EntryRefreshResult) (request : EntryRefreshRequest) :
    Prop :=
  result.request = request ∧ (result.basicOrder.isSome → request.basicOrder.isSome)

open Interaction

variable {dealService : DealServiceCalls Effect Answer}

theorem get_entry_refresh_result_answers (request : EntryRefreshRequest)
    (history : History Effect Answer) :
    Returns (fun _ result => result.AnswersTo request)
      (getEntryRefreshResult dealService request) history := by
  unfold getEntryRefreshResult
  split
  next query asked =>
      apply (returns_growing _ history).bind
      rintro later ⟨basicOrder, basicError⟩ _
      exact returns_returned ⟨rfl, fun _ => by rw [asked]; rfl⟩
  next =>
      apply (returns_growing _ history).bind
      intro later takeProfit _
      apply (returns_growing _ later).bind
      intro last stopLoss _
      exact returns_returned ⟨rfl, nofun⟩

theorem get_entry_refresh_results_answer (requests : List EntryRefreshRequest)
    (history : History Effect Answer) :
    Returns (fun _ results => List.Forall₂ EntryRefreshResult.AnswersTo results requests)
      (getEntryRefreshResults dealService requests) history := by
  induction requests generalizing history with
  | nil => exact returns_returned .nil
  | cons request requests ih =>
      apply (get_entry_refresh_result_answers request history).bind
      intro later result answers
      apply (ih later).bind
      intro last results rest
      exact returns_returned (.cons answers rest)

theorem cancel_basic_order_unasked {request : EntryRefreshRequest}
    (unasked : request.basicOrder = none) :
    cancelBasicOrder dealService request = .threw (.runtime "bad optional access") := by
  rw [cancelBasicOrder, unasked]
  rfl

theorem cancel_basic_order_asked {request : EntryRefreshRequest} {query : OrderQuery}
    (asked : request.basicOrder = some query) :
    cancelBasicOrder dealService request =
      (dealService.cancelOrder query).bind fun basicOrder =>
        .returned { request, basicOrder := some basicOrder } := by
  rw [cancelBasicOrder, asked]
  rfl

theorem cancel_basic_order_answers (request : EntryRefreshRequest) :
    Returns (fun _ result => result.AnswersTo request) (cancelBasicOrder dealService request)
      [] := by
  cases asked : request.basicOrder with
  | none =>
      rw [cancel_basic_order_unasked asked]
      exact returns_threw _
  | some query =>
      rw [cancel_basic_order_asked asked]
      apply (returns_growing (dealService.cancelOrder query) []).bind
      intro later basicOrder _
      exact returns_returned ⟨rfl, fun _ => by rw [asked]; rfl⟩

theorem cancel_oco_orders_answers (request : EntryRefreshRequest) (ocoInfo : OcoInfo) :
    Returns (fun _ result => result.AnswersTo request)
      (cancelOcoOrders dealService request ocoInfo) [] := by
  apply (returns_growing _ []).bind
  intro later _ _
  exact get_entry_refresh_result_answers request later

theorem cancel_pair_orders_answers (symbol : String) (requests : List EntryRefreshRequest) :
    Returns (fun _ results => List.Forall₂ EntryRefreshResult.AnswersTo results requests)
      (cancelPairOrders dealService symbol requests) [] := by
  apply (returns_growing _ []).bind
  intro later _ _
  exact get_entry_refresh_results_answer requests later

section Waits

variable {services : ExchangerType → DealServiceCalls Effect Answer} {stopRequested : Bool}
  {history : History Effect Answer} {entryId : EntryId} {waitRevision : ℕ}
  {exchangerType : ExchangerType}

theorem SessionTask.oco_wait_ended {ocoInfo : OcoInfo} {result : OcoWaitResult}
    (ended : Ends (SessionTask.work services stopRequested
      (.ocoWait entryId waitRevision exchangerType ocoInfo)) history (.ok result)) :
    Ends ((services exchangerType).waitUntilOcoOrderFilled ocoInfo) history (.ok result) := by
  cases stopRequested with
  | true => cases ends_threw ended
  | false => exact ended

end Waits

/-- An action returns one result for each of its requests, in their order. -/
theorem SessionTask.work_answers {services : ExchangerType → DealServiceCalls Effect Answer}
    {stopRequested : Bool} {task : SessionTask} {history : History Effect Answer}
    {result : task.Result} (ended : Ends (task.work services stopRequested) history (.ok result)) :
    List.Forall₂ EntryRefreshResult.AnswersTo (task.refreshResults result) task.requests := by
  cases task with
  | refresh exchangerType request =>
      exact .cons (ended.returned (get_entry_refresh_result_answers request [])) .nil
  | cancelBasic exchangerType request =>
      exact .cons (ended.returned (cancel_basic_order_answers request)) .nil
  | cancelOco exchangerType request ocoInfo =>
      exact .cons (ended.returned (cancel_oco_orders_answers request ocoInfo)) .nil
  | cancelAll contextId exchangerType symbol requests =>
      exact ended.returned (cancel_pair_orders_answers symbol requests)
  | submitBasic entryId draft => exact .nil
  | submitOco entryId draft => exact .nil
  | orderWait entryId waitRevision exchangerType symbol orderId => exact .nil
  | ocoWait entryId waitRevision exchangerType ocoInfo => exact .nil

end Work

/-- `getFailureMessage` of a task's exception. -/
def getFailureMessage : ServiceFailure → String
  | .runtime what | .interrupted what => what
  | .nonStandard => "Asynchronous task failed with a non-standard exception"

end CryptoDeal.OrderSession
