import CryptoDeal.DealService.OrderStatusUtil
import CryptoDeal.OperationChain.Definition

/-!
# Session entries

One row of the order session, and what the handlers of `OrderSessionModel` do
to it: the requests it makes of the exchange and the merges of what comes back.
-/

namespace CryptoDeal.OrderSession

open DealService OrderStatusUtil

abbrev EntryId := ℕ

inductive EntryType where
  | basicOrder
  | ocoGroup
  deriving DecidableEq, Repr

inductive Status where
  | submitting
  | accepted
  | waiting
  | filled
  | terminal
  | submissionFailed
  | monitoringFailed
  deriving DecidableEq, Repr

inductive Action where
  | none
  | refreshing
  | cancelling
  | cancellingAll
  deriving DecidableEq, Repr

structure TradablePair where
  symbol : String
  baseAsset : String := ""
  quoteAsset : String := ""
  deriving DecidableEq

structure BasicOrderDraft where
  exchangerType : ExchangerType := .binance
  operation : OperationType := .buyCrypto
  pair : TradablePair
  side : OrderOperation := .buy
  type : DealService.OrderType := .market
  quantity : Decimal := 0
  price : Option Decimal := none
  timeInForce : Option String := none
  deriving DecidableEq

structure OcoOrderDraft where
  exchangerType : ExchangerType := .binance
  pair : TradablePair
  side : OrderOperation := .buy
  quantity : Decimal := 0
  limitPrice : Decimal := 0
  stopPrice : Decimal := 0
  stopLimitPrice : Option Decimal := none
  stopLimitTimeInForce : Option String := none
  deriving DecidableEq

/-- `basicDraft` and `ocoDraft`: an entry has the one of its type. -/
inductive EntryDraft where
  | basic (draft : BasicOrderDraft)
  | oco (draft : OcoOrderDraft)
  deriving DecidableEq

structure Entry where
  id : EntryId
  draft : EntryDraft
  status : Status := .submitting
  action : Action := .none
  acceptedOrder : Option OrderInfo := none
  acceptedOco : Option OcoInfo := none
  terminalOrder : Option OrderInfo := none
  error : String := ""
  actionMessage : String := ""
  actionError : String := ""
  createdAtMs : ℤ
  updatedAtMs : ℤ
  revision : ℕ := 0
  deriving DecidableEq

structure EntryRefreshRequest where
  entryId : EntryId
  revision : ℕ
  type : EntryType
  basicOrder : Option OrderQuery := none
  takeProfitOrder : Option OrderQuery := none
  stopLossOrder : Option OrderQuery := none
  deriving DecidableEq

structure EntryRefreshResult where
  request : EntryRefreshRequest
  basicOrder : Option OrderInfo := none
  takeProfitOrder : Option OrderInfo := none
  stopLossOrder : Option OrderInfo := none
  basicError : Option String := none
  takeProfitError : Option String := none
  stopLossError : Option String := none
  deriving DecidableEq

def isActiveStatus : Status → Bool
  | .submitting | .accepted | .waiting | .monitoringFailed => true
  | .filled | .terminal | .submissionFailed => false

/-! ## Requests -/

def createOrderQuery (orderInfo : OrderInfo) : OrderQuery :=
  if orderInfo.orderId ≠ "" then
    { symbol := orderInfo.symbol, orderId := some orderInfo.orderId }
  else if orderInfo.clientOrderId ≠ "" then
    { symbol := orderInfo.symbol, clientOrderId := some orderInfo.clientOrderId }
  else { symbol := orderInfo.symbol }

/-- An order that the exchange can be asked about. -/
def isIdentifiable (orderInfo : OrderInfo) : Bool :=
  orderInfo.symbol ≠ "" && (orderInfo.orderId ≠ "" || orderInfo.clientOrderId ≠ "")

namespace Entry

def type (entry : Entry) : EntryType :=
  match entry.draft with
  | .basic _ => .basicOrder
  | .oco _ => .ocoGroup

def exchangerType (entry : Entry) : ExchangerType :=
  match entry.draft with
  | .basic draft => draft.exchangerType
  | .oco draft => draft.exchangerType

def pair (entry : Entry) : TradablePair :=
  match entry.draft with
  | .basic draft => draft.pair
  | .oco draft => draft.pair

/-- The request without queries, of an entry that has no exchange identity. -/
def emptyRequest (entry : Entry) : EntryRefreshRequest where
  entryId := entry.id
  revision := entry.revision
  type := entry.type

def createEntryRefreshRequest (entry : Entry) : Option EntryRefreshRequest :=
  match entry.draft with
  | .basic _ =>
      match entry.terminalOrder.or entry.acceptedOrder with
      | none => none
      | some orderInfo =>
          if isIdentifiable orderInfo then
            some { entry.emptyRequest with basicOrder := some (createOrderQuery orderInfo) }
          else none
  | .oco _ =>
      match entry.acceptedOco with
      | none => none
      | some ocoInfo =>
          if isIdentifiable ocoInfo.takeProfitOrder && isIdentifiable ocoInfo.stopLossOrder then
            some { entry.emptyRequest with
              takeProfitOrder := some (createOrderQuery ocoInfo.takeProfitOrder)
              stopLossOrder := some (createOrderQuery ocoInfo.stopLossOrder) }
          else none

def isCurrentWaitingRevision (entry : Entry) (waitRevision : ℕ) : Bool :=
  entry.status = .waiting && entry.revision = waitRevision

def isEntryActionCurrent (entry : Entry) (actionRevision : ℕ) (action : Action) : Bool :=
  entry.revision = actionRevision && entry.action = action

/-- The guard of `cancelOrder` on the entry itself. -/
def canCancelOrder (entry : Entry) : Bool :=
  entry.action = .none &&
    (entry.status = .accepted || entry.status = .waiting || entry.status = .monitoringFailed) &&
    entry.createEntryRefreshRequest.isSome

def canRefreshOrder (entry : Entry) : Bool :=
  entry.action = .none && entry.createEntryRefreshRequest.isSome

/-! ## Merges -/

/-- The entry after the merge, and whether it became terminal by it. -/
def applyBasicOrderRefresh (entry : Entry) (orderInfo : OrderInfo) : Entry × Bool :=
  if (entry.status = .filled ∨ entry.status = .terminal) ∧
      ¬ isOrderTerminal entry.exchangerType orderInfo.status then
    (entry, false)
  else
    let refreshed := { entry with acceptedOrder := some orderInfo }
    match classifyOrderStatus entry.exchangerType orderInfo.status with
    | .filled =>
        ({ refreshed with terminalOrder := some orderInfo, status := .filled, error := "" },
          entry.status ≠ .filled)
    | .cancelled | .otherTerminal =>
        ({ refreshed with terminalOrder := some orderInfo, status := .terminal, error := "" },
          entry.status ≠ .terminal)
    | .unavailable | .active => (refreshed, false)

def updateOcoChildAfterRefresh (exchangerType : ExchangerType) (childOrder : OrderInfo)
    (refreshedOrder : Option OrderInfo) : OrderInfo :=
  match refreshedOrder with
  | none => childOrder
  | some refreshed =>
      if refreshed.orderId ≠ childOrder.orderId then childOrder
      else if isOrderTerminal exchangerType childOrder.status ∧
          ¬ isOrderTerminal exchangerType refreshed.status then childOrder
      else refreshed

/-- The accepted OCO with both children refreshed. -/
def refreshOco (exchangerType : ExchangerType) (ocoInfo : OcoInfo) (result : EntryRefreshResult) :
    OcoInfo :=
  { ocoInfo with
    takeProfitOrder :=
      updateOcoChildAfterRefresh exchangerType ocoInfo.takeProfitOrder result.takeProfitOrder
    stopLossOrder :=
      updateOcoChildAfterRefresh exchangerType ocoInfo.stopLossOrder result.stopLossOrder }

def applyOcoRefresh (entry : Entry) (result : EntryRefreshResult) : Entry × Bool :=
  match entry.acceptedOco with
  | none => (entry, false)
  | some accepted =>
      let ocoInfo := refreshOco entry.exchangerType accepted result
      let refreshed := { entry with acceptedOco := some ocoInfo }
      let takeProfitFilled := isOrderFilled entry.exchangerType ocoInfo.takeProfitOrder.status
      let stopLossFilled := isOrderFilled entry.exchangerType ocoInfo.stopLossOrder.status
      let takeProfitTerminal := isOrderTerminal entry.exchangerType ocoInfo.takeProfitOrder.status
      let stopLossTerminal := isOrderTerminal entry.exchangerType ocoInfo.stopLossOrder.status
      if (takeProfitFilled || stopLossFilled) && takeProfitTerminal && stopLossTerminal then
        ({ refreshed with
            terminalOrder :=
              some (if takeProfitFilled then ocoInfo.takeProfitOrder else ocoInfo.stopLossOrder)
            status := .filled
            error := "" },
          entry.status ≠ .filled)
      else if takeProfitTerminal && stopLossTerminal then
        ({ refreshed with terminalOrder := none, status := .terminal, error := "" },
          entry.status ≠ .terminal)
      else (refreshed, false)

def applyEntryRefreshResult (entry : Entry) (result : EntryRefreshResult) : Entry × Bool :=
  match entry.draft with
  | .basic _ =>
      match result.basicOrder with
      | some orderInfo => entry.applyBasicOrderRefresh orderInfo
      | none => (entry, false)
  | .oco _ => entry.applyOcoRefresh result

/-- The accepted OCO with a wait's result written to its children, if it names them. -/
def updateOcoChildrenAfterCompletion (entry : Entry) (result : OcoWaitResult) : Option Entry :=
  match entry.acceptedOco with
  | none => none
  | some ocoInfo =>
      if ocoInfo.takeProfitOrder.orderId = result.filledOrder.orderId ∧
          ocoInfo.stopLossOrder.orderId = result.siblingTerminalOrder.orderId then
        some { entry with acceptedOco := some { ocoInfo with
          takeProfitOrder := result.filledOrder
          stopLossOrder := result.siblingTerminalOrder } }
      else if ocoInfo.stopLossOrder.orderId = result.filledOrder.orderId ∧
          ocoInfo.takeProfitOrder.orderId = result.siblingTerminalOrder.orderId then
        some { entry with acceptedOco := some { ocoInfo with
          stopLossOrder := result.filledOrder
          takeProfitOrder := result.siblingTerminalOrder } }
      else none

def finishEntryAction (entry : Entry) (actionRevision : ℕ) (action : Action)
    (message error : String) : Entry :=
  if entry.isEntryActionCurrent actionRevision action then
    { entry with action := .none, actionMessage := message, actionError := error }
  else entry

end Entry

/-! ## Texts -/

def refreshFailureText (failure : Option String) (childName : String) : String :=
  match failure with
  | some failure => childName ++ " refresh failed: " ++ failure
  | none => ""

namespace EntryRefreshResult

def getOcoRefreshError (result : EntryRefreshResult) : String :=
  let takeProfitFailure := refreshFailureText result.takeProfitError "Take-profit child"
  let stopLossFailure := refreshFailureText result.stopLossError "Stop-loss child"
  if takeProfitFailure = "" then stopLossFailure
  else if stopLossFailure = "" then takeProfitFailure
  else takeProfitFailure ++ "\n" ++ stopLossFailure

def getEntryRefreshError (result : EntryRefreshResult) : String :=
  match result.basicError with
  | some error => "Order refresh failed: " ++ error
  | none => result.getOcoRefreshError

def hasRefreshResult (result : EntryRefreshResult) : Bool :=
  result.basicOrder.isSome || result.takeProfitOrder.isSome || result.stopLossOrder.isSome

end EntryRefreshResult

end CryptoDeal.OrderSession
