import CryptoDeal.OrderEntry.OrderEntryForm

/-!
# What the orders page says of an entry

The rows of the session tables, the texts of the action bar and those of the
dialogs that an order or a cancellation is confirmed in. The columns for time,
price and quantity are left out.
-/

namespace CryptoDeal.OrderSession

open DealService OrderEntry

def getExchangeName : ExchangerType → String
  | .binance => "Binance"
  | .bybit => "Bybit"

def getSideName : OrderOperation → String
  | .buy => "Buy"
  | .sell => "Sell"

def getOrderTypeName : DealService.OrderType → String
  | .market => "Market"
  | .limit => "Limit"

def getBasicOperationName : OperationType → String
  | .buyCrypto => "Buy crypto · Market"
  | .sellCrypto => "Sell crypto · Market"
  | .placeOrder => "Custom order"
  | .placeOco | .sendTo => "Order"

def getPairName (pair : TradablePair) : String := pair.baseAsset ++ "/" ++ pair.quoteAsset

/-- What stands for an id that the exchange has not given. -/
def sessionNumber (entryId : EntryId) : String := "Session #" ++ toString entryId

namespace Entry

def getDisplayedBasicOrder (entry : Entry) : Option OrderInfo :=
  entry.terminalOrder.or entry.acceptedOrder

def getEntryIdentifier (entry : Entry) : String :=
  match entry.draft with
  | .oco _ =>
      match entry.acceptedOco with
      | some ocoInfo =>
          if ocoInfo.orderListId ≠ "" then ocoInfo.orderListId else sessionNumber entry.id
      | none => sessionNumber entry.id
  | .basic _ =>
      match entry.getDisplayedBasicOrder with
      | some orderInfo =>
          if orderInfo.orderId ≠ "" then orderInfo.orderId else sessionNumber entry.id
      | none => sessionNumber entry.id

def statusText (entry : Entry) : String :=
  match entry.status, entry.type with
  | .submitting, .ocoGroup => "Submitting OCO"
  | .submitting, .basicOrder => "Submitting"
  | .accepted, .ocoGroup => "OCO accepted"
  | .accepted, .basicOrder => "Accepted"
  | .waiting, .ocoGroup => "Waiting for confirmed child fill"
  | .waiting, .basicOrder => "Waiting for confirmed fill"
  | .filled, .ocoGroup => "Confirmed child filled; sibling terminal"
  | .filled, .basicOrder => "Filled"
  | .terminal, .ocoGroup => "OCO terminal without a filled child"
  | .terminal, .basicOrder => "Terminal without fill"
  | .submissionFailed, _ => "Submission failed"
  | .monitoringFailed, _ => "Monitoring failed"

/-- What the exchange last said of a basic order. -/
def exchangeStatusText (entry : Entry) : String :=
  match entry.type, entry.getDisplayedBasicOrder with
  | .basicOrder, some orderInfo =>
      if orderInfo.status = "" then ""
      else
        "\nExchange: " ++ orderInfo.status ++
          (if orderInfo.statusReason = "" then "" else " · " ++ orderInfo.statusReason)
  | _, _ => ""

def actionText (entry : Entry) : String :=
  match entry.action, entry.type with
  | .none, _ => ""
  | .refreshing, _ => "\nRefreshing exchange status..."
  | .cancelling, .ocoGroup => "\nCancelling OCO..."
  | .cancelling, .basicOrder => "\nCancelling order..."
  | .cancellingAll, _ => "\nCancelling all open orders for this exchange/pair..."

/-- A further line, unless there is nothing to say. -/
def furtherLine (text : String) : String := if text = "" then "" else "\n" ++ text

def getEntryStatus (entry : Entry) : String :=
  entry.statusText ++ furtherLine entry.error ++ entry.exchangeStatusText ++ entry.actionText ++
    furtherLine entry.actionMessage ++ furtherLine entry.actionError

end Entry

/-! ## Rows -/

structure SessionOrderColumns where
  exchange : String
  pair : String
  identifier : String
  sideAndType : String
  status : String
  /-- The id under `Qt::UserRole`. -/
  entryId : EntryId
  deriving DecidableEq

/-- A row of the table, with its child rows. -/
structure SessionOrderItem extends SessionOrderColumns where
  children : List SessionOrderColumns := []
  deriving DecidableEq

def populateBasicEntry (entry : Entry) (draft : BasicOrderDraft) : SessionOrderItem where
  exchange := getExchangeName draft.exchangerType
  pair := getPairName draft.pair
  identifier :=
    match entry.getDisplayedBasicOrder with
    | some orderInfo =>
        if orderInfo.orderId = "" then sessionNumber entry.id else orderInfo.orderId
    | none => sessionNumber entry.id
  sideAndType :=
    if draft.operation = .placeOrder then
      getSideName draft.side ++ " · " ++ getOrderTypeName draft.type
    else getBasicOperationName draft.operation
  status := entry.getEntryStatus
  entryId := entry.id

def getOrderSideAndType (orderInfo : OrderInfo) : String :=
  (if orderInfo.side = "" then "—" else orderInfo.side) ++ " · " ++
    (if orderInfo.type = "" then "—" else orderInfo.type)

def populateOcoChild (childName : String) (draft : OcoOrderDraft)
    (orderInfo terminalOrder : Option OrderInfo) (entryId : EntryId) : SessionOrderColumns :=
  let displayedOrder :=
    match orderInfo, terminalOrder with
    | some child, some terminal =>
        if terminal.orderId = child.orderId then terminalOrder else orderInfo
    | _, _ => orderInfo
  { exchange := getExchangeName draft.exchangerType
    pair := getPairName draft.pair
    identifier := childName ++
      match displayedOrder with
      | some shown => if shown.orderId = "" then " pending" else " · " ++ shown.orderId
      | none => " pending"
    sideAndType :=
      displayedOrder.elim (getSideName draft.side ++ " · OCO child") getOrderSideAndType
    status := displayedOrder.elim "Awaiting OCO acceptance" OrderInfo.status
    entryId }

def populateOcoEntry (entry : Entry) (draft : OcoOrderDraft) : SessionOrderItem where
  exchange := getExchangeName draft.exchangerType
  pair := getPairName draft.pair
  identifier :=
    match entry.acceptedOco with
    | some ocoInfo =>
        if ocoInfo.orderListId = "" then sessionNumber entry.id ++ " · OCO"
        else "OCO group · " ++ ocoInfo.orderListId
    | none => sessionNumber entry.id ++ " · OCO"
  sideAndType := getSideName draft.side ++ " · OCO"
  status := entry.getEntryStatus
  entryId := entry.id
  children :=
    [populateOcoChild "Take-profit child" draft (entry.acceptedOco.map OcoInfo.takeProfitOrder)
        entry.terminalOrder entry.id,
      populateOcoChild "Stop-loss child" draft (entry.acceptedOco.map OcoInfo.stopLossOrder)
        entry.terminalOrder entry.id]

def populateEntry (entry : Entry) : SessionOrderItem :=
  match entry.draft with
  | .basic draft => populateBasicEntry entry draft
  | .oco draft => populateOcoEntry entry draft

/-- One of the page's tables; of its current item only the id is ever read. -/
structure SessionTable where
  items : List SessionOrderItem := []
  currentItem : Option EntryId := none
  visible : Bool := false
  emptyStateVisible : Bool := true
  deriving DecidableEq

namespace SessionTable

def itemIds (table : SessionTable) : List EntryId :=
  table.items.flatMap fun item =>
    item.entryId :: item.children.map SessionOrderColumns.entryId

/-- The table once `updateSessionOrderTable` has cleared and filled it. -/
def ofEntries (entries : List Entry) (showOnlyActiveOrders : Bool) : SessionTable :=
  let items := (entries.filter fun entry =>
    !showOnlyActiveOrders || isActiveStatus entry.status).map populateEntry
  { items, visible := items ≠ [], emptyStateVisible := items = [] }

/-- `restoreSessionOrderSelection`, with `findSessionOrderItem`. -/
def restoreSelection (table : SessionTable) (selectedSessionEntryId : Option EntryId) :
    SessionTable :=
  match selectedSessionEntryId with
  | none => table
  | some entryId =>
      if entryId ∈ table.itemIds then { table with currentItem := some entryId } else table

end SessionTable

/-! ## The action bar -/

namespace OrderSessionModel

def canRefreshOrder (session : OrderSessionModel) (entryId : EntryId) : Bool :=
  (session.findEntry entryId).any Entry.canRefreshOrder

def canCancelOrder (session : OrderSessionModel) (entryId : EntryId) : Bool :=
  (session.findEntry entryId).any Entry.canCancelOrder

end OrderSessionModel

structure SessionOrderActions where
  context : String := "Select a session order to refresh or cancel it."
  refreshText : String := "Refresh status"
  cancelText : String := "Cancel order"
  cancelAllText : String := "Cancel all for selected pair"
  refreshEnabled : Bool := false
  cancelEnabled : Bool := false
  cancelAllEnabled : Bool := false
  deriving DecidableEq

/-- The action bar for the entry that is selected. -/
def sessionOrderActions (session : OrderSessionModel) (entry : Entry) : SessionOrderActions :=
  let exchangeName := getExchangeName entry.exchangerType
  let pairName := getPairName entry.pair
  { context := "Selected: " ++ exchangeName ++ " " ++ pairName ++ " · " ++ entry.getEntryIdentifier
    refreshText := if entry.action = .refreshing then "Refreshing..." else "Refresh status"
    cancelText :=
      match entry.action, entry.type with
      | .cancelling, .ocoGroup => "Cancelling OCO..."
      | .cancelling, .basicOrder => "Cancelling order..."
      | _, .ocoGroup => "Cancel OCO"
      | _, .basicOrder => "Cancel order"
    cancelAllText :=
      if entry.action = .cancellingAll then "Cancelling all..."
      else "Cancel all for " ++ exchangeName ++ " " ++ pairName
    refreshEnabled := session.canRefreshOrder entry.id
    cancelEnabled := session.canCancelOrder entry.id
    cancelAllEnabled := session.canCancelAllOpenOrders entry.id }

/-! ## The dialogs -/

/-- A dialog that waits for its answer, known by what its texts are made of. -/
inductive ConfirmationDialog where
  | basicOrder (draft : ShownBasicOrderDraft)
  | ocoOrder (draft : ShownOcoOrderDraft)
  | orderCancellation (entry : Entry)
  | pairCancellation (entry : Entry)

def getOperationName : OperationType → String
  | .buyCrypto => "Buy crypto"
  | .sellCrypto => "Sell crypto"
  | .placeOrder => "Custom order"
  | .placeOco => "Place OCO"
  | .sendTo => "Unsupported operation"

/-- A price in the summary. -/
def pricedLine (label price : String) (pair : TradablePair) : String :=
  label ++ price ++ " " ++ pair.quoteAsset ++ " per " ++ pair.baseAsset

/-- How both summaries begin. -/
def summaryHead (exchangerType : ExchangerType) (pair : TradablePair) : List String :=
  ["Exchange: " ++ getExchangeName exchangerType, "Market: SPOT",
    "Pair: " ++ getPairName pair ++ " (" ++ pair.symbol ++ ")"]

def buildBasicOrderSummary (draft : ShownBasicOrderDraft) : List String :=
  summaryHead draft.exchangerType draft.pair ++
    ["Operation: " ++ getOperationName draft.operation, "Side: " ++ getSideName draft.side,
      "Order type: " ++ getOrderTypeName draft.type,
      "Amount: " ++ draft.quantityText ++ " " ++ draft.pair.baseAsset] ++
    (draft.priceText.map fun price => pricedLine "Price: " price draft.pair).toList ++
    (draft.timeInForce.map ("Time in force: " ++ ·)).toList

def buildOcoOrderSummary (draft : ShownOcoOrderDraft) : List String :=
  summaryHead draft.exchangerType draft.pair ++
    ["Operation: Place OCO", "Side: " ++ getSideName draft.side,
      "Amount: " ++ draft.quantityText ++ " " ++ draft.pair.baseAsset,
      pricedLine "Limit leg: " draft.limitPriceText draft.pair,
      pricedLine "Stop trigger: " draft.stopPriceText draft.pair] ++
    (draft.stopLimitPriceText.map fun price =>
      pricedLine "Stop-limit leg: " price draft.pair).toList ++
    (draft.stopLimitTimeInForce.map ("Time in force: " ++ ·)).toList

/-- The lines that the user is asked to confirm. -/
def ConfirmationDialog.text : ConfirmationDialog → List String
  | .basicOrder draft => buildBasicOrderSummary draft
  | .ocoOrder draft => buildOcoOrderSummary draft
  | .orderCancellation entry =>
      let (action, target) :=
        match entry.type with
        | .ocoGroup => ("Cancel OCO", "OCO group ")
        | .basicOrder => ("Cancel order", "order ")
      [action ++ "?",
        "Cancel " ++ target ++ entry.getEntryIdentifier ++ " on " ++
          getExchangeName entry.exchangerType ++ " for " ++ getPairName entry.pair ++ "?"]
  | .pairCancellation entry =>
      ["Cancel all open orders?",
        "Cancel every open order on " ++ getExchangeName entry.exchangerType ++ " for " ++
          getPairName entry.pair ++ "?",
        "This includes open orders not created in this CryptoDeal session. " ++
          "The exchange request cannot be undone."]

end CryptoDeal.OrderSession
