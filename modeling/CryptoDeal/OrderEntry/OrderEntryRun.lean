import CryptoDeal.OrderEntry.OrderEntryWindow

/-!
# Runs of the order form

The form is built over empty catalogs. From then on the user, the main window
and the deliveries of the executor act on it, one event at a time. A handler that
throws ends the run.
-/

namespace CryptoDeal.OrderEntry

open DealService DecimalText OrderSession

inductive UserInput where
  | selectExchange (exchangerType : ExchangerType)
  | selectBaseAsset (asset : String)
  | selectQuoteAsset (asset : String)
  | selectOperation (operation : OperationType)
  | selectPlaceOrderSide (side : OrderOperation)
  | selectPlaceOrderType (type : DealService.OrderType)
  | selectOcoSide (side : OrderOperation)
  | toggleOcoStopLimit (checked : Bool)
  | typeText (field : InputField) (text : String)
  /-- The first focus that a field loses. -/
  | leaveField (field : InputField)
  | retrySymbolInfo
  | retryBalances

/-- The items of `operationSelector`. -/
def operationItems : List OperationType := [.buyCrypto, .sellCrypto, .placeOrder, .placeOco]

/-- The widget of the input offers it; a field is typed in at any time. -/
def UserInput.Possible (window : OrderEntryWindow) : UserInput → Prop
  | selectExchange exchangerType => exchangerType ≠ window.inputs.exchangerType
  | selectBaseAsset asset =>
      asset ∈ window.inputs.baseAsset.items ∧ asset ≠ window.inputs.baseAsset.currentText
  | selectQuoteAsset asset =>
      asset ∈ window.inputs.quoteAsset.items ∧ asset ≠ window.inputs.quoteAsset.currentText
  | selectOperation operation => operation ∈ operationItems
  -- these two stand on one page of the operation's stack
  | selectPlaceOrderType _ => window.shown.operationForm = .placeOrder
  | toggleOcoStopLimit _ => window.shown.operationForm = .placeOco
  | _ => True

namespace OrderEntryWindow

/-- A start of a load, with the handler of the signal that it emits. -/
def afterLoadStart (window : OrderEntryWindow) (load : OrderEntryCatalogs × Bool)
    (changed : OrderEntryWindow → Except ServiceFailure OrderEntryWindow) :
    Except ServiceFailure OrderEntryWindow :=
  let window := { window with catalogs := load.1 }
  if load.2 then changed window else .ok window

/-- The completion of a task, taken from the executor's map. -/
def taken (window : OrderEntryWindow) (task : CatalogTask) : OrderEntryWindow :=
  { window with catalogs := { window.catalogs with tasks := window.catalogs.tasks.erase task } }

section Handlers

variable (rounding : NearestRounding) (fromChars : String → Option Decimal)

/-! ## Signals of the catalogs -/

/-- `pairsChanged`, and `statusChanged` of a pair catalog. -/
def pairCatalogChanged (exchangerType : ExchangerType) (window : OrderEntryWindow) :
    Except ServiceFailure OrderEntryWindow :=
  if exchangerType = window.inputs.exchangerType then
    window.updateSelectedCatalog rounding fromChars
  else .ok window

/-- `statusChanged` of a balance load. -/
def balanceLoadChanged (exchangerType : ExchangerType) (window : OrderEntryWindow) :
    Except ServiceFailure OrderEntryWindow :=
  if exchangerType = window.inputs.exchangerType then
    window.updateSelectedBalance rounding fromChars
  else .ok window

def symbolInfoChanged (exchangerType : ExchangerType) (symbol : String)
    (window : OrderEntryWindow) : Except ServiceFailure OrderEntryWindow :=
  match window.form.getSelectedPair with
  | none => .ok window
  | some pair =>
      if exchangerType = window.inputs.exchangerType ∧ symbol = pair.symbol then
        window.updateSelectedSymbolInfo rounding fromChars
      else .ok window

/-! ## Inputs -/

/-- `retrySymbolInfoButton`. -/
def retrySymbolInfoClicked (window : OrderEntryWindow) :
    Except ServiceFailure OrderEntryWindow := do
  match window.form.getSelectedPair with
  | none => return window
  | some pair =>
      let load ← window.catalogs.retrySymbolInfo window.inputs.exchangerType pair.symbol
      let window ← window.afterLoadStart load
        (symbolInfoChanged rounding fromChars window.inputs.exchangerType pair.symbol)
      window.updateSelectedSymbolInfo rounding fromChars

/-- `retryBalanceButton`. -/
def retryBalancesClicked (window : OrderEntryWindow) :
    Except ServiceFailure OrderEntryWindow := do
  let window ← window.afterLoadStart (window.catalogs.retryBalances window.inputs.exchangerType)
    (balanceLoadChanged rounding fromChars window.inputs.exchangerType)
  window.updateSelectedBalance rounding fromChars

def handle (window : OrderEntryWindow) : UserInput → Except ServiceFailure OrderEntryWindow
  | .selectExchange exchangerType => do
      let window := { window with inputs := { window.inputs with exchangerType } }
      let window ← window.updateSelectedCatalog rounding fromChars
      window.updateSelectedBalance rounding fromChars
  | .selectBaseAsset asset =>
      let preferredQuoteAsset := window.inputs.quoteAsset.currentText
      let window := { window with inputs := { window.inputs with
        baseAsset := { window.inputs.baseAsset with currentText := asset } } }
      let window := window.updateQuoteAssets preferredQuoteAsset
      window.updatePairLabels.updateSelectedSymbolInfo rounding fromChars
  | .selectQuoteAsset asset =>
      let window := { window with inputs := { window.inputs with
        quoteAsset := { window.inputs.quoteAsset with currentText := asset } } }
      window.updatePairLabels.updateSelectedSymbolInfo rounding fromChars
  | .selectOperation operation =>
      let window := { window with inputs := { window.inputs with operation } }
      window.updateOperationFields rounding fromChars
  | .selectPlaceOrderSide side =>
      .ok { window with inputs := { window.inputs with placeOrderSide := side } }
  | .selectPlaceOrderType type =>
      let window := { window with inputs := { window.inputs with placeOrderType := type } }
      window.updatePlaceOrderTypeFields rounding fromChars
  | .selectOcoSide side => .ok { window with inputs := { window.inputs with ocoSide := side } }
  | .toggleOcoStopLimit checked =>
      let window := { window with inputs := { window.inputs with useOcoStopLimit := checked } }
      window.updateOcoStopLimitFields rounding fromChars
  | .typeText field text =>
      let window := { window with inputs := { window.inputs with
        texts := Function.update window.inputs.texts field text } }
      window.validateForm rounding fromChars
  | .leaveField field =>
      let window := { window with inputs := { window.inputs with
        feedback := Function.update window.inputs.feedback field true } }
      window.validateForm rounding fromChars
  | .retrySymbolInfo => window.retrySymbolInfoClicked rounding fromChars
  | .retryBalances => window.retryBalancesClicked rounding fromChars

/-! ## Loads and deliveries -/

/-- `PairCatalog::loadCatalogs` for one exchange. -/
def loadCatalog (window : OrderEntryWindow) (exchangerType : ExchangerType) :
    Except ServiceFailure OrderEntryWindow :=
  window.afterLoadStart (window.catalogs.loadCatalog exchangerType)
    (pairCatalogChanged rounding fromChars exchangerType)

def loadBalances (window : OrderEntryWindow) (exchangerType : ExchangerType) :
    Except ServiceFailure OrderEntryWindow :=
  window.afterLoadStart (window.catalogs.loadBalances exchangerType)
    (balanceLoadChanged rounding fromChars exchangerType)

def refreshBalances (window : OrderEntryWindow) (exchangerType : ExchangerType) :
    Except ServiceFailure OrderEntryWindow :=
  window.afterLoadStart (window.catalogs.refreshBalances exchangerType)
    (balanceLoadChanged rounding fromChars exchangerType)

/-- `pairsChanged` is emitted while the load is still `LOADING`. -/
def deliverPairs (window : OrderEntryWindow) (exchangerType : ExchangerType)
    (pairs : List TradablePair) : Except ServiceFailure OrderEntryWindow := do
  let window ← pairCatalogChanged rounding fromChars exchangerType
    { window with catalogs := window.catalogs.storePairs exchangerType pairs }
  let loadState := (window.catalogs.pairs exchangerType).loadState.finishSuccessfully
  pairCatalogChanged rounding fromChars exchangerType
    { window with catalogs := window.catalogs.setPairLoadState exchangerType loadState }

def deliverPairFailure (window : OrderEntryWindow) (exchangerType : ExchangerType)
    (failure : String) : Except ServiceFailure OrderEntryWindow :=
  let loadState := (window.catalogs.pairs exchangerType).loadState.finishWithFailure failure
  pairCatalogChanged rounding fromChars exchangerType
    { window with catalogs := window.catalogs.setPairLoadState exchangerType loadState }

def deliverBalances (window : OrderEntryWindow) (exchangerType : ExchangerType) :
    Except ServiceFailure OrderEntryWindow :=
  let catalogs := window.catalogs.storeBalances exchangerType
  let loadState := (catalogs.balances exchangerType).loadState.finishSuccessfully
  balanceLoadChanged rounding fromChars exchangerType
    { window with catalogs := catalogs.setBalanceLoadState exchangerType loadState }

def deliverBalanceFailure (window : OrderEntryWindow) (exchangerType : ExchangerType)
    (failure : String) : Except ServiceFailure OrderEntryWindow :=
  let loadState := (window.catalogs.balances exchangerType).loadState.finishWithFailure failure
  balanceLoadChanged rounding fromChars exchangerType
    { window with catalogs := window.catalogs.setBalanceLoadState exchangerType loadState }

def deliverSymbolInfo (window : OrderEntryWindow) (exchangerType : ExchangerType)
    (symbol : String) (symbolInfo : SymbolInfo) : Except ServiceFailure OrderEntryWindow :=
  symbolInfoChanged rounding fromChars exchangerType symbol
    { window with catalogs := window.catalogs.storeSymbolInfo exchangerType symbol symbolInfo }

def deliverSymbolInfoFailure (window : OrderEntryWindow) (exchangerType : ExchangerType)
    (symbol failure : String) : Except ServiceFailure OrderEntryWindow :=
  symbolInfoChanged rounding fromChars exchangerType symbol
    { window with catalogs := window.catalogs.failSymbolInfo exchangerType symbol failure }

/-! ## Runs -/

def initialLabels : PairLabels where
  amount := "Amount (base asset)"
  amountPlaceholder := ""
  placeOrderPrice := "Price (quote per base)"
  ocoLimitPrice := "Limit price (quote per base)"
  ocoStopPrice := "Stop price (quote per base)"
  ocoStopLimitPrice := "Stop-limit price (quote per base)"

/-- The constructor. -/
def construct : Except ServiceFailure OrderEntryWindow := do
  let window : OrderEntryWindow :=
    { catalogs := {}, inputs := {}, shown := { labels := initialLabels } }
  let window ← window.updateOperationFields rounding fromChars
  let window ← window.updatePlaceOrderTypeFields rounding fromChars
  let window ← window.updateOcoStopLimitFields rounding fromChars
  let window ← window.updateSelectedCatalog rounding fromChars
  window.updateSelectedBalance rounding fromChars

variable (answers : ExchangerType → String → SymbolInfo → Prop)

/-- `answers` is what `getSymbolInfo` of each service may return for a symbol. -/
inductive Step (window : OrderEntryWindow) : OrderEntryWindow → Prop
  | input {after : OrderEntryWindow} (input : UserInput) (possible : input.Possible window)
      (handled : window.handle rounding fromChars input = .ok after) : Step window after
  | loadCatalog {after : OrderEntryWindow} (exchangerType : ExchangerType)
      (handled : window.loadCatalog rounding fromChars exchangerType = .ok after) :
      Step window after
  | loadBalances {after : OrderEntryWindow} (exchangerType : ExchangerType)
      (handled : window.loadBalances rounding fromChars exchangerType = .ok after) :
      Step window after
  | refreshBalances {after : OrderEntryWindow} (exchangerType : ExchangerType)
      (handled : window.refreshBalances rounding fromChars exchangerType = .ok after) :
      Step window after
  | requestStop : Step window { window with catalogs := { window.catalogs with stopping := true } }
  | pairs {after : OrderEntryWindow} {exchangerType : ExchangerType} (listed : List TradablePair)
      (inFlight : .pairs exchangerType ∈ window.catalogs.tasks)
      (running : window.catalogs.stopping = false)
      (handled : (window.taken (.pairs exchangerType)).deliverPairs rounding fromChars
        exchangerType (filterAndSortTradablePairs listed) = .ok after) : Step window after
  | pairFailure {after : OrderEntryWindow} {exchangerType : ExchangerType} (failure : String)
      (inFlight : .pairs exchangerType ∈ window.catalogs.tasks)
      (running : window.catalogs.stopping = false)
      (handled : (window.taken (.pairs exchangerType)).deliverPairFailure rounding fromChars
        exchangerType failure = .ok after) : Step window after
  | balances {after : OrderEntryWindow} {exchangerType : ExchangerType}
      (inFlight : .balances exchangerType ∈ window.catalogs.tasks)
      (running : window.catalogs.stopping = false)
      (handled : (window.taken (.balances exchangerType)).deliverBalances rounding fromChars
        exchangerType = .ok after) : Step window after
  | balanceFailure {after : OrderEntryWindow} {exchangerType : ExchangerType} (failure : String)
      (inFlight : .balances exchangerType ∈ window.catalogs.tasks)
      (running : window.catalogs.stopping = false)
      (handled : (window.taken (.balances exchangerType)).deliverBalanceFailure rounding fromChars
        exchangerType failure = .ok after) : Step window after
  | symbolInfo {after : OrderEntryWindow} {exchangerType dealService : ExchangerType}
      {symbol : String} {symbolInfo : SymbolInfo}
      (inFlight : .symbolInfo exchangerType symbol dealService ∈ window.catalogs.tasks)
      (running : window.catalogs.stopping = false)
      (answered : answers dealService symbol symbolInfo)
      (handled : (window.taken (.symbolInfo exchangerType symbol dealService)).deliverSymbolInfo
        rounding fromChars exchangerType symbol symbolInfo = .ok after) : Step window after
  | symbolInfoFailure {after : OrderEntryWindow} {exchangerType dealService : ExchangerType}
      {symbol : String} (failure : String)
      (inFlight : .symbolInfo exchangerType symbol dealService ∈ window.catalogs.tasks)
      (running : window.catalogs.stopping = false)
      (handled : (window.taken
        (.symbolInfo exchangerType symbol dealService)).deliverSymbolInfoFailure
          rounding fromChars exchangerType symbol failure = .ok after) : Step window after

inductive Reachable : OrderEntryWindow → Prop
  | constructed {window : OrderEntryWindow}
      (built : construct rounding fromChars = .ok window) : Reachable window
  | step {window after : OrderEntryWindow} (reached : Reachable window)
      (step : Step rounding fromChars answers window after) : Reachable after

end Handlers

end OrderEntryWindow

end CryptoDeal.OrderEntry
