import CryptoDeal.OrderEntry.EnteredDrafts
import CryptoDeal.OrderEntry.OrderEntryCatalogs

/-!
# The order form as a widget

What `OrderEntryForm` shows and its handlers. Each handler writes the widgets
that it refreshes and no others; a load that it starts signals before it returns.
-/

namespace CryptoDeal.OrderEntry

open DealService DecimalConverter DecimalText OrderSession

inductive StatusPresentation where
  | neutral
  | loading
  | success
  | warning
  | error
  deriving DecidableEq, Repr

structure StatusLabel where
  text : String := ""
  presentation : StatusPresentation := .neutral
  deriving DecidableEq

structure Selector where
  items : List String := []
  currentText : String := ""
  deriving DecidableEq

namespace Selector

/-- The first item that is added becomes the current one. -/
def addItem (selector : Selector) (text : String) : Selector where
  items := selector.items ++ [text]
  currentText := if selector.items = [] then text else selector.currentText

/-- `addItem` unless `findText` finds it. -/
def addMissing (selector : Selector) (text : String) : Selector :=
  if text ∈ selector.items then selector else selector.addItem text

/-- The items of an empty selector after these texts. -/
def offering (texts : List String) : Selector := texts.foldl addMissing {}

/-- `setCurrentIndex` of a preferred text that is found, and of 0 otherwise. -/
def preferText (selector : Selector) (preferred : String) : Selector :=
  { selector with
    currentText := if preferred ∈ selector.items then preferred else selector.items.headD "" }

end Selector

/-- The `DecimalInputField`s of the form. -/
inductive InputField where
  | amount
  | placeOrderPrice
  | ocoLimitPrice
  | ocoStopPrice
  | ocoStopLimitPrice
  deriving DecidableEq

structure FormInputs where
  exchangerType : ExchangerType := .binance
  baseAsset : Selector := {}
  quoteAsset : Selector := {}
  operation : OperationType := .buyCrypto
  placeOrderSide : OrderOperation := .buy
  placeOrderType : DealService.OrderType := .market
  ocoSide : OrderOperation := .buy
  useOcoStopLimit : Bool := false
  texts : InputField → String := fun _ => ""
  /-- `validationFeedbackEnabled` of each field. -/
  feedback : InputField → Bool := fun _ => false

structure PairLabels where
  amount : String
  amountPlaceholder : String
  placeOrderPrice : String
  ocoLimitPrice : String
  ocoStopPrice : String
  ocoStopLimitPrice : String
  deriving DecidableEq

structure FormShown where
  catalogStatus : StatusLabel := {}
  balanceStatus : StatusLabel := {}
  retryBalanceVisible : Bool := false
  pairControlsEnabled : Bool := true
  symbolInfoStatus : StatusLabel := {}
  retrySymbolInfoVisible : Bool := false
  tradingLimits : Option String := none
  labels : PairLabels
  inputsEnabled : Bool := true
  operationForm : OperationType := .buyCrypto
  placeOrderLimitFieldsVisible : Bool := true
  ocoStopLimitFieldsVisible : Bool := true
  fields : FormView := {}
  formValidationErrorVisible : Bool := false

structure OrderEntryWindow where
  catalogs : OrderEntryCatalogs
  inputs : FormInputs
  shown : FormShown

def exchangeName : ExchangerType → String
  | .binance => "Binance"
  | .bybit => "Bybit"

/-- The form that `validateForm` and the draft builders read. -/
def FormInputs.form (inputs : FormInputs) (catalogs : OrderEntryCatalogs) : OrderEntryForm where
  exchangerType := inputs.exchangerType
  baseAsset := inputs.baseAsset.currentText
  quoteAsset := inputs.quoteAsset.currentText
  operation := inputs.operation
  amount := inputs.texts .amount
  placeOrderSide := inputs.placeOrderSide
  placeOrderType := inputs.placeOrderType
  placeOrderPrice := inputs.texts .placeOrderPrice
  ocoSide := inputs.ocoSide
  ocoLimitPrice := inputs.texts .ocoLimitPrice
  ocoStopPrice := inputs.texts .ocoStopPrice
  useOcoStopLimit := inputs.useOcoStopLimit
  ocoStopLimitPrice := inputs.texts .ocoStopLimitPrice
  pairCatalog := catalogs.pairCatalog
  symbolInfoCatalog := catalogs.symbolInfoCatalog
  hasSuccessfulSnapshot exchangerType := (catalogs.balances exchangerType).hasSuccessfulSnapshot

/-! ## The texts -/

/-- The label of `updateSelectedCatalog`. -/
def catalogStatus (name : String) (catalog : PairCatalogEntry) : StatusLabel :=
  match catalog.loadState.status with
  | .idle => { text := name ++ " pair selection is waiting for the startup catalog." }
  | .loading =>
      { text := name ++ " pairs are loading. Pair controls will become available soon."
        presentation := .loading }
  | .succeeded =>
      if catalog.pairs.length = 0 then
        { text := name ++ " has no tradable SPOT pairs available.", presentation := .warning }
      else
        { text := name ++ " pair selection is ready (" ++ toString catalog.pairs.length ++ " " ++
            (if catalog.pairs.length = 1 then "pair" else "pairs") ++ ")."
          presentation := .success }
  | .failed =>
      { text := name ++ " pairs are unavailable: " ++ catalog.loadState.error
        presentation := .error }

/-- The label of `updateSelectedBalance`. -/
def balanceStatus (name : String) (entry : BalanceLoadEntry) : StatusLabel :=
  match entry.loadState.status with
  | .idle => { text := name ++ " balances are waiting for the startup load." }
  | .loading =>
      { text := if entry.hasSuccessfulSnapshot then
          "Refreshing " ++ name ++ " balances. The latest cached snapshot remains available."
          else "Loading " ++ name ++ " balances required for placement..."
        presentation := .loading }
  | .succeeded =>
      { text := name ++ " balances are ready for placement.", presentation := .success }
  | .failed =>
      if entry.hasSuccessfulSnapshot then
        { text := name ++ " balance refresh failed; using the latest cached snapshot: " ++
            entry.loadState.error
          presentation := .warning }
      else
        { text := name ++ " balances are unavailable: " ++ entry.loadState.error
          presentation := .error }

/-- The label of `updateSelectedSymbolInfo` for an entry that was found. -/
def symbolInfoStatus (symbol : String) (entry : SymbolInfoEntry) : StatusLabel :=
  match entry.loadState.status with
  | .idle => { text := "Waiting to load trading rules for " ++ symbol ++ "." }
  | .loading =>
      { text := "Loading trading rules for " ++ symbol ++ "...", presentation := .loading }
  | .failed =>
      { text := "Trading rules are unavailable for " ++ symbol ++ ": " ++ entry.loadState.error
        presentation := .error }
  | .succeeded =>
      if entry.symbolInfo.isNone then
        { text := "Trading rules returned no details for " ++ symbol ++ "."
          presentation := .error }
      else
        { text := "Trading rules are ready for " ++ symbol ++ ".", presentation := .success }

def pairLabels (baseAsset quoteAsset : String) : PairLabels :=
  let amountAsset := if baseAsset = "" then "base asset" else baseAsset
  let priceUnit :=
    if baseAsset = "" ∨ quoteAsset = "" then "quote per base"
    else quoteAsset ++ " per " ++ baseAsset
  { amount := "Amount (" ++ amountAsset ++ ")"
    amountPlaceholder :=
      if baseAsset = "" then "Base-asset quantity" else "Amount in " ++ baseAsset
    placeOrderPrice := "Price (" ++ priceUnit ++ ")"
    ocoLimitPrice := "Limit price (" ++ priceUnit ++ ")"
    ocoStopPrice := "Stop price (" ++ priceUnit ++ ")"
    ocoStopLimitPrice := "Stop-limit price (" ++ priceUnit ++ ")" }

section Texts

variable (rounding : NearestRounding)

def appendBound (parts : List String) (name : String) (value increment : Decimal) :
    Except ServiceFailure (List String) := do
  if 0 < value then
    let text ← formatByStep rounding value increment
    return parts ++ [name ++ " " ++ text]
  return parts

def appendNotional (parts : List String) (name : String) (value : Decimal) :
    Except ServiceFailure (List String) := do
  if 0 < value then
    let text ← formatDecimal rounding value
    return parts ++ [name ++ " " ++ text]
  return parts

/-- The text of `updateTradingLimits`. -/
def tradingLimitsText (pair : TradablePair) (symbolInfo : SymbolInfo) :
    Except ServiceFailure String := do
  let step ← formatByStep rounding symbolInfo.stepSize symbolInfo.stepSize
  let quantityParts ← appendBound rounding ["step " ++ step] "min" symbolInfo.minQty
    symbolInfo.stepSize
  let quantityParts ← appendBound rounding quantityParts "max" symbolInfo.maxQty
    symbolInfo.stepSize
  let tick ← formatByStep rounding symbolInfo.tickSize symbolInfo.tickSize
  let priceParts ← appendBound rounding ["tick " ++ tick] "min" symbolInfo.minPrice
    symbolInfo.tickSize
  let priceParts ← appendBound rounding priceParts "max" symbolInfo.maxPrice symbolInfo.tickSize
  let lines := [
    "Amount (" ++ pair.baseAsset ++ "): " ++ " · ".intercalate quantityParts,
    "Price (" ++ pair.quoteAsset ++ "): " ++ " · ".intercalate priceParts]
  let notionalParts ← appendNotional rounding [] "min" symbolInfo.minNotional
  let notionalParts ← appendNotional rounding notionalParts "max" symbolInfo.maxNotional
  let lines := if notionalParts.isEmpty then lines else
    lines ++ ["Notional (" ++ pair.quoteAsset ++ "): " ++ " · ".intercalate notionalParts]
  return "\n".intercalate lines

end Texts

/-! ## The handlers -/

def FormInputs.shouldShowNotionalValidation (inputs : FormInputs) (error : String) : Bool :=
  let startsWith (leg : String) : Bool := leg.toList.isPrefixOf error.toList
  if error = "" ∨ inputs.feedback .amount = false then false
  else if inputs.operation = .placeOrder then inputs.feedback .placeOrderPrice
  else if startsWith "Limit leg:" then inputs.feedback .ocoLimitPrice
  else if startsWith "Stop leg:" then inputs.feedback .ocoStopPrice
  else if startsWith "Stop-limit leg:" then inputs.feedback .ocoStopLimitPrice
  else false

namespace OrderEntryWindow

def form (window : OrderEntryWindow) : OrderEntryForm := window.inputs.form window.catalogs

def getSelectedExchangeName (window : OrderEntryWindow) : String :=
  exchangeName window.inputs.exchangerType

def pairs (window : OrderEntryWindow) : List TradablePair :=
  (window.catalogs.pairs window.inputs.exchangerType).pairs

/-- `updateQuoteAssets`; a selector has no current item exactly if it has no items. -/
def updateQuoteAssets (window : OrderEntryWindow) (preferredQuoteAsset : String) :
    OrderEntryWindow :=
  let quoteAsset : Selector :=
    if window.form.hasUsableSelectedCatalog = false ∨ window.inputs.baseAsset.items = [] then {}
    else
      let offered := window.pairs.filter fun pair =>
        pair.baseAsset = window.inputs.baseAsset.currentText
      (Selector.offering (offered.map TradablePair.quoteAsset)).preferText preferredQuoteAsset
  { window with inputs := { window.inputs with quoteAsset } }

def updatePairLabels (window : OrderEntryWindow) : OrderEntryWindow :=
  { window with shown := { window.shown with
    labels :=
      pairLabels window.inputs.baseAsset.currentText window.inputs.quoteAsset.currentText } }

/-- How `updateSelectedSymbolInfo` begins. -/
def resetSymbolInfo (window : OrderEntryWindow) : OrderEntryWindow :=
  { window with shown := { window.shown with
    retrySymbolInfoVisible := false
    tradingLimits := none
    formValidationErrorVisible := false
    inputsEnabled := false
    fields := { window.shown.fields.clearPriceValidation with
      proceedEnabled := false
      amount := {} } } }

section Handlers

variable (rounding : NearestRounding) (fromChars : String → Option Decimal)

def validateForm (window : OrderEntryWindow) : Except ServiceFailure OrderEntryWindow := do
  let fields ← window.form.validateForm rounding fromChars window.shown.fields
  return { window with shown := { window.shown with
    fields
    formValidationErrorVisible :=
      if window.form.getSelectedSymbolInfo.isNone then window.shown.formValidationErrorVisible
      else window.inputs.shouldShowNotionalValidation fields.formValidationError } }

/-- `updateSelectedSymbolInfo` after its `loadSymbolInfo`. -/
def showSymbolInfo (window : OrderEntryWindow) (pair : TradablePair) :
    Except ServiceFailure OrderEntryWindow := do
  match window.catalogs.symbolInfos.find window.inputs.exchangerType pair.symbol with
  | none => return { window with shown := { window.shown with
      symbolInfoStatus :=
        { text := "Trading rules could not be started for " ++ pair.symbol ++ "."
          presentation := .error } } }
  | some entry =>
      let window := { window with shown := { window.shown with
        symbolInfoStatus := symbolInfoStatus pair.symbol entry } }
      match entry.loadState.status, entry.symbolInfo with
      | .idle, _ | .loading, _ | .succeeded, none => return window
      | .failed, _ => return { window with shown := { window.shown with
          retrySymbolInfoVisible := true } }
      | .succeeded, some symbolInfo =>
          let limits ← tradingLimitsText rounding pair symbolInfo
          let window := { window with shown := { window.shown with
            tradingLimits := some limits
            inputsEnabled := true } }
          window.validateForm rounding fromChars

def updateSelectedSymbolInfo (window : OrderEntryWindow) :
    Except ServiceFailure OrderEntryWindow := do
  let window := window.resetSymbolInfo
  match window.form.getSelectedPair with
  | none => return { window with shown := { window.shown with
      symbolInfoStatus := { text := "Select an available pair to load its trading rules." } } }
  | some pair =>
      let (catalogs, started) ←
        window.catalogs.loadSymbolInfo window.inputs.exchangerType pair.symbol
      let window := { window with catalogs }
      -- a load that starts comes back here by its signal and finds itself started
      let window ← if started then window.resetSymbolInfo.showSymbolInfo rounding fromChars pair
        else pure window
      window.showSymbolInfo rounding fromChars pair

def updatePairSelectors (window : OrderEntryWindow) : Except ServiceFailure OrderEntryWindow := do
  let preferredBaseAsset := window.inputs.baseAsset.currentText
  let preferredQuoteAsset := window.inputs.quoteAsset.currentText
  let usable := window.form.hasUsableSelectedCatalog
  let window : OrderEntryWindow :=
    { window with
      inputs := { window.inputs with baseAsset := {}, quoteAsset := {} }
      shown := { window.shown with pairControlsEnabled := usable } }
  if usable = false then
    window.updatePairLabels.updateSelectedSymbolInfo rounding fromChars
  else
    let baseAsset :=
      (Selector.offering (window.pairs.map TradablePair.baseAsset)).preferText preferredBaseAsset
    let window := { window with inputs := { window.inputs with baseAsset } }
    let window := window.updateQuoteAssets preferredQuoteAsset
    window.updatePairLabels.updateSelectedSymbolInfo rounding fromChars

def updateSelectedCatalog (window : OrderEntryWindow) :
    Except ServiceFailure OrderEntryWindow :=
  let window := { window with shown := { window.shown with
    catalogStatus := catalogStatus window.getSelectedExchangeName
      (window.catalogs.pairs window.inputs.exchangerType) } }
  window.updatePairSelectors rounding fromChars

def updateSelectedBalance (window : OrderEntryWindow) :
    Except ServiceFailure OrderEntryWindow :=
  let entry := window.catalogs.balances window.inputs.exchangerType
  let window := { window with shown := { window.shown with
    balanceStatus := balanceStatus window.getSelectedExchangeName entry
    retryBalanceVisible := decide (entry.loadState.status = UiTaskStatus.failed) } }
  window.validateForm rounding fromChars

def updateOperationFields (window : OrderEntryWindow) :
    Except ServiceFailure OrderEntryWindow :=
  let window := { window with shown := { window.shown with
    operationForm := window.inputs.operation } }
  window.validateForm rounding fromChars

def updatePlaceOrderTypeFields (window : OrderEntryWindow) :
    Except ServiceFailure OrderEntryWindow :=
  let window := { window with shown := { window.shown with
    placeOrderLimitFieldsVisible := window.form.hasActivePlaceOrderPrice } }
  window.validateForm rounding fromChars

def updateOcoStopLimitFields (window : OrderEntryWindow) :
    Except ServiceFailure OrderEntryWindow :=
  let window := { window with shown := { window.shown with
    ocoStopLimitFieldsVisible := window.form.hasActiveOcoStopLimitPrice } }
  window.validateForm rounding fromChars

end Handlers

end OrderEntryWindow

end CryptoDeal.OrderEntry
