import CryptoDeal.OrderEntry.OrderInputValidation
import CryptoDeal.OrderSession.OrderSessionModel

/-!
# `OrderEntryForm`

The form's inputs and the catalogs behind them, `validateForm`, which decides
whether the proceed button is enabled, and the builders of the drafts that the
confirmation dialog shows.
-/

namespace CryptoDeal.OrderEntry

open DealService DecimalConverter DecimalText OrderSession

structure PairCatalog where
  loadState : ExchangerType → UiTaskStatus
  pairs : ExchangerType → List TradablePair

structure SymbolEntry where
  loadState : UiTaskStatus
  symbolInfo : Option SymbolInfo

/-- Entries are made by `loadSymbolInfo` and `retrySymbolInfo` only, which refuse an empty symbol. -/
structure SymbolInfoCatalog where
  entries : ExchangerType → String → Option SymbolEntry
  named : ∀ exchangerType, entries exchangerType "" = none

/-- The selected items and the texts of the form, and what it reads of the catalogs. -/
structure OrderEntryForm where
  exchangerType : ExchangerType
  baseAsset : String
  quoteAsset : String
  operation : OperationType
  amount : String
  placeOrderSide : OrderOperation
  placeOrderType : DealService.OrderType
  placeOrderPrice : String
  ocoSide : OrderOperation
  ocoLimitPrice : String
  ocoStopPrice : String
  useOcoStopLimit : Bool
  ocoStopLimitPrice : String
  pairCatalog : PairCatalog
  symbolInfoCatalog : SymbolInfoCatalog
  hasSuccessfulSnapshot : ExchangerType → Bool

/-- What a `DecimalInputField` was last told to show. -/
structure FieldView where
  error : String := ""
  proposedCorrection : Option String := none
  deriving DecidableEq

structure FormView where
  amount : FieldView := {}
  placeOrderPrice : FieldView := {}
  ocoLimitPrice : FieldView := {}
  ocoStopPrice : FieldView := {}
  ocoStopLimitPrice : FieldView := {}
  formValidationError : String := ""
  proceedEnabled : Bool := false
  deriving DecidableEq

/-- The local variables of `validateForm`. -/
structure FieldValidations where
  amount : DecimalInputValidation
  placeOrderPrice : DecimalInputValidation := {}
  ocoLimitPrice : DecimalInputValidation := {}
  ocoStopPrice : DecimalInputValidation := {}
  ocoStopLimitPrice : DecimalInputValidation := {}
  formIsValid : Bool

structure ShownBasicOrderDraft extends BasicOrderDraft where
  quantityText : String
  priceText : Option String := none

structure ShownOcoOrderDraft extends OcoOrderDraft where
  quantityText : String
  limitPriceText : String
  stopPriceText : String
  stopLimitPriceText : Option String := none

/-- The items of `placeOrderTypeSelector`. -/
def placeOrderTypeText : DealService.OrderType → String
  | .market => "Market"
  | .limit => "Limit"

def FormView.clearPriceValidation (view : FormView) : FormView :=
  { view with placeOrderPrice := {}, ocoLimitPrice := {}, ocoStopPrice := {}, ocoStopLimitPrice := {} }

namespace OrderEntryForm

def hasUsableSelectedCatalog (form : OrderEntryForm) : Bool :=
  form.pairCatalog.loadState form.exchangerType = .succeeded &&
    !(form.pairCatalog.pairs form.exchangerType).isEmpty

def getSelectedPair (form : OrderEntryForm) : Option TradablePair :=
  if form.hasUsableSelectedCatalog then
    (form.pairCatalog.pairs form.exchangerType).find? fun pair =>
      pair.baseAsset = form.baseAsset && pair.quoteAsset = form.quoteAsset
  else none

def getSelectedSymbolInfo (form : OrderEntryForm) : Option SymbolInfo :=
  match form.getSelectedPair with
  | none => none
  | some pair =>
      match form.symbolInfoCatalog.entries form.exchangerType pair.symbol with
      | none => none
      | some entry => if entry.loadState = .succeeded then entry.symbolInfo else none

def hasReadySelectedBalances (form : OrderEntryForm) : Bool :=
  form.hasSuccessfulSnapshot form.exchangerType

def hasActivePlaceOrderPrice (form : OrderEntryForm) : Bool :=
  form.operation = .placeOrder && placeOrderTypeText form.placeOrderType = "Limit"

def hasActiveOcoStopLimitPrice (form : OrderEntryForm) : Bool :=
  form.operation = .placeOco && form.useOcoStopLimit

section Validation

variable (rounding : NearestRounding) (fromChars : String → Option Decimal)

def showFieldValidation (validation : DecimalInputValidation) (increment : Decimal) :
    Except ServiceFailure FieldView := do
  match validation.correction with
  | none => return { error := validation.error }
  | some correction =>
      let text ← formatByStep rounding correction increment
      return { error := validation.error, proposedCorrection := some text }

/-- The switch of `validateForm`, with the validations and the views that it sets. -/
def validateFields (form : OrderEntryForm) (symbolInfo : SymbolInfo) (view : FormView) :
    Except ServiceFailure (FieldValidations × FormView) := do
  let amount ← OrderInputValidation.validateQuantity rounding fromChars form.amount symbolInfo
  let amountView ← showFieldValidation rounding amount symbolInfo.stepSize
  let view := { view with amount := amountView }
  match form.operation with
  | .buyCrypto | .sellCrypto =>
      return ({ amount, formIsValid := amount.isValid }, view.clearPriceValidation)
  | .placeOrder =>
      if form.hasActivePlaceOrderPrice then
        let price ←
          OrderInputValidation.validatePrice rounding fromChars form.placeOrderPrice symbolInfo
        let priceView ← showFieldValidation rounding price symbolInfo.tickSize
        return ({ amount, placeOrderPrice := price, formIsValid := price.isValid && amount.isValid },
          { view.clearPriceValidation with placeOrderPrice := priceView })
      else
        return ({ amount, formIsValid := amount.isValid }, view.clearPriceValidation)
  | .placeOco =>
      let limit ←
        OrderInputValidation.validatePrice rounding fromChars form.ocoLimitPrice symbolInfo
      let stop ← OrderInputValidation.validatePrice rounding fromChars form.ocoStopPrice symbolInfo
      let limitView ← showFieldValidation rounding limit symbolInfo.tickSize
      let stopView ← showFieldValidation rounding stop symbolInfo.tickSize
      let view := { view.clearPriceValidation with
        ocoLimitPrice := limitView
        ocoStopPrice := stopView }
      let formIsValid := stop.isValid && (limit.isValid && amount.isValid)
      if form.hasActiveOcoStopLimitPrice then
        let stopLimit ←
          OrderInputValidation.validatePrice rounding fromChars form.ocoStopLimitPrice symbolInfo
        let stopLimitView ← showFieldValidation rounding stopLimit symbolInfo.tickSize
        return ({
            amount, ocoLimitPrice := limit, ocoStopPrice := stop, ocoStopLimitPrice := stopLimit
            formIsValid := stopLimit.isValid && formIsValid },
          { view with ocoStopLimitPrice := stopLimitView })
      else
        return ({ amount, ocoLimitPrice := limit, ocoStopPrice := stop, formIsValid }, view)
  | .sendTo => return ({ amount, formIsValid := false }, view.clearPriceValidation)

def validateActiveNotional (form : OrderEntryForm) (symbolInfo : SymbolInfo)
    (fields : FieldValidations) : Except ServiceFailure String := do
  if ¬ fields.amount.isValid then return ""
  let quantity := fields.amount.value.getD 0
  if form.operation = .placeOrder ∧ form.hasActivePlaceOrderPrice ∧ fields.placeOrderPrice.isValid then
    return (← OrderInputValidation.validateNotional rounding quantity
      (fields.placeOrderPrice.value.getD 0) symbolInfo)
  if form.operation ≠ .placeOco ∨ ¬ fields.ocoLimitPrice.isValid then return ""
  let error ← OrderInputValidation.validateNotional rounding quantity
    (fields.ocoLimitPrice.value.getD 0) symbolInfo
  if error ≠ "" then return "Limit leg: " ++ error
  if ¬ form.hasActiveOcoStopLimitPrice ∧ fields.ocoStopPrice.isValid then
    let error ← OrderInputValidation.validateNotional rounding quantity
      (fields.ocoStopPrice.value.getD 0) symbolInfo
    if error ≠ "" then return "Stop leg: " ++ error
  if form.hasActiveOcoStopLimitPrice ∧ fields.ocoStopLimitPrice.isValid then
    let error ← OrderInputValidation.validateNotional rounding quantity
      (fields.ocoStopLimitPrice.value.getD 0) symbolInfo
    if error ≠ "" then return "Stop-limit leg: " ++ error
  return ""

def validateForm (form : OrderEntryForm) (view : FormView) : Except ServiceFailure FormView := do
  match form.getSelectedSymbolInfo with
  | none => return { view with proceedEnabled := false }
  | some symbolInfo =>
      let (fields, view) ← form.validateFields rounding fromChars symbolInfo view
      let notionalError ← form.validateActiveNotional rounding symbolInfo fields
      return { view with
        formValidationError := notionalError
        proceedEnabled :=
          fields.formIsValid && notionalError = "" && form.hasReadySelectedBalances }

/-! ## The drafts -/

/-- The price part of a `LIMIT` draft. -/
def withLimitPrice (form : OrderEntryForm) (symbolInfo : SymbolInfo)
    (draft : ShownBasicOrderDraft) : Except ServiceFailure (Option ShownBasicOrderDraft) := do
  let priceValidation ←
    OrderInputValidation.validatePrice rounding fromChars form.placeOrderPrice symbolInfo
  if ¬ priceValidation.isValid then return none
  let price := priceValidation.value.getD 0
  let notionalError ←
    OrderInputValidation.validateNotional rounding draft.quantity price symbolInfo
  if notionalError ≠ "" then return none
  let priceText ← formatByStep rounding price symbolInfo.tickSize
  return some { draft with
    price := some price, priceText := some priceText, timeInForce := some "GTC" }

def createBasicOrderDraft (form : OrderEntryForm) :
    Except ServiceFailure (Option ShownBasicOrderDraft) := do
  match form.getSelectedPair, form.getSelectedSymbolInfo with
  | some pair, some symbolInfo =>
      if ¬ form.hasReadySelectedBalances ∨ form.operation = .placeOco then return none
      let amountValidation ←
        OrderInputValidation.validateQuantity rounding fromChars form.amount symbolInfo
      if ¬ amountValidation.isValid then return none
      let quantity := amountValidation.value.getD 0
      let quantityText ← formatByStep rounding quantity symbolInfo.stepSize
      let draft : ShownBasicOrderDraft :=
        { exchangerType := form.exchangerType, operation := form.operation, pair, quantity, quantityText }
      match form.operation with
      | .buyCrypto => return some { draft with side := .buy, type := .market }
      | .sellCrypto => return some { draft with side := .sell, type := .market }
      | .placeOrder =>
          let draft := { draft with side := form.placeOrderSide, type := form.placeOrderType }
          match form.placeOrderType with
          | .limit => form.withLimitPrice rounding fromChars symbolInfo draft
          | .market => return some draft
      | .placeOco | .sendTo => return none
  | _, _ => return none

/-- The stop-limit part of an OCO draft. -/
def withStopLimitPrice (form : OrderEntryForm) (symbolInfo : SymbolInfo)
    (draft : ShownOcoOrderDraft) : Except ServiceFailure (Option ShownOcoOrderDraft) := do
  let stopLimitPriceValidation ←
    OrderInputValidation.validatePrice rounding fromChars form.ocoStopLimitPrice symbolInfo
  if ¬ stopLimitPriceValidation.isValid then return none
  let stopLimitPrice := stopLimitPriceValidation.value.getD 0
  let notionalError ←
    OrderInputValidation.validateNotional rounding draft.quantity stopLimitPrice symbolInfo
  if notionalError ≠ "" then return none
  let stopLimitPriceText ← formatByStep rounding stopLimitPrice symbolInfo.tickSize
  return some { draft with
    stopLimitPrice := some stopLimitPrice
    stopLimitTimeInForce := some "GTC"
    stopLimitPriceText := some stopLimitPriceText }

def createOcoOrderDraft (form : OrderEntryForm) :
    Except ServiceFailure (Option ShownOcoOrderDraft) := do
  match form.getSelectedPair, form.getSelectedSymbolInfo with
  | some pair, some symbolInfo =>
      if ¬ form.hasReadySelectedBalances ∨ form.operation ≠ .placeOco then return none
      let amountValidation ←
        OrderInputValidation.validateQuantity rounding fromChars form.amount symbolInfo
      let limitPriceValidation ←
        OrderInputValidation.validatePrice rounding fromChars form.ocoLimitPrice symbolInfo
      let stopPriceValidation ←
        OrderInputValidation.validatePrice rounding fromChars form.ocoStopPrice symbolInfo
      if ¬ amountValidation.isValid ∨ ¬ limitPriceValidation.isValid ∨
          ¬ stopPriceValidation.isValid then
        return none
      let quantity := amountValidation.value.getD 0
      let limitPrice := limitPriceValidation.value.getD 0
      let stopPrice := stopPriceValidation.value.getD 0
      let limitError ←
        OrderInputValidation.validateNotional rounding quantity limitPrice symbolInfo
      if limitError ≠ "" then return none
      if ¬ form.hasActiveOcoStopLimitPrice then
        let stopError ←
          OrderInputValidation.validateNotional rounding quantity stopPrice symbolInfo
        if stopError ≠ "" then return none
      let quantityText ← formatByStep rounding quantity symbolInfo.stepSize
      let limitPriceText ← formatByStep rounding limitPrice symbolInfo.tickSize
      let stopPriceText ← formatByStep rounding stopPrice symbolInfo.tickSize
      let draft : ShownOcoOrderDraft :=
        { exchangerType := form.exchangerType, pair, side := form.ocoSide, quantity, limitPrice,
          stopPrice, quantityText, limitPriceText, stopPriceText }
      if form.hasActiveOcoStopLimitPrice then
        form.withStopLimitPrice rounding fromChars symbolInfo draft
      else return some draft
  | _, _ => return none

/-- What `requestOrderConfirmation` confirms. -/
def createDraft (form : OrderEntryForm) : Except ServiceFailure (Option EntryDraft) := do
  if form.operation = .placeOco then
    let draft ← form.createOcoOrderDraft rounding fromChars
    return draft.map fun draft => .oco draft.toOcoOrderDraft
  else
    let draft ← form.createBasicOrderDraft rounding fromChars
    return draft.map fun draft => .basic draft.toBasicOrderDraft

end Validation

end OrderEntryForm

end CryptoDeal.OrderEntry
