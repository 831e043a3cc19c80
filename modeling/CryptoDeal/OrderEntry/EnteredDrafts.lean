import CryptoDeal.OrderEntry.AcceptedTexts
import CryptoDeal.OrderEntry.OrderEntryForm

/-!
# The proceed button and the drafts

`validateForm` and the draft builders decide the same question twice. Both
follow one relation: what the active fields of the form enter.
-/

namespace CryptoDeal.OrderEntry.OrderEntryForm

open DealService DecimalConverter DecimalText OrderSession OrderInputValidation

variable (rounding : NearestRounding) (fromChars : String → Option Decimal)

def TakesQuantity (symbolInfo : SymbolInfo) (text : String) (quantity : Decimal) : Prop :=
  OrderInputValidation.validateQuantity rounding fromChars text symbolInfo =
    .ok { value := some quantity }

def TakesPrice (symbolInfo : SymbolInfo) (text : String) (price : Decimal) : Prop :=
  OrderInputValidation.validatePrice rounding fromChars text symbolInfo =
    .ok { value := some price }

def TakesNotional (symbolInfo : SymbolInfo) (quantity price : Decimal) : Prop :=
  OrderInputValidation.validateNotional rounding quantity price symbolInfo = .ok ""

/-- The draft that the active fields of the form enter. -/
inductive Enters (form : OrderEntryForm) (symbolInfo : SymbolInfo) (pair : TradablePair) :
    EntryDraft → Prop
  | buy {quantity : Decimal} (operation : form.operation = .buyCrypto)
      (amount : TakesQuantity rounding fromChars symbolInfo form.amount quantity) :
      Enters form symbolInfo pair (.basic {
        exchangerType := form.exchangerType, operation := .buyCrypto, pair
        side := .buy, type := .market, quantity })
  | sell {quantity : Decimal} (operation : form.operation = .sellCrypto)
      (amount : TakesQuantity rounding fromChars symbolInfo form.amount quantity) :
      Enters form symbolInfo pair (.basic {
        exchangerType := form.exchangerType, operation := .sellCrypto, pair
        side := .sell, type := .market, quantity })
  | market {quantity : Decimal} (operation : form.operation = .placeOrder)
      (type : form.placeOrderType = .market)
      (amount : TakesQuantity rounding fromChars symbolInfo form.amount quantity) :
      Enters form symbolInfo pair (.basic {
        exchangerType := form.exchangerType, operation := .placeOrder, pair
        side := form.placeOrderSide, type := .market, quantity })
  | limit {quantity price : Decimal} (operation : form.operation = .placeOrder)
      (type : form.placeOrderType = .limit)
      (amount : TakesQuantity rounding fromChars symbolInfo form.amount quantity)
      (priced : TakesPrice rounding fromChars symbolInfo form.placeOrderPrice price)
      (notional : TakesNotional rounding symbolInfo quantity price) :
      Enters form symbolInfo pair (.basic {
        exchangerType := form.exchangerType, operation := .placeOrder, pair
        side := form.placeOrderSide, type := .limit, quantity, price := some price
        timeInForce := some "GTC" })
  | oco {quantity limitPrice stopPrice : Decimal} (operation : form.operation = .placeOco)
      (stopMarket : form.useOcoStopLimit = false)
      (amount : TakesQuantity rounding fromChars symbolInfo form.amount quantity)
      (limit : TakesPrice rounding fromChars symbolInfo form.ocoLimitPrice limitPrice)
      (stop : TakesPrice rounding fromChars symbolInfo form.ocoStopPrice stopPrice)
      (limitNotional : TakesNotional rounding symbolInfo quantity limitPrice)
      (stopNotional : TakesNotional rounding symbolInfo quantity stopPrice) :
      Enters form symbolInfo pair (.oco {
        exchangerType := form.exchangerType, pair, side := form.ocoSide, quantity, limitPrice
        stopPrice })
  | ocoStopLimit {quantity limitPrice stopPrice stopLimitPrice : Decimal}
      (operation : form.operation = .placeOco) (stopLimit : form.useOcoStopLimit = true)
      (amount : TakesQuantity rounding fromChars symbolInfo form.amount quantity)
      (limit : TakesPrice rounding fromChars symbolInfo form.ocoLimitPrice limitPrice)
      (stop : TakesPrice rounding fromChars symbolInfo form.ocoStopPrice stopPrice)
      (stopLimitPriced :
        TakesPrice rounding fromChars symbolInfo form.ocoStopLimitPrice stopLimitPrice)
      (limitNotional : TakesNotional rounding symbolInfo quantity limitPrice)
      (stopLimitNotional : TakesNotional rounding symbolInfo quantity stopLimitPrice) :
      Enters form symbolInfo pair (.oco {
        exchangerType := form.exchangerType, pair, side := form.ocoSide, quantity, limitPrice
        stopPrice, stopLimitPrice := some stopLimitPrice, stopLimitTimeInForce := some "GTC" })

variable {rounding fromChars}

/-! ## The button -/

section Button

variable {form : OrderEntryForm} {symbolInfo : SymbolInfo} {pair : TradablePair}
  {validation : DecimalInputValidation} {text : String}

theorem valid_quantity_taken
    (returned : OrderInputValidation.validateQuantity rounding fromChars text symbolInfo =
      .ok validation) (valid : validation.isValid) :
    ∃ quantity, validation = { value := some quantity } ∧
      TakesQuantity rounding fromChars symbolInfo text quantity := by
  obtain ⟨quantity, rfl, -⟩ := validate_field_valid quantity_field_lawful returned valid
  exact ⟨quantity, rfl, returned⟩

theorem valid_price_taken
    (returned : OrderInputValidation.validatePrice rounding fromChars text symbolInfo =
      .ok validation) (valid : validation.isValid) :
    ∃ price, validation = { value := some price } ∧
      TakesPrice rounding fromChars symbolInfo text price := by
  obtain ⟨price, rfl, -⟩ := validate_field_valid price_field_lawful returned valid
  exact ⟨price, rfl, returned⟩

/-- A leg is passed in silence, or its error ends the check under its label. -/
theorem leg_silent_iff {check rest : Except ServiceFailure String} {label : String}
    (labelled : label ≠ "") :
    (do
      let error ← check
      if error ≠ "" then pure (label ++ error) else rest) = .ok "" ↔
        check = .ok "" ∧ rest = .ok "" := by
  cases check with
  | error failure => simp [bind, Except.bind]
  | ok error =>
      by_cases silent : error = ""
      · simp [bind, Except.bind, silent]
      · simp [bind, Except.bind, silent, pure, Except.pure, labelled]

/-- The legs of an OCO that the form looks at, as `validateForm` has them. -/
theorem oco_notional_silent_iff {fields : FieldValidations} {quantity limitPrice : Decimal}
    (operation : form.operation = .placeOco) (amount : fields.amount = { value := some quantity })
    (limit : fields.ocoLimitPrice = { value := some limitPrice }) {last : Decimal}
    (lastLeg : (form.useOcoStopLimit = false ∧ fields.ocoStopPrice = { value := some last }) ∨
      (form.useOcoStopLimit = true ∧ fields.ocoStopLimitPrice = { value := some last })) :
    form.validateActiveNotional rounding symbolInfo fields = .ok "" ↔
      TakesNotional rounding symbolInfo quantity limitPrice ∧
        TakesNotional rounding symbolInfo quantity last := by
  have amountValid : fields.amount.isValid := by rw [amount]; rfl
  have limitValid : fields.ocoLimitPrice.isValid := by rw [limit]; rfl
  have reached : ¬ (OperationType.placeOco ≠ OperationType.placeOco ∨ False) := by simp
  rcases lastLeg with ⟨stopMarket, stop⟩ | ⟨stopLimit, stop⟩
  · have inactive : form.hasActiveOcoStopLimitPrice = false := by
      simp [hasActiveOcoStopLimitPrice, stopMarket]
    have stopValid : fields.ocoStopPrice.isValid := by rw [stop]; rfl
    simp only [validateActiveNotional, operation, amountValid, limitValid, inactive, stopValid]
    simp only [not_true_eq_false, if_false, reduceCtorEq, false_and, Bool.false_eq_true,
      not_false_eq_true, true_and, if_true]
    rw [if_neg reached, leg_silent_iff (show "Limit leg: " ≠ "" by decide),
      leg_silent_iff (show "Stop leg: " ≠ "" by decide), amount, limit, stop]
    simp [TakesNotional, pure, Except.pure]
  · have active : form.hasActiveOcoStopLimitPrice = true := by
      simp [hasActiveOcoStopLimitPrice, operation, stopLimit]
    have stopValid : fields.ocoStopLimitPrice.isValid := by rw [stop]; rfl
    simp only [validateActiveNotional, operation, amountValid, limitValid, active, stopValid]
    simp only [not_true_eq_false, if_false, reduceCtorEq, false_and, true_and, if_true]
    rw [if_neg reached, leg_silent_iff (show "Limit leg: " ≠ "" by decide),
      leg_silent_iff (show "Stop-limit leg: " ≠ "" by decide), amount, limit, stop]
    simp [TakesNotional, pure, Except.pure]

/-- A form whose fields are all valid, with nothing to say about its notional, enters a draft. -/
theorem valid_fields_enter {view after : FormView} {fields : FieldValidations}
    (validated : form.validateFields rounding fromChars symbolInfo view = .ok (fields, after))
    (silent : form.validateActiveNotional rounding symbolInfo fields = .ok "")
    (valid : fields.formIsValid) :
    ∃ draft, Enters rounding fromChars form symbolInfo pair draft := by
  unfold validateFields at validated
  obtain ⟨amount, amountReturned, validated⟩ := except_bind_ok.1 validated
  obtain ⟨amountView, -, validated⟩ := except_bind_ok.1 validated
  cases operation : form.operation with
  | buyCrypto =>
      simp only [operation] at validated
      cases validated
      obtain ⟨quantity, -, taken⟩ := valid_quantity_taken amountReturned valid
      exact ⟨_, .buy operation taken⟩
  | sellCrypto =>
      simp only [operation] at validated
      cases validated
      obtain ⟨quantity, -, taken⟩ := valid_quantity_taken amountReturned valid
      exact ⟨_, .sell operation taken⟩
  | placeOrder =>
      simp only [operation] at validated
      cases type : form.placeOrderType with
      | market =>
          have inactive : form.hasActivePlaceOrderPrice = false := by
            simp [hasActivePlaceOrderPrice, type, placeOrderTypeText]
          rw [inactive] at validated
          cases validated
          obtain ⟨quantity, -, taken⟩ := valid_quantity_taken amountReturned valid
          exact ⟨_, .market operation type taken⟩
      | limit =>
          have active : form.hasActivePlaceOrderPrice = true := by
            simp [hasActivePlaceOrderPrice, operation, type, placeOrderTypeText]
          rw [if_pos active] at validated
          obtain ⟨price, priceReturned, validated⟩ := except_bind_ok.1 validated
          obtain ⟨priceView, -, validated⟩ := except_bind_ok.1 validated
          cases validated
          obtain ⟨priceValid, amountValid⟩ := Bool.and_eq_true_iff.1 valid
          obtain ⟨quantity, rfl, taken⟩ := valid_quantity_taken amountReturned amountValid
          obtain ⟨value, rfl, priced⟩ := valid_price_taken priceReturned priceValid
          have notional : TakesNotional rounding symbolInfo quantity value := by
            simpa [TakesNotional, validateActiveNotional, amountValid, priceValid, operation, active]
              using silent
          exact ⟨_, .limit operation type taken priced notional⟩
  | placeOco =>
      simp only [operation] at validated
      obtain ⟨limit, limitReturned, validated⟩ := except_bind_ok.1 validated
      obtain ⟨stop, stopReturned, validated⟩ := except_bind_ok.1 validated
      obtain ⟨limitView, -, validated⟩ := except_bind_ok.1 validated
      obtain ⟨stopView, -, validated⟩ := except_bind_ok.1 validated
      cases stopLimitUsed : form.useOcoStopLimit with
      | false =>
          have inactive : form.hasActiveOcoStopLimitPrice = false := by
            simp [hasActiveOcoStopLimitPrice, stopLimitUsed]
          rw [inactive] at validated
          cases validated
          simp only [Bool.and_eq_true] at valid
          obtain ⟨stopValid, limitValid, amountValid⟩ := valid
          obtain ⟨quantity, rfl, taken⟩ := valid_quantity_taken amountReturned amountValid
          obtain ⟨limitPrice, rfl, limitTaken⟩ := valid_price_taken limitReturned limitValid
          obtain ⟨stopPrice, rfl, stopTaken⟩ := valid_price_taken stopReturned stopValid
          obtain ⟨limitNotional, stopNotional⟩ :=
            (oco_notional_silent_iff operation rfl rfl (.inl ⟨stopLimitUsed, rfl⟩)).1 silent
          exact ⟨_, .oco operation stopLimitUsed taken limitTaken stopTaken limitNotional
            stopNotional⟩
      | true =>
          have active : form.hasActiveOcoStopLimitPrice = true := by
            simp [hasActiveOcoStopLimitPrice, operation, stopLimitUsed]
          rw [if_pos active] at validated
          obtain ⟨stopLimit, stopLimitReturned, validated⟩ := except_bind_ok.1 validated
          obtain ⟨stopLimitView, -, validated⟩ := except_bind_ok.1 validated
          cases validated
          simp only [Bool.and_eq_true] at valid
          obtain ⟨stopLimitValid, stopValid, limitValid, amountValid⟩ := valid
          obtain ⟨quantity, rfl, taken⟩ := valid_quantity_taken amountReturned amountValid
          obtain ⟨limitPrice, rfl, limitTaken⟩ := valid_price_taken limitReturned limitValid
          obtain ⟨stopPrice, rfl, stopTaken⟩ := valid_price_taken stopReturned stopValid
          obtain ⟨stopLimitPrice, rfl, stopLimitTaken⟩ :=
            valid_price_taken stopLimitReturned stopLimitValid
          obtain ⟨limitNotional, stopLimitNotional⟩ :=
            (oco_notional_silent_iff operation rfl rfl (.inr ⟨stopLimitUsed, rfl⟩)).1 silent
          exact ⟨_, .ocoStopLimit operation stopLimitUsed taken limitTaken stopTaken stopLimitTaken
            limitNotional stopLimitNotional⟩
  | sendTo =>
      simp only [operation] at validated
      cases validated
      cases valid

/-- The values of a draft are those of the validations, with none where a field is inactive. -/
def CarriesValues (fields : FieldValidations) : EntryDraft → Prop
  | .basic draft =>
      fields.amount.value = some draft.quantity ∧ fields.placeOrderPrice.value = draft.price
  | .oco draft =>
      fields.amount.value = some draft.quantity ∧
        fields.ocoLimitPrice.value = some draft.limitPrice ∧
        fields.ocoStopPrice.value = some draft.stopPrice ∧
        fields.ocoStopLimitPrice.value = draft.stopLimitPrice

theorem entered_fields_valid {draft : EntryDraft}
    (entered : Enters rounding fromChars form symbolInfo pair draft) (view : FormView) :
    ∃ fields after,
      form.validateFields rounding fromChars symbolInfo view = .ok (fields, after) ∧
        form.validateActiveNotional rounding symbolInfo fields = .ok "" ∧
        fields.formIsValid ∧ CarriesValues fields draft := by
  have valid : ∀ value : Decimal, DecimalInputValidation.isValid { value := some value } :=
    fun _ => rfl
  cases entered with
  | buy operation amount | sell operation amount =>
      unfold TakesQuantity at amount
      refine ⟨{ amount := { value := some _ }, formIsValid := true }, _,
        by simp only [validateFields, amount, operation]; rfl, ?_, rfl, rfl, rfl⟩
      simp [validateActiveNotional, operation, pure, Except.pure]
  | market operation type amount =>
      unfold TakesQuantity at amount
      have inactive : form.hasActivePlaceOrderPrice = false := by
        simp [hasActivePlaceOrderPrice, type, placeOrderTypeText]
      refine ⟨{ amount := { value := some _ }, formIsValid := true }, _,
        by simp only [validateFields, amount, operation, inactive]; rfl, ?_, rfl, rfl, rfl⟩
      simp [validateActiveNotional, operation, inactive, pure, Except.pure]
  | limit operation type amount priced notional =>
      unfold TakesQuantity at amount
      unfold TakesPrice at priced
      unfold TakesNotional at notional
      have active : form.hasActivePlaceOrderPrice = true := by
        simp [hasActivePlaceOrderPrice, operation, type, placeOrderTypeText]
      refine ⟨{
          amount := { value := some _ }, placeOrderPrice := { value := some _ }
          formIsValid := true }, _,
        by simp only [validateFields, amount, priced, operation, active]; rfl, ?_, rfl, rfl, rfl⟩
      simpa [validateActiveNotional, operation, active, valid] using notional
  | oco operation stopMarket amount limit stop limitNotional stopNotional =>
      unfold TakesQuantity at amount
      unfold TakesPrice at limit stop
      have inactive : form.hasActiveOcoStopLimitPrice = false := by
        simp [hasActiveOcoStopLimitPrice, stopMarket]
      refine ⟨{
          amount := { value := some _ }, ocoLimitPrice := { value := some _ }
          ocoStopPrice := { value := some _ }, formIsValid := true }, _,
        by simp only [validateFields, amount, limit, stop, operation, inactive]; rfl, ?_,
        rfl, rfl, rfl, rfl, rfl⟩
      exact (oco_notional_silent_iff operation rfl rfl (.inl ⟨stopMarket, rfl⟩)).2
        ⟨limitNotional, stopNotional⟩
  | ocoStopLimit operation stopLimit amount limit stop stopLimitPriced limitNotional
      stopLimitNotional =>
      unfold TakesQuantity at amount
      unfold TakesPrice at limit stop stopLimitPriced
      have active : form.hasActiveOcoStopLimitPrice = true := by
        simp [hasActiveOcoStopLimitPrice, operation, stopLimit]
      refine ⟨{
          amount := { value := some _ }, ocoLimitPrice := { value := some _ }
          ocoStopPrice := { value := some _ }, ocoStopLimitPrice := { value := some _ }
          formIsValid := true }, _,
        by simp only [validateFields, amount, limit, stop, stopLimitPriced, operation, active]; rfl,
        ?_, rfl, rfl, rfl, rfl, rfl⟩
      exact (oco_notional_silent_iff operation rfl rfl (.inr ⟨stopLimit, rfl⟩)).2
        ⟨limitNotional, stopLimitNotional⟩

/-- The button is enabled exactly for a form that enters a draft, once the balances are there. -/
theorem proceed_enabled_enters (pair : TradablePair) {view : FormView} :
    (∃ after, form.validateForm rounding fromChars view = .ok after ∧ after.proceedEnabled) ↔
      ∃ symbolInfo, form.getSelectedSymbolInfo = some symbolInfo ∧
        form.hasReadySelectedBalances = true ∧
        ∃ draft, Enters rounding fromChars form symbolInfo pair draft := by
  unfold validateForm
  cases form.getSelectedSymbolInfo with
  | none =>
      refine iff_of_false ?_ ?_
      · rintro ⟨after, returned, enabled⟩
        cases returned
        cases enabled
      · rintro ⟨symbolInfo, ⟨⟩, -⟩
  | some symbolInfo =>
      constructor
      · rintro ⟨after, returned, enabled⟩
        obtain ⟨⟨fields, shown⟩, validated, returned⟩ := except_bind_ok.1 returned
        obtain ⟨notionalError, notional, returned⟩ := except_bind_ok.1 returned
        cases returned
        simp only [Bool.and_eq_true, decide_eq_true_eq] at enabled
        obtain ⟨⟨valid, rfl⟩, ready⟩ := enabled
        exact ⟨symbolInfo, rfl, ready, valid_fields_enter validated notional valid⟩
      · rintro ⟨_, ⟨⟩, ready, draft, entered⟩
        obtain ⟨fields, after, validated, silent, valid, -⟩ := entered_fields_valid entered view
        refine ⟨_, except_bind_ok.2 ⟨_, validated, except_bind_ok.2 ⟨_, silent, rfl⟩⟩, ?_⟩
        simp [valid, ready]

end Button

/-! ## The drafts -/

section Drafts

variable {form : OrderEntryForm} {symbolInfo : SymbolInfo} {pair : TradablePair}

theorem created_basic_enters {draft : ShownBasicOrderDraft}
    (created : form.createBasicOrderDraft rounding fromChars = .ok (some draft)) :
    ∃ pair symbolInfo, form.getSelectedPair = some pair ∧
      form.getSelectedSymbolInfo = some symbolInfo ∧ form.hasReadySelectedBalances = true ∧
      Enters rounding fromChars form symbolInfo pair (.basic draft.toBasicOrderDraft) := by
  unfold createBasicOrderDraft at created
  cases selected : form.getSelectedPair with
  | none =>
      simp only [selected] at created
      cases created
  | some pair =>
      cases found : form.getSelectedSymbolInfo with
      | none =>
          simp only [selected, found] at created
          cases created
      | some symbolInfo =>
          simp only [selected, found] at created
          refine ⟨pair, symbolInfo, rfl, rfl, ?_⟩
          split_ifs at created with blocked
          · cases created
          rw [not_or, not_not] at blocked
          refine ⟨blocked.1, ?_⟩
          obtain ⟨amount, amountReturned, created⟩ := except_bind_ok.1 created
          split_ifs at created with amountValid
          case neg => cases created
          obtain ⟨quantity, rfl, taken⟩ := valid_quantity_taken amountReturned amountValid
          obtain ⟨quantityText, -, created⟩ := except_bind_ok.1 created
          cases operation : form.operation with
          | buyCrypto =>
              simp only [operation] at created
              cases created
              exact .buy operation taken
          | sellCrypto =>
              simp only [operation] at created
              cases created
              exact .sell operation taken
          | placeOrder =>
              cases type : form.placeOrderType with
              | market =>
                  simp only [operation, type] at created
                  cases created
                  exact .market operation type taken
              | limit =>
                  simp only [operation, type] at created
                  unfold withLimitPrice at created
                  obtain ⟨price, priceReturned, created⟩ := except_bind_ok.1 created
                  split_ifs at created with priceValid
                  case neg => cases created
                  obtain ⟨value, rfl, priced⟩ := valid_price_taken priceReturned priceValid
                  obtain ⟨error, notional, created⟩ := except_bind_ok.1 created
                  split_ifs at created with objected
                  · cases created
                  obtain ⟨priceText, -, created⟩ := except_bind_ok.1 created
                  cases created
                  rw [not_not.1 objected] at notional
                  exact .limit operation type taken priced notional
          | placeOco => exact absurd operation blocked.2
          | sendTo =>
              simp only [operation] at created
              cases created

theorem created_oco_enters {draft : ShownOcoOrderDraft}
    (created : form.createOcoOrderDraft rounding fromChars = .ok (some draft)) :
    ∃ pair symbolInfo, form.getSelectedPair = some pair ∧
      form.getSelectedSymbolInfo = some symbolInfo ∧ form.hasReadySelectedBalances = true ∧
      Enters rounding fromChars form symbolInfo pair (.oco draft.toOcoOrderDraft) := by
  unfold createOcoOrderDraft at created
  cases selected : form.getSelectedPair with
  | none =>
      simp only [selected] at created
      cases created
  | some pair =>
      cases found : form.getSelectedSymbolInfo with
      | none =>
          simp only [selected, found] at created
          cases created
      | some symbolInfo =>
          simp only [selected, found] at created
          refine ⟨pair, symbolInfo, rfl, rfl, ?_⟩
          by_cases blocked : ¬ form.hasReadySelectedBalances ∨ form.operation ≠ .placeOco
          · rw [if_pos blocked] at created
            cases created
          rw [if_neg blocked] at created
          rw [not_or, not_not, not_not] at blocked
          obtain ⟨ready, operation⟩ := blocked
          refine ⟨ready, ?_⟩
          obtain ⟨amount, amountReturned, created⟩ := except_bind_ok.1 created
          obtain ⟨limit, limitReturned, created⟩ := except_bind_ok.1 created
          obtain ⟨stop, stopReturned, created⟩ := except_bind_ok.1 created
          by_cases invalid : ¬ amount.isValid ∨ ¬ limit.isValid ∨ ¬ stop.isValid
          · rw [if_pos invalid] at created
            cases created
          rw [if_neg invalid] at created
          rw [not_or, not_or, not_not, not_not, not_not] at invalid
          obtain ⟨quantity, rfl, taken⟩ := valid_quantity_taken amountReturned invalid.1
          obtain ⟨limitPrice, rfl, limitTaken⟩ := valid_price_taken limitReturned invalid.2.1
          obtain ⟨stopPrice, rfl, stopTaken⟩ := valid_price_taken stopReturned invalid.2.2
          obtain ⟨limitError, limitNotional, created⟩ := except_bind_ok.1 created
          by_cases objected : limitError ≠ ""
          · rw [if_pos objected] at created
            cases created
          rw [if_neg objected] at created
          rw [not_not.1 objected] at limitNotional
          cases stopLimitUsed : form.useOcoStopLimit with
          | false =>
              have inactive : form.hasActiveOcoStopLimitPrice = false := by
                simp [hasActiveOcoStopLimitPrice, stopLimitUsed]
              simp only [inactive, Bool.false_eq_true, not_false_eq_true, if_true, if_false]
                at created
              obtain ⟨stopError, stopNotional, created⟩ := except_bind_ok.1 created
              split_ifs at created with stopObjected
              · cases created
              rw [not_not.1 stopObjected] at stopNotional
              obtain ⟨quantityText, -, created⟩ := except_bind_ok.1 created
              obtain ⟨limitPriceText, -, created⟩ := except_bind_ok.1 created
              obtain ⟨stopPriceText, -, created⟩ := except_bind_ok.1 created
              cases created
              exact .oco operation stopLimitUsed taken limitTaken stopTaken limitNotional
                stopNotional
          | true =>
              have active : form.hasActiveOcoStopLimitPrice = true := by
                simp [hasActiveOcoStopLimitPrice, operation, stopLimitUsed]
              simp only [active, not_true_eq_false, if_true, if_false] at created
              obtain ⟨quantityText, -, created⟩ := except_bind_ok.1 created
              obtain ⟨limitPriceText, -, created⟩ := except_bind_ok.1 created
              obtain ⟨stopPriceText, -, created⟩ := except_bind_ok.1 created
              unfold withStopLimitPrice at created
              obtain ⟨stopLimit, stopLimitReturned, created⟩ := except_bind_ok.1 created
              split_ifs at created with stopLimitValid
              case neg => cases created
              obtain ⟨stopLimitPrice, rfl, stopLimitTaken⟩ :=
                valid_price_taken stopLimitReturned stopLimitValid
              obtain ⟨stopLimitError, stopLimitNotional, created⟩ := except_bind_ok.1 created
              split_ifs at created with stopLimitObjected
              · cases created
              rw [not_not.1 stopLimitObjected] at stopLimitNotional
              obtain ⟨stopLimitPriceText, -, created⟩ := except_bind_ok.1 created
              cases created
              exact .ocoStopLimit operation stopLimitUsed taken limitTaken stopTaken stopLimitTaken
                limitNotional stopLimitNotional

theorem created_enters {draft : EntryDraft}
    (created : form.createDraft rounding fromChars = .ok (some draft)) :
    ∃ pair symbolInfo, form.getSelectedPair = some pair ∧
      form.getSelectedSymbolInfo = some symbolInfo ∧ form.hasReadySelectedBalances = true ∧
      Enters rounding fromChars form symbolInfo pair draft := by
  unfold createDraft at created
  split_ifs at created
  · obtain ⟨shown, returned, created⟩ := except_bind_ok.1 created
    obtain ⟨oco, rfl, rfl⟩ := Option.map_eq_some_iff.1 (Except.ok.inj created)
    exact created_oco_enters returned
  · obtain ⟨shown, returned, created⟩ := except_bind_ok.1 created
    obtain ⟨basic, rfl, rfl⟩ := Option.map_eq_some_iff.1 (Except.ok.inj created)
    exact created_basic_enters returned

/-- The texts of a taken amount always fit. -/
theorem taken_quantity_shown (exactly : ReadsExactly fromChars) {text : String} {quantity : Decimal}
    (taken : TakesQuantity rounding fromChars symbolInfo text quantity) :
    ∃ shown, formatByStep rounding quantity symbolInfo.stepSize = .ok shown := by
  obtain ⟨value, same, parsed, positive, -, decimals, derived⟩ :=
    validate_field_valid quantity_field_lawful taken rfl
  have value_eq : quantity = value := Option.some.inj (congrArg DecimalInputValidation.value same)
  subst value_eq
  exact format_by_step_small derived positive.le (parse_positive_decimal_lt exactly parsed)

theorem taken_price_shown (exactly : ReadsExactly fromChars) {text : String} {price : Decimal}
    (taken : TakesPrice rounding fromChars symbolInfo text price) :
    ∃ shown, formatByStep rounding price symbolInfo.tickSize = .ok shown := by
  obtain ⟨value, same, parsed, positive, -, decimals, derived⟩ :=
    validate_field_valid price_field_lawful taken rfl
  have value_eq : price = value := Option.some.inj (congrArg DecimalInputValidation.value same)
  subst value_eq
  exact format_by_step_small derived positive.le (parse_positive_decimal_lt exactly parsed)

/-- The builder of a basic draft gets past the amount. -/
theorem basic_draft_amount {quantity : Decimal} {quantityText : String}
    (selected : form.getSelectedPair = some pair)
    (found : form.getSelectedSymbolInfo = some symbolInfo)
    (ready : form.hasReadySelectedBalances = true) (basic : form.operation ≠ .placeOco)
    (amount : TakesQuantity rounding fromChars symbolInfo form.amount quantity)
    (shown : formatByStep rounding quantity symbolInfo.stepSize = .ok quantityText)
    {draft : Option ShownBasicOrderDraft}
    (rest : (match form.operation with
      | .buyCrypto => (.ok (some {
          exchangerType := form.exchangerType, operation := form.operation, pair, quantity
          quantityText, side := .buy, type := .market }) :
            Except ServiceFailure (Option ShownBasicOrderDraft))
      | .sellCrypto => .ok (some {
          exchangerType := form.exchangerType, operation := form.operation, pair, quantity
          quantityText, side := .sell, type := .market })
      | .placeOrder =>
          match form.placeOrderType with
          | .limit => form.withLimitPrice rounding fromChars symbolInfo {
              exchangerType := form.exchangerType, operation := form.operation, pair, quantity
              quantityText, side := form.placeOrderSide, type := form.placeOrderType }
          | .market => .ok (some {
              exchangerType := form.exchangerType, operation := form.operation, pair, quantity
              quantityText, side := form.placeOrderSide, type := form.placeOrderType })
      | .placeOco | .sendTo => .ok none) = .ok draft) :
    form.createBasicOrderDraft rounding fromChars = .ok draft := by
  have unblocked : ¬ (¬ form.hasReadySelectedBalances ∨ form.operation = .placeOco) := by
    simp [ready, basic]
  simp only [createBasicOrderDraft, selected, found]
  rw [if_neg unblocked]
  refine except_bind_ok.2 ⟨_, amount, ?_⟩
  exact except_bind_ok.2 ⟨_, shown, rest⟩

theorem entered_created (exactly : ReadsExactly fromChars) {draft : EntryDraft}
    (selected : form.getSelectedPair = some pair)
    (found : form.getSelectedSymbolInfo = some symbolInfo)
    (ready : form.hasReadySelectedBalances = true)
    (entered : Enters rounding fromChars form symbolInfo pair draft) :
    form.createDraft rounding fromChars = .ok (some draft) := by
  cases entered with
  | buy operation amount | sell operation amount =>
      obtain ⟨shown, quantityText⟩ := taken_quantity_shown exactly amount
      have basic : form.operation ≠ .placeOco := by simp [operation]
      rw [createDraft, if_neg basic]
      refine except_bind_ok.2 ⟨_, basic_draft_amount selected found ready basic amount quantityText
        (by rw [operation]), rfl⟩
  | market operation type amount =>
      obtain ⟨shown, quantityText⟩ := taken_quantity_shown exactly amount
      have basic : form.operation ≠ .placeOco := by simp [operation]
      rw [createDraft, if_neg basic]
      refine except_bind_ok.2 ⟨_, basic_draft_amount selected found ready basic amount quantityText
        (by rw [operation, type]), rfl⟩
  | @limit quantity price operation type amount priced notional =>
      obtain ⟨shown, quantityText⟩ := taken_quantity_shown exactly amount
      obtain ⟨shownPrice, priceText⟩ := taken_price_shown exactly priced
      have basic : form.operation ≠ .placeOco := by simp [operation]
      have limited : form.withLimitPrice rounding fromChars symbolInfo {
          exchangerType := form.exchangerType, operation := .placeOrder, pair, quantity
          quantityText := shown, side := form.placeOrderSide, type := .limit } = .ok (some {
            exchangerType := form.exchangerType, operation := .placeOrder, pair, quantity
            quantityText := shown, side := form.placeOrderSide, type := .limit
            price := some price, priceText := some shownPrice, timeInForce := some "GTC" }) :=
        except_bind_ok.2 ⟨_, priced, except_bind_ok.2 ⟨_, notional,
          except_bind_ok.2 ⟨_, priceText, rfl⟩⟩⟩
      rw [createDraft, if_neg basic]
      refine except_bind_ok.2 ⟨_, basic_draft_amount selected found ready basic amount quantityText
        (by rw [operation, type]; exact limited), rfl⟩
  | @oco quantity limitPrice stopPrice operation stopMarket amount limit stop limitNotional
      stopNotional =>
      obtain ⟨shown, quantityText⟩ := taken_quantity_shown exactly amount
      obtain ⟨shownLimit, limitText⟩ := taken_price_shown exactly limit
      obtain ⟨shownStop, stopText⟩ := taken_price_shown exactly stop
      have unblocked : ¬ (¬ form.hasReadySelectedBalances ∨ form.operation ≠ .placeOco) := by
        simp [ready, operation]
      have inactive : form.hasActiveOcoStopLimitPrice = false := by
        simp [hasActiveOcoStopLimitPrice, stopMarket]
      have created : form.createOcoOrderDraft rounding fromChars = .ok (some {
          exchangerType := form.exchangerType, pair, side := form.ocoSide, quantity, limitPrice
          stopPrice, quantityText := shown, limitPriceText := shownLimit
          stopPriceText := shownStop }) := by
        simp only [createOcoOrderDraft, selected, found, inactive]
        rw [if_neg unblocked]
        refine except_bind_ok.2 ⟨_, amount, except_bind_ok.2 ⟨_, limit,
          except_bind_ok.2 ⟨_, stop, except_bind_ok.2 ⟨_, limitNotional, ?_⟩⟩⟩⟩
        refine except_bind_ok.2 ⟨_, stopNotional, except_bind_ok.2 ⟨_, quantityText, ?_⟩⟩
        exact except_bind_ok.2 ⟨_, limitText, except_bind_ok.2 ⟨_, stopText, rfl⟩⟩
      rw [createDraft, if_pos operation]
      exact except_bind_ok.2 ⟨_, created, rfl⟩
  | @ocoStopLimit quantity limitPrice stopPrice stopLimitPrice operation stopLimit amount limit stop
      stopLimitPriced limitNotional stopLimitNotional =>
      obtain ⟨shown, quantityText⟩ := taken_quantity_shown exactly amount
      obtain ⟨shownLimit, limitText⟩ := taken_price_shown exactly limit
      obtain ⟨shownStop, stopText⟩ := taken_price_shown exactly stop
      obtain ⟨shownStopLimit, stopLimitText⟩ := taken_price_shown exactly stopLimitPriced
      have unblocked : ¬ (¬ form.hasReadySelectedBalances ∨ form.operation ≠ .placeOco) := by
        simp [ready, operation]
      have active : form.hasActiveOcoStopLimitPrice = true := by
        simp [hasActiveOcoStopLimitPrice, operation, stopLimit]
      have created : form.createOcoOrderDraft rounding fromChars = .ok (some {
          exchangerType := form.exchangerType, pair, side := form.ocoSide, quantity, limitPrice
          stopPrice, stopLimitPrice := some stopLimitPrice, stopLimitTimeInForce := some "GTC"
          quantityText := shown, limitPriceText := shownLimit, stopPriceText := shownStop
          stopLimitPriceText := some shownStopLimit }) := by
        simp only [createOcoOrderDraft, selected, found, active]
        rw [if_neg unblocked]
        refine except_bind_ok.2 ⟨_, amount, except_bind_ok.2 ⟨_, limit,
          except_bind_ok.2 ⟨_, stop, except_bind_ok.2 ⟨_, limitNotional, ?_⟩⟩⟩⟩
        refine except_bind_ok.2 ⟨_, quantityText, except_bind_ok.2 ⟨_, limitText,
          except_bind_ok.2 ⟨_, stopText, ?_⟩⟩⟩
        exact except_bind_ok.2 ⟨_, stopLimitPriced, except_bind_ok.2 ⟨_, stopLimitNotional,
          except_bind_ok.2 ⟨_, stopLimitText, rfl⟩⟩⟩
      rw [createDraft, if_pos operation]
      exact except_bind_ok.2 ⟨_, created, rfl⟩

/-- The button is enabled exactly for a form that builds a draft, and the draft carries the values
that the validations of the form have accepted. -/
theorem proceed_enabled_iff_draft (exactly : ReadsExactly fromChars) (rounding : NearestRounding)
    (form : OrderEntryForm) (view : FormView) :
    ((∃ after, form.validateForm rounding fromChars view = .ok after ∧ after.proceedEnabled) ↔
      ∃ draft, form.createDraft rounding fromChars = .ok (some draft)) ∧
    ∀ draft, form.createDraft rounding fromChars = .ok (some draft) →
      ∃ symbolInfo fields after, form.getSelectedSymbolInfo = some symbolInfo ∧
        form.validateFields rounding fromChars symbolInfo view = .ok (fields, after) ∧
        fields.formIsValid ∧ CarriesValues fields draft := by
  constructor
  · constructor
    · intro enabled
      obtain ⟨pair, selected⟩ : ∃ pair, form.getSelectedPair = some pair := by
        obtain ⟨after, returned, valid⟩ := enabled
        cases selected : form.getSelectedPair with
        | none =>
            simp only [validateForm, getSelectedSymbolInfo, selected] at returned
            cases returned
            cases valid
        | some pair => exact ⟨pair, rfl⟩
      obtain ⟨symbolInfo, found, ready, draft, entered⟩ :=
        (proceed_enabled_enters pair).1 enabled
      exact ⟨draft, entered_created exactly selected found ready entered⟩
    · rintro ⟨draft, created⟩
      obtain ⟨pair, symbolInfo, -, found, ready, entered⟩ := created_enters created
      exact (proceed_enabled_enters pair).2 ⟨symbolInfo, found, ready, draft, entered⟩
  · intro draft created
    obtain ⟨pair, symbolInfo, -, found, -, entered⟩ := created_enters created
    obtain ⟨fields, after, validated, -, valid, carried⟩ := entered_fields_valid entered view
    exact ⟨symbolInfo, fields, after, found, validated, valid, carried⟩

end Drafts

section Example

def tenthsRules : SymbolInfo := { symbol := "BTCUSDT", stepSize := 1 / 10, tickSize := 1 / 10 }

def bitcoinPair : TradablePair := { symbol := "BTCUSDT", baseAsset := "BTC", quoteAsset := "USDT" }

/-- A market buy of the typed amount, with everything loaded. -/
def buyForm (amount : String) : OrderEntryForm where
  exchangerType := .binance
  baseAsset := "BTC"
  quoteAsset := "USDT"
  operation := .buyCrypto
  amount
  placeOrderSide := .buy
  placeOrderType := .market
  placeOrderPrice := ""
  ocoSide := .buy
  ocoLimitPrice := ""
  ocoStopPrice := ""
  useOcoStopLimit := false
  ocoStopLimitPrice := ""
  pairCatalog := { loadState := fun _ => .succeeded, pairs := fun _ => [bitcoinPair] }
  symbolInfoCatalog :=
    { entries := fun _ symbol =>
        if symbol = "" then none else some { loadState := .succeeded, symbolInfo := tenthsRules }
      named := fun _ => rfl }
  hasSuccessfulSnapshot := fun _ => true

theorem three_tenths_acceptable :
    denotedValue "0.3".toList = 3 / 10 ∧ AcceptableText "0.3".toList (1 / 10) 1 0 0 0 := by
  have value : denotedValue "0.3".toList = 3 / 10 := by
    change denotedValue (['0'] ++ '.' :: ['3']) = 3 / 10
    have whole : digitsValue ['0'] = 0 := by decide
    have fraction : digitsValue ['3'] = 3 := by decide
    rw [denoted_value_pointed (by decide) (by decide), whole, fraction]
    norm_num
  refine ⟨value, ⟨⟨by decide, by decide, by rw [value]; norm_num⟩, ⟨3, by rw [value]; norm_num⟩,
    by decide, ?_, ?_⟩⟩
  · exact fun ruled => absurd ruled (lt_irrefl 0)
  · exact fun ruled => absurd ruled (lt_irrefl 0)

theorem tenths_positive : (0 : Decimal) < 1 / 10 ∧ HasFractionDigits 34 (1 / 10 : Decimal) :=
  ⟨by norm_num, 10 ^ 33, by norm_num⟩

theorem three_tenths_taken :
    TakesQuantity roundHalfUp readDecimal tenthsRules "0.3" (3 / 10) ∧
      TakesPrice roundHalfUp readDecimal tenthsRules "0.3" (3 / 10) := by
  obtain ⟨value, acceptable⟩ := three_tenths_acceptable
  obtain ⟨positive, fits⟩ := tenths_positive
  have quantityRules : 0 < quantityField.increment tenthsRules := positive
  have priceRules : 0 < priceField.increment tenthsRules := positive
  have quantity := (validate_field_aligned roundHalfUp read_decimal_exactly quantity_field_lawful
    acceptable.toTypedNumber quantityRules fits tenths_need_one_place acceptable.multiple).1
    acceptable
  have price := (validate_field_aligned roundHalfUp read_decimal_exactly price_field_lawful
    acceptable.toTypedNumber priceRules fits tenths_need_one_place acceptable.multiple).1 acceptable
  rw [value] at quantity price
  exact ⟨quantity, price⟩

/-- With an amount of 0.3 in tenths, the button is enabled for the draft that it builds. -/
theorem three_tenths_proceed :
    ∃ after, (buyForm "0.3").validateForm roundHalfUp readDecimal {} = .ok after ∧
      after.proceedEnabled := by
  have entered : Enters roundHalfUp readDecimal (buyForm "0.3") tenthsRules bitcoinPair _ :=
    .buy rfl three_tenths_taken.1
  exact (proceed_enabled_iff_draft read_decimal_exactly roundHalfUp (buyForm "0.3") {}).1.2
    ⟨_, entered_created read_decimal_exactly (by decide) rfl rfl entered⟩

end Example

end CryptoDeal.OrderEntry.OrderEntryForm
