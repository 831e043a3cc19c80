import CryptoDeal.OperationChain.RequestValidation
import CryptoDeal.OrderEntry.EnteredDrafts

/-!
# What a confirmed draft asks the services for

The requests that the session builds of the form's drafts, against the checks
that both services make with the symbol's rules alone.
-/

namespace CryptoDeal.OrderEntry

open DealService DecimalText OrderSession OrderEntryForm OrderInputValidation

/-- The request of `placeCustomOrder`. -/
def customOrderRequest (draft : BasicOrderDraft) : PlaceOrderRequest where
  symbol := draft.pair.symbol
  side := draft.side
  type := draft.type
  quantity := draft.quantity
  price := draft.price
  timeInForce := draft.timeInForce
  category := .spot
  marketUnit :=
    if draft.exchangerType = .bybit ∧ draft.side = .buy ∧ draft.type = .market then some "baseCoin"
    else none

/-- The request of `placeOcoOrder`. -/
def ocoOrderRequest (draft : OcoOrderDraft) : PlaceOcoRequest where
  symbol := draft.pair.symbol
  side := draft.side
  quantity := draft.quantity
  price := draft.limitPrice
  stopPrice := draft.stopPrice
  stopLimitPrice := draft.stopLimitPrice
  stopLimitTimeInForce := draft.stopLimitTimeInForce

/-! ## The rule checks of the services -/

section Checks

variable (rounding : NearestRounding) {symbolInfo : SymbolInfo} {quantity price : Decimal}

theorem quantity_error_accepted (accepted : symbolInfo.AcceptsQuantity rounding quantity) :
    quantityError rounding quantity symbolInfo = .ok none := by
  have silent :
      (SymbolRuleValidator.validateQuantity rounding quantity symbolInfo).violation = .none :=
    of_decide_eq_true accepted
  rw [quantityError, silent]
  rfl

theorem price_error_accepted (accepted : symbolInfo.AcceptsPrice rounding price) :
    priceError rounding price symbolInfo = .ok none := by
  have silent : (SymbolRuleValidator.validatePrice rounding price symbolInfo).violation = .none :=
    of_decide_eq_true accepted
  rw [priceError, silent]
  rfl

theorem quantity_and_notional_error_accepted {front below above : String}
    (quantityAccepted : symbolInfo.AcceptsQuantity rounding quantity) (positive : 0 < price)
    (notionalAccepted : symbolInfo.AcceptsNotional (quantity * price)) :
    quantityAndNotionalError rounding (notionalError rounding front below above) quantity price
      symbolInfo = .ok none := by
  have silent : (SymbolRuleValidator.validateNotional (quantity * price) symbolInfo).violation =
      .none := of_decide_eq_true notionalAccepted
  have priced : ¬ (SymbolRuleValidator.HasNotionalRule symbolInfo ∧ price ≤ 0) :=
    fun unpriced => absurd positive (not_lt.2 unpriced.2)
  refine except_bind_ok.2 ⟨none, quantity_error_accepted rounding quantityAccepted, ?_⟩
  simp only [if_neg priced, if_pos positive, notionalError, silent]
  rfl

end Checks

/-- The checks of a limit order that need nothing but the request and the symbol's rules. -/
structure OrderPasses (rounding : NearestRounding) (symbolInfo : SymbolInfo)
    (request : PlaceOrderRequest) : Prop where
  validated : ∀ service, validatePlaceOrderRequest service request = .ok ()
  priced : ∃ price, request.price = some price ∧
    Binance.validatePrice rounding price symbolInfo = .ok none ∧
    Bybit.validatePrice rounding price symbolInfo = .ok none ∧
    Binance.validateQuantity rounding request.quantity price symbolInfo = .ok none ∧
    Bybit.validateQuantity rounding request.quantity price symbolInfo = .ok none

/-- The same checks of an OCO: Binance looks at both its legs, Bybit at the prices and then at each
leg as an order of its own. -/
structure OcoPasses (rounding : NearestRounding) (symbolInfo : SymbolInfo)
    (request : PlaceOcoRequest) : Prop where
  validated : ∀ service, validatePlaceOcoRequest service request = .ok ()
  binanceRules : Binance.checkOcoRules rounding request symbolInfo = .ok ()
  bybitPrices : ∀ price ∈ request.price :: request.stopPrice :: request.stopLimitPrice.toList,
    Bybit.validatePrice rounding price symbolInfo = .ok none
  takeProfit : ∀ linkId, OrderPasses rounding symbolInfo (Bybit.takeProfitRequest request linkId)
  stopLoss : ∀ linkId triggerPrice,
    let leg := Bybit.stopLossRequest request linkId triggerPrice
    validatePlaceOrderRequest .bybit leg = .ok () ∧
      (leg.type = .limit → OrderPasses rounding symbolInfo leg)

section Drafts

variable {rounding : NearestRounding} {fromChars : String → Option Decimal}
  {form : OrderEntryForm} {symbolInfo : SymbolInfo} {text : String} {quantity price : Decimal}

theorem taken_quantity_accepted
    (taken : TakesQuantity rounding fromChars symbolInfo text quantity) :
    0 < quantity ∧ symbolInfo.AcceptsQuantity rounding quantity := by
  obtain ⟨value, same, -, positive, accepted, -⟩ :=
    validate_field_valid quantity_field_lawful taken rfl
  have unchanged : quantity = value := Option.some.inj (congrArg DecimalInputValidation.value same)
  subst unchanged
  exact ⟨positive, accepted⟩

theorem taken_price_accepted (taken : TakesPrice rounding fromChars symbolInfo text price) :
    0 < price ∧ symbolInfo.AcceptsPrice rounding price := by
  obtain ⟨value, same, -, positive, accepted, -⟩ :=
    validate_field_valid price_field_lawful taken rfl
  have unchanged : price = value := Option.some.inj (congrArg DecimalInputValidation.value same)
  subst unchanged
  exact ⟨positive, accepted⟩

theorem taken_notional_accepted (taken : TakesNotional rounding symbolInfo quantity price) :
    symbolInfo.AcceptsNotional (quantity * price) := by
  have spelled : ∀ front value relation limit : String,
      front ++ value ++ relation ++ limit ++ "." ≠ "" := by simp
  simp only [TakesNotional, OrderInputValidation.validateNotional,
    SymbolRuleValidator.validateNotional] at taken
  unfold SymbolInfo.AcceptsNotional SymbolRuleValidator.validateNotional
  split_ifs at taken ⊢
  · obtain ⟨notionalText, -, taken⟩ := except_bind_ok.1 taken
    obtain ⟨limit, -, taken⟩ := except_bind_ok.1 taken
    exact absurd (Except.ok.inj taken) (spelled _ _ _ _)
  · obtain ⟨notionalText, -, taken⟩ := except_bind_ok.1 taken
    obtain ⟨limit, -, taken⟩ := except_bind_ok.1 taken
    exact absurd (Except.ok.inj taken) (spelled _ _ _ _)
  · rfl

/-- Only a pair with a name has its rules loaded. -/
theorem selected_symbol_nonempty {pair : TradablePair} (selected : form.getSelectedPair = some pair)
    (found : form.getSelectedSymbolInfo = some symbolInfo) : pair.symbol ≠ "" := by
  intro unnamed
  have missing := form.symbolInfoCatalog.named form.exchangerType
  simp only [getSelectedSymbolInfo, selected, unnamed, missing] at found
  cases found

theorem order_passes {request : PlaceOrderRequest} (named : request.symbol ≠ "")
    (quantityPositive : 0 < request.quantity)
    (quantityAccepted : symbolInfo.AcceptsQuantity rounding request.quantity)
    (priced : request.price = some price) (pricePositive : 0 < price)
    (priceAccepted : symbolInfo.AcceptsPrice rounding price)
    (notionalAccepted : symbolInfo.AcceptsNotional (request.quantity * price))
    (timed : request.timeInForce = some "GTC") : OrderPasses rounding symbolInfo request where
  validated service := (validate_place_order_request_ok service).2
    ⟨named, quantityPositive, fun _ => ⟨⟨price, priced, pricePositive⟩, "GTC", timed, by decide⟩⟩
  priced :=
    ⟨price, priced, price_error_accepted rounding priceAccepted,
      price_error_accepted rounding priceAccepted,
      quantity_and_notional_error_accepted rounding quantityAccepted pricePositive notionalAccepted,
      quantity_and_notional_error_accepted rounding quantityAccepted pricePositive notionalAccepted⟩

/-- The amounts of an OCO draft, as the form has taken them. -/
structure OcoAmounts (rounding : NearestRounding) (symbolInfo : SymbolInfo)
    (draft : OcoOrderDraft) : Prop where
  quantity : 0 < draft.quantity ∧ symbolInfo.AcceptsQuantity rounding draft.quantity
  limit : 0 < draft.limitPrice ∧ symbolInfo.AcceptsPrice rounding draft.limitPrice
  stop : 0 < draft.stopPrice ∧ symbolInfo.AcceptsPrice rounding draft.stopPrice
  stopLimit : ∀ price ∈ draft.stopLimitPrice, 0 < price ∧ symbolInfo.AcceptsPrice rounding price
  limitNotional : symbolInfo.AcceptsNotional (draft.quantity * draft.limitPrice)
  lastNotional : symbolInfo.AcceptsNotional
    (draft.quantity * draft.stopLimitPrice.getD draft.stopPrice)
  timed : draft.stopLimitPrice.isSome → draft.stopLimitTimeInForce = some "GTC"

theorem require_no_error_none (label : String) {error : Except ServiceFailure (Option String)}
    (silent : error = .ok none) : requireNoError label error = .ok () :=
  except_bind_ok.2 ⟨none, silent, rfl⟩

theorem check_stop_limit_price_accepted (rounding : NearestRounding) (label : String)
    {request : PlaceOcoRequest}
    (accepted : ∀ price ∈ request.stopLimitPrice, symbolInfo.AcceptsPrice rounding price) :
    checkStopLimitPrice rounding label request symbolInfo = .ok () := by
  unfold checkStopLimitPrice
  cases limit : request.stopLimitPrice with
  | none => rfl
  | some price =>
      exact require_no_error_none label (price_error_accepted rounding (accepted price limit))

theorem oco_passes {draft : OcoOrderDraft} (named : draft.pair.symbol ≠ "")
    (amounts : OcoAmounts rounding symbolInfo draft) :
    OcoPasses rounding symbolInfo (ocoOrderRequest draft) := by
  have lastPrice : 0 < Binance.belowPrice (ocoOrderRequest draft) := by
    unfold Binance.belowPrice ocoOrderRequest
    cases limit : draft.stopLimitPrice with
    | none => exact amounts.stop.1
    | some price => exact (amounts.stopLimit price limit).1
  constructor
  case validated =>
    intro service
    cases service with
    | binance =>
        simp only [validatePlaceOcoRequest, Binance.validatePlaceOcoRequest, throw_if_bind_ok, not_le]
        refine ⟨named, amounts.quantity.1, amounts.limit.1, amounts.stop.1, ?_⟩
        split_ifs with stopLimit
        · have timed : (ocoOrderRequest draft).stopLimitTimeInForce = some "GTC" :=
            amounts.timed (Option.isSome_of_any stopLimit)
          rw [timed]
          rfl
        · rfl
    | bybit =>
        simp only [validatePlaceOcoRequest, Bybit.validatePlaceOcoRequest, throw_if_bind_ok, not_le,
          throw_if_ok]
        refine ⟨named, amounts.quantity.1, amounts.limit.1, amounts.stop.1, ?_⟩
        rw [Option.any_eq_true]
        rintro ⟨price, written, nonpositive⟩
        exact not_lt.2 (of_decide_eq_true nonpositive) (amounts.stopLimit price written).1
  case binanceRules =>
    refine except_bind_ok.2 ⟨(), require_no_error_none _
      (price_error_accepted rounding amounts.limit.2), ?_⟩
    refine except_bind_ok.2 ⟨(), require_no_error_none _
      (price_error_accepted rounding amounts.stop.2), ?_⟩
    refine except_bind_ok.2 ⟨(), check_stop_limit_price_accepted rounding _
      fun price limit => (amounts.stopLimit price limit).2, ?_⟩
    refine except_bind_ok.2 ⟨(), require_no_error_none _ (quantity_and_notional_error_accepted
      rounding amounts.quantity.2 amounts.limit.1 amounts.limitNotional), ?_⟩
    exact require_no_error_none _ (quantity_and_notional_error_accepted rounding amounts.quantity.2
      lastPrice amounts.lastNotional)
  case bybitPrices =>
    intro price member
    rcases List.mem_cons.1 member with rfl | member
    · exact price_error_accepted rounding amounts.limit.2
    · rcases List.mem_cons.1 member with rfl | member
      · exact price_error_accepted rounding amounts.stop.2
      · exact price_error_accepted rounding (amounts.stopLimit price (Option.mem_toList.1 member)).2
  case takeProfit =>
    exact fun linkId => order_passes named amounts.quantity.1 amounts.quantity.2 rfl amounts.limit.1
      amounts.limit.2 amounts.limitNotional rfl
  case stopLoss =>
    intro linkId triggerPrice leg
    cases stopLimit : draft.stopLimitPrice with
    | none =>
        have type : leg.type = .market := by
          simp [leg, Bybit.stopLossRequest, ocoOrderRequest, stopLimit]
        refine ⟨(validate_place_order_request_ok .bybit).2
          ⟨named, amounts.quantity.1, fun limit => ?_⟩, fun limit => ?_⟩
        · cases type.symm.trans limit
        · cases type.symm.trans limit
    | some price =>
        obtain ⟨positive, accepted⟩ := amounts.stopLimit price stopLimit
        have notional := amounts.lastNotional
        rw [stopLimit] at notional
        have timed : draft.stopLimitTimeInForce = some "GTC" :=
          amounts.timed (by rw [stopLimit]; rfl)
        have passes : OrderPasses rounding symbolInfo leg :=
          order_passes named amounts.quantity.1 amounts.quantity.2 stopLimit positive accepted
            notional (by simp [leg, Bybit.stopLossRequest, ocoOrderRequest, stopLimit, timed])
        exact ⟨passes.validated .bybit, fun _ => passes⟩

theorem entered_oco_amounts {pair : TradablePair} {draft : OcoOrderDraft}
    (entered : Enters rounding fromChars form symbolInfo pair (.oco draft)) :
    OcoAmounts rounding symbolInfo draft := by
  cases entered with
  | oco operation stopMarket amount limit stop limitNotional stopNotional =>
      exact ⟨taken_quantity_accepted amount, taken_price_accepted limit, taken_price_accepted stop,
        fun price absent => (by cases absent), taken_notional_accepted limitNotional,
        taken_notional_accepted stopNotional, fun absent => (by cases absent)⟩
  | ocoStopLimit operation stopLimit amount limit stop stopLimitPriced limitNotional
      stopLimitNotional =>
      refine ⟨taken_quantity_accepted amount, taken_price_accepted limit, taken_price_accepted stop,
        fun price written => ?_, taken_notional_accepted limitNotional,
        taken_notional_accepted stopLimitNotional, fun _ => rfl⟩
      cases written
      exact taken_price_accepted stopLimitPriced

/-- Whatever the form hands over as a limit or an OCO draft becomes a request that neither service
rejects for what it says. -/
theorem drafts_pass_static_checks (rounding : NearestRounding)
    (fromChars : String → Option Decimal) (form : OrderEntryForm) (symbolInfo : SymbolInfo)
    (found : form.getSelectedSymbolInfo = some symbolInfo) :
    (∀ draft, form.createBasicOrderDraft rounding fromChars = .ok (some draft) →
      draft.type = .limit →
        (∀ (Effect : Type) (Answer : Effect → Type) (dealService : DealServiceCalls Effect Answer),
          placeBasicOrder dealService draft.toBasicOrderDraft =
            dealService.placeOrder (customOrderRequest draft.toBasicOrderDraft)) ∧
        OrderPasses rounding symbolInfo (customOrderRequest draft.toBasicOrderDraft)) ∧
    ∀ draft, form.createOcoOrderDraft rounding fromChars = .ok (some draft) →
      (∀ (Effect : Type) (Answer : Effect → Type) (dealService : DealServiceCalls Effect Answer),
        placeOcoOrder dealService draft.toOcoOrderDraft =
          dealService.placeOco (ocoOrderRequest draft.toOcoOrderDraft)) ∧
      OcoPasses rounding symbolInfo (ocoOrderRequest draft.toOcoOrderDraft) := by
  constructor
  · rintro ⟨draft, quantityText, priceText⟩ created limit
    obtain ⟨pair, info, selected, loaded, -, entered⟩ := created_basic_enters created
    cases found.symm.trans loaded
    have named := selected_symbol_nonempty selected loaded
    cases entered with
    | limit operation type amount priced notional =>
        obtain ⟨positive, accepted⟩ := taken_quantity_accepted amount
        obtain ⟨pricePositive, priceAccepted⟩ := taken_price_accepted priced
        exact ⟨fun _ _ _ => rfl, order_passes named positive accepted rfl pricePositive
          priceAccepted (taken_notional_accepted notional) rfl⟩
    | _ => cases limit
  · rintro ⟨draft, quantityText, limitText, stopText, stopLimitText⟩ created
    obtain ⟨pair, info, selected, loaded, -, entered⟩ := created_oco_enters created
    cases found.symm.trans loaded
    have named : draft.pair.symbol ≠ "" := by
      have samePair : draft.pair = pair := by cases entered <;> rfl
      rw [samePair]
      exact selected_symbol_nonempty selected loaded
    exact ⟨fun _ _ _ => rfl, oco_passes named (entered_oco_amounts entered)⟩

end Drafts

section Example

/-- Notionals from 50 to 200. -/
def boundedRules : SymbolInfo :=
  { symbol := "BTCUSDT", stepSize := 1, tickSize := 1 / 10, minNotional := 50, maxNotional := 200 }

/-- Three units at 40.5, with a stop at 30 and a stop limit at 20. -/
def boundedForm (operation : OperationType) : OrderEntryForm :=
  { buyForm "3" with
    operation
    placeOrderType := .limit
    placeOrderPrice := "40.5"
    ocoSide := .sell
    ocoLimitPrice := "40.5"
    ocoStopPrice := "30"
    useOcoStopLimit := true
    ocoStopLimitPrice := "20"
    symbolInfoCatalog := {
      entries := fun _ symbol =>
        if symbol = "" then none else some { loadState := .succeeded, symbolInfo := boundedRules }
      named := fun _ => rfl } }

theorem created_of_some {Draft : Type} {creation : Except ServiceFailure (Option Draft)}
    (creates : creation.toOption.join.isSome) : ∃ draft, creation = .ok (some draft) := by
  cases creation with
  | error failure => cases creates
  | ok created =>
      cases created with
      | none => cases creates
      | some draft => exact ⟨draft, rfl⟩

/-- A limit buy and an OCO within bounds of the notional pass the checks of both services. -/
theorem bounded_drafts_pass :
    (∃ draft, (boundedForm .placeOrder).createBasicOrderDraft roundHalfUp readDecimal =
        .ok (some draft) ∧
      OrderPasses roundHalfUp boundedRules (customOrderRequest draft.toBasicOrderDraft)) ∧
    ∃ draft, (boundedForm .placeOco).createOcoOrderDraft roundHalfUp readDecimal =
        .ok (some draft) ∧
      OcoPasses roundHalfUp boundedRules (ocoOrderRequest draft.toOcoOrderDraft) := by
  constructor
  · have limit : (((boundedForm .placeOrder).createBasicOrderDraft roundHalfUp
        readDecimal).toOption.join.map (·.type)) = some .limit := by decide +kernel
    obtain ⟨draft, created⟩ := created_of_some (Option.isSome_map.symm.trans (by rw [limit]; rfl))
    rw [created] at limit
    exact ⟨draft, created, ((drafts_pass_static_checks roundHalfUp readDecimal
      (boundedForm .placeOrder) boundedRules rfl).1 draft created (Option.some.inj limit)).2⟩
  · obtain ⟨draft, created⟩ := created_of_some (show
      ((boundedForm .placeOco).createOcoOrderDraft roundHalfUp readDecimal).toOption.join.isSome
      from by decide +kernel)
    exact ⟨draft, created, ((drafts_pass_static_checks roundHalfUp readDecimal
      (boundedForm .placeOco) boundedRules rfl).2 draft created).2⟩

end Example

end CryptoDeal.OrderEntry
