import CryptoDeal.DealService.BinancePlacement
import CryptoDeal.DealService.BybitPlacement
import CryptoDeal.OperationChain.DefinitionSchema
import CryptoDeal.OperationChain.OperationFactory

/-!
# What a loaded operation asks the services for

The requests that the operations of an accepted definition build, against the
checks that the services make of a request alone.
-/

namespace CryptoDeal

open DealService DefinitionLoader OperationFactory

def validatePlaceOrderRequest : ExchangerType → PlaceOrderRequest → Except ServiceFailure Unit
  | .binance => Binance.validatePlaceOrderRequest
  | .bybit => Bybit.validatePlaceOrderRequest

def validatePlaceOcoRequest : ExchangerType → PlaceOcoRequest → Except ServiceFailure Unit
  | .binance => Binance.validatePlaceOcoRequest
  | .bybit => Bybit.validatePlaceOcoRequest

/-- The service accepts the request that the operation builds in this context. -/
def OperationDefinition.RequestAccepted (operation : OperationDefinition) (service : ExchangerType)
    (context : OperationContext) : Prop :=
  match operation.config with
  | .placeOrder preset => validatePlaceOrderRequest service (placeOrderRequest preset context) = .ok ()
  | .placeOco preset => validatePlaceOcoRequest service (placeOcoRequest preset context) = .ok ()
  | .base _ | .sendTo _ => True

/-- A `LIMIT` order that says nothing about how long it stays in force. -/
def OperationDefinition.IsUntimedLimit (operation : OperationDefinition) : Prop :=
  ∃ preset, operation.config = .placeOrder preset ∧ preset.type = .limit ∧
    preset.timeInForce = none

theorem request_symbol_nonempty {context : OperationContext} {outAsset : String}
    (held : context.inAsset ≠ "") (side : OrderOperation) :
    requestSymbol context outAsset side ≠ "" := by
  cases side <;> simp [requestSymbol, held]

section Services

variable {fromChars : String → Option Decimal} {object : JsonObject} {context : OperationContext}

/-- Both services make the same checks of an order. -/
theorem validate_place_order_request_ok {request : PlaceOrderRequest} (service : ExchangerType) :
    validatePlaceOrderRequest service request = .ok () ↔
      request.symbol ≠ "" ∧ 0 < request.quantity ∧
        (request.type = .limit →
          (∃ price ∈ request.price, 0 < price) ∧
            ∃ timeInForce ∈ request.timeInForce, timeInForce ≠ "") := by
  have same : validatePlaceOrderRequest service request =
      Binance.validatePlaceOrderRequest request := by
    cases service <;> rfl
  rw [same]
  simp only [Binance.validatePlaceOrderRequest, throw_if_bind_ok, not_le]
  split_ifs with limit
  · cases price : request.price <;> cases timeInForce : request.timeInForce <;>
      simp [throw_if_bind_ok, limit]
  · simp [limit, pure, Except.pure]

theorem place_order_request_accepted {preset : PlaceOrderConfig}
    (schema : PlaceOrderSchema fromChars object preset) (service : ExchangerType)
    (positive : 0 < context.quantity) (held : context.inAsset ≠ "") :
    validatePlaceOrderRequest service (placeOrderRequest preset context) = .ok () ↔
      ¬ (preset.type = .limit ∧ preset.timeInForce = none) := by
  rw [validate_place_order_request_ok]
  constructor
  · rintro ⟨_, _, timed⟩ ⟨limit, untimed⟩
    obtain ⟨_, timeInForce, member, _⟩ := timed limit
    cases member.symm.trans untimed
  · intro timed
    refine ⟨request_symbol_nonempty held preset.side, positive, fun limit => ?_⟩
    obtain ⟨_, _, denotes⟩ := schema.limitPrice limit
    refine ⟨⟨preset.price, rfl, denotes.positive⟩, ?_⟩
    cases written : preset.timeInForce with
    | none => exact absurd ⟨limit, written⟩ timed
    | some timeInForce =>
        have text := schema.timeInForce
        rw [written] at text
        exact ⟨timeInForce, written, text.2⟩

theorem stop_limit_positive {preset : PlaceOcoConfig}
    (schema : PlaceOcoSchema fromChars object preset) :
    ∀ price ∈ preset.stopLimitPrice, 0 < price := by
  intro price written
  have decimal := schema.stopLimitPrice
  rw [Option.mem_def.1 written] at decimal
  obtain ⟨_, _, denotes⟩ := decimal
  exact denotes.positive

theorem stop_limit_timed {preset : PlaceOcoConfig}
    (schema : PlaceOcoSchema fromChars object preset) (limit : preset.stopLimitPrice.isSome) :
    ∃ timeInForce ∈ preset.stopLimitTimeInForce, timeInForce ≠ "" := by
  obtain ⟨timeInForce, written⟩ := Option.isSome_iff_exists.1 (schema.stopLimitPair.1 limit)
  have text := schema.stopLimitTimeInForce
  rw [written] at text
  exact ⟨timeInForce, written, text.2⟩

theorem place_oco_request_accepted {preset : PlaceOcoConfig}
    (schema : PlaceOcoSchema fromChars object preset) (service : ExchangerType)
    (positive : 0 < context.quantity) (held : context.inAsset ≠ "") :
    validatePlaceOcoRequest service (placeOcoRequest preset context) = .ok () := by
  have symbol : requestSymbol context preset.outAsset preset.side ≠ "" :=
    request_symbol_nonempty held preset.side
  obtain ⟨_, _, price⟩ := schema.price
  obtain ⟨_, _, stopPrice⟩ := schema.stopPrice
  cases service with
  | binance =>
      simp only [validatePlaceOcoRequest, Binance.validatePlaceOcoRequest, throw_if_bind_ok, not_le]
      refine ⟨symbol, positive, price.positive, stopPrice.positive, ?_⟩
      split_ifs with limit
      · rw [throw_if_ok, Option.all_eq_true]
        intro untimed
        obtain ⟨timeInForce, written, text⟩ := stop_limit_timed schema (Option.isSome_of_any limit)
        exact text (of_decide_eq_true (untimed timeInForce written))
      · rfl
  | bybit =>
      simp only [validatePlaceOcoRequest, Bybit.validatePlaceOcoRequest, throw_if_bind_ok, not_le,
        throw_if_ok]
      refine ⟨symbol, positive, price.positive, stopPrice.positive, ?_⟩
      rw [Option.any_eq_true]
      rintro ⟨limit, written, nonpositive⟩
      exact not_lt.2 (of_decide_eq_true nonpositive) (stop_limit_positive schema limit written)

end Services

theorem exists_related_left {First Second : Type} {related : First → Second → Prop}
    {firsts : List First} {seconds : List Second} (pairs : List.Forall₂ related firsts seconds)
    {second : Second} (member : second ∈ seconds) : ∃ first, related first second := by
  induction pairs with
  | nil => cases member
  | cons head _ ih =>
      rcases List.mem_cons.1 member with rfl | later
      · exact ⟨_, head⟩
      · exact ih later

theorem loaded_operation_schema {fromChars : String → Option Decimal} {source text : String}
    {parse : String → Except String JsonValue} {definitions : List OperationChainDefinition}
    (accepted : parseDefinitions fromChars source parse text = .ok definitions)
    {definition : OperationChainDefinition} (loaded : definition ∈ definitions)
    {operation : OperationDefinition} (step : operation ∈ definition.operations) :
    ∃ object, ConfigSchema fromChars object operation.config := by
  unfold parseDefinitions at accepted
  split at accepted
  · cases accepted
  · obtain ⟨_, chains, _, _, _, _, chainsWritten, _⟩ := parse_document_ok.1 accepted
    obtain ⟨_, _, _, operations, _, _, _, _, _, _, operationsWritten⟩ :=
      exists_related_left chainsWritten loaded
    obtain ⟨_, _, config, _, _, _, _, schema⟩ := exists_related_left operationsWritten step
    exact ⟨config, schema⟩

/-- An operation of an accepted file passes the service's own checks, whatever it trades,
exactly if it is no `LIMIT` order without a `timeInForce`. -/
theorem accepted_operation_validated {fromChars : String → Option Decimal} {source text : String}
    {parse : String → Except String JsonValue} {definitions : List OperationChainDefinition}
    (accepted : parseDefinitions fromChars source parse text = .ok definitions)
    {definition : OperationChainDefinition} (loaded : definition ∈ definitions)
    {operation : OperationDefinition} (step : operation ∈ definition.operations)
    (service : ExchangerType) {context : OperationContext} (positive : 0 < context.quantity)
    (held : context.inAsset ≠ "") :
    operation.RequestAccepted service context ↔ ¬ operation.IsUntimedLimit := by
  obtain ⟨object, schema⟩ := loaded_operation_schema accepted loaded step
  unfold OperationDefinition.RequestAccepted OperationDefinition.IsUntimedLimit
  cases preset : operation.config with
  | placeOrder preset =>
      rw [preset] at schema
      simpa using place_order_request_accepted schema service positive held
  | placeOco preset =>
      rw [preset] at schema
      simpa using place_oco_request_accepted schema service positive held
  | base preset => simp
  | sendTo preset => simp

section Example

/-- A file with one chain, which sells the asset through a `LIMIT` order at 60000. -/
def limitSellDocument (timing : List (String × JsonValue)) : JsonValue :=
  .object
    [("schemaVersion", .int64 1),
      ("chains", .array [.object
        [("name", .string "Limit sell"),
          ("initial", .object
            [("exchange", .string "BINANCE"), ("asset", .string "BTC"), ("quantity", .string "0.5")]),
          ("operations", .array [.object
            [("type", .string "PLACE_ORDER"),
              ("config", .object
                ([("outAsset", .string "USDT"), ("side", .string "SELL"),
                  ("orderType", .string "LIMIT"), ("price", .string "60000")] ++ timing))]])]])]

def limitSell (timeInForce : Option String) : OperationDefinition where
  type := .placeOrder
  config := .placeOrder
    { outAsset := "USDT", side := .sell, type := .limit, price := 60000, timeInForce }
  compatible := rfl

def limitSellChain (timeInForce : Option String) : OperationChainDefinition where
  name := "Limit sell"
  initialExchangerType := .binance
  initialAsset := "BTC"
  initialQuantity := 1 / 2
  operations := [limitSell timeInForce]
  name_nonempty := by decide
  initial_asset_nonempty := by decide
  initial_quantity_positive := by norm_num
  operations_nonempty := by simp

def limitSellContext : OperationContext where
  exchangerType := .binance
  exchangersPull := [.binance]
  inAsset := "BTC"
  quantity := 1 / 2

theorem untimed_limit_sell_refused :
    parseDefinitions readDecimal "operation_chains.json"
        (fun _ => .ok (limitSellDocument [])) "" = .ok [limitSellChain none] ∧
      limitSell none ∈ (limitSellChain none).operations ∧
      ∀ service, ¬ (limitSell none).RequestAccepted service limitSellContext := by
  refine ⟨by with_unfolding_all rfl, List.mem_singleton_self _, ?_⟩
  intro service accepted
  obtain ⟨_, _, timed⟩ := (validate_place_order_request_ok service).1 accepted
  obtain ⟨_, _, written, _⟩ := timed rfl
  cases written

theorem timed_limit_sell_accepted :
    (limitSell (some "GTC")).RequestAccepted .bybit limitSellContext ↔
      ¬ (limitSell (some "GTC")).IsUntimedLimit :=
  @accepted_operation_validated readDecimal "operation_chains.json" ""
    (fun _ => .ok (limitSellDocument [("timeInForce", .string "GTC")]))
    [limitSellChain (some "GTC")] (by with_unfolding_all rfl) _ (List.mem_singleton_self _)
    _ (List.mem_singleton_self _) .bybit limitSellContext (by norm_num [limitSellContext])
    (by decide)

end Example

end CryptoDeal
