import CryptoDeal.DealService.OrderFunding
import CryptoDeal.OperationChain.DefinitionSchema
import CryptoDeal.OperationChain.FactoryDiscipline
import CryptoDeal.OperationChain.OperationOutcome
import CryptoDeal.OperationChain.SnapshotHistory

/-!
# What the steps of a chain spend

The quantity of a context is a number of units of the asset that it holds. Each
order of a chain takes exactly that quantity: a sale and a Bybit purchase for
quote units pay it, any other purchase orders it in units of the other asset and
pays its price as many times.
-/

namespace CryptoDeal

open DealService

/-- What an order call makes its deal service place. -/
def OperationCall.placement : OperationCall → Option Placement
  | .buyCrypto .binance outAsset inAsset quantity =>
      some (.binanceOrder (marketRequest .buy outAsset inAsset quantity))
  | .buyCrypto .bybit outAsset inAsset quantity =>
      some (.bybitOrder (Bybit.buyCryptoRequest outAsset inAsset quantity))
  | .sellCrypto .binance inAsset outAsset quantity =>
      some (.binanceOrder (marketRequest .sell inAsset outAsset quantity))
  | .sellCrypto .bybit inAsset outAsset quantity =>
      some (.bybitOrder (marketRequest .sell inAsset outAsset quantity))
  | .placeOrder .binance request => some (.binanceOrder request)
  | .placeOrder .bybit request => some (.bybitOrder request)
  | .placeOco .binance request => some (.binanceOco request)
  | .placeOco .bybit request => some (.bybitOco request)
  | _ => none

/-- What an order call asks of the exchange in the service that it is made to. -/
def OperationCall.Requests (services : PlacementContext) (market : Market) :
    OperationCall → PlacementEffect → Prop
  | .buyCrypto .binance outAsset inAsset quantity => market.Requests
      (Binance.buyCrypto services.rounding services.recvWindow outAsset inAsset quantity)
  | .buyCrypto .bybit outAsset inAsset quantity => market.Requests
      (Bybit.buyCrypto services.rounding services.fromChars outAsset inAsset quantity)
  | .sellCrypto .binance inAsset outAsset quantity => market.Requests
      (Binance.sellCrypto services.rounding services.recvWindow inAsset outAsset quantity)
  | .sellCrypto .bybit inAsset outAsset quantity => market.Requests
      (Bybit.sellCrypto services.rounding services.fromChars inAsset outAsset quantity)
  | .placeOrder .binance request =>
      market.Requests (Binance.placeOrder services.rounding services.recvWindow request)
  | .placeOrder .bybit request =>
      market.Requests (Bybit.placeOrder services.rounding services.fromChars request)
  | .placeOco .binance request =>
      market.Requests (Binance.placeOco services.rounding services.recvWindow request)
  | .placeOco .bybit request =>
      market.Requests (Bybit.placeOco services.rounding services.fromChars request)
  | _ => fun _ => False

/-- The services trade the placement, and nothing else. -/
theorem OperationCall.requests_placement {asked : OperationCall} {placement : Placement}
    (placed : asked.placement = some placement) (services : PlacementContext) (market : Market) :
    asked.Requests services market = placement.Requests services market := by
  cases asked with
  | buyCrypto service | sellCrypto service | placeOrder service | placeOco service =>
      cases service <;> cases placed <;> rfl
  | _ => cases placed

/-- The symbol that trades the asset of a context for another. -/
def tradedSymbol (context : OperationContextSnapshot) (outAsset : String) :
    OrderOperation → String
  | .buy => outAsset ++ context.asset
  | .sell => context.asset ++ outAsset

/-- Bybit takes the quantity of the step's order as quote units. -/
def countsQuote : ExchangerType → Config → Bool
  | .bybit, .placeOrder preset =>
      decide (preset.type = .market ∧ preset.side = .buy ∧ preset.marketUnit = some "quoteCoin")
  | _, _ => false

/-- The prices that the step's order counts, the market's where it has none of its own. -/
def countedPrices (market : Market) : ExchangerType → Config → List Decimal
  | _, .base _ => [market.tickerPrice]
  | _, .placeOrder preset =>
      match preset.type with
      | .limit => [preset.price]
      | .market => [market.tickerPrice]
  | .binance, .placeOco preset => [preset.price, preset.stopLimitPrice.getD preset.stopPrice]
  | .bybit, .placeOco preset => [preset.price, preset.stopLimitPrice.getD market.tickerPrice]
  | _, .sendTo _ => []

def stepLegs (market : Market) (exchange : ExchangerType) (config : Config)
    (side : OrderOperation) (quantity : Decimal) : List OrderLeg :=
  (countedPrices market exchange config).map fun price =>
    { side, quantity, price, countsQuote := countsQuote exchange config }

/-- An order of a step of this type, which began with this context. -/
structure OrderedFrom (context : OperationContextSnapshot) (type : OperationType)
    (config : Config) (placement : Placement) : Prop where
  exchange : placement.exchange = context.exchangerType
  quantity : placement.quantity = context.quantity
  target : ∃ outAsset, orderTarget type config = some (outAsset, placement.side) ∧
    placement.symbol = tradedSymbol context outAsset placement.side
  legs : ∀ market, placement.legs market =
    stepLegs market placement.exchange config placement.side context.quantity

/-! ## The orders of an operation -/

open Interaction

namespace OperationFactory

section Orders

variable {context : OperationContext} {type : OperationType} {config : Config}

def OrdersFrom (context : OperationContext) (type : OperationType) (config : Config)
    (asked : OperationCall) : Prop :=
  ∀ placement ∈ asked.placement,
    OrderedFrom (createContextSnapshot context) type config placement

abbrev ordersOnly (context : OperationContext) (type : OperationType) (config : Config) :
    Contract OperationEffect OperationEffect.Answer :=
  requestsOnly fun _ effect =>
    ∀ asked, effect = .call asked → OrdersFrom context type config asked

abbrev KeepsOrders {Result : Type} (context : OperationContext) (type : OperationType)
    (config : Config) (program : OperationProgram Result) : Prop :=
  Preserves (ordersOnly context type config) (fun _ => True) program

theorem keeps_orders_request {Result : Type} {effect : OperationEffect}
    {next : effect.Answer → OperationProgram Result}
    (ordered : ∀ asked, effect = .call asked → OrdersFrom context type config asked)
    (continues : ∀ answer, KeepsOrders context type config (next answer)) :
    KeepsOrders context type config (.request effect next) :=
  preserves_request (fun _ _ => ordered) (fun _ _ _ => trivial) continues

theorem keeps_orders_of_service {Result : Type} (outcome : Except ServiceFailure Result) :
    KeepsOrders context type config (ofService outcome) := by
  cases outcome with
  | ok result => exact preserves_returned result
  | error failure => exact preserves_threw _

/-- Most requests place nothing. -/
theorem keeps_orders_unplaced {Result : Type} {effect : OperationEffect}
    {next : effect.Answer → OperationProgram Result}
    (unplaced : ∀ asked, effect = .call asked → asked.placement = none)
    (continues : ∀ answer, KeepsOrders context type config (next answer)) :
    KeepsOrders context type config (.request effect next) := by
  apply keeps_orders_request _ continues
  intro asked same placement placed
  rw [unplaced asked same] at placed
  cases placed

theorem keeps_orders_check : KeepsOrders context type config throwIfCancellationRequested := by
  apply keeps_orders_unplaced
  · rintro _ ⟨⟩
    rfl
  · intro requested
    cases requested with
    | false => exact preserves_returned ()
    | true => exact preserves_threw _

theorem keeps_orders_get_exchanger {Result : Type}
    {rest : ExchangerType → OperationProgram Result}
    (kept : KeepsOrders context type config (rest context.exchangerType)) :
    KeepsOrders context type config (getExchanger context >>= rest) := by
  unfold getExchanger
  by_cases present : context.exchangerType ∈ context.exchangersPull
  · rw [if_pos present]
    exact kept
  · rw [if_neg present]
    exact preserves_threw _

/-- What comes after the submission places nothing more. -/
theorem keeps_orders_submitted {Waited : Type} {action : OrderAction}
    {identifiers : OperationAcceptedIdentifiers} {wait : StopSource → OperationProgram Waited}
    {next : Waited → OperationContext}
    (waits : ∀ token, KeepsOrders context type config (wait token)) :
    KeepsOrders context type config (do
      register action
      reportAwaiting identifiers
      let token ← getWaitStopToken
      let waited ← wait token
      completeActionNaturally
      assignContext (next waited)) := by
  apply keeps_orders_unplaced (by rintro _ ⟨⟩; rfl)
  intro registered
  apply (keeps_orders_of_service registered).bind
  intro _
  apply keeps_orders_unplaced (by rintro _ ⟨⟩)
  intro reported
  apply (keeps_orders_of_service reported).bind
  intro _
  apply keeps_orders_unplaced (by rintro _ ⟨⟩; rfl)
  intro token
  apply (waits token).bind
  intro waited
  apply keeps_orders_unplaced (by rintro _ ⟨⟩; rfl)
  intro _
  apply keeps_orders_unplaced (by rintro _ ⟨⟩)
  intro _
  exact preserves_returned ()

theorem ordinary_order_orders {outAsset : String} {side : OrderOperation}
    {submit : OperationContext → ExchangerType → OperationProgram OrderInfo}
    (submits : KeepsOrders context type config (submit context context.exchangerType)) :
    KeepsOrders context type config (ordinaryOrderOperation outAsset side submit context) := by
  apply keeps_orders_check.bind
  intro _
  apply keeps_orders_get_exchanger
  apply submits.bind
  intro orderInfo
  apply keeps_orders_submitted
  intro token
  exact keeps_orders_unplaced (by rintro _ ⟨⟩; rfl) keeps_orders_of_service

theorem buy_crypto_orders (preset : BaseConfig) (context : OperationContext) :
    KeepsOrders context .buyCrypto (.base preset) (buyCrypto preset context) := by
  apply ordinary_order_orders
  apply keeps_orders_request _ keeps_orders_of_service
  rintro _ ⟨⟩ placement placed
  cases service : context.exchangerType <;> rw [service] at placed <;> cases placed
  · exact ⟨service.symm, rfl, ⟨preset.outAsset, rfl, rfl⟩, fun _ => rfl⟩
  · exact ⟨service.symm, rfl, ⟨preset.outAsset, rfl, rfl⟩, fun _ => rfl⟩

theorem sell_crypto_orders (preset : BaseConfig) (context : OperationContext) :
    KeepsOrders context .sellCrypto (.base preset) (sellCrypto preset context) := by
  apply ordinary_order_orders
  apply keeps_orders_request _ keeps_orders_of_service
  rintro _ ⟨⟩ placement placed
  cases service : context.exchangerType <;> rw [service] at placed <;> cases placed
  · exact ⟨service.symm, rfl, ⟨preset.outAsset, rfl, rfl⟩, fun _ => rfl⟩
  · exact ⟨service.symm, rfl, ⟨preset.outAsset, rfl, rfl⟩, fun _ => rfl⟩

theorem request_symbol_traded (context : OperationContext) (outAsset : String)
    (side : OrderOperation) :
    requestSymbol context outAsset side =
      tradedSymbol (createContextSnapshot context) outAsset side := by
  cases side <;> rfl

theorem place_order_orders (preset : PlaceOrderConfig) (context : OperationContext) :
    KeepsOrders context .placeOrder (.placeOrder preset) (placeOrder preset context) := by
  apply ordinary_order_orders
  apply keeps_orders_request _ keeps_orders_of_service
  rintro _ ⟨⟩ placement placed
  have traded := request_symbol_traded context preset.outAsset preset.side
  cases service : context.exchangerType <;> rw [service] at placed <;> cases placed
  · refine ⟨service.symm, rfl, ⟨preset.outAsset, rfl, traded⟩, fun market => ?_⟩
    cases kind : preset.type <;>
      simp [Placement.legs, Binance.orderLeg, Market.orderPrice, stepLegs, countedPrices,
        countsQuote, Placement.exchange, Placement.side, placeOrderRequest, kind,
        createContextSnapshot]
  · refine ⟨service.symm, rfl, ⟨preset.outAsset, rfl, traded⟩, fun market => ?_⟩
    cases kind : preset.type <;>
      simp [Placement.legs, Bybit.orderLeg, Market.orderPrice, stepLegs, countedPrices,
        countsQuote, Placement.exchange, Placement.side, placeOrderRequest, kind,
        createContextSnapshot, Bybit.IsQuoteMarketBuy]

theorem place_oco_orders (preset : PlaceOcoConfig) (context : OperationContext) :
    KeepsOrders context .placeOco (.placeOco preset) (placeOco preset context) := by
  apply keeps_orders_check.bind
  intro _
  apply (keeps_orders_get_exchanger ?_)
  apply Preserves.bind
  · apply keeps_orders_request _ keeps_orders_of_service
    rintro _ ⟨⟩ placement placed
    have traded := request_symbol_traded context preset.outAsset preset.side
    cases service : context.exchangerType <;> rw [service] at placed <;> cases placed
    · exact ⟨service.symm, rfl, ⟨preset.outAsset, rfl, traded⟩, fun _ => rfl⟩
    · refine ⟨service.symm, rfl, ⟨preset.outAsset, rfl, traded⟩, fun market => ?_⟩
      cases limit : preset.stopLimitPrice <;>
        simp [Placement.legs, Bybit.orderLeg, Bybit.takeProfitRequest, Bybit.stopLossRequest,
          Market.orderPrice, stepLegs, countedPrices, countsQuote, Placement.exchange,
          Placement.side, placeOcoRequest, limit, createContextSnapshot, Bybit.IsQuoteMarketBuy]
  · intro ocoInfo
    apply keeps_orders_submitted
    intro token
    exact keeps_orders_unplaced (by rintro _ ⟨⟩; rfl) keeps_orders_of_service

theorem send_to_orders (preset : SendToConfig) (context : OperationContext) :
    KeepsOrders context .sendTo (.sendTo preset) (sendTo preset context) := by
  apply keeps_orders_check.bind
  intro _
  apply keeps_orders_unplaced (by rintro _ ⟨⟩; rfl)
  intro _
  apply keeps_orders_unplaced (by rintro _ ⟨⟩)
  intro _
  exact preserves_returned ()

end Orders

theorem create_orders {type : OperationType} {config : Config} {operation : Operation}
    (created : create type config = .ok operation) (context : OperationContext) :
    KeepsOrders context type config (operation context) := by
  cases type <;> cases config <;> cases created
  · exact buy_crypto_orders _ _
  · exact sell_crypto_orders _ _
  · exact place_order_orders _ _
  · exact place_oco_orders _ _
  · exact send_to_orders _ _

end OperationFactory

/-! ## The orders of a chain -/

/-- The step that is under way, and the context that it began with. -/
structure UnderWay (snapshot : OperationChainSnapshot) (index : ℕ)
    (context : OperationContextSnapshot) (step : OperationStepSnapshot) : Prop where
  current : snapshot.currentStepIndex = some index
  found : snapshot.steps[index]? = some step
  started : step.status ≠ .pending
  input : step.inputContext = some context

def PlacedBy (snapshot : OperationChainSnapshot) (placement : Placement) : Prop :=
  ∃ index context step, UnderWay snapshot index context step ∧
    OrderedFrom context step.type step.config placement

/-- What no transition changes. -/
structure ChainPlan where
  initialContext : OperationContextSnapshot
  kinds : List (OperationType × Config)

def OperationChainSnapshot.plan (snapshot : OperationChainSnapshot) : ChainPlan where
  initialContext := snapshot.initialContext
  kinds := snapshot.steps.map fun step => (step.type, step.config)

theorem UnderWay.kind {snapshot : OperationChainSnapshot} {index : ℕ}
    {context : OperationContextSnapshot} {step : OperationStepSnapshot}
    (underWay : UnderWay snapshot index context step) :
    snapshot.plan.kinds[index]? = some (step.type, step.config) := by
  rw [OperationChainSnapshot.plan, List.getElem?_map, underWay.found]
  rfl

/-- The operations from an index on were created for the steps from there on. -/
def MadeFor (kinds : List (OperationType × Config)) (index : ℕ) (operations : List Operation) :
    Prop :=
  ∀ (offset : ℕ) operation type config, operations[offset]? = some operation →
    kinds[index + offset]? = some (type, config) →
      OperationFactory.create type config = .ok operation

theorem MadeFor.tail {kinds : List (OperationType × Config)} {index : ℕ} {operation : Operation}
    {remaining : List Operation} (made : MadeFor kinds index (operation :: remaining)) :
    MadeFor kinds (index + 1) remaining := by
  intro offset following type config found kind
  apply made (offset + 1) following type config found
  rwa [Nat.add_right_comm] at kind

namespace OperationChain

section Transitions

variable {chain : OperationChain} {index : ℕ}
  {update : OperationChainTimePoint → OperationChainSnapshot}

theorem step_at_ok {snapshot : OperationChainSnapshot} {message : String}
    {step : OperationStepSnapshot} (found : stepAt snapshot index message = .ok step) :
    snapshot.steps[index]? = some step := by
  unfold stepAt at found
  split at found <;> cases found
  assumption

theorem plan_of_set {snapshot changed : OperationChainSnapshot}
    {step updated : OperationStepSnapshot} (found : snapshot.steps[index]? = some step)
    (steps : changed.steps = snapshot.steps.set index updated)
    (context : changed.initialContext = snapshot.initialContext)
    (type : updated.type = step.type) (config : updated.config = step.config) :
    changed.plan = snapshot.plan := by
  unfold OperationChainSnapshot.plan
  rw [context]
  congr 1
  apply List.ext_getElem?
  intro position
  by_cases here : index = position
  · subst here
    have bound := (List.getElem?_eq_some_iff.1 found).1
    rw [steps, List.getElem?_map, List.getElem?_set_self bound, List.getElem?_map, found]
    simp [type, config]
  · rw [steps, List.getElem?_map, List.getElem?_set_ne here, List.getElem?_map]

theorem start_execution_ok (accepted : startExecution chain = .ok update)
    (timePoint : OperationChainTimePoint) : (update timePoint).plan = chain.snapshot.plan := by
  obtain ⟨_, started⟩ := throw_if_bind_ok.1 accepted
  cases started
  rfl

theorem start_step_ok (accepted : startStep index chain = .ok update)
    (timePoint : OperationChainTimePoint) :
    (update timePoint).plan = chain.snapshot.plan ∧
      ∃ step, UnderWay (update timePoint) index (createContextSnapshot chain.context) step := by
  obtain ⟨_, rest⟩ := throw_if_bind_ok.1 accepted
  obtain ⟨step, at_index, rest⟩ := except_bind_ok.1 rest
  obtain ⟨_, started⟩ := throw_if_bind_ok.1 rest
  cases started
  have found := step_at_ok at_index
  have bound := (List.getElem?_eq_some_iff.1 found).1
  refine ⟨plan_of_set found rfl rfl rfl rfl, _, rfl, List.getElem?_set_self bound, ?_, rfl⟩
  exact fun pending => OperationStepStatus.noConfusion pending

theorem mark_step_awaiting_ok {identifiers : OperationAcceptedIdentifiers}
    {context : OperationContextSnapshot} {step : OperationStepSnapshot}
    (accepted : markStepAwaiting index identifiers chain = .ok update)
    (timePoint : OperationChainTimePoint)
    (underWay : UnderWay chain.snapshot index context step) :
    (update timePoint).plan = chain.snapshot.plan ∧
      ∃ awaiting, UnderWay (update timePoint) index context awaiting := by
  obtain ⟨_, rest⟩ := throw_if_bind_ok.1 accepted
  obtain ⟨_, rest⟩ := throw_if_bind_ok.1 rest
  obtain ⟨found, at_index, rest⟩ := except_bind_ok.1 rest
  obtain ⟨_, marked⟩ := throw_if_bind_ok.1 rest
  cases marked
  have same : found = step :=
    Option.some.inj ((step_at_ok at_index).symm.trans underWay.found)
  subst same
  have bound := (List.getElem?_eq_some_iff.1 underWay.found).1
  refine ⟨plan_of_set underWay.found rfl rfl rfl rfl, _, underWay.current,
    List.getElem?_set_self bound, ?_, underWay.input⟩
  exact fun pending => OperationStepStatus.noConfusion pending

theorem finish_step_ok (accepted : finishStep index chain = .ok update)
    (timePoint : OperationChainTimePoint) : (update timePoint).plan = chain.snapshot.plan := by
  obtain ⟨_, rest⟩ := throw_if_bind_ok.1 accepted
  obtain ⟨_, rest⟩ := throw_if_bind_ok.1 rest
  obtain ⟨step, at_index, rest⟩ := except_bind_ok.1 rest
  obtain ⟨_, finished⟩ := throw_if_bind_ok.1 rest
  cases finished
  exact plan_of_set (step_at_ok at_index) rfl rfl rfl rfl

end Transitions

abbrev ordersPlaced (initial : OperationChainSnapshot) :
    Contract ChainEffect ChainEffect.Answer :=
  requestsOnly fun history effect => ∀ asked, effect = .call asked →
    ∀ placement ∈ asked.placement,
      (ChainTrace.of initial history).published.plan = initial.plan ∧
        PlacedBy (ChainTrace.of initial history).published placement

section Runs

variable {initial : OperationChainSnapshot} {history : ChainHistory} {chain : OperationChain}
  {index : ℕ}

abbrev KeepsPlaced {Result : Type} (initial : OperationChainSnapshot)
    (program : ChainProgram Result) : Prop :=
  Preserves (ordersPlaced initial) (fun _ => True) program

/-- All that `execute` asks outside its operations. -/
theorem keeps_placed_request {Result : Type} {effect : ChainEffect}
    {next : effect.Answer → ChainProgram Result} (uncalled : ∀ asked, effect ≠ .call asked)
    (continues : ∀ answer, KeepsPlaced initial (next answer)) :
    KeepsPlaced initial (.request effect next) :=
  preserves_request (fun _ _ asked same => absurd same (uncalled asked)) (fun _ _ _ => trivial)
    continues

theorem keeps_placed_conclude (change : Transition) (chain : OperationChain) :
    KeepsPlaced initial (conclude change chain) := by
  apply Preserves.bind
  · apply (preserves_lift _).bind
    intro update
    apply keeps_placed_request (by rintro _ ⟨⟩)
    intro timePoint
    exact keeps_placed_request (by rintro _ ⟨⟩) fun _ => preserves_returned _
  · intro concluded
    apply keeps_placed_request (by rintro _ ⟨⟩)
    intro _
    exact keeps_placed_request (by rintro _ ⟨⟩) fun _ => preserves_returned ()

theorem keeps_placed_failure_text (what : String) : KeepsPlaced initial (failureText what) := by
  apply keeps_placed_request (by rintro _ ⟨⟩)
  intro failed
  cases failed with
  | false => exact preserves_returned what
  | true => exact keeps_placed_request (by rintro _ ⟨⟩) fun _ => preserves_returned _

theorem keeps_placed_catch_failure (failure : OperationFailure) :
    KeepsPlaced initial (catchFailure index chain failure) := by
  cases failure with
  | cancellationRequested what => exact keeps_placed_conclude _ _
  | thrown failure =>
      cases failure with
      | nonStandard => exact (keeps_placed_conclude _ _).bind fun _ => preserves_threw _
      | interrupted what =>
          apply keeps_placed_request (by rintro _ ⟨⟩)
          intro confirmed
          cases confirmed with
          | true => exact keeps_placed_conclude _ _
          | false =>
              apply (keeps_placed_failure_text what).bind
              intro error
              exact (keeps_placed_conclude _ _).bind fun _ => preserves_threw _
      | runtime what =>
          apply keeps_placed_request (by rintro _ ⟨⟩)
          intro _
          apply keeps_placed_request (by rintro _ ⟨⟩)
          intro confirmed
          cases confirmed with
          | true => exact keeps_placed_conclude _ _
          | false =>
              apply (keeps_placed_failure_text what).bind
              intro error
              apply (keeps_placed_conclude _ _).bind
              intro _
              apply keeps_placed_request (by rintro _ ⟨⟩)
              intro failed
              cases failed with
              | false => exact preserves_threw _
              | true => exact preserves_threw _

/-- Where a transition with its notification leads, and what is published then. -/
def Advanced (initial : OperationChainSnapshot) (history : ChainHistory) (change : Transition)
    (chain : OperationChain) (later : ChainHistory) :
    Except ServiceFailure OperationChain → Prop
  | .ok changed => ∃ update timePoint, change chain = .ok update ∧
      changed = { chain with snapshot := update timePoint } ∧
      (ChainTrace.of initial later).published = changed.snapshot
  | .error _ => (ChainTrace.of initial later).published = (ChainTrace.of initial history).published

theorem advance_placed (change : Transition) (chain : OperationChain) (history : ChainHistory) :
    Meets (ordersPlaced initial) (Advanced initial history change chain) (advance change chain)
      history := by
  simp only [advance, transition, meets_monad_bind, meets_lift]
  cases accepted : change chain with
  | error failure => exact rfl
  | ok update =>
      refine ⟨by rintro _ ⟨⟩, fun timePoint _ => ⟨by rintro _ ⟨⟩, fun _ _ => ?_⟩⟩
      refine ⟨by rintro _ ⟨⟩, fun _ _ => ?_⟩
      exact ⟨update, timePoint, accepted, rfl, rfl⟩

/-- The orders that an operation places are placed by the step that is under way. -/
theorem run_operation_placed {context : OperationContext} {type : OperationType}
    {config : Config} {program : OperationProgram Unit} {asked : OperationHistory}
    {step : OperationStepSnapshot}
    (kept : Meets (OperationFactory.ordersOnly context type config) (fun _ _ => True) program
      asked)
    (published : (ChainTrace.of initial history).published = chain.snapshot)
    (underWay : UnderWay chain.snapshot index (createContextSnapshot context) step)
    (kind : initial.plan.kinds[index]? = some (type, config))
    (planned : chain.snapshot.plan = initial.plan) :
    Meets (ordersPlaced initial)
      (fun _ outcome => ∀ result, outcome = .ok result → result.2.snapshot.plan = initial.plan)
      (runOperation index program chain) history := by
  induction program generalizing chain history asked step with
  | returned result =>
      rintro _ ⟨⟩
      exact planned
  | threw failure =>
      rintro _ ⟨⟩
      exact planned
  | request effect next ih =>
      cases effect with
      | call call =>
          refine ⟨?_, fun answer _ =>
            ih answer (kept.2 answer trivial) published underWay planned⟩
          rintro _ ⟨⟩ placement placed
          rw [published]
          have same := underWay.kind
          rw [planned, kind] at same
          cases same
          exact ⟨planned, index, _, step, underWay, kept.1 call rfl placement placed⟩
      | reportAwaiting identifiers =>
          simp only [runOperation, meets_bind, meets_attempt]
          apply (advance_placed (markStepAwaiting index identifiers) chain history).weaken
          intro later outcome moved
          cases outcome with
          | error failure =>
              exact ih (.error failure) (kept.2 _ trivial) (moved.trans published) underWay planned
          | ok marked =>
              obtain ⟨update, timePoint, accepted, rfl, stored⟩ := moved
              obtain ⟨replanned, awaiting, underWay⟩ :=
                mark_step_awaiting_ok accepted timePoint underWay
              exact ih (.ok ()) (kept.2 _ trivial) stored underWay (replanned.trans planned)
      | assignContext assigned =>
          exact @ih () history { chain with context := assigned } _ step (kept.2 () trivial)
            published underWay planned

theorem perform_step_placed {operation : Operation} {remaining : List Operation}
    (made : MadeFor initial.plan.kinds index (operation :: remaining))
    (planned : chain.snapshot.plan = initial.plan) :
    Meets (ordersPlaced initial)
      (fun _ outcome => ∀ result, outcome = .ok result → result.2.snapshot.plan = initial.plan)
      (performStep operation index chain) history := by
  simp only [performStep, meets_monad_bind]
  apply (advance_placed (startStep index) chain history).weaken
  intro later outcome moved
  cases outcome with
  | error failure => exact fun result ended => by cases ended
  | ok started =>
      obtain ⟨update, timePoint, accepted, rfl, stored⟩ := moved
      obtain ⟨replanned, step, underWay⟩ := start_step_ok accepted timePoint
      rw [planned] at replanned
      have kind := underWay.kind
      rw [replanned] at kind
      have created := made 0 operation step.type step.config rfl kind
      have orders := OperationFactory.create_orders created chain.context [] trivial
      refine ⟨by rintro _ ⟨⟩, fun permitted _ => ?_⟩
      cases permitted with
      | error failure => exact fun result ended => by cases ended
      | ok permitted =>
          simp only [meets_of_except]
          apply Meets.weaken
          · apply run_operation_placed orders _ underWay kind replanned
            exact stored
          intro last outcome kept
          cases outcome with
          | error failure => exact fun result ended => by cases ended
          | ok performed =>
              refine ⟨by rintro _ ⟨⟩, fun _ _ => ?_⟩
              rintro _ ⟨⟩
              exact kept performed rfl

theorem execute_steps_placed {operations : List Operation}
    (made : MadeFor initial.plan.kinds index operations)
    (planned : chain.snapshot.plan = initial.plan) :
    Meets (ordersPlaced initial) (fun _ _ => True) (executeSteps operations index chain)
      history := by
  induction operations generalizing chain index history with
  | nil => exact keeps_placed_conclude _ _ _ trivial
  | cons operation remaining ih =>
      refine ⟨by rintro _ ⟨⟩, fun requested _ => ?_⟩
      cases requested with
      | true => exact keeps_placed_conclude _ _ _ trivial
      | false =>
          simp only [Interaction.bind, Bool.false_eq_true, if_false, meets_monad_bind]
          apply (perform_step_placed made planned).weaken
          intro later outcome kept
          cases outcome with
          | error failure => trivial
          | ok performed =>
              have planned := kept performed rfl
              obtain ⟨ended, changed⟩ := performed
              cases ended with
              | error failure => exact keeps_placed_catch_failure failure _ trivial
              | ok succeeded =>
                  simp only [meets_monad_bind]
                  apply (advance_placed (finishStep index) changed _).weaken
                  intro last outcome moved
                  cases outcome with
                  | error failure => trivial
                  | ok finished =>
                      obtain ⟨update, timePoint, accepted, rfl, stored⟩ := moved
                      refine ⟨by rintro _ ⟨⟩, fun requested _ => ?_⟩
                      show Meets _ _ (if (requested && !remaining.isEmpty) = true then _ else _) _
                      split_ifs with stops
                      · exact keeps_placed_conclude _ _ _ trivial
                      · exact ih made.tail ((finish_step_ok accepted timePoint).trans planned)

theorem execute_placed (made : MadeFor chain.snapshot.plan.kinds 0 chain.operations) :
    Meets (ordersPlaced chain.snapshot) (fun _ _ => True) (execute chain) history := by
  refine ⟨by rintro _ ⟨⟩, fun requested _ => ?_⟩
  cases requested with
  | true => exact keeps_placed_conclude _ _ _ trivial
  | false =>
      simp only [Interaction.bind, Bool.false_eq_true, if_false, meets_monad_bind]
      apply (advance_placed startExecution chain _).weaken
      intro later outcome moved
      cases outcome with
      | error failure => trivial
      | ok started =>
          obtain ⟨update, timePoint, accepted, rfl, stored⟩ := moved
          exact execute_steps_placed made (start_execution_ok accepted timePoint)

end Runs

end OperationChain

/-- A chain plans the operations of its definition, from the definition's context. -/
theorem OperationChain.create_plan {definition : OperationChainDefinition}
    {operations : List Operation} {exchangers : List ExchangerType}
    {createdAt : OperationChainTimePoint} {chain : OperationChain}
    (created : create definition operations exchangers createdAt = .ok chain) :
    chain.snapshot.plan.initialContext =
        ⟨definition.initialExchangerType, definition.initialAsset, definition.initialQuantity⟩ ∧
      chain.snapshot.plan.kinds =
        definition.operations.map fun operation => (operation.type, operation.config) := by
  obtain ⟨_, _, rest⟩ := except_bind_ok.1 created
  cases rest
  refine ⟨rfl, ?_⟩
  apply List.ext_getElem?
  intro index
  simp [fresh, OperationChainSnapshot.plan, Function.comp_def]

theorem OperationChainBuilder.build_made {definition : OperationChainDefinition}
    {exchangers : List ExchangerType} {createdAt : OperationChainTimePoint}
    {chain : OperationChain} (built : build definition exchangers createdAt = .ok chain) :
    ∃ operations, OperationChain.create definition operations exchangers createdAt = .ok chain ∧
      MadeFor chain.snapshot.plan.kinds 0 chain.operations := by
  obtain ⟨operations, mapped, created⟩ := except_bind_ok.1 built
  refine ⟨operations, created, ?_⟩
  rw [(OperationChain.create_plan created).2, (OperationChain.create_unstarted created).2.1]
  intro offset operation type config found kind
  obtain ⟨operationDefinition, same, made⟩ := map_m_at mapped found
  rw [Nat.zero_add, List.getElem?_map, same] at kind
  cases kind
  exact made

/-- Where a started step takes its input from. -/
def inputOf (context : Option OperationContextSnapshot) (steps : List OperationStepSnapshot) :
    ℕ → Option OperationContextSnapshot
  | 0 => context
  | previous + 1 => steps[previous]?.bind (·.outputContext)

theorem contexts_chained_at {context : Option OperationContextSnapshot}
    {steps : List OperationStepSnapshot} {index : ℕ} {step : OperationStepSnapshot}
    (chained : ContextsChained context steps) (found : steps[index]? = some step)
    (started : step.status ≠ .pending) : step.inputContext = inputOf context steps index := by
  induction steps generalizing context index with
  | nil => cases found
  | cons first remaining ih =>
      cases index with
      | zero =>
          cases found
          exact chained.1.resolve_left started
      | succ index =>
          rw [ih chained.2 found]
          cases index <;> rfl

/-- The snapshot that is published when a program asks something. -/
theorem published_invariant {definition : OperationChainDefinition}
    {operations : List Operation} {exchangers : List ExchangerType}
    {createdAt : OperationChainTimePoint} {chain : OperationChain}
    (created : OperationChain.create definition operations exchangers createdAt = .ok chain)
    {history : ChainHistory} {current : ChainProgram Unit}
    (run : Reaches chain.execute history current) :
    SnapshotInvariant (ChainTrace.of chain.snapshot history).published := by
  obtain ⟨unstarted, _, count, fresh⟩ := OperationChain.create_unstarted created
  have met := OperationChain.meets_execute unstarted count fresh fun operation _ =>
    OperationDiscipline.free_keeps operation
  obtain ⟨⟨earlier, published⟩, _, shown⟩ := shown_in_order unstarted.invariant fresh met run
  exact shown.invariant _ (published ▸ List.mem_cons_self)

theorem placement_of_places_order {asked : OperationCall} (places : asked.placesOrder) :
    ∃ placement, asked.placement = some placement := by
  cases asked with
  | buyCrypto service | sellCrypto service | placeOrder service | placeOco service =>
      cases service <;> exact ⟨_, rfl⟩
  | _ => cases places

/-- Each order of a chain is the order of the step that is under way, and takes exactly
the quantity of the context that this step took over. -/
theorem chain_orders_take_their_context {definition : OperationChainDefinition}
    {exchangers : List ExchangerType} {createdAt : OperationChainTimePoint}
    {chain : OperationChain}
    (built : OperationChainBuilder.build definition exchangers createdAt = .ok chain)
    {history : ChainHistory} {asked : OperationCall} {next : asked.Answer → ChainProgram Unit}
    (run : Reaches chain.execute history (.request (.call asked) next))
    (places : asked.placesOrder) :
    ∃ index context placement,
      inputOf
          (some ⟨definition.initialExchangerType, definition.initialAsset,
            definition.initialQuantity⟩)
          (ChainTrace.of chain.snapshot history).published.steps index = some context ∧
        (∃ step, UnderWay (ChainTrace.of chain.snapshot history).published index context step) ∧
        asked.placement = some placement ∧
        (∃ operation, definition.operations[index]? = some operation ∧
          OrderedFrom context operation.type operation.config placement) ∧
        ∀ market, ∀ leg ∈ placement.legs market,
          leg.side = placement.side ∧ leg.Takes context.quantity := by
  obtain ⟨operations, created, made⟩ := OperationChainBuilder.build_made built
  obtain ⟨placement, placed⟩ := placement_of_places_order places
  obtain ⟨planned, index, context, step, underWay, ordered⟩ :=
    run.request_allowed (OperationChain.execute_placed made) asked rfl placement placed
  obtain ⟨initialContext, kinds⟩ := OperationChain.create_plan created
  refine ⟨index, context, placement, ?_, ⟨step, underWay⟩, placed, ?_, ?_⟩
  · have chained := (published_invariant created run).contexts_chained
    rw [← initialContext, ← planned]
    exact (contexts_chained_at chained underWay.found underWay.started).symm.trans underWay.input
  · have kind := underWay.kind
    rw [planned, kinds, List.getElem?_map, Option.map_eq_some_iff] at kind
    obtain ⟨operation, found, same⟩ := kind
    obtain ⟨type, config⟩ := Prod.mk.inj same
    refine ⟨operation, found, ?_⟩
    rw [type, config]
    exact ordered
  · intro market leg member
    obtain ⟨side, quantity⟩ := Placement.leg_follows member
    refine ⟨side, ?_⟩
    rw [← ordered.quantity, ← quantity]
    exact leg.takes_quantity

/-! ## When the orders stay within their contexts -/

/-- The step sells, spends quote units, or buys at prices of at most one. -/
def FitsContext (market : Market) (context : OperationContextSnapshot) (type : OperationType)
    (config : Config) : Prop :=
  ∀ outAsset, orderTarget type config = some (outAsset, .buy) →
    countsQuote context.exchangerType config ∨
      ∀ price ∈ countedPrices market context.exchangerType config,
        PriceFits context.quantity price

theorem OrderedFrom.within_iff {context : OperationContextSnapshot} {type : OperationType}
    {config : Config} {placement : Placement}
    (ordered : OrderedFrom context type config placement) (market : Market) :
    (∀ leg ∈ placement.legs market, leg.spent ≤ context.quantity) ↔
      FitsContext market context type config := by
  obtain ⟨outAsset, target, _⟩ := ordered.target
  have fits : FitsContext market context type config ↔ (placement.side = .buy →
      countsQuote context.exchangerType config ∨
        ∀ price ∈ countedPrices market context.exchangerType config,
          PriceFits context.quantity price) := by
    constructor
    · intro fits buy
      exact fits outAsset (by rw [target, buy])
    · intro fits other known
      exact fits (Prod.mk.inj (Option.some.inj (target.symm.trans known))).2
  rw [ordered.legs, ordered.exchange, fits, stepLegs, List.forall_mem_map]
  have each := fun price => OrderLeg.spent_within_iff {
    side := placement.side
    quantity := context.quantity
    price
    countsQuote := countsQuote context.exchangerType config }
  constructor
  · intro within buy
    by_cases quote : countsQuote context.exchangerType config = true
    · exact .inl quote
    · exact .inr fun price counted =>
        ((each price).1 (within price counted) buy).resolve_left quote
  · intro fits price counted
    refine (each price).2 fun buy => ?_
    rcases fits buy with quote | priced
    · exact .inl quote
    · exact .inr (priced price counted)

/-- An order that a run has submitted, after what the run had been answered before. -/
def SubmittedBy (history : ChainHistory) (current : ChainProgram Unit) (earlier : ChainHistory)
    (asked : OperationCall) : Prop :=
  asked.placesOrder ∧
    ((earlier = history ∧ ∃ next, current = .request (.call asked) next) ∨
      ∃ answer, ⟨.call asked, answer⟩ :: earlier <:+ history)

/-- The step that an order belongs to, and the context that it took over: the initial one, or
what the step before received. -/
structure OrderOfStep (definition : OperationChainDefinition) (chain : OperationChain)
    (earlier : ChainHistory) (asked : OperationCall) (context : OperationContextSnapshot)
    (operation : OperationDefinition) (placement : Placement) : Prop where
  placed : asked.placement = some placement
  requests : ∀ services market,
    asked.Requests services market = placement.Requests services market
  step : ∃ index, definition.operations[index]? = some operation ∧
    inputOf
        (some ⟨definition.initialExchangerType, definition.initialAsset,
          definition.initialQuantity⟩)
        (ChainTrace.of chain.snapshot earlier).published.steps index = some context ∧
      ∃ step, UnderWay (ChainTrace.of chain.snapshot earlier).published index context step
  ordered : OrderedFrom context operation.type operation.config placement
  takes : ∀ market, ∀ leg ∈ placement.legs market,
    leg.side = placement.side ∧ leg.Takes context.quantity

section Submitted

variable (definition : OperationChainDefinition) (chain : OperationChain) (history : ChainHistory)
  (current : ChainProgram Unit) (market : ChainHistory → Market)

/-- No order of the run pays more than the quantity of its step's context. -/
def OrdersWithinContext : Prop :=
  ∀ earlier asked context operation placement, SubmittedBy history current earlier asked →
    OrderOfStep definition chain earlier asked context operation placement →
      ∀ leg ∈ placement.legs (market earlier),
        leg.side = placement.side ∧ leg.spent ≤ context.quantity

def StepsFitContext : Prop :=
  ∀ earlier asked context operation placement, SubmittedBy history current earlier asked →
    OrderOfStep definition chain earlier asked context operation placement →
      FitsContext (market earlier) context operation.type operation.config

end Submitted

theorem SubmittedBy.reached {chain : OperationChain} {history earlier : ChainHistory}
    {current : ChainProgram Unit} {asked : OperationCall}
    (submitted : SubmittedBy history current earlier asked)
    (run : Reaches chain.execute history current) :
    ∃ next, Reaches chain.execute earlier (.request (.call asked) next) := by
  rcases submitted.2 with ⟨rfl, next, rfl⟩ | ⟨answer, answered⟩
  · exact ⟨next, run⟩
  · exact run.asked answered

section Example

open DefinitionLoader

def bitcoinChain : OperationChain :=
  .fresh buyBitcoinDefinition [OperationFactory.buyCrypto ⟨"BTC"⟩] [.binance] 0

/-- The chain of the loaded file, up to its order. -/
def bitcoinPurchase : ChainHistory × ChainProgram Unit :=
  answerBy rejectingAnswers 10 bitcoinChain.execute []

def bitcoinMarket : Market where
  symbolInfo := {
    symbol := "BTCUSDT"
    baseAsset := "BTC"
    quoteAsset := "USDT"
    tickSize := 1 / 100
    stepSize := 1 / 100000
    minQty := 1 / 100000 }
  tickerPrice := 60000

end Example

end CryptoDeal
