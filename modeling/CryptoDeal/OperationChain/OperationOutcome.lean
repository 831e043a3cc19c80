import CryptoDeal.OperationChain.CancellationRun

/-!
# What an operation makes of its context

One operation runs on its context, beside everything that may happen to its
cancellation coordinator, if it has one. The context moves only when the
operation returns, and then at once to what the filled order brought.
-/

namespace CryptoDeal

open DealService Interaction

abbrev OperationHistory := History OperationEffect OperationEffect.Answer

/-- The context after the assignments of a history. -/
def contextAfter (context : OperationContext) : OperationHistory → OperationContext
  | [] => context
  | ⟨.assignContext assigned, _⟩ :: _ => assigned
  | ⟨.call _, _⟩ :: earlier | ⟨.reportAwaiting _, _⟩ :: earlier => contextAfter context earlier

/-- The order that a wait returned last. -/
def filledOrder : OperationHistory → Option OrderInfo
  | [] => none
  | ⟨.call (.waitUntilOrderFilled _ _ _ _), .ok orderInfo⟩ :: _ => some orderInfo
  | ⟨.call (.waitUntilOcoOrderFilled _ _ _), .ok result⟩ :: _ => some result.filledOrder
  | _ :: earlier => filledOrder earlier

/-! ## The operation and its coordinator -/

/-- What the helpers of the operations do without a coordinator. -/
def AnswersAlone : (asked : OperationCall) → asked.Answer → Prop
  | .isCancellationRequested, requested => requested = false
  | .register _, registered => registered = .ok ()
  | _, _ => True

/-- `none` is a context without a coordinator. -/
abbrev OperationRunState := Option CancellationRunState

/-- A deal service and the progress handler answer with anything, an exception included. -/
def PerformsOperation : OperationRunState → (effect : OperationEffect) → effect.Answer →
    OperationRunState → Prop
  | none, .call asked, answer, after => AnswersAlone asked answer ∧ after = none
  | some state, .call asked, answer, after =>
      ∃ coordinator, state.coordinator.Answers (.call asked) answer coordinator ∧
        after = some (state.advance (.call asked) coordinator)
  | state, .reportAwaiting _, _, after | state, .assignContext _, _, after => after = state

def operationSystem : SharedSystem OperationEffect OperationEffect.Answer OperationRunState where
  performs := PerformsOperation
  interferes before after :=
    ∃ state moved, before = some state ∧ after = some moved ∧ CancellationStep True state moved

/-! ## Outcomes -/

/-- What the orders of an operation trade for, and on which side; `none` for `SEND_TO`. -/
def orderTarget : OperationType → Config → Option (String × OrderOperation)
  | .buyCrypto, .base preset => some (preset.outAsset, .buy)
  | .sellCrypto, .base preset => some (preset.outAsset, .sell)
  | .placeOrder, .placeOrder preset => some (preset.outAsset, preset.side)
  | .placeOco, .placeOco preset => some (preset.outAsset, preset.side)
  | _, _ => none

structure OrderReceived (outAsset : String) (side : OrderOperation)
    (context after : OperationContext) (orderInfo : OrderInfo) : Prop where
  exchangerType : after.exchangerType = context.exchangerType
  inAsset : after.inAsset = outAsset
  sold : side = .sell → after.quantity = orderInfo.cumQuoteQty
  bought : side = .buy → 0 < orderInfo.executedQty → after.quantity = orderInfo.executedQty
  unexecuted : side = .buy → ¬ 0 < orderInfo.executedQty → after.quantity = orderInfo.origQty

theorem order_received (context : OperationContext) (outAsset : String) (side : OrderOperation)
    (orderInfo : OrderInfo) :
    OrderReceived outAsset side context
      { context with
        quantity := OperationFactory.getReceivedQuantity orderInfo side
        inAsset := outAsset } orderInfo where
  exchangerType := rfl
  inAsset := rfl
  sold := by
    rintro rfl
    rfl
  bought := by
    rintro rfl executed
    exact if_pos executed
  unexecuted := by
    rintro rfl unexecuted
    exact if_neg unexecuted

/-- The last call was `completeActionNaturally`. -/
def completedLast (calls : CallHistory) : Bool := calls.head?.any fun event => event.1.completes

/-- How the operation ends, from all it asked and was answered. -/
def OutcomeOf (target : Option (String × OrderOperation)) (config : Config)
    (context : OperationContext) (history : OperationHistory) :
    Except OperationFailure Unit → Prop
  | .error _ => contextAfter context history = context
  | .ok _ =>
      match target with
      | some (outAsset, side) =>
          (∃ orderInfo, filledOrder history = some orderInfo ∧
            OrderReceived outAsset side context (contextAfter context history) orderInfo) ∧
            (registeredAction (callsIn history)).isSome ∧ completedLast (callsIn history)
      | none => ∃ preset, config = .sendTo preset ∧
          contextAfter context history =
            { context with exchangerType := preset.destinationExchanger }

namespace OperationFactory

abbrev EndsAs {Result : Type} (good : OperationHistory → Except OperationFailure Result → Prop)
    (program : OperationProgram Result) (asked : OperationHistory) : Prop :=
  Meets anything good program asked

section Outcomes

variable {target : Option (String × OrderOperation)} {config : Config} {context : OperationContext}

theorem ends_unassigned {later : OperationHistory} (unassigned : contextAfter context later = context)
    (failure : OperationFailure) :
    EndsAs (OutcomeOf target config context) (.threw failure) later := unassigned

theorem ends_check {rest : OperationProgram Unit}
    (met : EndsAs (OutcomeOf target config context) rest passedCheck) :
    EndsAs (OutcomeOf target config context) (throwIfCancellationRequested >>= fun _ => rest)
      [] := by
  refine ⟨trivial, fun requested _ => ?_⟩
  cases requested with
  | false => exact met
  | true => exact ends_unassigned rfl _

theorem ends_get_exchanger {rest : ExchangerType → OperationProgram Unit}
    (met : ∀ service, EndsAs (OutcomeOf target config context) (rest service) passedCheck) :
    EndsAs (OutcomeOf target config context) (getExchanger context >>= rest) passedCheck := by
  show Meets _ _ (getExchanger context >>= rest) _
  rw [meets_monad_bind, getExchanger]
  by_cases present : context.exchangerType ∈ context.exchangersPull
  · rw [if_pos present]
    exact met context.exchangerType
  · rw [if_neg present]
    exact ends_unassigned rfl _

/-- A submission assigns nothing. -/
def Unassigned {Result : Type} (context : OperationContext) (later : OperationHistory)
    (_ : Except OperationFailure Result) : Prop := contextAfter context later = context

theorem ordinary_order_ends {outAsset : String} {side : OrderOperation}
    {submit : OperationContext → ExchangerType → OperationProgram OrderInfo}
    (submits : ∀ service, EndsAs (Unassigned context) (submit context service) passedCheck) :
    EndsAs (OutcomeOf (some (outAsset, side)) config context)
      (ordinaryOrderOperation outAsset side submit context) [] := by
  apply ends_check
  apply ends_get_exchanger
  intro service
  apply (submits service).bind
  case fails => exact fun later failure unassigned => unassigned
  case succeeds =>
    intro later orderInfo unassigned
    refine ⟨trivial, fun registered _ => ?_⟩
    cases registered with
    | error failure => exact unassigned
    | ok registered =>
        refine ⟨trivial, fun reported _ => ?_⟩
        cases reported with
        | error failure => exact unassigned
        | ok reported =>
            refine ⟨trivial, fun token _ => ⟨trivial, fun waited _ => ?_⟩⟩
            cases waited with
            | error failure => exact unassigned
            | ok completeOrderInfo =>
                refine ⟨trivial, fun _ _ => ⟨trivial, fun _ _ => ?_⟩⟩
                exact ⟨⟨completeOrderInfo, rfl, order_received context outAsset side _⟩, rfl, rfl⟩

theorem buy_crypto_ends (preset : BaseConfig) :
    EndsAs (OutcomeOf (some (preset.outAsset, .buy)) config context) (buyCrypto preset context)
      [] := by
  apply ordinary_order_ends
  intro service
  refine ⟨trivial, fun submitted _ => ?_⟩
  cases submitted <;> rfl

theorem sell_crypto_ends (preset : BaseConfig) :
    EndsAs (OutcomeOf (some (preset.outAsset, .sell)) config context) (sellCrypto preset context)
      [] := by
  apply ordinary_order_ends
  intro service
  refine ⟨trivial, fun submitted _ => ?_⟩
  cases submitted <;> rfl

theorem place_order_ends (preset : PlaceOrderConfig) :
    EndsAs (OutcomeOf (some (preset.outAsset, preset.side)) config context)
      (placeOrder preset context) [] := by
  apply ordinary_order_ends
  intro service
  refine ⟨trivial, fun submitted _ => ?_⟩
  cases submitted <;> rfl

theorem place_oco_ends (preset : PlaceOcoConfig) :
    EndsAs (OutcomeOf (some (preset.outAsset, preset.side)) config context)
      (placeOco preset context) [] := by
  apply ends_check
  apply ends_get_exchanger
  intro service
  refine ⟨trivial, fun submitted _ => ?_⟩
  cases submitted with
  | error failure => exact ends_unassigned rfl _
  | ok ocoInfo =>
      refine ⟨trivial, fun registered _ => ?_⟩
      cases registered with
      | error failure => exact ends_unassigned rfl _
      | ok registered =>
          refine ⟨trivial, fun reported _ => ?_⟩
          cases reported with
          | error failure => exact ends_unassigned rfl _
          | ok reported =>
              refine ⟨trivial, fun token _ => ⟨trivial, fun waited _ => ?_⟩⟩
              cases waited with
              | error failure => exact ends_unassigned rfl _
              | ok result =>
                  refine ⟨trivial, fun _ _ => ⟨trivial, fun _ _ => ?_⟩⟩
                  exact ⟨⟨result.filledOrder, rfl, order_received context _ preset.side _⟩, rfl,
                    rfl⟩

theorem send_to_ends (preset : SendToConfig) :
    EndsAs (OutcomeOf none (.sendTo preset) context) (sendTo preset context) [] := by
  apply ends_check
  exact ⟨trivial, fun _ _ => ⟨trivial, fun _ _ => ⟨preset, rfl, rfl⟩⟩⟩

end Outcomes

theorem create_ends {type : OperationType} {config : Config} {operation : Operation}
    (created : create type config = .ok operation) (context : OperationContext) :
    EndsAs (OutcomeOf (orderTarget type config) config context) (operation context) [] := by
  cases type <;> cases config <;> cases created
  · exact buy_crypto_ends _
  · exact sell_crypto_ends _
  · exact place_order_ends _
  · exact place_oco_ends _
  · exact send_to_ends _

end OperationFactory

/-! ## The registered action -/

/-- A registered order's operation is the active one, and completing it takes it away. -/
def KeepsAction (history : OperationHistory) (state : OperationRunState) : Prop :=
  ∀ run ∈ state, (registeredAction (callsIn history)).isSome →
    run.coordinator.operationActive ∧
      (completedLast (callsIn history) → run.coordinator.currentAction = none)

theorem CancellationStep.keeps_operation {managerMayStop : Prop}
    {state after : CancellationRunState} (step : CancellationStep managerMayStop state after) :
    after.coordinator.operationActive = state.coordinator.operationActive ∧
      after.coordinator.currentAction = state.coordinator.currentAction := by
  cases step with
  | @record action verdict returned =>
      cases verdict with
      | confirmedCancellation | cancellationFailure =>
          simp only [OperationCancellationCoordinator.record]
          split_ifs <;> exact ⟨rfl, rfl⟩
      | naturalCompletion | interrupted => exact ⟨rfl, rfl⟩
  | _ => exact ⟨rfl, rfl⟩

theorem keeps_action_call {history : OperationHistory} {state after : OperationRunState}
    {asked : OperationCall} {answer : asked.Answer} (kept : KeepsAction history state)
    (performed : PerformsOperation state (.call asked) answer after) :
    KeepsAction (⟨.call asked, answer⟩ :: history) after := by
  cases state with
  | none =>
      cases performed.2
      rintro _ ⟨⟩
  | some run =>
      obtain ⟨coordinator, answers, rfl⟩ := performed
      rintro _ ⟨⟩ registered
      show coordinator.operationActive ∧ (asked.completes = true → coordinator.currentAction = none)
      have unchanged : coordinator = run.coordinator → registers asked answer = none →
          asked.completes = false → coordinator.operationActive ∧
            (asked.completes = true → coordinator.currentAction = none) := by
        rintro rfl unregistered uncompleted
        rw [callsIn, registeredAction, unregistered, Option.none_or] at registered
        exact ⟨(kept run rfl registered).1, fun completes => by simp [completes] at uncompleted⟩
      cases asked with
      | register action =>
          cases answer with
          | ok _ =>
              have active := OperationCancellationCoordinator.register_active answers
              rw [(OperationCancellationCoordinator.register_ok answers).2]
              exact ⟨active, fun completes => absurd completes Bool.false_ne_true⟩
          | error failure => exact unchanged answers.2 rfl rfl
      | completeActionNaturally =>
          have active := (kept run rfl registered).1
          cases answers
          simp [OperationCancellationCoordinator.completeActionNaturally, active]
      | isCancellationRequested | getWaitStopToken => exact unchanged answers.2 rfl rfl
      | buyCrypto | sellCrypto | placeOrder | placeOco | waitUntilOrderFilled
      | waitUntilOcoOrderFilled | printSending => exact unchanged answers rfl rfl

theorem keeps_action_guarantees :
    Guarantees operationSystem anything (fun _ => True) KeepsAction where
  covers_before_act _ _ := trivial
  covers_before_interference _ _ := trivial
  act := by
    intro history state after effect answer kept _ performed _
    refine ⟨trivial, ?_⟩
    cases effect with
    | call asked => exact keeps_action_call kept performed
    | reportAwaiting identifiers => cases state <;> cases performed <;> exact kept
    | assignContext context => cases state <;> cases performed <;> exact kept
  interfere := by
    rintro history state after kept ⟨run, moved, rfl, rfl, step⟩ _
    rintro _ ⟨⟩ registered
    obtain ⟨active, completed⟩ := kept run rfl registered
    obtain ⟨sameActive, sameAction⟩ := step.keeps_operation
    rw [sameActive, sameAction]
    exact ⟨active, completed⟩

/-! ## Atomicity -/

theorem operation_is_atomic {type : OperationType} {config : Config} {operation : Operation}
    (created : OperationFactory.create type config = .ok operation) (context : OperationContext)
    {start state : OperationRunState} {history : OperationHistory}
    {current : OperationProgram Unit}
    (run : SharedRun operationSystem start (operation context) history state current) :
    (∀ failure, current = .threw failure → contextAfter context history = context) ∧
      (current = .returned () →
        (∀ outAsset side, orderTarget type config = some (outAsset, side) →
          (∃ orderInfo, filledOrder history = some orderInfo ∧
            OrderReceived outAsset side context (contextAfter context history) orderInfo) ∧
          ∀ coordinated ∈ state, coordinated.coordinator.currentAction = none) ∧
        ∀ preset, config = .sendTo preset →
          contextAfter context history =
            { context with exchangerType := preset.destinationExchanger }) := by
  have initially : KeepsAction [] start := by
    rintro coordinated _ ⟨⟩
  obtain ⟨ends, kept⟩ := run.meets keeps_action_guarantees initially
    (OperationFactory.create_ends created context) trivial
  constructor
  · rintro failure rfl
    exact ends
  · rintro rfl
    refine ⟨fun outAsset side target => ?_, fun preset sending => ?_⟩
    · rw [target] at ends
      obtain ⟨received, registered, completed⟩ := ends
      exact ⟨received, fun coordinated member => (kept coordinated member registered).2 completed⟩
    · subst sending
      cases type with
      | sendTo =>
          obtain ⟨_, ⟨⟩, sent⟩ := ends
          exact sent
      | buyCrypto | sellCrypto | placeOrder | placeOco => cases created

section Example

def saleContext : OperationContext where
  exchangerType := .binance
  exchangersPull := [.binance]
  inAsset := "BTC"
  quantity := 1

def saleStart : OperationRunState :=
  some { coordinator := { operationActive := true, actionMayBeRegistered := true } }

/-- The exchange takes one order and fills it at 60000. -/
def performSale : OperationRunState → (effect : OperationEffect) →
    Option (effect.Answer × OperationRunState)
  | some state, .call asked =>
      let answered (answer : asked.Answer) (coordinator : OperationCancellationCoordinator) :
          Option (asked.Answer × OperationRunState) :=
        some (answer, some (state.advance (.call asked) coordinator))
      match asked, answered with
      | .isCancellationRequested, answered =>
          answered state.coordinator.cancellationRequested state.coordinator
      | .sellCrypto _ _ _ _, answered => answered (.ok { orderId := "7" }) state.coordinator
      | .register action, answered =>
          match state.coordinator.register action with
          | .ok coordinator => answered (.ok ()) coordinator
          | .error failure => answered (.error failure) state.coordinator
      | .getWaitStopToken, answered => answered state.coordinator.waitStopSource state.coordinator
      | .waitUntilOrderFilled _ _ _ _, answered =>
          answered (.ok { orderId := "7", executedQty := 1, cumQuoteQty := 60000 })
            state.coordinator
      | .completeActionNaturally, answered => answered () state.coordinator.completeActionNaturally
      | _, _ => none
  | none, .call _ => none
  | state, .reportAwaiting _ => some (.ok (), state)
  | state, .assignContext _ => some ((), state)

theorem perform_sale_performs {state after : OperationRunState} {effect : OperationEffect}
    {answer : effect.Answer} (performed : performSale state effect = some (answer, after)) :
    operationSystem.performs state effect answer after := by
  cases effect with
  | call asked =>
      cases state with
      | none => cases performed
      | some state =>
          cases asked with
          | register action =>
              cases registered : state.coordinator.register action with
              | ok coordinator =>
                  simp only [performSale, registered] at performed
                  cases performed
                  exact ⟨coordinator, registered, rfl⟩
              | error failure =>
                  simp only [performSale, registered] at performed
                  cases performed
                  exact ⟨state.coordinator, ⟨registered, rfl⟩, rfl⟩
          | isCancellationRequested | getWaitStopToken =>
              cases performed
              exact ⟨_, ⟨rfl, rfl⟩, rfl⟩
          | sellCrypto | waitUntilOrderFilled | completeActionNaturally =>
              cases performed
              exact ⟨_, rfl, rfl⟩
          | buyCrypto | placeOrder | placeOco | waitUntilOcoOrderFilled | printSending =>
              cases performed
  | reportAwaiting identifiers => cases state <;> cases performed <;> rfl
  | assignContext context => cases state <;> cases performed <;> rfl

def sale : OperationHistory × OperationRunState × OperationProgram Unit :=
  runAlone performSale (OperationFactory.sellCrypto ⟨"USDT"⟩ saleContext) [] saleStart

theorem sale_received :
    (∃ orderInfo, filledOrder sale.1 = some orderInfo ∧
      OrderReceived "USDT" .sell saleContext (contextAfter saleContext sale.1) orderInfo) ∧
      ∀ coordinated ∈ sale.2.1, coordinated.coordinator.currentAction = none := by
  have created : OperationFactory.create .sellCrypto (.base ⟨"USDT"⟩) =
      .ok (OperationFactory.sellCrypto ⟨"USDT"⟩) := rfl
  have run : SharedRun operationSystem saleStart
      (OperationFactory.sellCrypto ⟨"USDT"⟩ saleContext) sale.1 sale.2.1 sale.2.2 :=
    SharedRun.start.run_alone perform_sale_performs
  exact ((operation_is_atomic created saleContext run).2 rfl).1 "USDT" .sell rfl

end Example

end CryptoDeal
