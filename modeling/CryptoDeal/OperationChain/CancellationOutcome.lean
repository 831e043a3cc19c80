import CryptoDeal.OperationChain.Coordination
import CryptoDeal.OperationChain.SnapshotHistory

/-!
# What a cancelled chain means

A chain cancels a step that had an order on an exchange only if the exchange
confirmed that the order is cancelled, a confirmation in time is never turned
into a failure, and a natural completion outweighs whatever the cancellation
worker finds.
-/

namespace CryptoDeal

open DealService Interaction OperationCancellationCoordinator

section Stages

variable {stage : OperationStage} {snapshot : OperationChainSnapshot}

theorem OperationStage.Fails.after_resolution (fails : stage.Fails) :
    stage.afterResolution.Fails := by
  cases stage with
  | ended calls outcome resolved confirmed =>
      cases outcome with
      | ok result => exact fails
      | error failure =>
          cases failure with
          | cancellationRequested what => exact fails
          | thrown failure => exact ⟨fails.1, fun _ _ => rfl⟩
  | _ => exact fails

theorem OperationStage.Cancels.after_resolution (cancels : stage.Cancels) :
    stage.afterResolution.Cancels := by
  cases stage with
  | ended calls outcome resolved confirmed =>
      cases outcome with
      | ok result => exact cancels
      | error failure =>
          cases failure with
          | cancellationRequested what => exact cancels
          | thrown failure => exact ⟨cancels.1, fun _ _ => rfl⟩
  | _ => exact cancels

theorem OperationStage.Settled.after_resolution (settled : stage.Settled) :
    stage.afterResolution.Settled := by
  cases stage with
  | ended calls outcome resolved confirmed => cases outcome <;> exact settled
  | _ => exact settled

theorem StoreAllowed.after_resolution (stored : StoreAllowed stage snapshot) :
    StoreAllowed stage.afterResolution snapshot where
  failed failed := (stored.failed failed).after_resolution
  cancelled cancelled :=
    (stored.cancelled cancelled).imp (·.after_resolution) (.imp_left (·.after_resolution))
  completed completed := (stored.completed completed).after_resolution

theorem StoreAllowed.not_running {calls : CallHistory}
    (stored : StoreAllowed (.running calls) snapshot) : snapshot.status.isTerminal = false := by
  cases status : snapshot.status with
  | pending => rfl
  | running => rfl
  | completed => exact (stored.completed status).elim
  | failed => exact (stored.failed status).elim
  | cancelled => exact ((stored.cancelled status).elim id And.left).elim

end Stages

/-- The published snapshot is well formed, and its last status fits the last operation. -/
structure Published (trace : ChainTrace) : Prop where
  invariant : SnapshotInvariant trace.published
  stored : trace.published.status.isTerminal → StoreAllowed trace.stage trace.published

theorem Published.after {trace : ChainTrace} {discipline : OperationDiscipline}
    {effect : ChainEffect} {answer : effect.Answer} (shown : Published trace)
    (required : EffectAllowed discipline trace effect) : Published (trace.after effect answer) := by
  have live : trace.published.status.isTerminal = false →
      ∀ stage, trace.published.status.isTerminal → StoreAllowed stage trace.published := by
    intro live stage terminal
    rw [live] at terminal
    cases terminal
  cases effect with
  | call asked =>
      obtain ⟨calls, stage, _⟩ := required
      refine ⟨shown.invariant, fun terminal => ?_⟩
      have stored := shown.stored terminal
      rw [stage] at stored
      exact live stored.not_running _ terminal
  | startOperation canRegisterAction =>
      cases answer with
      | ok started => exact ⟨shown.invariant, live required.2.2 _⟩
      | error failure => exact ⟨shown.invariant, live required.2.2 _⟩
  | finishOperation outcome =>
      obtain ⟨calls, stage, _⟩ := required
      refine ⟨shown.invariant, fun terminal => ?_⟩
      have stored := shown.stored terminal
      rw [stage] at stored
      exact live stored.not_running _ terminal
  | waitForCancellationResolution =>
      exact ⟨shown.invariant, fun terminal => (shown.stored terminal).after_resolution⟩
  | isCancellationConfirmed => exact ⟨shown.invariant, live required _⟩
  | store snapshot => exact ⟨required.1, fun _ => required.2.2.2⟩
  | isCancellationRequested => exact ⟨shown.invariant, shown.stored⟩
  | notifyStateChanged snapshot => exact ⟨shown.invariant, shown.stored⟩
  | _ => exact shown

/-- What holds at every moment of a run and its cancellation. -/
structure Coordinated (initial : OperationChainSnapshot) (history : ChainHistory)
    (state : CancellationRunState) : Prop where
  coordination : Coordination (.of initial history) state
  published : Published (.of initial history)

section Run

variable {initial : OperationChainSnapshot} {managerMayStop : Prop}
  {allowed : CancellationRunState → ChainEffect → Prop}

theorem Coordinated.act {history : ChainHistory} {state after : CancellationRunState}
    {effect : ChainEffect} {answer : effect.Answer}
    (coordinated : Coordinated initial history state)
    (required : EffectAllowed factoryDiscipline (.of initial history) effect)
    (performed : (cancellationSystem managerMayStop allowed).performs state effect answer after) :
    Coordinated initial (⟨effect, answer⟩ :: history) after := by
  obtain ⟨_, coordinator, answered, rfl⟩ := performed
  exact ⟨coordinated.coordination.act required answered, coordinated.published.after required⟩

theorem Coordinated.interfere {history : ChainHistory} {state after : CancellationRunState}
    (coordinated : Coordinated initial history state)
    (interfered : CancellationStep managerMayStop state after) :
    Coordinated initial history after :=
  ⟨coordinated.coordination.interfere interfered, coordinated.published⟩

/-- A built chain keeps to the discipline of its operations. -/
theorem OperationChainBuilder.build_executes {definition : OperationChainDefinition}
    {exchangers : List ExchangerType} {createdAt : OperationChainTimePoint}
    {chain : OperationChain} (built : build definition exchangers createdAt = .ok chain) :
    Coordinated chain.snapshot [] {} ∧
      Meets (executeContract factoryDiscipline chain.snapshot)
        (fun later _ => Exits (.of chain.snapshot later)) chain.execute [] := by
  obtain ⟨operations, created, kept⟩ := build_keeps built
  obtain ⟨unstarted, same, count, fresh⟩ := OperationChain.create_unstarted created
  refine ⟨⟨.initially _, unstarted.invariant, ?_⟩, ?_⟩
  · intro terminal
    change chain.snapshot.status.isTerminal = true at terminal
    rw [unstarted.status] at terminal
    cases terminal
  · apply OperationChain.meets_execute unstarted count fresh
    rw [same]
    exact kept

/-- An invariant of the chain worker and of what happens beside it. -/
theorem coordinated_guarantees (invariant : ChainHistory → CancellationRunState → Prop)
    (acts : ∀ {history state after effect} {answer : effect.Answer},
      Coordinated initial history state → invariant history state →
      EffectAllowed factoryDiscipline (.of initial history) effect →
      (cancellationSystem managerMayStop allowed).performs state effect answer after →
      invariant (⟨effect, answer⟩ :: history) after)
    (interferes : ∀ {history state after}, Coordinated initial history state →
      invariant history state → CancellationStep managerMayStop state after →
      invariant history after) :
    Guarantees (cancellationSystem managerMayStop allowed)
      (executeContract factoryDiscipline initial) (fun _ => True)
      (fun history state => Coordinated initial history state ∧ invariant history state) where
  covers_before_act _ _ := trivial
  covers_before_interference _ _ := trivial
  act held required performed _ :=
    ⟨trivial, held.1.act required performed, acts held.1 held.2 required performed⟩
  interfere held interfered _ := ⟨held.1.interfere interfered, interferes held.1 held.2 interfered⟩

end Run

/-! ## The agreement -/

/-- How a cancellation and its chain agree on the operation that was started last. -/
structure OutcomesAgree (trace : ChainTrace) (state : CancellationRunState) (ended : Prop) :
    Prop where
  cancelled_step : trace.published.status = .cancelled →
    (∃ step ∈ trace.published.steps, step.status = .cancelled) →
    ∀ action, registeredAction trace.stage.calls = some action →
      ConfirmedCancelled state.cancelReturns action
  confirmed_in_time : ∀ failure, trace.stage.outcome = some (.error failure) →
    failure ≠ .thrown .nonStandard → state.confirmedWhenEnded →
    state.coordinator.isCancellationResolved ∧ trace.published.status ≠ .failed ∧
      (ended → trace.published.status = .cancelled)
  completed_naturally : hasCompleted trace.stage.calls →
    state.coordinator.result ≠ .confirmedCancelled ∧ state.coordinator.result ≠ .failed ∧
      (∀ failure, trace.stage.outcome ≠ some (.error failure)) ∧
      trace.published.status ≠ .failed ∧
      ∀ step ∈ trace.published.steps, step.status ≠ .cancelled

theorem OperationStage.Fails.outcome {stage : OperationStage} (fails : stage.Fails) :
    ∃ failure, stage.outcome = some (.error (.thrown failure)) ∧
      (failure = .nonStandard ∨ stage.confirmation = some false) := by
  cases stage with
  | ended calls outcome resolved confirmed =>
      cases outcome with
      | ok result => exact fails.elim
      | error failure =>
          cases failure with
          | cancellationRequested what => exact fails.elim
          | thrown failure => exact ⟨failure, rfl, fails.1⟩
  | _ => exact fails.elim

theorem OperationStage.Cancels.outcome {stage : OperationStage} (cancels : stage.Cancels) :
    (∃ what, stage.outcome = some (.error (.cancellationRequested what))) ∨
      (∃ failure, stage.outcome = some (.error (.thrown failure))) ∧
        stage.confirmation = some true := by
  cases stage with
  | ended calls outcome resolved confirmed =>
      cases outcome with
      | ok result => exact cancels.elim
      | error failure =>
          cases failure with
          | cancellationRequested what => exact .inl ⟨what, rfl⟩
          | thrown failure => exact .inr ⟨⟨failure, rfl⟩, cancels.1⟩
  | _ => exact cancels.elim

theorem OperationStage.Settled.outcome {stage : OperationStage} (settled : stage.Settled)
    (failure : OperationFailure) : stage.outcome ≠ some (.error failure) := by
  intro failed
  cases stage with
  | ended calls outcome resolved confirmed =>
      cases outcome with
      | ok result => cases failed
      | error failure => exact settled
  | _ => cases failed

section Agreement

variable {trace : ChainTrace} {state : CancellationRunState}

theorem Coordination.failed_uncompleted (held : Coordination trace state)
    {failure : OperationFailure} (failed : trace.stage.outcome = some (.error failure)) :
    hasCompleted trace.stage.calls = false := by
  have ending := held.ending _ failed
  cases failure with
  | cancellationRequested what => exact ending.2
  | thrown failure => exact ending

/-- A step is cancelled only with its operation, unfilled or unplaced. -/
theorem Coordination.cancels (held : Coordination trace state) (cancels : trace.stage.Cancels) :
    hasCompleted trace.stage.calls = false ∧
      ∀ action, registeredAction trace.stage.calls = some action →
        ConfirmedCancelled state.cancelReturns action := by
  obtain ⟨what, failed⟩ | ⟨⟨failure, failed⟩, confirmed⟩ := cancels.outcome
  · have ending := held.ending _ failed
    refine ⟨ending.2, fun action registered => ?_⟩
    cases ending.1.symm.trans registered
  · refine ⟨held.failed_uncompleted failed, fun action registered => ?_⟩
    obtain ⟨_, confirmedAction, holding, cancelled⟩ := held.confirmed_answer confirmed
    cases registered.symm.trans (held.held confirmedAction holding).1
    exact cancelled

theorem Published.cancelled_step (shown : Published trace) {step : OperationStepSnapshot}
    (member : step ∈ trace.published.steps) (cancelled : step.status = .cancelled) :
    trace.stage.Cancels := by
  have status := shown.invariant.cancelled_of_step step member cancelled
  have stored := shown.stored (by rw [status]; rfl)
  exact (stored.cancelled status).resolve_right fun between => between.2 step member cancelled

theorem Published.failed (shown : Published trace) (failed : trace.published.status = .failed) :
    trace.stage.Fails :=
  (shown.stored (by rw [failed]; rfl)).failed failed

theorem Coordination.agree {ended : Prop} (held : Coordination trace state)
    (shown : Published trace) (exits : ended → trace.published.status.isTerminal) :
    OutcomesAgree trace state ended where
  cancelled_step := by
    rintro _ ⟨step, member, cancelled⟩
    exact (held.cancels (shown.cancelled_step member cancelled)).2
  confirmed_in_time := by
    intro failure failed standard kept
    have confirmed := held.confirmed_kept (by rw [failed]; rfl) kept
    have unfailed : trace.published.status ≠ .failed := by
      intro status
      obtain ⟨thrown, same, cause⟩ := (shown.failed status).outcome
      rcases cause with rfl | unconfirmed
      · cases failed.symm.trans same
        exact standard rfl
      · rw [held.unconfirmed_answer unconfirmed] at kept
        cases kept
    refine ⟨by simp [isCancellationResolved, confirmed], unfailed, fun isEnded => ?_⟩
    have terminal := exits isEnded
    cases status : trace.published.status with
    | cancelled => rfl
    | failed => exact absurd status unfailed
    | completed => exact absurd failed (((shown.stored terminal).completed status).outcome failure)
    | pending => simp [status, OperationChainStatus.isTerminal] at terminal
    | running => simp [status, OperationChainStatus.isTerminal] at terminal
  completed_naturally := by
    intro completed
    refine ⟨fun confirmed => ?_, fun failed => ?_, fun failure failed => ?_, fun status => ?_,
      fun step member cancelled => ?_⟩
    · rw [(held.confirmed_result confirmed).2.1] at completed
      cases completed
    · rw [(held.failed_result failed).2] at completed
      cases completed
    · rw [held.failed_uncompleted failed] at completed
      cases completed
    · obtain ⟨thrown, failed, _⟩ := (shown.failed status).outcome
      rw [held.failed_uncompleted failed] at completed
      cases completed
    · rw [(held.cancels (shown.cancelled_step member cancelled)).1] at completed
      cases completed

theorem Exits.concluded (held : Coordination trace state) (exits : Exits trace) :
    Concluded trace := exits.resolve_left held.accepted

end Agreement

/-- A built chain and its cancellation, in any interleaving. -/
theorem cancellation_outcome_agrees {definition : OperationChainDefinition}
    {exchangers : List ExchangerType} {createdAt : OperationChainTimePoint} {chain : OperationChain}
    {managerMayStop : Prop} {history : ChainHistory} {state : CancellationRunState}
    {current : ChainProgram Unit}
    (built : OperationChainBuilder.build definition exchangers createdAt = .ok chain)
    (run : SharedRun (cancellationSystem managerMayStop fun _ _ => True) {} chain.execute
      history state current) :
    OutcomesAgree (.of chain.snapshot history) state (∃ outcome, current = .ofExcept outcome) := by
  obtain ⟨initially, met⟩ := OperationChainBuilder.build_executes built
  obtain ⟨reached, coordinated, _⟩ := run.meets
    (coordinated_guarantees (fun _ _ => True) (fun _ _ _ _ => trivial) fun _ _ _ => trivial)
    ⟨initially, trivial⟩ met trivial
  apply coordinated.coordination.agree coordinated.published
  rintro ⟨outcome, rfl⟩
  rw [meets_of_except] at reached
  exact (reached.concluded coordinated.coordination).terminal

section Example

deriving instance DecidableEq for CancellationWorker

/-- An exchange that accepts a purchase and answers its wait, at moments of its choice. -/
structure ScriptedExchange where
  buys : OperationCancellationCoordinator → Option (Except ServiceFailure OrderInfo)
  waits : OperationCancellationCoordinator → StopSource → Option (Except ServiceFailure OrderInfo)

/-- The chain worker's next step, unless the exchange has no answer yet. -/
def ScriptedExchange.answer (exchange : ScriptedExchange)
    (coordinator : OperationCancellationCoordinator) :
    (effect : ChainEffect) → Option (effect.Answer × OperationCancellationCoordinator)
  | .call .isCancellationRequested => some (coordinator.cancellationRequested, coordinator)
  | .call (.register action) =>
      match coordinator.register action with
      | .ok after => some (.ok (), after)
      | .error refusal => some (.error refusal, coordinator)
  | .call .getWaitStopToken => some (coordinator.waitStopSource, coordinator)
  | .call .completeActionNaturally => some ((), coordinator.completeActionNaturally)
  | .call (.buyCrypto _ _ _ _) => (exchange.buys coordinator).map (·, coordinator)
  | .call (.waitUntilOrderFilled _ _ _ token) =>
      (exchange.waits coordinator token).map (·, coordinator)
  | .call _ => none
  | .isCancellationRequested => some (coordinator.cancellationRequested, coordinator)
  | .startOperation canRegisterAction =>
      match coordinator.startOperation canRegisterAction with
      | .ok after => some (.ok (), after)
      | .error refusal => some (.error refusal, coordinator)
  | .finishOperation _ => some ((), coordinator.finishOperation)
  | .finishChain => some ((), coordinator.finishChain)
  | .waitForCancellationResolution =>
      if coordinator.isCancellationResolved then some ((), coordinator) else none
  | .isCancellationConfirmed => some (coordinator.isCancellationConfirmed, coordinator)
  | .hasCancellationFailed => some (coordinator.hasCancellationFailed, coordinator)
  | .getCancellationFailure => some (coordinator.failure, coordinator)
  | .clock => some ((1 : ℤ), coordinator)
  | .store _ => some ((), coordinator)
  | .notifyStateChanged _ => some ((), coordinator)

def ScriptedExchange.perform (exchange : ScriptedExchange) (state : CancellationRunState)
    (effect : ChainEffect) : Option (effect.Answer × CancellationRunState) :=
  (exchange.answer state.coordinator effect).map fun step =>
    (step.1, state.advance effect step.2)

theorem ScriptedExchange.answers {exchange : ScriptedExchange}
    {coordinator after : OperationCancellationCoordinator} {effect : ChainEffect}
    {answer : effect.Answer}
    (answered : exchange.answer coordinator effect = some (answer, after)) :
    coordinator.Answers effect answer after := by
  cases effect with
  | call asked =>
      cases asked with
      | register action =>
          simp only [ScriptedExchange.answer] at answered
          split at answered
          · cases answered
            assumption
          · cases answered
            exact ⟨by assumption, rfl⟩
      | buyCrypto service outAsset inAsset quantity =>
          obtain ⟨_, _, same⟩ := Option.map_eq_some_iff.1 answered
          cases same
          rfl
      | waitUntilOrderFilled service symbol orderId token =>
          obtain ⟨_, _, same⟩ := Option.map_eq_some_iff.1 answered
          cases same
          rfl
      | isCancellationRequested =>
          cases answered
          exact ⟨rfl, rfl⟩
      | getWaitStopToken =>
          cases answered
          exact ⟨rfl, rfl⟩
      | completeActionNaturally =>
          cases answered
          rfl
      | _ => cases answered
  | startOperation canRegisterAction =>
      simp only [ScriptedExchange.answer] at answered
      split at answered
      · cases answered
        assumption
      · cases answered
        exact ⟨by assumption, rfl⟩
  | waitForCancellationResolution =>
      simp only [ScriptedExchange.answer] at answered
      split_ifs at answered with resolved
      cases answered
      exact ⟨resolved, rfl⟩
  | isCancellationRequested =>
      cases answered
      exact ⟨rfl, rfl⟩
  | isCancellationConfirmed =>
      cases answered
      exact ⟨rfl, rfl⟩
  | hasCancellationFailed =>
      cases answered
      exact ⟨rfl, rfl⟩
  | getCancellationFailure =>
      cases answered
      exact ⟨rfl, rfl⟩
  | _ =>
      cases answered
      rfl

theorem ScriptedExchange.performs {exchange : ScriptedExchange} {managerMayStop : Prop}
    {state : CancellationRunState} {effect : ChainEffect} {answer : effect.Answer}
    {after : CancellationRunState}
    (performed : exchange.perform state effect = some (answer, after)) :
    (cancellationSystem managerMayStop fun _ _ => True).performs state effect answer after := by
  obtain ⟨⟨_, coordinator⟩, answered, same⟩ := Option.map_eq_some_iff.1 performed
  cases same
  exact ⟨trivial, coordinator, ScriptedExchange.answers answered, rfl⟩

def bitcoinOrder : OrderInfo := { symbol := "BTCUSDT", orderId := "7" }

def cancelledBitcoinOrder : OrderInfo := { bitcoinOrder with status := "CANCELED" }

/-- The purchase is accepted, and its wait lasts until it is stopped. -/
def patientExchange : ScriptedExchange where
  buys _ := some (.ok bitcoinOrder)
  waits coordinator token :=
    if token ∈ coordinator.stoppedSources then some (.error (.interrupted "Order wait stopped"))
    else none

theorem buy_bitcoin_built : OperationChainBuilder.build buyBitcoin [.binance] 0 =
    .ok buyBitcoinChain := rfl

/-- The exchange confirms the cancellation of the purchase, which stops the wait. -/
theorem confirmed_purchase_is_cancelled :
    ∃ history state current, SharedRun (cancellationSystem False fun _ _ => True) {}
        buyBitcoinChain.execute history state current ∧
      (ChainTrace.of buyBitcoinChain.snapshot history).published.steps.map (·.status) =
        [.cancelled] ∧
      ConfirmedCancelled state.cancelReturns (.ordinary .binance bitcoinOrder) := by
  have bought := SharedRun.run_alone (@patientExchange.performs False)
    (.start : SharedRun _ {} buyBitcoinChain.execute _ _ _)
  have requested := bought.interfere .request
  have starting := requested.interfere (.startWorker rfl (by decide +kernel))
  have captured := starting.interfere (.enter rfl)
  have calling := captured.interfere
    (@CancellationStep.call _ _ (.ordinary .binance bitcoinOrder) (by decide +kernel))
  have returned := calling.interfere
    (@CancellationStep.answer _ _ (.ordinary .binance bitcoinOrder) cancelledBitcoinOrder rfl)
  have recorded := returned.interfere (.record rfl)
  have stopped := recorded.interfere
    (@CancellationStep.requestStop _ _ (.ordinary .binance bitcoinOrder) 1 (by decide +kernel))
  have cancelled := SharedRun.run_alone (@patientExchange.performs False) stopped
  have agrees := cancellation_outcome_agrees buy_bitcoin_built cancelled
  exact ⟨_, _, _, cancelled, by decide +kernel, agrees.cancelled_step (by decide +kernel)
    (by decide +kernel) _ (by decide +kernel)⟩

end Example

end CryptoDeal
