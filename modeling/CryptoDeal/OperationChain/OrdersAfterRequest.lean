import CryptoDeal.OperationChain.CancellationOutcome

/-!
# Orders after a cancellation request

Only an operation that had passed its own check when the cancellation was
requested still places its order; no operation that is started later does, and
none is started once an order was placed so.
-/

namespace CryptoDeal

open DealService Interaction OperationCancellationCoordinator

def ChainEffect.placesOrder : ChainEffect → Bool
  | .call asked => asked.placesOrder
  | _ => false

def ChainEffect.startsOperation : ChainEffect → Bool
  | .startOperation _ => true
  | _ => false

/-- How many orders the chain worker sent to an exchange. -/
def ordersIn (history : ChainHistory) : ℕ := history.countP fun event => event.1.placesOrder

def startsIn (history : ChainHistory) : ℕ := history.countP fun event => event.1.startsOperation

/-- What the chain worker did after a request, which it received at this trace. -/
structure NoNewOrders (requested : ChainTrace) (later : ChainHistory) : Prop where
  at_most_one : ordersIn later ≤ 1
  already_checked : ordersIn later ≠ 0 →
    requested.stage = .running checkedOnly ∧ startsIn later = 0

/-! ## What a request changes -/

/-- A step beside the chain worker that is no request. -/
structure Unrequested (state after : CancellationRunState) : Prop where
  cancellationRequested :
    after.coordinator.cancellationRequested = state.coordinator.cancellationRequested
  requestedWith : after.requestedWith = state.requestedWith
  requestedAt : after.requestedAt = state.requestedAt
  performed : after.performed = state.performed

theorem record_changes (coordinator : OperationCancellationCoordinator) (verdict : Verdict) :
    ∃ result failure, (coordinator.record verdict).1 = { coordinator with result, failure } := by
  cases verdict with
  | naturalCompletion => exact ⟨_, _, rfl⟩
  | interrupted => exact ⟨_, _, rfl⟩
  | confirmedCancellation =>
      rw [record]
      split_ifs <;> exact ⟨_, _, rfl⟩
  | cancellationFailure error =>
      rw [record]
      split_ifs <;> exact ⟨_, _, rfl⟩

theorem CancellationStep.request_or {managerMayStop : Prop} {state after : CancellationRunState}
    (step : CancellationStep managerMayStop state after) :
    after = state.request ∨ Unrequested state after := by
  cases step with
  | request => exact .inl rfl
  | @record _ verdict returned =>
      obtain ⟨result, failure, same⟩ := record_changes state.coordinator verdict
      exact .inr ⟨by rw [same], rfl, rfl, rfl⟩
  | _ => exact .inr ⟨rfl, rfl, rfl, rfl⟩

/-- The chain worker withdraws no request and leaves the cancellation worker's flag alone. -/
theorem OperationCancellationCoordinator.Answers.keeps
    {coordinator after : OperationCancellationCoordinator} {effect : ChainEffect}
    {answer : effect.Answer} (answered : coordinator.Answers effect answer after) :
    after.cancellationRequested = coordinator.cancellationRequested ∧
      after.cancellationWorkerRunning = coordinator.cancellationWorkerRunning := by
  cases effect with
  | call asked =>
      cases asked with
      | register action =>
          cases answer with
          | ok registered =>
              obtain ⟨_, rfl⟩ := register_ok answered
              exact ⟨rfl, rfl⟩
          | error failure =>
              rw [answered.2]
              exact ⟨rfl, rfl⟩
      | completeActionNaturally =>
          rw [show after = coordinator.completeActionNaturally from answered,
            completeActionNaturally]
          split_ifs <;> exact ⟨rfl, rfl⟩
      | _ =>
          rw [Coordination.answers_unchanged rfl rfl answered]
          exact ⟨rfl, rfl⟩
  | startOperation canRegisterAction =>
      cases answer with
      | ok started =>
          obtain ⟨_, _, last⟩ := except_bind_ok.1 answered
          cases last
          exact ⟨rfl, rfl⟩
      | error failure =>
          rw [answered.2]
          exact ⟨rfl, rfl⟩
  | finishOperation outcome =>
      rw [show after = coordinator.finishOperation from answered]
      exact ⟨rfl, rfl⟩
  | finishChain =>
      rw [show after = coordinator.finishChain from answered]
      exact ⟨rfl, rfl⟩
  | clock | store | notifyStateChanged =>
      rw [show after = coordinator from answered]
      exact ⟨rfl, rfl⟩
  | _ =>
      rw [answered.2]
      exact ⟨rfl, rfl⟩

/-! ## One step after a request -/

section Step

variable {trace : ChainTrace} {state : CancellationRunState} {effect : ChainEffect}
  {answer : effect.Answer} {after : OperationCancellationCoordinator}

/-- No check of an operation answers that nothing was requested. -/
theorem unchecked_call {asked : OperationCall} {answer : asked.Answer} {calls : CallHistory}
    (requested : state.coordinator.cancellationRequested)
    (answered : state.coordinator.Answers (.call asked) answer after) :
    (⟨asked, answer⟩ :: calls : CallHistory) ≠ checkedOnly := by
  intro same
  cases same
  rw [← answered.1] at requested
  cases requested

theorem order_call_checked (required : EffectAllowed factoryDiscipline trace effect)
    (places : effect.placesOrder) : trace.stage = .running checkedOnly := by
  cases effect with
  | call asked =>
      obtain ⟨calls, stage, allowed⟩ := required
      rw [stage]
      cases asked with
      | buyCrypto service outAsset inAsset quantity => rw [show calls = checkedOnly from allowed]
      | sellCrypto service inAsset outAsset quantity => rw [show calls = checkedOnly from allowed]
      | placeOrder service request => rw [show calls = checkedOnly from allowed]
      | placeOco service request => rw [show calls = checkedOnly from allowed]
      | _ => cases places
  | _ => cases places

/-- An operation that has passed only its check passed it before the request. -/
theorem checked_before (requested : state.coordinator.cancellationRequested)
    (required : EffectAllowed factoryDiscipline trace effect)
    (answered : state.coordinator.Answers effect answer after)
    (checked : (trace.after effect answer).stage = .running checkedOnly) :
    trace.stage = .running checkedOnly := by
  cases effect with
  | call asked =>
      obtain ⟨calls, stage, _⟩ := required
      rw [ChainTrace.after, stage] at checked
      injection checked with same
      exact absurd same (unchecked_call requested answered)
  | startOperation canRegisterAction => cases answer <;> cases checked
  | finishOperation outcome => cases checked
  | waitForCancellationResolution =>
      cases stage : trace.stage with
      | running calls =>
          rw [ChainTrace.after, stage] at checked
          exact checked
      | _ =>
          rw [ChainTrace.after, stage] at checked
          cases checked
  | isCancellationConfirmed =>
      cases stage : trace.stage with
      | running calls =>
          rw [ChainTrace.after, stage] at checked
          exact checked
      | _ =>
          rw [ChainTrace.after, stage] at checked
          cases checked
  | _ => exact checked

/-- No operation is started before the next poll. -/
theorem unstarted_of_uncleared (uncleared : trace.stage.isRunning ∨ trace.cleared = false)
    (required : EffectAllowed factoryDiscipline trace effect) :
    effect.startsOperation = false := by
  cases effect with
  | startOperation canRegisterAction =>
      rcases uncleared with running | uncleared
      · rw [required.2.1.not_running] at running
        cases running
      · rw [required.1] at uncleared
        cases uncleared
  | _ => rfl

/-- A poll after a request clears nothing. -/
theorem uncleared_after (requested : state.coordinator.cancellationRequested)
    (required : EffectAllowed factoryDiscipline trace effect)
    (answered : state.coordinator.Answers effect answer after)
    (uncleared : trace.stage.isRunning ∨ trace.cleared = false) :
    (trace.after effect answer).stage.isRunning ∨ (trace.after effect answer).cleared = false := by
  have unstarted := unstarted_of_uncleared uncleared required
  cases effect with
  | call asked =>
      obtain ⟨calls, stage, _⟩ := required
      rw [ChainTrace.after, stage]
      exact .inl rfl
  | isCancellationRequested =>
      refine .inr ?_
      show (!answer) = false
      rw [answered.1, requested]
      rfl
  | startOperation canRegisterAction => cases unstarted
  | finishOperation outcome => exact .inr rfl
  | waitForCancellationResolution =>
      refine uncleared.imp_left fun running => ?_
      rw [ChainTrace.after, ChainTrace.withStage, OperationStage.after_resolution_running]
      exact running
  | isCancellationConfirmed =>
      refine uncleared.imp_left fun running => ?_
      rw [ChainTrace.after, ChainTrace.withStage, OperationStage.after_confirmation_running]
      exact running
  | _ => exact uncleared

/-- No order and no start is to come. -/
structure OrdersClosed (trace : ChainTrace) : Prop where
  unchecked : trace.stage ≠ .running checkedOnly
  uncleared : trace.stage.isRunning ∨ trace.cleared = false

theorem OrdersClosed.unplaced (closed : OrdersClosed trace)
    (required : EffectAllowed factoryDiscipline trace effect) : effect.placesOrder = false := by
  by_contra places
  exact closed.unchecked (order_call_checked required (eq_true_of_ne_false places))

theorem OrdersClosed.act (closed : OrdersClosed trace)
    (requested : state.coordinator.cancellationRequested)
    (required : EffectAllowed factoryDiscipline trace effect)
    (answered : state.coordinator.Answers effect answer after) :
    OrdersClosed (trace.after effect answer) where
  unchecked checked := closed.unchecked (checked_before requested required answered checked)
  uncleared := uncleared_after requested required answered closed.uncleared

/-- What the chain worker has done since a request. -/
inductive SinceRequest (requested : ChainTrace) (later : ChainHistory) (now : ChainTrace) :
    Prop where
  | quiet (unplaced : ordersIn later = 0) (unstarted : startsIn later = 0)
      (kept : now.stage = .running checkedOnly → requested.stage = .running checkedOnly)
  | placed (single : ordersIn later = 1) (unstarted : startsIn later = 0)
      (checked : requested.stage = .running checkedOnly) (closed : OrdersClosed now)
  | started (unplaced : ordersIn later = 0) (closed : OrdersClosed now)

theorem orders_in_cons {later : ChainHistory} (unplaced : effect.placesOrder = false) :
    ordersIn (⟨effect, answer⟩ :: later) = ordersIn later := by
  simp [ordersIn, unplaced]

theorem starts_in_cons {later : ChainHistory} (unstarted : effect.startsOperation = false) :
    startsIn (⟨effect, answer⟩ :: later) = startsIn later := by
  simp [startsIn, unstarted]

theorem SinceRequest.act {before : ChainTrace} {later : ChainHistory}
    (since : SinceRequest before later trace) (held : Coordination trace state)
    (requested : state.coordinator.cancellationRequested)
    (required : EffectAllowed factoryDiscipline trace effect)
    (answered : state.coordinator.Answers effect answer after) :
    SinceRequest before (⟨effect, answer⟩ :: later) (trace.after effect answer) := by
  cases since with
  | placed single unstarted checked closed =>
      apply SinceRequest.placed _ _ checked (closed.act requested required answered)
      · rw [orders_in_cons (closed.unplaced required), single]
      · rw [starts_in_cons (unstarted_of_uncleared closed.uncleared required), unstarted]
  | started unplaced closed =>
      apply SinceRequest.started _ (closed.act requested required answered)
      rw [orders_in_cons (closed.unplaced required), unplaced]
  | quiet unplaced unstarted kept =>
      by_cases places : effect.placesOrder = true
      · have checked := order_call_checked required places
        have uncalled : effect.startsOperation = false := by
          cases effect with
          | call asked => rfl
          | _ => cases places
        refine .placed ?single ?unstarted (kept checked) ?closed
        case closed =>
          refine ⟨fun still => ?_, uncleared_after requested required answered ?_⟩
          · cases effect with
            | call asked =>
                rw [ChainTrace.after, checked] at still
                injection still with same
                exact unchecked_call requested answered same
            | _ => cases places
          · rw [checked]
            exact .inl rfl
        case single => simpa [ordersIn, places] using unplaced
        case unstarted => rw [starts_in_cons uncalled, unstarted]
      · rw [Bool.not_eq_true] at places
        by_cases starts : effect.startsOperation = true
        · apply SinceRequest.started (by rw [orders_in_cons places, unplaced])
          cases effect with
          | startOperation canRegisterAction =>
              cases answer with
              | ok started =>
                  refine ⟨fun same => ?_, .inl rfl⟩
                  injection same with same
                  cases same
              | error failure =>
                  have active := start_operation_refused answered.1
                  rw [held.active, required.2.1.not_running] at active
                  cases active
          | _ => cases starts
        · rw [Bool.not_eq_true] at starts
          apply SinceRequest.quiet
          · rw [orders_in_cons places, unplaced]
          · rw [starts_in_cons starts, unstarted]
          · exact fun checked => kept (checked_before requested required answered checked)

theorem SinceRequest.no_new_orders {before : ChainTrace} {later : ChainHistory}
    (since : SinceRequest before later trace) : NoNewOrders before later := by
  cases since with
  | quiet unplaced _ _ => exact ⟨by omega, fun some => absurd unplaced some⟩
  | placed single unstarted checked _ => exact ⟨by omega, fun _ => ⟨checked, unstarted⟩⟩
  | started unplaced _ => exact ⟨by omega, fun some => absurd unplaced some⟩

end Step

/-! ## A whole run -/

/-- The request is where the history says. -/
structure RequestNoted (initial : OperationChainSnapshot) (history : ChainHistory)
    (state : CancellationRunState) : Prop where
  performed : state.performed = history.length
  since : ∀ count, state.requestedAt = some count →
    state.coordinator.cancellationRequested ∧
      ∃ later earlier, history = later ++ earlier ∧ earlier.length = count ∧
        SinceRequest (.of initial earlier) later (.of initial history)

section Run

variable {initial : OperationChainSnapshot} {history : ChainHistory}
  {state : CancellationRunState} {managerMayStop : Prop}

theorem RequestNoted.act {effect : ChainEffect} {answer : effect.Answer}
    {coordinator : OperationCancellationCoordinator} (noted : RequestNoted initial history state)
    (held : Coordination (.of initial history) state)
    (required : EffectAllowed factoryDiscipline (.of initial history) effect)
    (answered : state.coordinator.Answers effect answer coordinator) :
    RequestNoted initial (⟨effect, answer⟩ :: history) (state.advance effect coordinator) where
  performed := congrArg (· + 1) noted.performed
  since := by
    intro count same
    obtain ⟨requested, later, earlier, rfl, length, since⟩ := noted.since count same
    refine ⟨answered.keeps.1.trans requested, ⟨effect, answer⟩ :: later, earlier, rfl, length, ?_⟩
    exact since.act held requested required answered

theorem RequestNoted.interfere {after : CancellationRunState}
    (noted : RequestNoted initial history state)
    (step : CancellationStep managerMayStop state after) : RequestNoted initial history after := by
  rcases step.request_or with rfl | other
  · refine ⟨noted.performed, fun count same => ⟨rfl, ?_⟩⟩
    cases before : state.requestedAt with
    | some earlier =>
        simp only [CancellationRunState.request, CancellationRunState.noteRequested, before,
          Option.some_or] at same
        cases same
        exact (noted.since _ before).2
    | none =>
        simp only [CancellationRunState.request, CancellationRunState.noteRequested, before,
          Option.none_or] at same
        cases same
        exact ⟨[], history, rfl, noted.performed.symm, .quiet rfl rfl id⟩
  · refine ⟨other.performed.trans noted.performed, fun count same => ?_⟩
    rw [other.cancellationRequested]
    exact noted.since count (other.requestedAt.symm.trans same)

end Run

/-- How a chain may end. It fails only if its operation threw something else than the obedience to
a request, and no cancellation of that operation was confirmed. -/
inductive EndsFor (trace : ChainTrace) : Prop where
  | cancelled (status : trace.published.status = .cancelled)
  | completed (status : trace.published.status = .completed)
      (succeeded : ∀ step ∈ trace.published.steps, step.status = .succeeded)
  | failed (status : trace.published.status = .failed) (failure : ServiceFailure)
      (thrown : trace.stage.outcome = some (.error (.thrown failure)))
      (unconfirmed : trace.stage.Fails)

theorem Concluded.ends_for {trace : ChainTrace} (concluded : Concluded trace) : EndsFor trace := by
  cases status : trace.published.status with
  | cancelled => exact .cancelled status
  | completed => exact .completed status (concluded.invariant.completed_iff.1 status).1
  | failed =>
      have fails := concluded.stored.failed status
      obtain ⟨failure, thrown, _⟩ := fails.outcome
      exact .failed status failure thrown fails
  | pending =>
      have terminal := concluded.terminal
      rw [status] at terminal
      cases terminal
  | running =>
      have terminal := concluded.terminal
      rw [status] at terminal
      cases terminal

/-- A built chain of any definition, cancelled at any moment. -/
theorem no_order_after_request {definition : OperationChainDefinition}
    {exchangers : List ExchangerType} {createdAt : OperationChainTimePoint} {chain : OperationChain}
    {managerMayStop : Prop} {history : ChainHistory} {state : CancellationRunState}
    {current : ChainProgram Unit}
    (built : OperationChainBuilder.build definition exchangers createdAt = .ok chain)
    (run : SharedRun (cancellationSystem managerMayStop fun _ _ => True) {} chain.execute
      history state current) :
    (∀ count, state.requestedAt = some count →
      ∃ later earlier, history = later ++ earlier ∧ earlier.length = count ∧
        NoNewOrders (.of chain.snapshot earlier) later) ∧
      ∀ outcome, current = .ofExcept outcome → EndsFor (.of chain.snapshot history) := by
  obtain ⟨initially, met⟩ := OperationChainBuilder.build_executes built
  have acts : ∀ {history state after effect} {answer : ChainEffect.Answer effect},
      Coordinated chain.snapshot history state → RequestNoted chain.snapshot history state →
      EffectAllowed factoryDiscipline (.of chain.snapshot history) effect →
      (cancellationSystem managerMayStop fun _ _ => True).performs state effect answer after →
      RequestNoted chain.snapshot (⟨effect, answer⟩ :: history) after := by
    rintro history state after effect answer held noted required ⟨_, coordinator, answered, rfl⟩
    exact noted.act held.coordination required answered
  obtain ⟨reached, coordinated, noted⟩ := run.meets
    (coordinated_guarantees (RequestNoted chain.snapshot) acts fun _ noted step =>
      noted.interfere step)
    ⟨initially, rfl, fun _ same => by cases same⟩ met trivial
  refine ⟨fun count same => ?_, ?_⟩
  · obtain ⟨_, later, earlier, split, length, since⟩ := noted.since count same
    exact ⟨later, earlier, split, length, since.no_new_orders⟩
  · rintro outcome rfl
    rw [meets_of_except] at reached
    exact (reached.concluded coordinated.coordination).ends_for

section Example

/-- The purchase is sent only once a cancellation is requested. -/
def lateExchange : ScriptedExchange where
  buys coordinator := if coordinator.cancellationRequested then some (.ok bitcoinOrder) else none
  waits _ _ := some (.ok { bitcoinOrder with status := "FILLED" })

/-- The operation has passed its check when the cancellation is requested. -/
theorem checked_purchase_is_sent :
    ∃ history state current count later earlier,
      SharedRun (cancellationSystem False fun _ _ => True) {} buyBitcoinChain.execute
        history state current ∧
      state.requestedAt = some count ∧ history = later ++ earlier ∧ ordersIn history = 1 ∧
      NoNewOrders (.of buyBitcoinChain.snapshot earlier) later := by
  have checked := SharedRun.run_alone (@lateExchange.performs False)
    (.start : SharedRun _ {} buyBitcoinChain.execute _ _ _)
  have bought := SharedRun.run_alone (@lateExchange.performs False) (checked.interfere .request)
  obtain ⟨later, earlier, split, _, orders⟩ :=
    (no_order_after_request buy_bitcoin_built bought).1 10 (by decide +kernel)
  exact ⟨_, _, _, 10, later, earlier, bought, by decide +kernel, split, by decide +kernel, orders⟩

end Example

end CryptoDeal
