import CryptoDeal.OperationChain.OrdersAfterRequest

/-!
# A requested cancellation is attempted

The end of an operation takes its registered action back. A cancellation worker
that has not looked at the record by then never attempts the cancellation, and
the chain waits for no worker that has not announced itself. One that holds the
action is waited for, but only after a failure that is no interruption.
-/

namespace CryptoDeal

open DealService Interaction OperationCancellationCoordinator

/-- A chain that failed or was cancelled tried to cancel the action that was
registered when the cancellation was requested, unless that completed naturally. -/
def CancellationAttempted (trace : ChainTrace) (state : CancellationRunState) : Prop :=
  trace.published.status = .failed ∨ trace.published.status = .cancelled →
    ∀ action, state.requestedWith = some action → hasCompleted trace.stage.calls = false →
      action.cancelCall ∈ state.cancelCalls

/-- The cancellation worker has captured the action, and if it has only just captured
it the operation ends with a failure after which the chain waits. -/
def EndsAttended (state : CancellationRunState) : ChainEffect → Prop
  | .finishOperation outcome =>
      state.coordinator.cancellationRequested →
      ∀ action, state.coordinator.currentAction = some action →
        state.worker.action = some action ∧
          (state.worker = .captured action → ∃ what, outcome = .error (.thrown (.runtime what)))
  | _ => True

namespace CancellationWorker

/-- The worker is inside `cancelCurrentOperation`. -/
def isRunning : CancellationWorker → Bool
  | notStarted | starting | done _ => false
  | _ => true

end CancellationWorker

/-- The catch branch has still to wait for the resolution. -/
def OperationStage.AwaitsResolution : OperationStage → Prop
  | ended _ (.error (.thrown (.runtime _))) resolved _ => resolved = false
  | _ => False

/-! ## The cancellation worker -/

section Worker

variable {managerMayStop : Prop} {state after : CancellationRunState} {action : OrderAction}

theorem CancellationStep.calls_kept (step : CancellationStep managerMayStop state after) :
    state.cancelCalls ⊆ after.cancelCalls := by
  cases step with
  | call captured => exact fun _ member => List.mem_cons_of_mem _ member
  | _ => exact fun _ member => member

/-- The worker calls for the action it captured before it does anything else. -/
theorem CancellationStep.calls_captured (step : CancellationStep managerMayStop state after)
    (captured : state.worker = .captured action) :
    action.cancelCall ∈ after.cancelCalls ∨ after.worker = .captured action := by
  cases step with
  | request => exact .inr captured
  | stopWorker stops started => exact .inr captured
  | call holds =>
      cases captured.symm.trans holds
      exact .inl List.mem_cons_self
  | startWorker requested unstarted => cases captured.symm.trans unstarted
  | enter starting => cases captured.symm.trans starting
  | wake waiting => cases captured.symm.trans waiting
  | throw failure calling => cases captured.symm.trans calling
  | answer terminal calling => cases captured.symm.trans calling
  | record returned => cases captured.symm.trans returned
  | requestStop stopping => cases captured.symm.trans stopping
  | finish finishing => cases captured.symm.trans finishing

theorem CancellationStep.announced (step : CancellationStep managerMayStop state after)
    (announced : state.worker.isRunning → state.coordinator.cancellationWorkerRunning)
    (running : after.worker.isRunning) : after.coordinator.cancellationWorkerRunning := by
  cases step with
  | request => exact announced running
  | startWorker requested unstarted => cases running
  | enter starting => rfl
  | wake waiting => exact announced (by rw [waiting]; rfl)
  | call captured => exact announced (by rw [captured]; rfl)
  | throw failure calling => exact announced (by rw [calling]; rfl)
  | answer terminal calling => exact announced (by rw [calling]; rfl)
  | @record _ verdict returned =>
      obtain ⟨result, failure, same⟩ := record_changes state.coordinator verdict
      rw [same]
      exact announced (by rw [returned]; rfl)
  | requestStop stopping => exact announced (by rw [stopping]; rfl)
  | finish finishing => cases running
  | stopWorker stops started => exact announced running

/-- The worker calls for an action as soon as it leaves the place of the capture. -/
theorem CancellationStep.called (step : CancellationStep managerMayStop state after)
    (called : ∀ action, state.worker.action = some action →
      state.worker = .captured action ∨ action.cancelCall ∈ state.cancelCalls)
    (holds : after.worker.action = some action) :
    after.worker = .captured action ∨ action.cancelCall ∈ after.cancelCalls := by
  have past : ∀ held, state.worker.action = some held →
      (∀ other, state.worker ≠ .captured other) → held.cancelCall ∈ state.cancelCalls :=
    fun held same passed => (called held same).resolve_left (passed held)
  have looked : ∀ stopRequested,
      (CancellationWorker.look state.coordinator stopRequested).action = some action →
        CancellationWorker.look state.coordinator stopRequested = .captured action := by
    intro stopRequested same
    rcases Coordination.look_cases state.coordinator stopRequested with
      found | found | ⟨captured, found, _⟩
    · rw [found] at same
      cases same
    · rw [found] at same
      cases same
    · rw [found] at same ⊢
      cases same
      rfl
  cases step with
  | request => exact called action holds
  | startWorker requested unstarted => cases holds
  | enter starting => exact .inl (looked _ holds)
  | wake waiting => exact .inl (looked _ holds)
  | call captured =>
      cases holds
      exact .inr List.mem_cons_self
  | throw failure calling =>
      cases holds
      exact .inr (past _ (by rw [calling]; rfl) (by simp [calling]))
  | answer terminal calling =>
      cases holds
      exact .inr (past _ (by rw [calling]; rfl) (by simp [calling]))
  | @record held verdict returned =>
      have same : held = action := by
        cases source : (state.coordinator.record verdict).2 <;>
          simpa [CancellationWorker.afterRecord, CancellationWorker.action, source] using holds
      subst same
      exact .inr (past _ (by rw [returned]; rfl) (by simp [returned]))
  | requestStop stopping =>
      cases holds
      exact .inr (past _ (by rw [stopping]; rfl) (by simp [stopping]))
  | finish finishing =>
      exact .inr (past _ (by rw [finishing]; exact holds) (by simp [finishing]))
  | stopWorker stops started => exact called action holds

theorem CancellationStep.uncalled (step : CancellationStep managerMayStop state after)
    (uncalled : state.worker.action = none → state.cancelCalls = [])
    (idle : after.worker.action = none) : after.cancelCalls = [] := by
  cases step with
  | request => exact uncalled idle
  | startWorker requested unstarted => exact uncalled (by rw [unstarted]; rfl)
  | enter starting => exact uncalled (by rw [starting]; rfl)
  | wake waiting => exact uncalled (by rw [waiting]; rfl)
  | call captured => cases idle
  | throw failure calling => cases idle
  | answer terminal calling => cases idle
  | @record _ verdict returned =>
      cases source : (state.coordinator.record verdict).2 <;>
        simp [CancellationWorker.afterRecord, CancellationWorker.action, source] at idle
  | requestStop stopping => cases idle
  | finish finishing => exact uncalled (by rw [finishing]; exact idle)
  | stopWorker stops started => exact uncalled idle

end Worker

/-! ## The invariant -/

/-- What every run keeps of a request and of the cancellation worker. -/
structure RequestHeld (trace : ChainTrace) (state : CancellationRunState) : Prop where
  announced : state.worker.isRunning → state.coordinator.cancellationWorkerRunning
  called : ∀ action, state.worker.action = some action →
    state.worker = .captured action ∨ action.cancelCall ∈ state.cancelCalls
  uncalled : state.worker.action = none → state.cancelCalls = []
  requested : ∀ action, state.requestedWith = some action →
    state.coordinator.cancellationRequested
  noted : state.coordinator.cancellationRequested → ∀ action,
    trace.stage.openAction = some action → state.requestedWith = some action
  registered : ∀ action, state.requestedWith = some action →
    registeredAction trace.stage.calls = some action ∧
      (trace.stage.isRunning ∨ trace.cleared = false)

/-- The action of an operation that ended was called for, or the chain is about to wait for that. -/
def Attended (trace : ChainTrace) (state : CancellationRunState) : Prop :=
  trace.stage.outcome.isSome → hasCompleted trace.stage.calls = false →
    ∀ action, state.requestedWith = some action → action.cancelCall ∈ state.cancelCalls ∨
      trace.stage.AwaitsResolution ∧ state.worker = .captured action

section Stages

variable {stage : OperationStage} {action : OrderAction}

theorem OperationStage.open_action_some (present : stage.openAction = some action) :
    registeredAction stage.calls = some action ∧ stage.isRunning := by
  cases stage with
  | running calls =>
      rw [openAction] at present
      split_ifs at present
      exact ⟨present, rfl⟩
  | _ => cases present

theorem OperationStage.closed_of_outcome (ended : stage.outcome.isSome) :
    stage.openAction = none := by
  cases stage with
  | ended calls outcome resolved confirmed => rfl
  | _ => cases ended

theorem OperationStage.IsAwaited.resolved {failure : ServiceFailure} {calls : CallHistory}
    {resolved : Bool} {confirmed : Option Bool} (awaited : IsAwaited failure resolved) :
    ¬ (ended calls (.error (.thrown failure)) resolved confirmed).AwaitsResolution := by
  intro awaits
  cases failure with
  | runtime what =>
      rw [show resolved = false from awaits] at awaited
      cases awaited what rfl
  | _ => exact awaits

theorem OperationStage.AwaitsResolution.after_confirmation {confirmed : Bool}
    (awaits : stage.AwaitsResolution) : (stage.afterConfirmation confirmed).AwaitsResolution := by
  cases stage with
  | ended calls outcome resolved asked =>
      cases outcome with
      | ok result => exact awaits
      | error failure =>
          cases failure with
          | cancellationRequested what => exact awaits
          | thrown failure => cases failure <;> exact awaits
  | _ => exact awaits

/-- A chain fails or is cancelled only when no resolution is to be awaited. -/
theorem StoreAllowed.resolved {snapshot : OperationChainSnapshot}
    (stored : StoreAllowed stage snapshot)
    (ended : snapshot.status = .failed ∨ snapshot.status = .cancelled) :
    ¬ stage.AwaitsResolution := by
  have causes : stage.Fails ∨ stage.Cancels ∨ stage.Settled := by
    rcases ended with failed | cancelled
    · exact .inl (stored.failed failed)
    · exact .inr ((stored.cancelled cancelled).imp_right And.left)
  cases stage with
  | ended calls outcome resolved confirmed =>
      cases outcome with
      | ok result => exact id
      | error failure =>
          cases failure with
          | cancellationRequested what => exact id
          | thrown failure =>
              rcases causes with fails | cancels | settled
              · exact fails.2.resolved
              · exact cancels.2.resolved
              · exact settled.elim
  | _ => exact id

theorem Attended.cancellation_attempted {trace : ChainTrace} {state : CancellationRunState}
    (attended : Attended trace state) (request : RequestHeld trace state)
    (shown : Published trace) : CancellationAttempted trace state := by
  intro ended action same uncompleted
  have terminal : trace.published.status.isTerminal := by
    rcases ended with status | status <;> rw [status] <;> rfl
  have stored := shown.stored terminal
  have registered := (request.registered action same).1
  have outcome : trace.stage.outcome.isSome := by
    cases stage : trace.stage with
    | ended calls outcome resolved confirmed => rfl
    | running calls =>
        rw [stage] at stored
        rw [stored.not_running] at terminal
        cases terminal
    | idle =>
        rw [stage] at registered
        cases registered
    | refused =>
        rw [stage] at registered
        cases registered
  exact (attended outcome uncompleted action same).resolve_right fun awaits =>
    stored.resolved ended awaits.1

end Stages

/-! ## One step -/

/-- The action noted with a request is the one open now, or else the one noted before. -/
theorem noted_action {requested : Bool} {present noted : Option OrderAction} {action : OrderAction}
    (requests : noted.isSome → requested)
    (same : (if requested then present.or noted else noted) = some action) :
    requested ∧ (present = some action ∨ present = none ∧ noted = some action) := by
  cases requested with
  | false =>
      rw [if_neg Bool.false_ne_true] at same
      cases requests (by rw [same]; rfl)
  | true =>
      rw [if_pos rfl] at same
      cases present with
      | none => exact ⟨rfl, .inr ⟨rfl, same⟩⟩
      | some other => exact ⟨rfl, .inl same⟩

section Step

variable {trace : ChainTrace} {state : CancellationRunState} {managerMayStop : Prop}

theorem RequestHeld.requests (request : RequestHeld trace state)
    (noted : state.requestedWith.isSome) : state.coordinator.cancellationRequested := by
  obtain ⟨action, same⟩ := Option.isSome_iff_exists.1 noted
  exact request.requested action same

theorem requested_with_request (held : Coordination trace state) :
    state.request.requestedWith = trace.stage.openAction.or state.requestedWith := by
  rw [← held.current]
  rfl

theorem RequestHeld.interfere {after : CancellationRunState} (request : RequestHeld trace state)
    (held : Coordination trace state) (step : CancellationStep managerMayStop state after) :
    RequestHeld trace after := by
  have announced := step.announced request.announced
  have called := fun action => @step.called _ _ _ action request.called
  have uncalled := step.uncalled request.uncalled
  rcases step.request_or with rfl | other
  · have requestedWith := requested_with_request held
    refine ⟨announced, called, uncalled, fun _ _ => rfl, ?noted, ?registered⟩
    case noted =>
      intro _ action present
      rw [requestedWith, present]
      rfl
    case registered =>
      intro action same
      rw [requestedWith, Option.or_eq_some_iff] at same
      rcases same with present | ⟨_, noted⟩
      · exact ⟨(OperationStage.open_action_some present).1,
          .inl (OperationStage.open_action_some present).2⟩
      · exact request.registered action noted
  · refine ⟨announced, called, uncalled, ?_, ?_, ?_⟩
    · rw [other.requestedWith, other.cancellationRequested]
      exact request.requested
    · rw [other.requestedWith, other.cancellationRequested]
      exact request.noted
    · rw [other.requestedWith]
      exact request.registered

theorem Attended.interfere {after : CancellationRunState} (attended : Attended trace state)
    (held : Coordination trace state) (step : CancellationStep managerMayStop state after) :
    Attended trace after := by
  intro ended uncompleted action same
  have before : state.requestedWith = some action := by
    rcases step.request_or with rfl | other
    · rw [requested_with_request held, OperationStage.closed_of_outcome ended,
        Option.none_or] at same
      exact same
    · exact other.requestedWith.symm.trans same
  rcases attended ended uncompleted action before with called | ⟨awaits, captured⟩
  · exact .inl (step.calls_kept called)
  · exact (step.calls_captured captured).imp_right fun still => ⟨awaits, still⟩

/-- The chain worker keeps the action of an operation until the next one starts. -/
theorem registered_after {effect : ChainEffect} {answer : effect.Answer} {action : OrderAction}
    (required : EffectAllowed factoryDiscipline trace effect)
    (registered : registeredAction trace.stage.calls = some action)
    (uncleared : trace.stage.isRunning ∨ trace.cleared = false)
    (shut : (trace.after effect answer).stage.openAction = none) :
    registeredAction (trace.after effect answer).stage.calls = some action := by
  have unstarted := unstarted_of_uncleared uncleared required
  cases effect with
  | call asked =>
      obtain ⟨calls, stage, allowed⟩ := required
      rw [stage] at registered
      rw [ChainTrace.after, stage] at shut ⊢
      have older : registers asked answer = none := by
        cases asked with
        | register other =>
            cases answer with
            | error failure => rfl
            | ok done =>
                have uncompleted : hasCompleted (⟨.register other, .ok done⟩ :: calls) = false :=
                  allowed
                change (if hasCompleted _ then none else some other) = none at shut
                rw [uncompleted] at shut
                cases shut
        | _ => rfl
      show (registers asked answer).or (registeredAction calls) = some action
      rw [older, Option.none_or]
      exact registered
  | startOperation canRegisterAction => cases unstarted
  | waitForCancellationResolution =>
      rw [ChainTrace.after, ChainTrace.withStage, OperationStage.after_resolution_calls]
      exact registered
  | isCancellationConfirmed =>
      rw [ChainTrace.after, ChainTrace.withStage, OperationStage.after_confirmation_calls]
      exact registered
  | _ => exact registered

/-- A worker that holds an action is not given up on. -/
theorem Coordination.unresolved (held : Coordination trace state) {action : OrderAction}
    (announced : state.worker.isRunning → state.coordinator.cancellationWorkerRunning)
    (captured : state.worker = .captured action)
    (uncompleted : hasCompleted trace.stage.calls = false) :
    state.coordinator.isCancellationResolved = false := by
  have requested := held.requested (by rw [captured]; rfl)
  have running := announced (by rw [captured]; rfl)
  have unrecorded : ¬ state.worker.hasRecorded := by
    simp [captured, CancellationWorker.hasRecorded]
  have unsettled : state.coordinator.result = .none := by
    cases result : state.coordinator.result with
    | none => rfl
    | confirmedCancelled => exact absurd (held.confirmed_result result).1 unrecorded
    | failed => exact absurd (held.failed_result result).1 unrecorded
    | naturalCompletion =>
        rcases held.natural_result result with recorded | completed
        · exact absurd recorded unrecorded
        · rw [uncompleted] at completed
          cases completed
  simp [isCancellationResolved, requested, running, unsettled]

theorem requested_with_advance {effect : ChainEffect} {answer : effect.Answer}
    {coordinator : OperationCancellationCoordinator} (held : Coordination trace state)
    (required : EffectAllowed factoryDiscipline trace effect)
    (answered : state.coordinator.Answers effect answer coordinator) :
    (state.advance effect coordinator).requestedWith =
      if state.coordinator.cancellationRequested then
        (trace.after effect answer).stage.openAction.or state.requestedWith
      else state.requestedWith := by
  rw [← (held.act required answered).current, ← answered.keeps.1]
  rfl

theorem RequestHeld.act {effect : ChainEffect} {answer : effect.Answer}
    {coordinator : OperationCancellationCoordinator} (request : RequestHeld trace state)
    (held : Coordination trace state) (required : EffectAllowed factoryDiscipline trace effect)
    (answered : state.coordinator.Answers effect answer coordinator) :
    RequestHeld (trace.after effect answer) (state.advance effect coordinator) := by
  have requestedWith := requested_with_advance held required answered
  refine ⟨?announced, request.called, request.uncalled, ?requested, ?noted, ?registered⟩
  case announced =>
    intro running
    exact answered.keeps.2.trans (request.announced running)
  case requested =>
    intro action same
    rw [requestedWith] at same
    exact answered.keeps.1.trans (noted_action request.requests same).1
  case noted =>
    intro requested action present
    rw [requestedWith, if_pos (answered.keeps.1.symm.trans requested), present]
    rfl
  case registered =>
    intro action same
    rw [requestedWith] at same
    obtain ⟨requested, present | ⟨shut, noted⟩⟩ := noted_action request.requests same
    · exact ⟨(OperationStage.open_action_some present).1,
        .inl (OperationStage.open_action_some present).2⟩
    · obtain ⟨registered, uncleared⟩ := request.registered action noted
      exact ⟨registered_after required registered uncleared shut,
        uncleared_after requested required answered uncleared⟩

theorem Attended.act {effect : ChainEffect} {answer : effect.Answer}
    {coordinator : OperationCancellationCoordinator} (attended : Attended trace state)
    (request : RequestHeld trace state) (held : Coordination trace state)
    (required : EffectAllowed factoryDiscipline trace effect) (ends : EndsAttended state effect)
    (answered : state.coordinator.Answers effect answer coordinator) :
    Attended (trace.after effect answer) (state.advance effect coordinator) := by
  intro ended uncompleted action same
  rw [requested_with_advance held required answered, OperationStage.closed_of_outcome ended,
    Option.none_or, ite_self] at same
  cases effect with
  | call asked =>
      obtain ⟨calls, stage, _⟩ := required
      rw [ChainTrace.after, stage] at ended
      cases ended
  | startOperation canRegisterAction => cases answer <;> cases ended
  | finishOperation outcome =>
      obtain ⟨calls, stage, _⟩ := required
      have present : trace.stage.openAction = some action := by
        have registered := (request.registered action same).1
        change hasCompleted trace.stage.calls = false at uncompleted
        rw [stage] at registered uncompleted ⊢
        rw [OperationStage.openAction, show hasCompleted calls = false from uncompleted]
        exact registered
      obtain ⟨holds, waits⟩ :=
        ends (request.requested action same) action (held.current.trans present)
      rcases request.called action holds with captured | called
      · obtain ⟨what, rfl⟩ := waits captured
        exact .inr ⟨rfl, captured⟩
      · exact .inl called
  | waitForCancellationResolution =>
      rw [ChainTrace.after, ChainTrace.withStage,
        OperationStage.after_resolution_outcome] at ended
      rw [ChainTrace.after, ChainTrace.withStage,
        OperationStage.after_resolution_calls] at uncompleted
      rcases attended ended uncompleted action same with called | ⟨_, captured⟩
      · exact .inl called
      · have unresolved := held.unresolved request.announced captured uncompleted
        rw [answered.1] at unresolved
        cases unresolved
  | isCancellationConfirmed =>
      rw [ChainTrace.after, ChainTrace.withStage,
        OperationStage.after_confirmation_outcome] at ended
      rw [ChainTrace.after, ChainTrace.withStage,
        OperationStage.after_confirmation_calls] at uncompleted
      exact (attended ended uncompleted action same).imp_right
        (.imp_left (·.after_confirmation))
  | _ => exact attended ended uncompleted action same

end Step

/-! ## A cancellation that nobody holds -/

/-- The operation ended with this action, and the cancellation worker holds nothing. -/
structure Unheld (action : OrderAction) (trace : ChainTrace) (state : CancellationRunState) :
    Prop where
  ended : trace.stage.outcome.isSome
  uncleared : trace.cleared = false
  uncompleted : hasCompleted trace.stage.calls = false
  requested : state.coordinator.cancellationRequested
  noted : state.requestedWith = some action
  idle : state.worker.action = none
  uncalled : state.cancelCalls = []

section Unheld

variable {action : OrderAction} {trace : ChainTrace} {state after : CancellationRunState}
  {managerMayStop : Prop}

/-- Between operations the worker finds nothing to capture. -/
theorem CancellationStep.stays_idle (step : CancellationStep managerMayStop state after)
    (inactive : state.coordinator.operationActive = false) (idle : state.worker.action = none) :
    after.worker.action = none ∧ after.cancelCalls = state.cancelCalls := by
  have looked : ∀ stopRequested,
      (CancellationWorker.look state.coordinator stopRequested).action = none := by
    intro stopRequested
    simp [CancellationWorker.look, inactive, CancellationWorker.action]
  cases step with
  | request => exact ⟨idle, rfl⟩
  | startWorker requested unstarted => exact ⟨rfl, rfl⟩
  | enter starting => exact ⟨looked _, rfl⟩
  | wake waiting => exact ⟨looked _, rfl⟩
  | call captured => simp [captured, CancellationWorker.action] at idle
  | throw failure calling => simp [calling, CancellationWorker.action] at idle
  | answer terminal calling => simp [calling, CancellationWorker.action] at idle
  | record returned => simp [returned, CancellationWorker.action] at idle
  | requestStop stopping => simp [stopping, CancellationWorker.action] at idle
  | finish finishing =>
      rw [finishing] at idle
      exact ⟨idle, rfl⟩
  | stopWorker stops started => exact ⟨idle, rfl⟩

theorem OperationStage.not_running_of_outcome {stage : OperationStage}
    (ended : stage.outcome.isSome) : stage.isRunning = false := by
  cases stage with
  | ended calls outcome resolved confirmed => rfl
  | _ => cases ended

theorem Unheld.interfere (unheld : Unheld action trace state) (held : Coordination trace state)
    (step : CancellationStep managerMayStop state after) : Unheld action trace after := by
  have inactive := held.active.trans (OperationStage.not_running_of_outcome unheld.ended)
  obtain ⟨idle, calls⟩ := step.stays_idle inactive unheld.idle
  have uncalled := calls.trans unheld.uncalled
  rcases step.request_or with rfl | other
  · refine ⟨unheld.ended, unheld.uncleared, unheld.uncompleted, rfl, ?_, idle, uncalled⟩
    show state.coordinator.currentAction.or state.requestedWith = some action
    rw [held.current, OperationStage.closed_of_outcome unheld.ended, Option.none_or]
    exact unheld.noted
  · exact ⟨unheld.ended, unheld.uncleared, unheld.uncompleted,
      other.cancellationRequested.trans unheld.requested, other.requestedWith.trans unheld.noted,
      idle, uncalled⟩

theorem Unheld.act {effect : ChainEffect} {answer : effect.Answer}
    {coordinator : OperationCancellationCoordinator} (unheld : Unheld action trace state)
    (held : Coordination trace state) (required : EffectAllowed factoryDiscipline trace effect)
    (answered : state.coordinator.Answers effect answer coordinator) :
    Unheld action (trace.after effect answer) (state.advance effect coordinator) := by
  have still := OperationStage.not_running_of_outcome unheld.ended
  have unstarted := unstarted_of_uncleared (.inr unheld.uncleared) required
  have uncleared :=
    uncleared_after unheld.requested required answered (.inr unheld.uncleared)
  have kept : (trace.after effect answer).stage.outcome.isSome ∧
      hasCompleted (trace.after effect answer).stage.calls = false := by
    cases effect with
    | call asked =>
        obtain ⟨calls, stage, _⟩ := required
        rw [stage] at still
        cases still
    | finishOperation outcome =>
        obtain ⟨calls, stage, _⟩ := required
        rw [stage] at still
        cases still
    | startOperation canRegisterAction => cases unstarted
    | waitForCancellationResolution =>
        rw [ChainTrace.after, ChainTrace.withStage, OperationStage.after_resolution_outcome,
          OperationStage.after_resolution_calls]
        exact ⟨unheld.ended, unheld.uncompleted⟩
    | isCancellationConfirmed =>
        rw [ChainTrace.after, ChainTrace.withStage, OperationStage.after_confirmation_outcome,
          OperationStage.after_confirmation_calls]
        exact ⟨unheld.ended, unheld.uncompleted⟩
    | _ => exact ⟨unheld.ended, unheld.uncompleted⟩
  have requested := answered.keeps.1.trans unheld.requested
  refine ⟨kept.1, ?_, kept.2, requested, ?_, unheld.idle, unheld.uncalled⟩
  · refine uncleared.resolve_left fun running => ?_
    rw [OperationStage.not_running_of_outcome kept.1] at running
    cases running
  · show (if coordinator.cancellationRequested then
      coordinator.currentAction.or state.requestedWith else state.requestedWith) = some action
    rw [if_pos requested, show coordinator.currentAction = none from ?_, Option.none_or]
    · exact unheld.noted
    · exact (held.act required answered).current.trans (OperationStage.closed_of_outcome kept.1)

theorem Unheld.not_attempted (unheld : Unheld action trace state)
    (ended : trace.published.status = .failed ∨ trace.published.status = .cancelled) :
    ¬ CancellationAttempted trace state := by
  intro attempted
  have called := attempted ended action unheld.noted unheld.uncompleted
  rw [unheld.uncalled] at called
  cases called

end Unheld

/-! ## A whole run -/

section Run

variable {chain : OperationChain} {managerMayStop : Prop}
  {allowed : CancellationRunState → ChainEffect → Prop} {earlier later : ChainHistory}
  {before state : CancellationRunState} {current : ChainProgram Unit}

theorem request_held_initially {initial : OperationChainSnapshot} :
    RequestHeld (.of initial []) {} := by
  constructor
  case announced => intro running; cases running
  case called => intro action holds; cases holds
  case uncalled => exact fun _ => rfl
  case requested => intro action same; cases same
  case noted => intro requested; cases requested
  case registered => intro action same; cases same

/-- In every run the request is held, and the next effect is one that the chain may ask. -/
theorem run_holds_request
    (initially : Coordinated chain.snapshot [] {})
    (met : Meets (executeContract factoryDiscipline chain.snapshot)
      (fun later _ => Exits (.of chain.snapshot later)) chain.execute [])
    (run : SharedRun (cancellationSystem managerMayStop allowed) {} chain.execute
      earlier state current) :
    Meets (executeContract factoryDiscipline chain.snapshot)
        (fun later _ => Exits (.of chain.snapshot later)) current earlier ∧
      Coordinated chain.snapshot earlier state ∧
      RequestHeld (.of chain.snapshot earlier) state := by
  apply run.meets (coordinated_guarantees
    (fun history => RequestHeld (.of chain.snapshot history)) ?acts ?interferes)
    ⟨initially, request_held_initially⟩ met trivial
  case acts =>
    rintro history state after effect answer held request required ⟨_, _, answered, rfl⟩
    exact request.act held.coordination required answered
  case interferes =>
    intro history state after held request step
    exact request.interfere held.coordination step

theorem attended_guarantees {initial : OperationChainSnapshot} :
    Guarantees (cancellationSystem managerMayStop EndsAttended)
      (executeContract factoryDiscipline initial) (fun _ => True)
      (fun history state => Coordinated initial history state ∧
        RequestHeld (.of initial history) state ∧ Attended (.of initial history) state) := by
  apply coordinated_guarantees fun history state =>
    RequestHeld (.of initial history) state ∧ Attended (.of initial history) state
  case acts =>
    rintro history state after effect answer held ⟨request, attended⟩ required
      ⟨ends, _, answered, rfl⟩
    exact ⟨request.act held.coordination required answered,
      attended.act request held.coordination required ends answered⟩
  case interferes =>
    rintro history state after held ⟨request, attended⟩ step
    exact ⟨request.interfere held.coordination step, attended.interfere held.coordination step⟩

/-- The cancellation of an action that nobody holds at the end of its operation. -/
theorem unheld_along {outcome : Except OperationFailure Unit} {next : Unit → ChainProgram Unit}
    {action : OrderAction} (initially : Coordinated chain.snapshot [] {})
    (met : Meets (executeContract factoryDiscipline chain.snapshot)
      (fun later _ => Exits (.of chain.snapshot later)) chain.execute [])
    (first : SharedRun (cancellationSystem managerMayStop allowed) {} chain.execute
      (⟨.finishOperation outcome, ()⟩ :: earlier) before (next ()))
    (unheld : Unheld action (.of chain.snapshot (⟨.finishOperation outcome, ()⟩ :: earlier)) before)
    (second : SharedRun (cancellationSystem managerMayStop allowed) before (next ())
      later state current) :
    Unheld action (.of chain.snapshot (later ++ ⟨.finishOperation outcome, ()⟩ :: earlier))
      state := by
  induction second with
  | start => exact unheld
  | act prior answer performed ih =>
      obtain ⟨reached, coordinated, _⟩ := run_holds_request initially met (first.trans prior)
      obtain ⟨_, _, answered, rfl⟩ := performed
      exact ih.act coordinated.coordination reached.1 answered
  | interfere prior interfered ih =>
      obtain ⟨_, coordinated, _⟩ := run_holds_request initially met (first.trans prior)
      exact ih.interfere coordinated.coordination interfered

/-- An operation ends while its cancellation is requested and the worker does not hold it. -/
theorem unheld_at_end {outcome : Except OperationFailure Unit} {next : Unit → ChainProgram Unit}
    {action : OrderAction} (initially : Coordinated chain.snapshot [] {})
    (met : Meets (executeContract factoryDiscipline chain.snapshot)
      (fun later _ => Exits (.of chain.snapshot later)) chain.execute [])
    (run : SharedRun (cancellationSystem managerMayStop allowed) {} chain.execute
      earlier before (.request (.finishOperation outcome) next))
    (requested : before.coordinator.cancellationRequested)
    (present : before.coordinator.currentAction = some action)
    (missed : before.worker.action ≠ some action) :
    Unheld action (.of chain.snapshot (⟨.finishOperation outcome, ()⟩ :: earlier))
      (before.advance (.finishOperation outcome) before.coordinator.finishOperation) := by
  obtain ⟨reached, coordinated, request⟩ := run_holds_request initially met run
  have held := coordinated.coordination
  obtain ⟨calls, stage, _⟩ := reached.1
  have opened := held.current.symm.trans present
  have idle : before.worker.action = none := by
    cases holding : before.worker.action with
    | none => rfl
    | some other =>
        have same := (held.held other holding).1
        rw [(OperationStage.open_action_some opened).1] at same
        rw [holding, same] at missed
        exact absurd rfl missed
  have uncompleted : hasCompleted (ChainTrace.of chain.snapshot earlier).stage.calls = false := by
    rw [stage, OperationStage.openAction] at opened
    rw [stage]
    split_ifs at opened with completed
    exact eq_false_of_ne_true completed
  refine ⟨rfl, rfl, uncompleted, requested, ?_, idle, request.uncalled idle⟩
  show (if before.coordinator.cancellationRequested then
    before.coordinator.finishOperation.currentAction.or before.requestedWith
    else before.requestedWith) = some action
  rw [if_pos requested]
  exact request.noted requested action opened

end Run

/-- In a run whose operations all end attended every requested cancellation is attempted, and
after an end at which the worker does not hold the action it is not. -/
theorem requested_cancellation_attempted {definition : OperationChainDefinition}
    {exchangers : List ExchangerType} {createdAt : OperationChainTimePoint} {chain : OperationChain}
    (built : OperationChainBuilder.build definition exchangers createdAt = .ok chain) :
    (∀ managerMayStop history state current,
      SharedRun (cancellationSystem managerMayStop EndsAttended) {} chain.execute
        history state current →
      CancellationAttempted (.of chain.snapshot history) state) ∧
    ∀ managerMayStop earlier before outcome next action later state current,
      SharedRun (cancellationSystem managerMayStop fun _ _ => True) {} chain.execute
        earlier before (.request (.finishOperation outcome) next) →
      before.coordinator.cancellationRequested →
      before.coordinator.currentAction = some action → before.worker.action ≠ some action →
      SharedRun (cancellationSystem managerMayStop fun _ _ => True)
        (before.advance (.finishOperation outcome) before.coordinator.finishOperation) (next ())
        later state current →
      ∀ trace : ChainTrace,
        trace = .of chain.snapshot (later ++ ⟨.finishOperation outcome, ()⟩ :: earlier) →
        trace.published.status = .failed ∨ trace.published.status = .cancelled →
        ¬ CancellationAttempted trace state := by
  obtain ⟨initially, met⟩ := OperationChainBuilder.build_executes built
  constructor
  · intro managerMayStop history state current run
    obtain ⟨_, coordinated, request, attended⟩ := run.meets attended_guarantees
      ⟨initially, request_held_initially, fun ended => by cases ended⟩ met trivial
    exact attended.cancellation_attempted request coordinated.published
  · rintro managerMayStop earlier before outcome next action later state current run requested
      present missed continues _ rfl ended
    have unheld := unheld_at_end initially met run requested present missed
    have finished := run.act () ⟨trivial, before.coordinator.finishOperation, rfl, rfl⟩
    exact (unheld_along initially met finished unheld continues).not_attempted ended

section Example

/-- The stream of the purchase fails as soon as its cancellation is requested. -/
def failingStream : ScriptedExchange where
  buys _ := some (.ok bitcoinOrder)
  waits coordinator _ :=
    if coordinator.cancellationRequested then some (.error (.runtime "stream error")) else none

/-- The wait throws before the cancellation worker has looked at the record. -/
theorem requested_cancellation_dropped :
    ∃ history state current, SharedRun (cancellationSystem False fun _ _ => True) {}
        buyBitcoinChain.execute history state current ∧
      (ChainTrace.of buyBitcoinChain.snapshot history).published.status = .failed ∧
      state.requestedWith = some (.ordinary .binance bitcoinOrder) ∧
      state.worker = .done none ∧ state.cancelCalls = [] ∧
      ¬ CancellationAttempted (.of buyBitcoinChain.snapshot history) state := by
  have bought := SharedRun.run_alone (@failingStream.performs False)
    (.start : SharedRun _ {} buyBitcoinChain.execute _ _ _)
  have requested := bought.interfere .request
  have starting := requested.interfere (.startWorker rfl (by decide +kernel))
  have failed := SharedRun.run_alone (@failingStream.performs False) starting
  have entered := failed.interfere (.enter (by decide +kernel))
  have finished := entered.interfere (@CancellationStep.finish _ _ none (by decide +kernel))
  refine ⟨_, _, _, finished, by decide +kernel, by decide +kernel, rfl, by decide +kernel, ?_⟩
  intro attempted
  have called := attempted (.inl (by decide +kernel)) (.ordinary .binance bitcoinOrder)
    (by decide +kernel) (by decide +kernel)
  exact absurd called (by decide +kernel)

/-- The cancellation worker is past the capture when an operation ends. -/
def isAttended (state : CancellationRunState) : ChainEffect → Bool
  | .finishOperation _ =>
      state.coordinator.currentAction.all fun action =>
        state.worker.action = some action ∧ state.worker ≠ .captured action
  | _ => true

theorem ends_attended {state : CancellationRunState} {effect : ChainEffect}
    (attended : isAttended state effect) : EndsAttended state effect := by
  cases effect with
  | finishOperation outcome =>
      intro _ action present
      rw [isAttended, present] at attended
      obtain ⟨holds, passed⟩ := of_decide_eq_true attended
      exact ⟨holds, fun captured => absurd captured passed⟩
  | _ => trivial

def ScriptedExchange.performAttended (exchange : ScriptedExchange) (state : CancellationRunState)
    (effect : ChainEffect) : Option (effect.Answer × CancellationRunState) :=
  if isAttended state effect then exchange.perform state effect else none

theorem ScriptedExchange.performs_attended {exchange : ScriptedExchange} {managerMayStop : Prop}
    {state : CancellationRunState} {effect : ChainEffect} {answer : effect.Answer}
    {after : CancellationRunState}
    (performed : exchange.performAttended state effect = some (answer, after)) :
    (cancellationSystem managerMayStop EndsAttended).performs state effect answer after := by
  rw [ScriptedExchange.performAttended] at performed
  split_ifs at performed with attended
  exact ⟨ends_attended attended, (@performs _ managerMayStop _ _ _ _ performed).2⟩

/-- The cancellation of the purchase fails, but it was attempted. -/
theorem failed_cancellation_was_attempted :
    ∃ history state current, SharedRun (cancellationSystem False EndsAttended) {}
        buyBitcoinChain.execute history state current ∧
      (ChainTrace.of buyBitcoinChain.snapshot history).published.status = .failed ∧
      (OrderAction.ordinary .binance bitcoinOrder).cancelCall ∈ state.cancelCalls := by
  have bought := SharedRun.run_alone (@failingStream.performs_attended False)
    (.start : SharedRun _ {} buyBitcoinChain.execute _ _ _)
  have requested := bought.interfere .request
  have starting := requested.interfere (.startWorker rfl (by decide +kernel))
  have captured := starting.interfere (.enter rfl)
  have calling := captured.interfere
    (@CancellationStep.call _ _ (.ordinary .binance bitcoinOrder) (by decide +kernel))
  have returned := calling.interfere
    (@CancellationStep.throw _ _ (.ordinary .binance bitcoinOrder) (.runtime "unreachable") rfl)
  have recorded := returned.interfere (.record rfl)
  have failed := SharedRun.run_alone (@failingStream.performs_attended False) recorded
  have attempted := (requested_cancellation_attempted buy_bitcoin_built).1 _ _ _ _ failed
  exact ⟨_, _, _, failed, by decide +kernel, attempted (.inl (by decide +kernel)) _
    (by decide +kernel) (by decide +kernel)⟩

end Example

end CryptoDeal
