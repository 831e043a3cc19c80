import CryptoDeal.OperationChain.CancellationRun

/-!
# The coordination invariant

What ties the coordinator and the cancellation worker to the chain worker's
operation. An action that the cancellation worker holds belongs to the operation
that was started last, and no other operation is started from then on; so a
recorded result is that operation's.
-/

namespace CryptoDeal

open DealService OrderStatusUtil Interaction OperationCancellationCoordinator

namespace OperationStage

/-- The action that the coordinator has registered at this stage. -/
def openAction : OperationStage → Option OrderAction
  | running calls => if hasCompleted calls then none else registeredAction calls
  | _ => none

def outcome : OperationStage → Option (Except OperationFailure Unit)
  | ended _ outcome _ _ => some outcome
  | _ => none

/-- The answer of `isCancellationConfirmed` after the operation ended. -/
def confirmation : OperationStage → Option Bool
  | ended _ _ _ confirmed => confirmed
  | _ => none

section After

variable {stage : OperationStage} {confirmed : Bool}

@[simp] theorem after_resolution_running : stage.afterResolution.isRunning = stage.isRunning := by
  cases stage <;> rfl

@[simp] theorem after_resolution_open : stage.afterResolution.openAction = stage.openAction := by
  cases stage <;> rfl

@[simp] theorem after_resolution_calls : stage.afterResolution.calls = stage.calls := by
  cases stage <;> rfl

@[simp] theorem after_resolution_outcome : stage.afterResolution.outcome = stage.outcome := by
  cases stage <;> rfl

@[simp] theorem after_resolution_confirmation :
    stage.afterResolution.confirmation = stage.confirmation := by
  cases stage <;> rfl

@[simp] theorem after_resolution_refused : stage.afterResolution = .refused ↔ stage = .refused := by
  cases stage <;> simp [afterResolution]

@[simp] theorem after_confirmation_running :
    (stage.afterConfirmation confirmed).isRunning = stage.isRunning := by
  cases stage <;> rfl

@[simp] theorem after_confirmation_open :
    (stage.afterConfirmation confirmed).openAction = stage.openAction := by
  cases stage <;> rfl

@[simp] theorem after_confirmation_calls :
    (stage.afterConfirmation confirmed).calls = stage.calls := by
  cases stage <;> rfl

@[simp] theorem after_confirmation_outcome :
    (stage.afterConfirmation confirmed).outcome = stage.outcome := by
  cases stage <;> rfl

@[simp] theorem after_confirmation_refused :
    stage.afterConfirmation confirmed = .refused ↔ stage = .refused := by
  cases stage <;> simp [afterConfirmation]

@[simp] theorem after_confirmation_confirmation :
    (stage.afterConfirmation confirmed).confirmation = stage.outcome.map fun _ => confirmed := by
  cases stage <;> rfl

end After

end OperationStage

/-- The cancel call for this action returned, and its order, or both children of
its OCO, is classified as cancelled; so none of them is filled. -/
def ConfirmedCancelled (returns : List (Sigma CancelCall.Answer)) : OrderAction → Prop
  | .ordinary service orderInfo =>
      ∃ terminalOrder : OrderInfo,
        ⟨(OrderAction.ordinary service orderInfo).cancelCall, terminalOrder⟩ ∈ returns ∧
          classifyOrderStatus service terminalOrder.status = .cancelled
  | .oco service ocoInfo =>
      ∃ terminalOcoInfo : OcoInfo,
        ⟨(OrderAction.oco service ocoInfo).cancelCall, terminalOcoInfo⟩ ∈ returns ∧
          classifyOrderStatus service terminalOcoInfo.takeProfitOrder.status = .cancelled ∧
          classifyOrderStatus service terminalOcoInfo.stopLossOrder.status = .cancelled

structure Coordination (trace : ChainTrace) (state : CancellationRunState) : Prop where
  accepted : trace.stage ≠ .refused
  active : state.coordinator.operationActive = trace.stage.isRunning
  current : state.coordinator.currentAction = trace.stage.openAction
  completed : state.coordinator.actionCompletedNaturally = hasCompleted trace.stage.calls
  requested : state.worker.hasStarted → state.coordinator.cancellationRequested
  held : ∀ action, state.worker.action = some action →
    registeredAction trace.stage.calls = some action ∧
      (trace.stage.isRunning ∨ trace.cleared = false)
  requested_result : state.coordinator.result ≠ .none → state.coordinator.cancellationRequested
  confirmed_result : state.coordinator.result = .confirmedCancelled →
    state.worker.hasRecorded ∧ hasCompleted trace.stage.calls = false ∧
      ∃ action, state.worker.action = some action ∧ ConfirmedCancelled state.cancelReturns action
  failed_result : state.coordinator.result = .failed →
    state.worker.hasRecorded ∧ hasCompleted trace.stage.calls = false
  natural_result : state.coordinator.result = .naturalCompletion →
    state.worker.hasRecorded ∨ hasCompleted trace.stage.calls
  verdict : ∀ action, state.worker = .returned action .confirmedCancellation →
    ConfirmedCancelled state.cancelReturns action
  ending : ∀ outcome, trace.stage.outcome = some outcome →
    factoryEndAllowed trace.stage.calls outcome
  confirmed_answer : trace.stage.confirmation = some true →
    state.worker.hasRecorded ∧
      ∃ action, state.worker.action = some action ∧ ConfirmedCancelled state.cancelReturns action
  confirmed_kept : trace.stage.outcome.isSome → state.confirmedWhenEnded →
    state.coordinator.result = .confirmedCancelled
  unconfirmed_answer : trace.stage.confirmation = some false → state.confirmedWhenEnded = false

theorem ConfirmedCancelled.mono {returns more : List (Sigma CancelCall.Answer)}
    {action : OrderAction} (confirmed : ConfirmedCancelled returns action)
    (includes : returns ⊆ more) : ConfirmedCancelled more action := by
  cases action with
  | ordinary service orderInfo =>
      rcases confirmed with ⟨terminalOrder, member, cancelled⟩
      exact ⟨terminalOrder, includes member, cancelled⟩
  | oco service ocoInfo =>
      rcases confirmed with ⟨terminalOcoInfo, member, cancelled⟩
      exact ⟨terminalOcoInfo, includes member, cancelled⟩

/-- A verdict of confirmed cancellation is what the call returned. -/
theorem confirmed_of_verdict {action : OrderAction} {terminal : action.cancelCall.Answer}
    {stopRequested : Bool} {returns : List (Sigma CancelCall.Answer)}
    (verdict : action.cancelCall.verdict stopRequested (.ok terminal) = .confirmedCancellation)
    (member : ⟨action.cancelCall, terminal⟩ ∈ returns) : ConfirmedCancelled returns action := by
  cases action with
  | ordinary service orderInfo =>
      refine ⟨terminal, member, ?_⟩
      change confirmOrdinaryCancellation service terminal = _ at verdict
      unfold confirmOrdinaryCancellation at verdict
      split at verdict
      · cases verdict
      · assumption
      · cases verdict
  | oco service ocoInfo =>
      refine ⟨terminal, member, ?_⟩
      change confirmOcoCancellation service terminal = _ at verdict
      unfold confirmOcoCancellation at verdict
      dsimp only at verdict
      split_ifs at verdict with filled cancelled
      exact cancelled

theorem unconfirmed_of_failure {action : OrderAction} {failure : ServiceFailure}
    {stopRequested : Bool} :
    action.cancelCall.verdict stopRequested (.error failure) ≠ .confirmedCancellation := by
  cases failure with
  | interrupted what => cases stopRequested <;> exact fun same => Verdict.noConfusion same
  | runtime what => exact fun same => Verdict.noConfusion same
  | nonStandard => exact fun same => Verdict.noConfusion same

namespace Coordination

variable {trace : ChainTrace} {state : CancellationRunState} {managerMayStop : Prop}

theorem initially (initial : OperationChainSnapshot) :
    Coordination { published := initial } {} := by
  constructor <;> simp [OperationStage.isRunning, OperationStage.openAction, OperationStage.calls,
    OperationStage.outcome, OperationStage.confirmation, hasCompleted, CancellationWorker.hasStarted,
    CancellationWorker.action]

/-- The cancellation worker moves on, and the record's other flags may change. -/
theorem move {after : CancellationRunState} (held : Coordination trace state)
    (active : after.coordinator.operationActive = state.coordinator.operationActive)
    (current : after.coordinator.currentAction = state.coordinator.currentAction)
    (completed : after.coordinator.actionCompletedNaturally =
      state.coordinator.actionCompletedNaturally)
    (result : after.coordinator.result = state.coordinator.result)
    (confirmedWhenEnded : after.confirmedWhenEnded = state.confirmedWhenEnded)
    (requests : state.coordinator.cancellationRequested → after.coordinator.cancellationRequested)
    (returns : state.cancelReturns ⊆ after.cancelReturns)
    (started : after.worker.hasStarted → after.coordinator.cancellationRequested)
    (recorded : state.worker.hasRecorded →
      after.worker.hasRecorded ∧ after.worker.action = state.worker.action)
    (holds : ∀ action, after.worker.action = some action →
      registeredAction trace.stage.calls = some action ∧
        (trace.stage.isRunning ∨ trace.cleared = false))
    (verdict : ∀ action, after.worker = .returned action .confirmedCancellation →
      ConfirmedCancelled after.cancelReturns action) : Coordination trace after where
  accepted := held.accepted
  active := active.trans held.active
  current := current.trans held.current
  completed := completed.trans held.completed
  requested := started
  held := holds
  requested_result := by
    rw [result]
    exact fun some => requests (held.requested_result some)
  confirmed_result := by
    rw [result]
    intro confirmed
    rcases held.confirmed_result confirmed with ⟨done, uncompleted, action, holding, cancelled⟩
    exact ⟨(recorded done).1, uncompleted, action, (recorded done).2.trans holding,
      cancelled.mono returns⟩
  failed_result := by
    rw [result]
    intro failed
    exact ⟨(recorded (held.failed_result failed).1).1, (held.failed_result failed).2⟩
  natural_result := by
    rw [result]
    intro natural
    rcases held.natural_result natural with done | completed
    · exact .inl (recorded done).1
    · exact .inr completed
  verdict := verdict
  ending := held.ending
  confirmed_answer := by
    intro answered
    rcases held.confirmed_answer answered with ⟨done, action, holding, cancelled⟩
    exact ⟨(recorded done).1, action, (recorded done).2.trans holding, cancelled.mono returns⟩
  confirmed_kept := by
    rw [result, confirmedWhenEnded]
    exact held.confirmed_kept
  unconfirmed_answer := by
    rw [confirmedWhenEnded]
    exact held.unconfirmed_answer

/-- All that a look at the record can lead to. -/
theorem look_cases (coordinator : OperationCancellationCoordinator) (stopRequested : Bool) :
    CancellationWorker.look coordinator stopRequested = .finishing none ∨
      CancellationWorker.look coordinator stopRequested = .waiting ∨
      ∃ action, CancellationWorker.look coordinator stopRequested = .captured action ∧
        coordinator.operationActive ∧ coordinator.currentAction = some action := by
  unfold CancellationWorker.look
  by_cases closed : (coordinator.chainFinished || !coordinator.operationActive) = true
  · rw [if_pos closed]
    exact .inl rfl
  · rw [if_neg closed]
    cases coordinator.currentAction with
    | some action =>
        refine .inr (.inr ⟨action, rfl, ?_, rfl⟩)
        simp_all
    | none =>
        cases stopRequested with
        | true => exact .inl rfl
        | false => exact .inr (.inl rfl)

theorem look (held : Coordination trace state) {stopRequested : Bool} {action : OrderAction}
    (holds : (CancellationWorker.look state.coordinator stopRequested).action = some action) :
    registeredAction trace.stage.calls = some action ∧
      (trace.stage.isRunning ∨ trace.cleared = false) := by
  rcases look_cases state.coordinator stopRequested with
    looked | looked | ⟨captured, looked, active, current⟩
  · rw [looked] at holds
    cases holds
  · rw [looked] at holds
    cases holds
  · rw [looked] at holds
    cases holds
    rw [held.active] at active
    rw [held.current] at current
    cases stage : trace.stage with
    | running calls =>
        refine ⟨?_, .inl rfl⟩
        rw [stage, OperationStage.openAction] at current
        split_ifs at current
        exact current
    | idle => simp [stage, OperationStage.isRunning] at active
    | ended calls outcome resolved confirmed => simp [stage, OperationStage.isRunning] at active
    | refused => simp [stage, OperationStage.isRunning] at active

theorem look_unreturned {coordinator : OperationCancellationCoordinator} {stopRequested : Bool}
    {action : OrderAction} {verdict : Verdict} :
    CancellationWorker.look coordinator stopRequested ≠ .returned action verdict := by
  rcases look_cases coordinator stopRequested with looked | looked | ⟨captured, looked, _⟩ <;>
    simp [looked]

/-- The cancellation worker records its verdict with this result. -/
theorem settle {action : OrderAction} {verdict : Verdict}
    {coordinator : OperationCancellationCoordinator} {worker : CancellationWorker}
    (held : Coordination trace state) (returned : state.worker = .returned action verdict)
    (active : coordinator.operationActive = state.coordinator.operationActive)
    (current : coordinator.currentAction = state.coordinator.currentAction)
    (completed : coordinator.actionCompletedNaturally = state.coordinator.actionCompletedNaturally)
    (requests : coordinator.cancellationRequested = state.coordinator.cancellationRequested)
    (recorded : worker.hasRecorded) (holding : worker.action = some action)
    (confirmed : coordinator.result = .confirmedCancelled →
      hasCompleted trace.stage.calls = false ∧ ConfirmedCancelled state.cancelReturns action)
    (failed : coordinator.result = .failed → hasCompleted trace.stage.calls = false) :
    Coordination trace { state with coordinator, worker } := by
  have requested : coordinator.cancellationRequested := by
    rw [requests]
    exact held.requested (by rw [returned]; rfl)
  have unrecorded : ¬ state.worker.hasRecorded := by simp [returned, CancellationWorker.hasRecorded]
  constructor
  case accepted => exact held.accepted
  case active => exact active.trans held.active
  case current => exact current.trans held.current
  case completed => exact completed.trans held.completed
  case requested => exact fun _ => requested
  case held =>
    intro other same
    apply held.held other
    rw [returned]
    exact holding.symm.trans same
  case requested_result => exact fun _ => requested
  case confirmed_result =>
    intro same
    exact ⟨recorded, (confirmed same).1, action, holding, (confirmed same).2⟩
  case failed_result => exact fun same => ⟨recorded, failed same⟩
  case natural_result => exact fun _ => .inl recorded
  case verdict =>
    intro other same
    change worker = _ at same
    simp [same, CancellationWorker.hasRecorded] at recorded
  case ending => exact held.ending
  case confirmed_answer => exact fun answered => absurd (held.confirmed_answer answered).1 unrecorded
  case confirmed_kept =>
    intro ended kept
    exact absurd (held.confirmed_result (held.confirmed_kept ended kept)).1 unrecorded
  case unconfirmed_answer => exact held.unconfirmed_answer

theorem record {action : OrderAction} {verdict : Verdict} (held : Coordination trace state)
    (returned : state.worker = .returned action verdict) :
    Coordination trace { state with
      coordinator := (state.coordinator.record verdict).1
      worker := .afterRecord action (state.coordinator.record verdict).2 } := by
  have unrecorded : ¬ state.worker.hasRecorded := by simp [returned, CancellationWorker.hasRecorded]
  have unconfirmed : state.coordinator.result ≠ .confirmedCancelled :=
    fun same => unrecorded (held.confirmed_result same).1
  have unfailed : state.coordinator.result ≠ .failed :=
    fun same => unrecorded (held.failed_result same).1
  have unchanged : Coordination trace { state with
      coordinator := state.coordinator
      worker := .finishing (some action) } :=
    held.settle returned rfl rfl rfl rfl rfl rfl (fun same => absurd same unconfirmed)
      (fun same => absurd same unfailed)
  cases verdict with
  | interrupted => exact unchanged
  | naturalCompletion =>
      exact held.settle returned rfl rfl rfl rfl rfl rfl
        (fun same => CancellationResult.noConfusion same)
        (fun same => CancellationResult.noConfusion same)
  | confirmedCancellation =>
      by_cases completed : state.coordinator.actionCompletedNaturally ||
          state.coordinator.result = .naturalCompletion
      · simp only [OperationCancellationCoordinator.record, completed, if_true]
        exact unchanged
      · simp only [OperationCancellationCoordinator.record, completed]
        have uncompleted : hasCompleted trace.stage.calls = false := by
          rw [← held.completed]
          simp_all
        exact held.settle returned rfl rfl rfl rfl rfl rfl
          (fun _ => ⟨uncompleted, held.verdict action returned⟩) (fun _ => uncompleted)
  | cancellationFailure error =>
      by_cases completed : state.coordinator.actionCompletedNaturally ||
          state.coordinator.result = .naturalCompletion
      · simp only [OperationCancellationCoordinator.record, completed, if_true]
        exact unchanged
      · simp only [OperationCancellationCoordinator.record, completed]
        have uncompleted : hasCompleted trace.stage.calls = false := by
          rw [← held.completed]
          simp_all
        exact held.settle returned rfl rfl rfl rfl rfl rfl
          (fun same => CancellationResult.noConfusion same) (fun _ => uncompleted)

/-- The invariant survives every step beside the chain worker. -/
theorem interfere {after : CancellationRunState} (held : Coordination trace state)
    (step : CancellationStep managerMayStop state after) : Coordination trace after := by
  cases step with
  | request =>
      exact held.move rfl rfl rfl rfl rfl (fun _ => rfl) (fun _ member => member) (fun _ => rfl)
        (fun recorded => ⟨recorded, rfl⟩) held.held held.verdict
  | startWorker requested unstarted =>
      refine held.move rfl rfl rfl rfl rfl id (fun _ member => member) (fun _ => requested) ?recorded
        ?holds ?verdict
      case recorded => simp [unstarted, CancellationWorker.hasRecorded]
      case holds =>
        intro action same
        cases same
      case verdict => exact fun action same => CancellationWorker.noConfusion same
  | enter starting =>
      have requested := held.requested (by rw [starting]; rfl)
      refine held.move rfl rfl rfl rfl rfl id (fun _ member => member) (fun _ => requested) ?recorded
        ?holds ?verdict
      case recorded => simp [starting, CancellationWorker.hasRecorded]
      case holds => exact fun action holds => held.look holds
      case verdict => exact fun action same => absurd same look_unreturned
  | wake waiting =>
      have requested := held.requested (by rw [waiting]; rfl)
      refine held.move rfl rfl rfl rfl rfl id (fun _ member => member) (fun _ => requested) ?recorded
        ?holds ?verdict
      case recorded => simp [waiting, CancellationWorker.hasRecorded]
      case holds => exact fun action holds => held.look holds
      case verdict => exact fun action same => absurd same look_unreturned
  | call captured =>
      have requested := held.requested (by rw [captured]; rfl)
      refine held.move rfl rfl rfl rfl rfl id (fun _ member => member) (fun _ => requested) ?recorded
        ?holds ?verdict
      case recorded => simp [captured, CancellationWorker.hasRecorded]
      case holds => exact fun action same => held.held action (by rw [captured]; exact same)
      case verdict => exact fun action same => CancellationWorker.noConfusion same
  | throw failure calling =>
      have requested := held.requested (by rw [calling]; rfl)
      refine held.move rfl rfl rfl rfl rfl id (fun _ member => member) (fun _ => requested) ?recorded
        ?holds ?verdict
      case recorded => simp [calling, CancellationWorker.hasRecorded]
      case holds => exact fun action same => held.held action (by rw [calling]; exact same)
      case verdict =>
        intro action same
        injection same with _ verdict
        exact absurd verdict unconfirmed_of_failure
  | answer terminal calling =>
      have requested := held.requested (by rw [calling]; rfl)
      refine held.move rfl rfl rfl rfl rfl id (fun _ member => List.mem_cons_of_mem _ member)
        (fun _ => requested) ?recorded ?holds ?verdict
      case recorded => simp [calling, CancellationWorker.hasRecorded]
      case holds => exact fun action same => held.held action (by rw [calling]; exact same)
      case verdict =>
        intro action same
        injection same with same verdict
        subst same
        exact confirmed_of_verdict verdict List.mem_cons_self
  | record returned => exact held.record returned
  | requestStop stopping =>
      have requested := held.requested (by rw [stopping]; rfl)
      refine held.move rfl rfl rfl rfl rfl id (fun _ member => member) (fun _ => requested) ?recorded
        ?holds ?verdict
      case recorded => exact fun _ => ⟨rfl, by rw [stopping]; rfl⟩
      case holds => exact fun action same => held.held action (by rw [stopping]; exact same)
      case verdict => exact fun action same => CancellationWorker.noConfusion same
  | finish finishing =>
      have requested := held.requested (by rw [finishing]; rfl)
      refine held.move rfl rfl rfl rfl rfl id (fun _ member => member) (fun _ => requested) ?recorded
        ?holds ?verdict
      case recorded =>
        rw [finishing]
        exact fun recorded => ⟨recorded, rfl⟩
      case holds => exact fun action same => held.held action (by rw [finishing]; exact same)
      case verdict => exact fun action same => CancellationWorker.noConfusion same
  | stopWorker stops started =>
      exact held.move rfl rfl rfl rfl rfl id (fun _ member => member) held.requested
        (fun recorded => ⟨recorded, rfl⟩) held.held held.verdict

/-! ## The chain worker's steps -/

/-- What was published or notified plays no part. -/
theorem same_stage {later : ChainTrace} (held : Coordination trace state)
    (stage : later.stage = trace.stage) (cleared : later.cleared = trace.cleared) :
    Coordination later state := by
  cases later
  cases trace
  cases stage
  cases cleared
  exact ⟨held.accepted, held.active, held.current, held.completed, held.requested, held.held,
    held.requested_result, held.confirmed_result, held.failed_result, held.natural_result,
    held.verdict, held.ending, held.confirmed_answer, held.confirmed_kept,
    held.unconfirmed_answer⟩

/-- The stage moves on to one that says the same of the registered action. -/
theorem restage {stage : OperationStage} (held : Coordination trace state)
    (accepted : stage ≠ .refused) (running : stage.isRunning = trace.stage.isRunning)
    (current : stage.openAction = trace.stage.openAction)
    (registered : registeredAction stage.calls = registeredAction trace.stage.calls)
    (completed : hasCompleted stage.calls = hasCompleted trace.stage.calls)
    (ending : ∀ outcome, stage.outcome = some outcome → factoryEndAllowed stage.calls outcome)
    (ended : stage.outcome.isSome → trace.stage.outcome.isSome)
    (confirmed : stage.confirmation = some true → state.worker.hasRecorded ∧
      ∃ action, state.worker.action = some action ∧ ConfirmedCancelled state.cancelReturns action)
    (unconfirmed : stage.confirmation = some false → state.confirmedWhenEnded = false) :
    Coordination (trace.withStage stage) state where
  accepted := accepted
  active := held.active.trans running.symm
  current := held.current.trans current.symm
  completed := held.completed.trans completed.symm
  requested := held.requested
  held := by
    show ∀ action, _ → registeredAction stage.calls = _ ∧ (stage.isRunning = _ ∨ _)
    rw [registered, running]
    exact held.held
  requested_result := held.requested_result
  confirmed_result := by
    show _ → _ ∧ hasCompleted stage.calls = _ ∧ _
    rw [completed]
    exact held.confirmed_result
  failed_result := by
    show _ → _ ∧ hasCompleted stage.calls = _
    rw [completed]
    exact held.failed_result
  natural_result := by
    show _ → _ ∨ hasCompleted stage.calls = _
    rw [completed]
    exact held.natural_result
  verdict := held.verdict
  ending := ending
  confirmed_answer := confirmed
  confirmed_kept := fun some => held.confirmed_kept (ended some)
  unconfirmed_answer := unconfirmed

/-- A call that neither registers an action nor completes one. -/
theorem call {asked : OperationCall} {answer : asked.Answer} {calls : CallHistory}
    (held : Coordination trace state) (stage : trace.stage = .running calls)
    (registers : registers asked answer = none) (completes : asked.completes = false) :
    Coordination (trace.after (.call asked) answer) state := by
  have registered : registeredAction (⟨asked, answer⟩ :: calls) = registeredAction calls := by
    rw [registeredAction, registers, Option.none_or]
  have completed : hasCompleted (⟨asked, answer⟩ :: calls) = hasCompleted calls := by
    simp [hasCompleted, completes]
  rw [ChainTrace.after, stage]
  apply held.restage <;> rw [OperationStage.afterCall]
  case accepted => exact fun same => OperationStage.noConfusion same
  case running => rw [stage]; rfl
  case current =>
    rw [stage, OperationStage.openAction, OperationStage.openAction, registered, completed]
  case registered => rw [stage]; exact registered
  case completed => rw [stage]; exact completed
  case ending => intro outcome same; cases same
  case ended => intro same; cases same
  case confirmed => intro same; cases same
  case unconfirmed => intro same; cases same

/-- The chain worker's step leaves the record alone. -/
theorem pass (held : Coordination trace state) {effect : ChainEffect}
    (unended : (state.advance effect state.coordinator).confirmedWhenEnded =
      state.confirmedWhenEnded) :
    Coordination trace (state.advance effect state.coordinator) :=
  held.move rfl rfl rfl rfl unended id (fun _ member => member) held.requested
    (fun recorded => ⟨recorded, rfl⟩) held.held held.verdict

theorem started_of_action {worker : CancellationWorker} {action : OrderAction}
    (holding : worker.action = some action) : worker.hasStarted := by
  cases worker with
  | notStarted => cases holding
  | _ => rfl

/-- A poll answers that a cancellation was requested as soon as an action is held. -/
theorem poll {asked : Bool} (held : Coordination trace state)
    (answered : asked = state.coordinator.cancellationRequested) :
    Coordination { trace with cleared := !asked } state := by
  refine ⟨held.accepted, held.active, held.current, held.completed, held.requested, ?_,
    held.requested_result, held.confirmed_result, held.failed_result, held.natural_result,
    held.verdict, held.ending, held.confirmed_answer, held.confirmed_kept,
    held.unconfirmed_answer⟩
  intro action holding
  refine ⟨(held.held action holding).1, .inr ?_⟩
  show (!asked) = false
  rw [answered, held.requested (started_of_action holding)]
  rfl

/-- No action is held when an operation starts. -/
theorem start {canRegisterAction : Bool} {coordinator : OperationCancellationCoordinator}
    (held : Coordination trace state) (cleared : trace.cleared) (settled : trace.stage.Settled)
    (started : state.coordinator.startOperation canRegisterAction = .ok coordinator) :
    Coordination { trace with stage := .running [], cleared := false }
      (state.advance (.startOperation canRegisterAction) coordinator) := by
  rcases except_bind_ok.1 started with ⟨_, _, last⟩
  cases last
  have unheld : ∀ action, state.worker.action ≠ some action := by
    intro action holding
    rcases (held.held action holding).2 with running | uncleared
    · rw [settled.not_running] at running
      cases running
    · rw [cleared] at uncleared
      cases uncleared
  constructor
  case accepted => exact fun same => OperationStage.noConfusion same
  case active => rfl
  case current => rfl
  case completed => rfl
  case requested => exact held.requested
  case held => exact fun action holding => absurd holding (unheld action)
  case requested_result => exact fun some => absurd rfl some
  case confirmed_result => intro same; cases same
  case failed_result => intro same; cases same
  case natural_result => intro same; cases same
  case verdict => exact held.verdict
  case ending => intro outcome same; cases same
  case confirmed_answer => intro same; cases same
  case confirmed_kept => intro same; cases same
  case unconfirmed_answer => intro same; cases same

theorem finish {outcome : Except OperationFailure Unit} (held : Coordination trace state)
    (allowed : factoryEndAllowed trace.stage.calls outcome) :
    Coordination
      { trace with stage := .ended trace.stage.calls outcome false none, cleared := false }
      (state.advance (.finishOperation outcome) state.coordinator.finishOperation) := by
  constructor
  case accepted => exact fun same => OperationStage.noConfusion same
  case active => rfl
  case current => rfl
  case completed => exact held.completed
  case requested => exact held.requested
  case held => exact fun action holding => ⟨(held.held action holding).1, .inr rfl⟩
  case requested_result => exact held.requested_result
  case confirmed_result => exact held.confirmed_result
  case failed_result => exact held.failed_result
  case natural_result => exact held.natural_result
  case verdict => exact held.verdict
  case ending =>
    intro last same
    cases same
    exact allowed
  case confirmed_answer => intro same; cases same
  case confirmed_kept =>
    intro _ confirmed
    exact of_decide_eq_true confirmed
  case unconfirmed_answer => intro same; cases same

theorem finish_chain (held : Coordination trace state) (idle : trace.stage.isRunning = false) :
    Coordination trace (state.advance .finishChain state.coordinator.finishChain) := by
  have unopened : trace.stage.openAction = none := by
    cases stage : trace.stage with
    | running calls => simp [stage, OperationStage.isRunning] at idle
    | _ => rfl
  constructor
  case accepted => exact held.accepted
  case active => exact idle.symm
  case current => exact unopened.symm
  case completed => exact held.completed
  case requested => exact held.requested
  case held => exact held.held
  case requested_result => exact held.requested_result
  case confirmed_result => exact held.confirmed_result
  case failed_result => exact held.failed_result
  case natural_result => exact held.natural_result
  case verdict => exact held.verdict
  case ending => exact held.ending
  case confirmed_answer => exact held.confirmed_answer
  case confirmed_kept => exact held.confirmed_kept
  case unconfirmed_answer => exact held.unconfirmed_answer

/-- An action is registered only while none is held. -/
theorem register {action : OrderAction} {calls : CallHistory}
    {coordinator : OperationCancellationCoordinator} (held : Coordination trace state)
    (stage : trace.stage = .running calls) (uncompleted : hasCompleted calls = false)
    (registered : state.coordinator.register action = .ok coordinator) :
    Coordination (trace.withStage (.running (⟨.register action, .ok ()⟩ :: calls)))
      (state.advance (.call (.register action)) coordinator) := by
  rcases register_ok registered with ⟨unregistered, rfl⟩
  have unheld : ∀ other, state.worker.action ≠ some other := by
    intro other holding
    have current := held.current
    rw [unregistered, stage, OperationStage.openAction, uncompleted] at current
    have same := (held.held other holding).1
    rw [stage] at same
    cases current.trans same
  have completed : hasCompleted (⟨.register action, .ok ()⟩ :: calls) = false := uncompleted
  have was : hasCompleted trace.stage.calls = false := by
    rw [stage]
    exact uncompleted
  have active := held.active
  rw [stage] at active
  constructor
  case accepted => exact fun same => OperationStage.noConfusion same
  case active => exact active
  case current =>
    show _ = if hasCompleted _ then none else _
    rw [completed]
    rfl
  case completed => exact (held.completed.trans was).trans completed.symm
  case requested => exact held.requested
  case held => exact fun other holding => absurd holding (unheld other)
  case requested_result => exact held.requested_result
  case confirmed_result =>
    intro confirmed
    rcases held.confirmed_result confirmed with ⟨_, _, other, holding, _⟩
    exact absurd holding (unheld other)
  case failed_result => exact fun failed => ⟨(held.failed_result failed).1, completed⟩
  case natural_result =>
    intro natural
    rcases held.natural_result natural with recorded | done
    · exact .inl recorded
    · rw [was] at done
      cases done
  case verdict => exact held.verdict
  case ending => intro outcome same; cases same
  case confirmed_answer => intro same; cases same
  case confirmed_kept => intro same; cases same
  case unconfirmed_answer => intro same; cases same

/-- A natural completion outweighs a confirmation and a failure recorded before it. -/
theorem complete {calls : CallHistory} (held : Coordination trace state)
    (stage : trace.stage = .running calls) :
    Coordination (trace.withStage (.running (⟨.completeActionNaturally, ()⟩ :: calls)))
      (state.advance (.call .completeActionNaturally)
        state.coordinator.completeActionNaturally) := by
  have active : state.coordinator.operationActive = true := by
    rw [held.active, stage]
    rfl
  have completed : hasCompleted (⟨.completeActionNaturally, ()⟩ :: calls) = true := rfl
  have result : (if state.coordinator.cancellationRequested then .naturalCompletion
      else state.coordinator.result) = .none ∨
      state.coordinator.cancellationRequested ∧
        (if state.coordinator.cancellationRequested then .naturalCompletion
          else state.coordinator.result) = .naturalCompletion := by
    by_cases requested : state.coordinator.cancellationRequested = true
    · exact .inr ⟨requested, if_pos requested⟩
    · rw [if_neg requested]
      exact .inl (by_contra fun some => requested (held.requested_result some))
  rw [OperationCancellationCoordinator.completeActionNaturally, if_pos active]
  constructor
  case accepted => exact fun same => OperationStage.noConfusion same
  case active => exact active
  case current => rfl
  case completed => rfl
  case requested => exact held.requested
  case held =>
    intro action holding
    refine ⟨?_, .inl rfl⟩
    have registered := (held.held action holding).1
    rw [stage] at registered
    exact registered
  case requested_result =>
    intro some
    rcases result with none | ⟨requested, _⟩
    · exact absurd none some
    · exact requested
  case confirmed_result =>
    intro confirmed
    rcases result with none | ⟨_, natural⟩
    · cases none.symm.trans confirmed
    · cases natural.symm.trans confirmed
  case failed_result =>
    intro failed
    rcases result with none | ⟨_, natural⟩
    · cases none.symm.trans failed
    · cases natural.symm.trans failed
  case natural_result => exact fun _ => .inr completed
  case verdict => exact held.verdict
  case ending => intro outcome same; cases same
  case confirmed_answer => intro same; cases same
  case confirmed_kept => intro same; cases same
  case unconfirmed_answer => intro same; cases same

/-- Only a registration and a natural completion change the record during a call. -/
theorem answers_unchanged {asked : OperationCall} {answer : asked.Answer}
    {coordinator after : OperationCancellationCoordinator}
    (registers : registers asked answer = none) (completes : asked.completes = false)
    (answered : coordinator.Answers (.call asked) answer after) : after = coordinator := by
  cases asked with
  | register action =>
      cases answer with
      | ok registered => cases registers
      | error failure => exact answered.2
  | completeActionNaturally => cases completes
  | isCancellationRequested => exact answered.2
  | getWaitStopToken => exact answered.2
  | _ => exact answered

theorem act {effect : ChainEffect} {answer : effect.Answer}
    {coordinator : OperationCancellationCoordinator} (held : Coordination trace state)
    (required : EffectAllowed factoryDiscipline trace effect)
    (answered : state.coordinator.Answers effect answer coordinator) :
    Coordination (trace.after effect answer) (state.advance effect coordinator) := by
  cases effect with
  | clock =>
      rw [show coordinator = state.coordinator from answered]
      exact held.pass rfl
  | store snapshot =>
      rw [show coordinator = state.coordinator from answered]
      exact (held.pass rfl).same_stage rfl rfl
  | notifyStateChanged snapshot =>
      rw [show coordinator = state.coordinator from answered]
      exact (held.pass rfl).same_stage rfl rfl
  | hasCancellationFailed =>
      rw [answered.2]
      exact held.pass rfl
  | getCancellationFailure =>
      rw [answered.2]
      exact held.pass rfl
  | waitForCancellationResolution =>
      rw [answered.2]
      have passed : Coordination trace
        (state.advance .waitForCancellationResolution state.coordinator) := held.pass rfl
      apply passed.restage
      case accepted => simpa using passed.accepted
      case running => simp
      case current => simp
      case registered => simp
      case completed => simp
      case ending => simpa using passed.ending
      case ended => simp
      case confirmed => simpa using passed.confirmed_answer
      case unconfirmed => simpa using passed.unconfirmed_answer
  | isCancellationConfirmed =>
      rcases answered with ⟨rfl, rfl⟩
      have passed : Coordination trace
        (state.advance .isCancellationConfirmed state.coordinator) := held.pass rfl
      apply passed.restage
      case accepted => simpa using passed.accepted
      case running => simp
      case current => simp
      case registered => simp
      case completed => simp
      case ending => simpa using passed.ending
      case ended => simp
      case confirmed =>
        intro answered
        rw [OperationStage.after_confirmation_confirmation, Option.map_eq_some_iff] at answered
        rcases answered with ⟨_, _, confirmed⟩
        have recorded := held.confirmed_result (of_decide_eq_true confirmed)
        exact ⟨recorded.1, recorded.2.2⟩
      case unconfirmed =>
        intro answered
        rw [OperationStage.after_confirmation_confirmation, Option.map_eq_some_iff] at answered
        rcases answered with ⟨_, ended, unconfirmed⟩
        by_contra kept
        have confirmed := held.confirmed_kept (by rw [ended]; rfl) (eq_true_of_ne_false kept)
        exact absurd confirmed (of_decide_eq_false unconfirmed)
  | isCancellationRequested =>
      rcases answered with ⟨rfl, rfl⟩
      have passed : Coordination trace
        (state.advance .isCancellationRequested state.coordinator) := held.pass rfl
      exact passed.poll rfl
  | finishChain =>
      rw [show coordinator = state.coordinator.finishChain from answered]
      exact held.finish_chain required
  | finishOperation outcome =>
      rw [show coordinator = state.coordinator.finishOperation from answered]
      rcases required with ⟨calls, stage, allowed⟩
      apply held.finish
      rw [stage]
      exact allowed
  | startOperation canRegisterAction =>
      cases answer with
      | ok started => exact held.start required.1 required.2.1 answered
      | error failure =>
          have active := start_operation_refused answered.1
          rw [held.active, required.2.1.not_running] at active
          cases active
  | call asked =>
      rcases required with ⟨calls, stage, allowed⟩
      cases asked with
      | register action =>
          cases answer with
          | error failure =>
              rw [answers_unchanged rfl rfl answered]
              exact (held.pass rfl).call stage rfl rfl
          | ok registered =>
              have after : trace.after (.call (.register action)) (.ok registered) =
                  trace.withStage (.running (⟨.register action, .ok ()⟩ :: calls)) := by
                rw [ChainTrace.after, stage]
                rfl
              rw [after]
              exact held.register stage allowed answered
      | completeActionNaturally =>
          have after : trace.after (.call .completeActionNaturally) answer =
              trace.withStage (.running (⟨.completeActionNaturally, ()⟩ :: calls)) := by
            rw [ChainTrace.after, stage]
            rfl
          rw [after, show coordinator = state.coordinator.completeActionNaturally from answered]
          exact held.complete stage
      | _ =>
          rw [answers_unchanged rfl rfl answered]
          exact (held.pass rfl).call stage rfl rfl

end Coordination

end CryptoDeal
