import CryptoDeal.Library.SharedRun
import CryptoDeal.OperationChain.FactoryDiscipline
import CryptoDeal.OperationChain.OperationCancellationCoordinator

/-!
# One run and its cancellation

The chain worker performs the effects of `execute` on the coordinator. Between
two of them a requester may request the cancellation, a cancellation worker
that was started after a request takes its next step, and the run manager may
stop that worker. A deal service answers the chain worker and the cancellation
worker with anything.
-/

namespace CryptoDeal

open DealService Interaction OperationCancellationCoordinator

/-- The chain worker's critical section for an effect. An effect that is not the
coordinator's, such as a deal-service call, leaves it alone and has any answer. -/
def OperationCancellationCoordinator.Answers (coordinator : OperationCancellationCoordinator) :
    (effect : ChainEffect) → effect.Answer → OperationCancellationCoordinator → Prop
  | .call .isCancellationRequested, requested, after =>
      requested = coordinator.cancellationRequested ∧ after = coordinator
  | .call (.register action), .ok _, after => coordinator.register action = .ok after
  | .call (.register action), .error failure, after =>
      coordinator.register action = .error failure ∧ after = coordinator
  | .call .getWaitStopToken, token, after =>
      token = coordinator.waitStopSource ∧ after = coordinator
  | .call .completeActionNaturally, _, after => after = coordinator.completeActionNaturally
  | .call (.buyCrypto _ _ _ _), _, after | .call (.sellCrypto _ _ _ _), _, after
  | .call (.placeOrder _ _), _, after | .call (.placeOco _ _), _, after
  | .call (.waitUntilOrderFilled _ _ _ _), _, after
  | .call (.waitUntilOcoOrderFilled _ _ _), _, after
  | .call (.printSending _ _), _, after => after = coordinator
  | .isCancellationRequested, requested, after =>
      requested = coordinator.cancellationRequested ∧ after = coordinator
  | .startOperation canRegisterAction, .ok _, after =>
      coordinator.startOperation canRegisterAction = .ok after
  | .startOperation canRegisterAction, .error failure, after =>
      coordinator.startOperation canRegisterAction = .error failure ∧ after = coordinator
  | .finishOperation _, _, after => after = coordinator.finishOperation
  | .finishChain, _, after => after = coordinator.finishChain
  | .waitForCancellationResolution, _, after =>
      coordinator.isCancellationResolved ∧ after = coordinator
  | .isCancellationConfirmed, confirmed, after =>
      confirmed = coordinator.isCancellationConfirmed ∧ after = coordinator
  | .hasCancellationFailed, failed, after =>
      failed = coordinator.hasCancellationFailed ∧ after = coordinator
  | .getCancellationFailure, failure, after => failure = coordinator.failure ∧ after = coordinator
  | .clock, _, after | .store _, _, after | .notifyStateChanged _, _, after => after = coordinator

/-- From `cancelCalls` on the fields are ghosts: what the cancellation worker has asked and heard,
and what the chain worker had done when it mattered. -/
structure CancellationRunState where
  coordinator : OperationCancellationCoordinator := {}
  worker : CancellationWorker := .notStarted
  workerStopRequested : Bool := false
  cancelCalls : List CancelCall := []
  cancelReturns : List (Sigma CancelCall.Answer) := []
  confirmedWhenEnded : Bool := false
  requestedWith : Option OrderAction := none
  requestedAt : Option ℕ := none
  performed : ℕ := 0

namespace CancellationRunState

def noteRequested (state : CancellationRunState) : CancellationRunState :=
  { state with
    requestedWith :=
      if state.coordinator.cancellationRequested then
        state.coordinator.currentAction.or state.requestedWith
      else state.requestedWith }

def advance (state : CancellationRunState) (effect : ChainEffect)
    (coordinator : OperationCancellationCoordinator) : CancellationRunState :=
  noteRequested { state with
    coordinator
    confirmedWhenEnded :=
      match effect with
      | .finishOperation _ => state.coordinator.isCancellationConfirmed
      | _ => state.confirmedWhenEnded
    performed := state.performed + 1 }

def request (state : CancellationRunState) : CancellationRunState :=
  noteRequested { state with
    coordinator := state.coordinator.requestCancellation
    requestedAt := state.requestedAt.or (some state.performed) }

end CancellationRunState

inductive CancellationStep (managerMayStop : Prop) :
    CancellationRunState → CancellationRunState → Prop where
  | request {state : CancellationRunState} : CancellationStep managerMayStop state state.request
  | startWorker {state : CancellationRunState}
      (requested : state.coordinator.cancellationRequested)
      (unstarted : state.worker = .notStarted) :
      CancellationStep managerMayStop state { state with worker := .starting }
  | enter {state : CancellationRunState} (starting : state.worker = .starting) :
      CancellationStep managerMayStop state { state with
        coordinator := state.coordinator.startCancellationWorker
        worker := .look state.coordinator state.workerStopRequested }
  | wake {state : CancellationRunState} (waiting : state.worker = .waiting) :
      CancellationStep managerMayStop state { state with
        worker := .look state.coordinator state.workerStopRequested }
  | call {state : CancellationRunState} {action : OrderAction}
      (captured : state.worker = .captured action) :
      CancellationStep managerMayStop state { state with
        worker := .calling action
        cancelCalls := action.cancelCall :: state.cancelCalls }
  | throw {state : CancellationRunState} {action : OrderAction} (failure : ServiceFailure)
      (calling : state.worker = .calling action) :
      CancellationStep managerMayStop state { state with
        worker := .returned action
          (action.cancelCall.verdict state.workerStopRequested (.error failure)) }
  | answer {state : CancellationRunState} {action : OrderAction}
      (terminal : action.cancelCall.Answer) (calling : state.worker = .calling action) :
      CancellationStep managerMayStop state { state with
        worker := .returned action
          (action.cancelCall.verdict state.workerStopRequested (.ok terminal))
        cancelReturns := ⟨action.cancelCall, terminal⟩ :: state.cancelReturns }
  | record {state : CancellationRunState} {action : OrderAction} {verdict : Verdict}
      (returned : state.worker = .returned action verdict) :
      CancellationStep managerMayStop state { state with
        coordinator := (state.coordinator.record verdict).1
        worker := .afterRecord action (state.coordinator.record verdict).2 }
  | requestStop {state : CancellationRunState} {action : OrderAction} {source : StopSource}
      (stopping : state.worker = .stopping action source) :
      CancellationStep managerMayStop state { state with
        coordinator := state.coordinator.requestStop source
        worker := .finishing (some action) }
  | finish {state : CancellationRunState} {action : Option OrderAction}
      (finishing : state.worker = .finishing action) :
      CancellationStep managerMayStop state { state with
        coordinator := state.coordinator.finishCancellationWorker
        worker := .done action }
  | stopWorker {state : CancellationRunState} (stops : managerMayStop)
      (started : state.worker.hasStarted) :
      CancellationStep managerMayStop state { state with workerStopRequested := true }

def cancellationSystem (managerMayStop : Prop)
    (allowed : CancellationRunState → ChainEffect → Prop) :
    SharedSystem ChainEffect ChainEffect.Answer CancellationRunState where
  performs state effect answer after :=
    allowed state effect ∧ ∃ coordinator, state.coordinator.Answers effect answer coordinator ∧
      after = state.advance effect coordinator
  interferes := CancellationStep managerMayStop

end CryptoDeal
