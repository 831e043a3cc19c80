import CryptoDeal.DealService.OrderStatusUtil
import CryptoDeal.OperationChain.OperationFactory

/-!
# The cancellation coordinator

One record, guarded by one mutex, that the chain worker, the requester and the
cancellation worker share. Each function here is one critical section. The
cancellation worker runs `cancelCurrentOperation`; its phases name the places
where it is outside the mutex.
-/

namespace CryptoDeal

open DealService OrderStatusUtil

inductive CancellationResult where
  | none
  | confirmedCancelled
  | naturalCompletion
  | failed
  deriving DecidableEq, Repr

structure OperationCancellationCoordinator where
  cancellationRequested : Bool := false
  operationActive : Bool := false
  actionMayBeRegistered : Bool := false
  actionCompletedNaturally : Bool := false
  chainFinished : Bool := false
  cancellationWorkerRunning : Bool := false
  currentAction : Option OrderAction := none
  waitStopSource : StopSource := 0
  /-- The stop states whose stop was requested. -/
  stoppedSources : List StopSource := []
  result : CancellationResult := .none
  failure : String := ""

namespace OperationCancellationCoordinator

def requestCancellation (coordinator : OperationCancellationCoordinator) :
    OperationCancellationCoordinator :=
  { coordinator with cancellationRequested := true }

/-! ## The chain worker's side -/

def startOperation (canRegisterAction : Bool) (coordinator : OperationCancellationCoordinator) :
    Except ServiceFailure OperationCancellationCoordinator := do
  throwIf coordinator.operationActive
    "Operation-chain cancellation coordinator already has an active operation"
  return { coordinator with
    operationActive := true
    actionMayBeRegistered := canRegisterAction
    actionCompletedNaturally := false
    currentAction := none
    waitStopSource := coordinator.waitStopSource + 1
    result := .none
    failure := "" }

def registerAction (kind : String) (action : OrderAction)
    (coordinator : OperationCancellationCoordinator) :
    Except ServiceFailure OperationCancellationCoordinator := do
  throwIf (!coordinator.operationActive || !coordinator.actionMayBeRegistered)
    ("Cannot register " ++ kind ++ " order outside a cancellable chain operation")
  throwIf coordinator.currentAction.isSome
    "Operation-chain cancellation coordinator already has a registered action"
  return { coordinator with
    currentAction := some action
    actionMayBeRegistered := false }

/-- `registerOrdinaryOrder` and `registerOcoOrder`; a service of the pull is never null. -/
def register (action : OrderAction) (coordinator : OperationCancellationCoordinator) :
    Except ServiceFailure OperationCancellationCoordinator :=
  match action with
  | .ordinary _ _ => registerAction "an ordinary" action coordinator
  | .oco _ _ => registerAction "an OCO" action coordinator

theorem register_ok {action : OrderAction} {coordinator after : OperationCancellationCoordinator}
    (registered : coordinator.register action = .ok after) :
    coordinator.currentAction = none ∧
      after = { coordinator with currentAction := some action, actionMayBeRegistered := false } := by
  have parts : ∃ kind, registerAction kind action coordinator = .ok after := by
    cases action with
    | ordinary service orderInfo => exact ⟨_, registered⟩
    | oco service ocoInfo => exact ⟨_, registered⟩
  rcases parts with ⟨kind, accepted⟩
  rcases except_bind_ok.1 accepted with ⟨_, _, rest⟩
  rcases except_bind_ok.1 rest with ⟨_, unregistered, last⟩
  cases last
  exact ⟨by simpa using throw_if_ok.1 unregistered, rfl⟩

theorem register_active {action : OrderAction}
    {coordinator after : OperationCancellationCoordinator}
    (registered : coordinator.register action = .ok after) : coordinator.operationActive := by
  have parts : ∃ kind, registerAction kind action coordinator = .ok after := by
    cases action with
    | ordinary service orderInfo => exact ⟨_, registered⟩
    | oco service ocoInfo => exact ⟨_, registered⟩
  rcases parts with ⟨kind, accepted⟩
  have checked := (throw_if_bind_ok.1 accepted).1
  by_contra inactive
  simp [inactive] at checked

theorem start_operation_refused {canRegisterAction : Bool} {failure : ServiceFailure}
    {coordinator : OperationCancellationCoordinator}
    (refused : coordinator.startOperation canRegisterAction = .error failure) :
    coordinator.operationActive := by
  by_contra inactive
  simp [startOperation, throwIf, inactive, bind, Except.bind, pure, Except.pure] at refused

def completeActionNaturally (coordinator : OperationCancellationCoordinator) :
    OperationCancellationCoordinator :=
  if coordinator.operationActive then
    { coordinator with
      actionCompletedNaturally := true
      actionMayBeRegistered := false
      currentAction := none
      result := if coordinator.cancellationRequested then .naturalCompletion
        else coordinator.result
      failure := if coordinator.cancellationRequested then "" else coordinator.failure }
  else coordinator

def finishOperation (coordinator : OperationCancellationCoordinator) :
    OperationCancellationCoordinator :=
  { coordinator with
    operationActive := false
    actionMayBeRegistered := false
    currentAction := none }

def finishChain (coordinator : OperationCancellationCoordinator) :
    OperationCancellationCoordinator :=
  { coordinator with
    chainFinished := true
    operationActive := false
    actionMayBeRegistered := false
    currentAction := none }

/-- `waitForCancellationResolution` may return. -/
def isCancellationResolved (coordinator : OperationCancellationCoordinator) : Bool :=
  !coordinator.cancellationRequested || coordinator.result ≠ .none ||
    !coordinator.cancellationWorkerRunning

def isCancellationConfirmed (coordinator : OperationCancellationCoordinator) : Bool :=
  coordinator.result = .confirmedCancelled

def hasCancellationFailed (coordinator : OperationCancellationCoordinator) : Bool :=
  coordinator.result = .failed

/-! ## The cancellation worker's side -/

def startCancellationWorker (coordinator : OperationCancellationCoordinator) :
    OperationCancellationCoordinator :=
  { coordinator with cancellationWorkerRunning := true }

def finishCancellationWorker (coordinator : OperationCancellationCoordinator) :
    OperationCancellationCoordinator :=
  { coordinator with cancellationWorkerRunning := false }

/-- Which `record` function a cancellation ends with; none for an interruption by a stop. -/
inductive Verdict where
  | confirmedCancellation
  | naturalCompletion
  | cancellationFailure (error : String)
  | interrupted
  deriving DecidableEq

/-- The `record` function, with the stop source that it goes on to stop. -/
def record (coordinator : OperationCancellationCoordinator) :
    Verdict → OperationCancellationCoordinator × Option StopSource
  | .confirmedCancellation =>
      if coordinator.actionCompletedNaturally || coordinator.result = .naturalCompletion then
        (coordinator, none)
      else
        ({ coordinator with result := .confirmedCancelled, failure := "" },
          some coordinator.waitStopSource)
  | .naturalCompletion =>
      ({ coordinator with result := .naturalCompletion, failure := "" }, none)
  | .cancellationFailure error =>
      if coordinator.actionCompletedNaturally || coordinator.result = .naturalCompletion then
        (coordinator, none)
      else
        ({ coordinator with result := .failed, failure := error },
          some coordinator.waitStopSource)
  | .interrupted => (coordinator, none)

def requestStop (coordinator : OperationCancellationCoordinator) (source : StopSource) :
    OperationCancellationCoordinator :=
  { coordinator with stoppedSources := source :: coordinator.stoppedSources }

end OperationCancellationCoordinator

/-! ## `cancelCurrentOperation` -/

inductive CancelCall where
  | cancelOrderAndWaitUntilTerminal (service : ExchangerType) (query : OrderQuery)
  | cancelOcoAndWaitUntilTerminal (service : ExchangerType) (ocoInfo : OcoInfo)
  deriving DecidableEq

@[reducible] def CancelCall.Answer : CancelCall → Type
  | .cancelOrderAndWaitUntilTerminal _ _ => OrderInfo
  | .cancelOcoAndWaitUntilTerminal _ _ => OcoInfo

/-- The call that `confirmOrdinaryCancellation` or `confirmOcoCancellation` makes. -/
def OrderAction.cancelCall : OrderAction → CancelCall
  | .ordinary service orderInfo =>
      .cancelOrderAndWaitUntilTerminal service
        { symbol := orderInfo.symbol, orderId := some orderInfo.orderId }
  | .oco service ocoInfo => .cancelOcoAndWaitUntilTerminal service ocoInfo

open OperationCancellationCoordinator

def describeTerminalStatus (description : String) (orderInfo : OrderInfo) : String :=
  let message := description ++ " reached terminal status " ++ orderInfo.status
  if orderInfo.statusReason = "" then message else message ++ ": " ++ orderInfo.statusReason

def confirmOrdinaryCancellation (service : ExchangerType) (terminalOrder : OrderInfo) : Verdict :=
  match classifyOrderStatus service terminalOrder.status with
  | .filled => .naturalCompletion
  | .cancelled => .confirmedCancellation
  | _ => .cancellationFailure (describeTerminalStatus "Order cancellation" terminalOrder)

def confirmOcoCancellation (service : ExchangerType) (terminalOcoInfo : OcoInfo) : Verdict :=
  let takeProfitStatus := classifyOrderStatus service terminalOcoInfo.takeProfitOrder.status
  let stopLossStatus := classifyOrderStatus service terminalOcoInfo.stopLossOrder.status
  if takeProfitStatus = .filled ∨ stopLossStatus = .filled then .naturalCompletion
  else if takeProfitStatus = .cancelled ∧ stopLossStatus = .cancelled then .confirmedCancellation
  else
    .cancellationFailure
      (describeTerminalStatus "OCO take-profit cancellation" terminalOcoInfo.takeProfitOrder ++
        "; " ++ describeTerminalStatus "OCO stop-loss cancellation" terminalOcoInfo.stopLossOrder)

def CancelCall.confirm : (call : CancelCall) → call.Answer → Verdict
  | .cancelOrderAndWaitUntilTerminal service _ => confirmOrdinaryCancellation service
  | .cancelOcoAndWaitUntilTerminal service _ => confirmOcoCancellation service

/-- The `try` block of `cancelCurrentOperation`, from what the deal service did. -/
def CancelCall.verdict (call : CancelCall) (stopRequested : Bool) :
    Except ServiceFailure call.Answer → Verdict
  | .ok answer => call.confirm answer
  | .error (.interrupted _) =>
      if stopRequested then .interrupted
      else .cancellationFailure "Operation-chain cancellation confirmation was interrupted"
  | .error (.runtime what) => .cancellationFailure what
  | .error .nonStandard =>
      .cancellationFailure "Operation-chain cancellation failed with a non-standard exception"

/-- Where the cancellation worker is; from the capture on with the action it captured. -/
inductive CancellationWorker where
  | notStarted
  | starting
  | waiting
  | captured (action : OrderAction)
  | calling (action : OrderAction)
  | returned (action : OrderAction) (verdict : Verdict)
  | stopping (action : OrderAction) (source : StopSource)
  | finishing (action : Option OrderAction)
  | done (action : Option OrderAction)

namespace CancellationWorker

def action : CancellationWorker → Option OrderAction
  | captured action | calling action | returned action _ | stopping action _ => some action
  | finishing action | done action => action
  | notStarted | starting | waiting => none

def hasStarted : CancellationWorker → Bool
  | notStarted => false
  | _ => true

/-- The worker has passed its one `record`. -/
def hasRecorded : CancellationWorker → Bool
  | stopping _ _ => true
  | finishing action | done action => action.isSome
  | _ => false

/-- The wait of `cancelCurrentOperation`, at one look at the record. -/
def look (coordinator : OperationCancellationCoordinator) (stopRequested : Bool) :
    CancellationWorker :=
  if coordinator.chainFinished || !coordinator.operationActive then .finishing none
  else
    match coordinator.currentAction with
    | some action => .captured action
    | none => if stopRequested then .finishing none else .waiting

/-- Where the worker goes on after its `record`. -/
def afterRecord (action : OrderAction) : Option StopSource → CancellationWorker
  | some source => .stopping action source
  | none => .finishing (some action)

end CancellationWorker

end CryptoDeal
