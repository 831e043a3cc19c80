import CryptoDeal.OperationChain.OperationFactory

/-!
# Executing a chain

`OperationChain`: the transitions of its snapshot, and `execute`, a program
that asks the coordinator, runs the operations, stores each new snapshot and
notifies the observer. Only the chain worker writes the snapshot, so the program
carries it; `store` is the moment other threads can read the new one.
-/

namespace CryptoDeal

open DealService Interaction

structure OperationChain where
  context : OperationContext
  operations : List Operation
  snapshot : OperationChainSnapshot

inductive ChainEffect where
  | call (asked : OperationCall)
  | isCancellationRequested
  | startOperation (canRegisterAction : Bool)
  /-- The outcome is for the record: it is how the operation ended. -/
  | finishOperation (outcome : Except OperationFailure Unit)
  | finishChain
  | waitForCancellationResolution
  | isCancellationConfirmed
  | hasCancellationFailed
  | getCancellationFailure
  | clock
  | store (snapshot : OperationChainSnapshot)
  | notifyStateChanged (snapshot : OperationChainSnapshot)

@[reducible] def ChainEffect.Answer : ChainEffect → Type
  | .call asked => asked.Answer
  | .isCancellationRequested => Bool
  | .startOperation _ => Except ServiceFailure Unit
  | .finishOperation _ => Unit
  | .finishChain => Unit
  | .waitForCancellationResolution => Unit
  | .isCancellationConfirmed => Bool
  | .hasCancellationFailed => Bool
  | .getCancellationFailure => String
  | .clock => OperationChainTimePoint
  | .store _ => Unit
  | .notifyStateChanged _ => Unit

abbrev ChainProgram (Result : Type) :=
  Interaction ChainEffect ChainEffect.Answer ServiceFailure Result

abbrev ChainHistory := History ChainEffect ChainEffect.Answer

def createContextSnapshot (context : OperationContext) : OperationContextSnapshot :=
  { exchangerType := context.exchangerType, asset := context.inAsset,
    quantity := context.quantity }

namespace OperationChain

/-- What the constructor fills in; `createdAt` is what its clock reads. -/
def fresh (definition : OperationChainDefinition) (operations : List Operation)
    (exchangers : List ExchangerType) (createdAt : OperationChainTimePoint) : OperationChain :=
  let context : OperationContext :=
    { exchangerType := definition.initialExchangerType
      exchangersPull := exchangers
      inAsset := definition.initialAsset
      quantity := definition.initialQuantity }
  { context
    operations
    snapshot :=
      { definitionName := definition.name
        initialContext := createContextSnapshot context
        currentContext := createContextSnapshot context
        createdAt
        updatedAt := createdAt
        steps := definition.operations.mapIdx fun index operationDefinition =>
          { index, type := operationDefinition.type, config := operationDefinition.config } } }

def create (definition : OperationChainDefinition) (operations : List Operation)
    (exchangers : List ExchangerType) (createdAt : OperationChainTimePoint) :
    Except ServiceFailure OperationChain := do
  throwIf (operations.length ≠ definition.operations.length)
    "Operation-chain definition and executable operation counts do not match"
  return fresh definition operations exchangers createdAt

/-! ## Transitions -/

/-- A transition checks the chain; its change still takes the time. -/
abbrev Transition :=
  OperationChain → Except ServiceFailure (OperationChainTimePoint → OperationChainSnapshot)

def updateSnapshotTime (snapshot : OperationChainSnapshot) (timePoint : OperationChainTimePoint) :
    OperationChainSnapshot :=
  { snapshot with updatedAt := timePoint, revision := snapshot.revision + 1 }

/-- The step with this index, or the error for an index out of range. -/
def stepAt (snapshot : OperationChainSnapshot) (stepIndex : ℕ) (message : String) :
    Except ServiceFailure OperationStepSnapshot :=
  match snapshot.steps[stepIndex]? with
  | some step => .ok step
  | none => .error (.runtime message)

def startExecution : Transition := fun chain => do
  throwIf (chain.snapshot.status ≠ .pending) "Operation chain can only be executed once"
  return fun timePoint =>
    updateSnapshotTime { chain.snapshot with status := .running, startedAt := some timePoint }
      timePoint

def startStep (stepIndex : ℕ) : Transition := fun chain => do
  throwIf (chain.snapshot.status ≠ .running) "Operation chain is not running"
  let step ← stepAt chain.snapshot stepIndex "Operation-chain step index is out of range"
  throwIf (step.status ≠ .pending) "Operation-chain step is not pending"
  return fun timePoint =>
    updateSnapshotTime { chain.snapshot with
      currentStepIndex := some stepIndex
      steps := chain.snapshot.steps.set stepIndex { step with
        status := .running
        inputContext := some (createContextSnapshot chain.context)
        startedAt := some timePoint } } timePoint

def markStepAwaiting (stepIndex : ℕ) (identifiers : OperationAcceptedIdentifiers) :
    Transition := fun chain => do
  throwIf (chain.snapshot.status ≠ .running) "Operation chain is not running"
  throwIf (chain.snapshot.currentStepIndex ≠ some stepIndex)
    "Operation-chain progress does not match the current step"
  let step ← stepAt chain.snapshot stepIndex "Operation-chain step index is out of range"
  throwIf (step.status ≠ .running) "Operation-chain step is not running"
  return fun timePoint =>
    updateSnapshotTime { chain.snapshot with
      steps := chain.snapshot.steps.set stepIndex { step with
        status := .awaiting
        acceptedIdentifiers := identifiers } } timePoint

def finishStep (stepIndex : ℕ) : Transition := fun chain => do
  throwIf (chain.snapshot.status ≠ .running) "Operation chain is not running"
  throwIf (chain.snapshot.currentStepIndex ≠ some stepIndex)
    "Operation-chain completion does not match the current step"
  let step ← stepAt chain.snapshot stepIndex "Operation-chain step index is out of range"
  throwIf (step.status ≠ .running ∧ step.status ≠ .awaiting) "Operation-chain step is not active"
  return fun timePoint =>
    updateSnapshotTime { chain.snapshot with
      currentContext := createContextSnapshot chain.context
      steps := chain.snapshot.steps.set stepIndex { step with
        status := .succeeded
        outputContext := some (createContextSnapshot chain.context)
        finishedAt := some timePoint } } timePoint

/-- What `finishExecution` and the two cancellations without a step do once they may. -/
def endExecution (status : OperationChainStatus) (chain : OperationChain)
    (timePoint : OperationChainTimePoint) : OperationChainSnapshot :=
  updateSnapshotTime { chain.snapshot with
    status
    currentStepIndex := none
    finishedAt := some timePoint } timePoint

def finishExecution : Transition := fun chain => do
  throwIf (chain.snapshot.status ≠ .running) "Operation chain is not running"
  return endExecution .completed chain

def cancelPendingExecution : Transition := fun chain => do
  throwIf (chain.snapshot.status ≠ .pending) "Pending operation chain is not cancellable"
  return endExecution .cancelled chain

def cancelExecutionBetweenSteps : Transition := fun chain => do
  throwIf (chain.snapshot.status ≠ .running) "Running operation chain is not cancellable"
  return endExecution .cancelled chain

def cancelStepAndExecution (stepIndex : ℕ) : Transition := fun chain => do
  throwIf (chain.snapshot.status ≠ .running) "Running operation chain is not cancellable"
  let step ← stepAt chain.snapshot stepIndex "vector::_M_range_check"
  throwIf (step.status ≠ .running ∧ step.status ≠ .awaiting)
    "Operation-chain step is not cancellable"
  return fun timePoint =>
    updateSnapshotTime { chain.snapshot with
      steps := chain.snapshot.steps.set stepIndex { step with
        status := .cancelled
        finishedAt := some timePoint }
      status := .cancelled
      currentContext := createContextSnapshot chain.context
      currentStepIndex := none
      finishedAt := some timePoint } timePoint

/-- Its precondition is its caller's: nothing but the index is checked. -/
def failExecution (stepIndex : ℕ) (error : String) : Transition := fun chain => do
  let step ← stepAt chain.snapshot stepIndex "vector::_M_range_check"
  return fun timePoint =>
    updateSnapshotTime { chain.snapshot with
      steps := chain.snapshot.steps.set stepIndex { step with
        status := .failed
        finishedAt := some timePoint
        error }
      status := .failed
      currentContext := createContextSnapshot chain.context
      currentStepIndex := none
      error
      finishedAt := some timePoint } timePoint

/-! ## Execution -/

section Requests

def isCancellationRequested : ChainProgram Bool := .request .isCancellationRequested .returned

def startOperation (canRegisterAction : Bool) : ChainProgram Unit :=
  .request (.startOperation canRegisterAction) .ofExcept

def finishOperation (outcome : Except OperationFailure Unit) : ChainProgram Unit :=
  .request (.finishOperation outcome) .returned

def finishChain : ChainProgram Unit := .request .finishChain .returned

def waitForCancellationResolution : ChainProgram Unit :=
  .request .waitForCancellationResolution .returned

def isCancellationConfirmed : ChainProgram Bool := .request .isCancellationConfirmed .returned

def hasCancellationFailed : ChainProgram Bool := .request .hasCancellationFailed .returned

def getCancellationFailure : ChainProgram String := .request .getCancellationFailure .returned

def clock : ChainProgram OperationChainTimePoint := .request .clock .returned

def store (snapshot : OperationChainSnapshot) : ChainProgram Unit :=
  .request (.store snapshot) .returned

/-- An observer's exception is logged and goes no further. -/
def notifyStateChanged (chain : OperationChain) : ChainProgram Unit :=
  .request (.notifyStateChanged chain.snapshot) .returned

end Requests

def transition (change : Transition) (chain : OperationChain) : ChainProgram OperationChain := do
  let update ← change chain
  let timePoint ← clock
  store (update timePoint)
  return { chain with snapshot := update timePoint }

/-- A transition with its notification. -/
def advance (change : Transition) (chain : OperationChain) : ChainProgram OperationChain := do
  let chain ← transition change chain
  chain.notifyStateChanged
  return chain

/-- A last transition, as on every exit of `execute`. -/
def conclude (change : Transition) (chain : OperationChain) : ChainProgram Unit := do
  let chain ← transition change chain
  finishChain
  chain.notifyStateChanged

/-- The call of an operation: its exception is caught as a value, its progress
handler marks the step as awaiting, and its assignments reach the chain's context. -/
def runOperation (stepIndex : ℕ) :
    OperationProgram Unit → OperationChain →
      ChainProgram (Except OperationFailure Unit × OperationChain)
  | .returned _, chain => .returned (.ok (), chain)
  | .threw failure, chain => .returned (.error failure, chain)
  | .request (.call asked) next, chain =>
      .request (.call asked) fun answer => runOperation stepIndex (next answer) chain
  | .request (.reportAwaiting identifiers) next, chain =>
      (advance (markStepAwaiting stepIndex identifiers) chain).attempt.bind fun reported =>
        match reported with
        | .ok marked => runOperation stepIndex (next (.ok ())) marked
        | .error failure => runOperation stepIndex (next (.error failure)) chain
  | .request (.assignContext context) next, chain =>
      runOperation stepIndex (next ()) { chain with context }

/-- The error of a step that failed with this text. -/
def failureText (what : String) : ChainProgram String := do
  if ← hasCancellationFailed then getCancellationFailure else return what

/-- The catch branches, after the `finishOperation` that each of them begins with. -/
def catchFailure (stepIndex : ℕ) (chain : OperationChain) : OperationFailure → ChainProgram Unit
  | .cancellationRequested _ => conclude (cancelStepAndExecution stepIndex) chain
  | .thrown (.interrupted what) => do
      if ← isCancellationConfirmed then
        conclude (cancelStepAndExecution stepIndex) chain
      else
        let error ← failureText what
        conclude (failExecution stepIndex error) chain
        .threw (.runtime error)
  | .thrown (.runtime what) => do
      waitForCancellationResolution
      if ← isCancellationConfirmed then
        conclude (cancelStepAndExecution stepIndex) chain
      else
        let error ← failureText what
        conclude (failExecution stepIndex error) chain
        if ← hasCancellationFailed then .threw (.runtime error)
        else .threw (.runtime what)
  | .thrown .nonStandard => do
      conclude (failExecution stepIndex "Operation failed with a non-standard exception") chain
      .threw .nonStandard

def canRegisterAction (chain : OperationChain) (stepIndex : ℕ) : Bool :=
  chain.snapshot.steps[stepIndex]?.any fun step => step.type ≠ .sendTo

/-- The `try` block of one step, with what comes right before and after it. -/
def performStep (operation : Operation) (stepIndex : ℕ) (chain : OperationChain) :
    ChainProgram (Except OperationFailure Unit × OperationChain) := do
  let chain ← advance (startStep stepIndex) chain
  startOperation (chain.canRegisterAction stepIndex)
  let (outcome, chain) ← runOperation stepIndex (operation chain.context) chain
  finishOperation outcome
  return (outcome, chain)

/-- The loop of `execute`, from `stepIndex` on. -/
def executeSteps : List Operation → ℕ → OperationChain → ChainProgram Unit
  | [], _, chain => conclude finishExecution chain
  | operation :: remaining, stepIndex, chain => do
      if ← isCancellationRequested then
        conclude cancelExecutionBetweenSteps chain
      else
        let (outcome, chain) ← performStep operation stepIndex chain
        match outcome with
        | .error failure => catchFailure stepIndex chain failure
        | .ok _ =>
            let chain ← advance (finishStep stepIndex) chain
            let requested ← isCancellationRequested
            if requested && !remaining.isEmpty then
              conclude cancelExecutionBetweenSteps chain
            else
              executeSteps remaining (stepIndex + 1) chain

def execute (chain : OperationChain) : ChainProgram Unit := do
  if ← isCancellationRequested then
    conclude cancelPendingExecution chain
  else
    let chain ← advance startExecution chain
    executeSteps chain.operations 0 chain

end OperationChain

namespace OperationChainBuilder

def build (definition : OperationChainDefinition) (exchangers : List ExchangerType)
    (createdAt : OperationChainTimePoint) : Except ServiceFailure OperationChain := do
  let operations ← definition.operations.mapM fun operationDefinition =>
    OperationFactory.create operationDefinition.type operationDefinition.config
  OperationChain.create definition operations exchangers createdAt

end OperationChainBuilder

end CryptoDeal
