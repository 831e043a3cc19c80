import CryptoDeal.OperationChain.SnapshotPublication

/-!
# Simulated runs

`SimulatedOperationChainRun`: a run of a definition that takes its outputs from
a plan, waits where a real run would trade, and stays in its awaiting step until
it is cancelled. Its waits, its clock and its stop token are answered freely.
-/

namespace CryptoDeal

open DealService Interaction

structure SimulatedOperationChainRunPlan where
  definition : OperationChainDefinition
  succeededStepContexts : List OperationContextSnapshot
  acceptedIdentifiers : List OperationAcceptedIdentifiers
  awaitingStepIndex : ℕ := 0
  /-- In milliseconds, as `stepDelay`. -/
  startDelay : ℤ := 0
  stepDelay : ℤ := 0

structure SimulatedOperationChainRun where
  plan : SimulatedOperationChainRunPlan
  snapshot : OperationChainSnapshot

inductive SimulatedEffect where
  /-- `false` after a cancellation or a stop. -/
  | waitForDelay (delay : ℤ)
  | waitForCancellation
  | isCancellationRequested
  | stopRequested
  | clock
  | store (snapshot : OperationChainSnapshot)
  | notifyStateChanged (snapshot : OperationChainSnapshot)

@[reducible] def SimulatedEffect.Answer : SimulatedEffect → Type
  | .waitForDelay _ | .waitForCancellation | .isCancellationRequested | .stopRequested => Bool
  | .clock => OperationChainTimePoint
  | .store _ | .notifyStateChanged _ => Unit

abbrev SimulatedProgram (Result : Type) :=
  Interaction SimulatedEffect SimulatedEffect.Answer ServiceFailure Result

namespace SimulatedOperationChainRun

open OperationChain (updateSnapshotTime)

/-- What the constructor fills in; `createdAt` is what its clock reads. -/
def fresh (plan : SimulatedOperationChainRunPlan) (createdAt : OperationChainTimePoint) :
    SimulatedOperationChainRun :=
  let initialContext : OperationContextSnapshot :=
    { exchangerType := plan.definition.initialExchangerType
      asset := plan.definition.initialAsset
      quantity := plan.definition.initialQuantity }
  { plan
    snapshot :=
      { definitionName := plan.definition.name
        initialContext
        currentContext := initialContext
        createdAt
        updatedAt := createdAt
        steps := plan.definition.operations.mapIdx fun index operation =>
          { index, type := operation.type, config := operation.config } } }

def create (plan : SimulatedOperationChainRunPlan) (createdAt : OperationChainTimePoint) :
    Except ServiceFailure SimulatedOperationChainRun := do
  throwIf (plan.definition.operations.length ≤ plan.awaitingStepIndex)
    "Simulated operation-chain Awaiting step index is out of range"
  throwIf (plan.succeededStepContexts.length ≠ plan.awaitingStepIndex)
    "Simulated operation-chain run requires one output context per Succeeded step"
  throwIf (plan.acceptedIdentifiers.length ≠ plan.definition.operations.length)
    "Simulated operation-chain run requires identifier data for every step"
  throwIf (plan.startDelay < 0) "Simulated operation-chain run requires a non-negative start delay"
  throwIf (plan.stepDelay < 0) "Simulated operation-chain run requires a non-negative step delay"
  return fresh plan createdAt

/-! ## Transitions -/

abbrev Transition :=
  SimulatedOperationChainRun →
    Except ServiceFailure (OperationChainTimePoint → OperationChainSnapshot)

/-- `vector::at`. -/
def elementAt {Element : Type} (elements : List Element) (index : ℕ) :
    Except ServiceFailure Element :=
  match elements[index]? with
  | some element => .ok element
  | none => .error (.runtime "vector::_M_range_check")

def startExecution : Transition := fun run => do
  throwIf (run.snapshot.status ≠ .pending) "Simulated operation chain can only be executed once"
  return fun timePoint =>
    updateSnapshotTime { run.snapshot with status := .running, startedAt := some timePoint } timePoint

def startStep (stepIndex : ℕ) : Transition := fun run => do
  throwIf (run.snapshot.status ≠ .running) "Simulated operation chain is not running"
  let step ← elementAt run.snapshot.steps stepIndex
  throwIf (step.status ≠ .pending) "Simulated operation-chain step is not pending"
  return fun timePoint =>
    updateSnapshotTime { run.snapshot with
      currentStepIndex := some stepIndex
      steps := run.snapshot.steps.set stepIndex { step with
        status := .running
        inputContext := some run.snapshot.currentContext
        startedAt := some timePoint } } timePoint

def finishStep (stepIndex : ℕ) : Transition := fun run => do
  let step ← elementAt run.snapshot.steps stepIndex
  throwIf (step.status ≠ .running) "Simulated operation-chain step is not running"
  let context ← elementAt run.plan.succeededStepContexts stepIndex
  let identifiers ← elementAt run.plan.acceptedIdentifiers stepIndex
  return fun timePoint =>
    updateSnapshotTime { run.snapshot with
      currentContext := context
      steps := run.snapshot.steps.set stepIndex { step with
        status := .succeeded
        outputContext := some context
        acceptedIdentifiers := identifiers
        finishedAt := some timePoint } } timePoint

def markStepAwaiting (stepIndex : ℕ) : Transition := fun run => do
  let step ← elementAt run.snapshot.steps stepIndex
  throwIf (step.status ≠ .running) "Simulated operation-chain step is not running"
  let identifiers ← elementAt run.plan.acceptedIdentifiers stepIndex
  return fun timePoint =>
    updateSnapshotTime { run.snapshot with
      steps := run.snapshot.steps.set stepIndex { step with
        status := .awaiting
        acceptedIdentifiers := identifiers } } timePoint

/-- What the two cancellations without a step do once they may. -/
def endExecution (run : SimulatedOperationChainRun) (timePoint : OperationChainTimePoint) :
    OperationChainSnapshot :=
  updateSnapshotTime { run.snapshot with
    status := .cancelled
    currentStepIndex := none
    finishedAt := some timePoint } timePoint

def cancelPendingExecution : Transition := fun run => do
  throwIf (run.snapshot.status ≠ .pending)
    "Pending simulated operation chain is not cancellable"
  return endExecution run

def cancelExecutionBetweenSteps : Transition := fun run => do
  throwIf (run.snapshot.status ≠ .running)
    "Running simulated operation chain is not cancellable"
  return endExecution run

/-- The chain status is not looked at here. -/
def cancelStepAndExecution (stepIndex : ℕ) : Transition := fun run => do
  let step ← elementAt run.snapshot.steps stepIndex
  throwIf (step.status ≠ .running ∧ step.status ≠ .awaiting)
    "Simulated operation-chain step is not cancellable"
  return fun timePoint =>
    updateSnapshotTime { run.snapshot with
      steps := run.snapshot.steps.set stepIndex { step with
        status := .cancelled
        finishedAt := some timePoint }
      status := .cancelled
      currentStepIndex := none
      finishedAt := some timePoint } timePoint

/-! ## Execution -/

section Requests

def waitForDelay (delay : ℤ) : SimulatedProgram Bool := .request (.waitForDelay delay) .returned

def waitForCancellation : SimulatedProgram Bool := .request .waitForCancellation .returned

def isCancellationRequested : SimulatedProgram Bool := .request .isCancellationRequested .returned

def stopRequested : SimulatedProgram Bool := .request .stopRequested .returned

end Requests

/-- A transition with its notification; an observer's exception goes no further. -/
def advance (change : Transition) (run : SimulatedOperationChainRun) :
    SimulatedProgram SimulatedOperationChainRun := do
  let update ← change run
  let timePoint ← (.request .clock .returned : SimulatedProgram OperationChainTimePoint)
  (.request (.store (update timePoint)) .returned : SimulatedProgram Unit)
  (.request (.notifyStateChanged (update timePoint)) .returned : SimulatedProgram Unit)
  return { run with snapshot := update timePoint }

/-- A last transition. -/
def conclude (change : Transition) (run : SimulatedOperationChainRun) : SimulatedProgram Unit := do
  let _ ← advance change run
  return ()

/-- The loop of `execute`, for so many steps from `stepIndex` on. -/
def executeSteps : ℕ → ℕ → SimulatedOperationChainRun → SimulatedProgram Unit
  | 0, _, _ => return ()
  | remaining + 1, stepIndex, run => do
      if ← stopRequested then
        return ()
      else if ← isCancellationRequested then
        conclude cancelExecutionBetweenSteps run
      else
        let run ← advance (startStep stepIndex) run
        if ← waitForDelay run.plan.stepDelay then
          if stepIndex < run.plan.awaitingStepIndex then
            let run ← advance (finishStep stepIndex) run
            executeSteps remaining (stepIndex + 1) run
          else
            let run ← advance (markStepAwaiting stepIndex) run
            if ← waitForCancellation then
              conclude (cancelStepAndExecution stepIndex) run
            else
              return ()
        else if ← isCancellationRequested then
          conclude (cancelStepAndExecution stepIndex) run
        else
          return ()

def execute (run : SimulatedOperationChainRun) : SimulatedProgram Unit := do
  if ← waitForDelay run.plan.startDelay then
    let run ← advance startExecution run
    executeSteps (run.plan.awaitingStepIndex + 1) 0 run
  else if ← isCancellationRequested then
    conclude cancelPendingExecution run
  else
    return ()

/-! ## Publication -/

/-- Where a transition leads, if it is not refused. -/
def Leads (change : Transition) (run : SimulatedOperationChainRun)
    (status : OperationChainStatus) : Prop :=
  ∀ update, change run = .ok update → ∀ timePoint,
    (update timePoint).revision = run.snapshot.revision + 1 ∧ (update timePoint).status = status

section Transitions

variable {run : SimulatedOperationChainRun} {index : ℕ}

theorem start_execution_leads : Leads startExecution run .running := by
  intro update accepted timePoint
  obtain ⟨_, started⟩ := throw_if_bind_ok.1 accepted
  cases started
  exact ⟨rfl, rfl⟩

theorem start_step_leads : Leads (startStep index) run run.snapshot.status := by
  intro update accepted timePoint
  obtain ⟨_, rest⟩ := throw_if_bind_ok.1 accepted
  obtain ⟨step, _, rest⟩ := except_bind_ok.1 rest
  obtain ⟨_, started⟩ := throw_if_bind_ok.1 rest
  cases started
  exact ⟨rfl, rfl⟩

theorem finish_step_leads : Leads (finishStep index) run run.snapshot.status := by
  intro update accepted timePoint
  obtain ⟨step, _, rest⟩ := except_bind_ok.1 accepted
  obtain ⟨_, rest⟩ := throw_if_bind_ok.1 rest
  obtain ⟨context, _, rest⟩ := except_bind_ok.1 rest
  obtain ⟨identifiers, _, finished⟩ := except_bind_ok.1 rest
  cases finished
  exact ⟨rfl, rfl⟩

theorem mark_step_awaiting_leads : Leads (markStepAwaiting index) run run.snapshot.status := by
  intro update accepted timePoint
  obtain ⟨step, _, rest⟩ := except_bind_ok.1 accepted
  obtain ⟨_, rest⟩ := throw_if_bind_ok.1 rest
  obtain ⟨identifiers, _, marked⟩ := except_bind_ok.1 rest
  cases marked
  exact ⟨rfl, rfl⟩

theorem cancel_pending_leads : Leads cancelPendingExecution run .cancelled := by
  intro update accepted timePoint
  obtain ⟨_, cancelled⟩ := throw_if_bind_ok.1 accepted
  cases cancelled
  exact ⟨rfl, rfl⟩

theorem cancel_between_leads : Leads cancelExecutionBetweenSteps run .cancelled := by
  intro update accepted timePoint
  obtain ⟨_, cancelled⟩ := throw_if_bind_ok.1 accepted
  cases cancelled
  exact ⟨rfl, rfl⟩

theorem cancel_step_leads : Leads (cancelStepAndExecution index) run .cancelled := by
  intro update accepted timePoint
  obtain ⟨step, _, rest⟩ := except_bind_ok.1 accepted
  obtain ⟨_, cancelled⟩ := throw_if_bind_ok.1 rest
  cases cancelled
  exact ⟨rfl, rfl⟩

end Transitions

end SimulatedOperationChainRun

def SimulatedEffect.publishing : SimulatedEffect → Publishing OperationChainSnapshot
  | .store snapshot => .stores snapshot
  | .notifyStateChanged snapshot => .reports snapshot
  | _ => .silent

namespace SimulatedOperationChainRun

abbrev SimulatedHistory := History SimulatedEffect SimulatedEffect.Answer

section Publication

variable {initial : OperationChainSnapshot} {history : SimulatedHistory}
  {run : SimulatedOperationChainRun} {status : OperationChainStatus} {change : Transition}

/-- The program publishes well from here on. -/
abbrev PublishesFrom (initial : OperationChainSnapshot) (program : SimulatedProgram Unit)
    (history : SimulatedHistory) : Prop :=
  Meets (publication SimulatedEffect.publishing RevisionAdvances initial)
    (ReportedWhenReturned SimulatedEffect.publishing) program history

/-- The run holds the snapshot that was reported last. -/
structure InSync (initial : OperationChainSnapshot) (run : SimulatedOperationChainRun)
    (history : SimulatedHistory) : Prop where
  stored : storedValue SimulatedEffect.publishing initial history = run.snapshot
  reported : isReported SimulatedEffect.publishing history

theorem publishes_return (synced : InSync initial run history) :
    PublishesFrom initial (.returned ()) history := fun _ _ => synced.reported

theorem publishes_ask {effect : SimulatedEffect} {next : effect.Answer → SimulatedProgram Unit}
    (silent : effect.publishing = .silent) (synced : InSync initial run history)
    (continues : ∀ answer later, InSync initial run later →
      PublishesFrom initial (next answer) later) :
    PublishesFrom initial (.request effect next) history := by
  refine ⟨?_, fun answer _ => continues answer _ ⟨?_, ?_⟩⟩
  · simp [publication, requestsOnly, silent, Publishing.Allowed]
  · simpa [storedValue, silent] using synced.stored
  · simpa [isReported, silent] using synced.reported

theorem publishes_advance {rest : SimulatedOperationChainRun → SimulatedProgram Unit}
    (leads : Leads change run status) (live : run.snapshot.status.isTerminal = false)
    (synced : InSync initial run history)
    (continues : ∀ changed later, InSync initial changed later →
      changed.snapshot.status = status → PublishesFrom initial (rest changed) later) :
    PublishesFrom initial (advance change run >>= rest) history := by
  simp only [PublishesFrom, advance, meets_monad_bind, meets_lift]
  cases accepted : change run with
  | error failure => exact fun result ended => by cases ended
  | ok update =>
      refine ⟨trivial, fun timePoint _ => ⟨?_, fun _ _ => ⟨rfl, fun _ _ => ?_⟩⟩⟩
      · show RevisionAdvances (storedValue SimulatedEffect.publishing initial history) _
        rw [synced.stored]
        exact ⟨(leads update accepted timePoint).1, live⟩
      · exact continues { run with snapshot := update timePoint } _ ⟨rfl, rfl⟩
          (leads update accepted timePoint).2

theorem publishes_conclude (leads : Leads change run status)
    (live : run.snapshot.status.isTerminal = false) (synced : InSync initial run history) :
    PublishesFrom initial (conclude change run) history :=
  publishes_advance leads live synced fun _ _ concluded _ => publishes_return concluded

theorem publishes_conclude_if {requested : Bool} (leads : Leads change run status)
    (live : run.snapshot.status.isTerminal = false) (synced : InSync initial run history) :
    PublishesFrom initial (if requested = true then conclude change run else return ()) history := by
  cases requested with
  | false => exact publishes_return synced
  | true => exact publishes_conclude leads live synced

theorem execute_steps_publishes {remaining index : ℕ} (synced : InSync initial run history)
    (running : run.snapshot.status = .running) :
    PublishesFrom initial (executeSteps remaining index run) history := by
  have live : ∀ {changed : SimulatedOperationChainRun}, changed.snapshot.status = .running →
      changed.snapshot.status.isTerminal = false := by
    intro changed same
    rw [same]
    rfl
  induction remaining generalizing run index history with
  | zero => exact publishes_return synced
  | succ remaining ih =>
      apply publishes_ask rfl synced
      intro stopped history synced
      cases stopped with
      | true => exact publishes_return synced
      | false =>
          apply publishes_ask rfl synced
          intro requested history synced
          cases requested with
          | true => exact publishes_conclude cancel_between_leads (live running) synced
          | false =>
              apply publishes_advance start_step_leads (live running) synced
              intro run history synced same
              have running := same.trans running
              apply publishes_ask rfl synced
              intro waited history synced
              cases waited with
              | false =>
                  apply publishes_ask rfl synced
                  intro requested history synced
                  exact publishes_conclude_if cancel_step_leads (live running) synced
              | true =>
                  show PublishesFrom initial (if index < run.plan.awaitingStepIndex then _ else _) _
                  split_ifs with before
                  · apply publishes_advance finish_step_leads (live running) synced
                    intro run history synced same
                    exact ih synced (same.trans running)
                  · apply publishes_advance mark_step_awaiting_leads (live running) synced
                    intro run history synced same
                    apply publishes_ask rfl synced
                    intro cancelled history synced
                    exact publishes_conclude_if cancel_step_leads (live (same.trans running)) synced

/-- A simulated run that was constructed publishes its snapshots well. -/
theorem execute_publishes {plan : SimulatedOperationChainRunPlan}
    {createdAt : OperationChainTimePoint} (created : create plan createdAt = .ok run) :
    Publishes SimulatedEffect.publishing RevisionAdvances run.snapshot true (execute run) := by
  have pending : run.snapshot.status = .pending := by
    obtain ⟨_, rest⟩ := throw_if_bind_ok.1 created
    obtain ⟨_, rest⟩ := throw_if_bind_ok.1 rest
    obtain ⟨_, rest⟩ := throw_if_bind_ok.1 rest
    obtain ⟨_, rest⟩ := throw_if_bind_ok.1 rest
    obtain ⟨_, rest⟩ := throw_if_bind_ok.1 rest
    cases rest
    rfl
  have live : run.snapshot.status.isTerminal = false := by
    rw [pending]
    rfl
  have synced : InSync run.snapshot run [] := ⟨rfl, rfl⟩
  apply Meets.publishes
  apply publishes_ask rfl synced
  intro waited history synced
  cases waited with
  | false =>
      apply publishes_ask rfl synced
      intro requested history synced
      exact publishes_conclude_if cancel_pending_leads live synced
  | true =>
      apply publishes_advance start_execution_leads live synced
      intro run history synced running
      exact execute_steps_publishes synced running

end Publication

end SimulatedOperationChainRun

end CryptoDeal
