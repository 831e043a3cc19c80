import Mathlib.Logic.Relation
import CryptoDeal.OperationChain.SimulatedOperationChainRun

/-!
# The run manager

`OperationChainRunManager`: its calls, each as the one critical section that it
has, and the interleavings of starts, cancellation requests, workers, observers
and a stop. A notification is owed from the critical section on, and goes out at
any later time; an observer's exception changes nothing.
-/

namespace CryptoDeal

open DealService Interaction

abbrev OperationChainRunId := ℕ

inductive OperationChainRunKind where
  | real
  | simulated
  deriving DecidableEq

structure OperationChainRunSnapshot where
  runId : OperationChainRunId
  chainSnapshot : OperationChainSnapshot
  updateSequence : ℕ
  cancellationRequested : Bool := false
  kind : OperationChainRunKind
  deriving DecidableEq

structure RunRecord where
  snapshot : OperationChainRunSnapshot
  /-- How often `cancellationWorker` was given a thread. -/
  cancellationWorkers : ℕ := 0

/-- The handler is told by its presence. -/
structure OperationChainRunManager where
  definitions : List OperationChainDefinition
  exchangers : List ExchangerType := [.binance, .bybit]
  runs : OperationChainRunId → Option RunRecord := fun _ => none
  runChangeHandler : Bool := false
  nextRunId : OperationChainRunId := 1
  nextUpdateSequence : ℕ := 1
  stopping : Bool := false

namespace OperationChainRunManager

variable (manager : OperationChainRunManager)

/-- A call's result, and what it leaves behind when it throws, too. -/
abbrev Outcome (Result : Type) := Except ServiceFailure Result × OperationChainRunManager

def getDefinition (definitionName : String) : Except ServiceFailure OperationChainDefinition :=
  match manager.definitions.find? fun definition => definition.name = definitionName with
  | some definition => .ok definition
  | none => .error (.runtime ("Unknown operation-chain definition: " ++ definitionName))

def checkStopping : Except ServiceFailure Unit :=
  throwIf manager.stopping "Operation-chain run manager is stopping"

def checkSequence : Except ServiceFailure Unit :=
  throwIf (manager.nextUpdateSequence = 0) "Operation-chain update sequence space is exhausted"

def checkNumbers : Except ServiceFailure Unit := do
  throwIf (manager.nextRunId = 0) "Operation-chain run ID space is exhausted"
  manager.checkSequence

/-- The rest of a start; `thread` is how the constructor of the worker's `jthread` ends. -/
def addRun (runId : OperationChainRunId) (kind : OperationChainRunKind)
    (chainSnapshot : OperationChainSnapshot) (thread : Except ServiceFailure Unit) :
    Outcome OperationChainRunSnapshot :=
  let initialSnapshot : OperationChainRunSnapshot :=
    { runId, chainSnapshot, updateSequence := manager.nextUpdateSequence, kind }
  let sequenced := { manager with nextUpdateSequence := manager.nextUpdateSequence + 1 }
  if (manager.runs runId).isSome then
    (.error (.runtime "Operation-chain run ID collision"), sequenced)
  else
    let runs := Function.update manager.runs runId (some { snapshot := initialSnapshot })
    match thread with
    | .ok _ => (.ok initialSnapshot, { sequenced with runs })
    | .error failure =>
        (.error failure, { sequenced with runs := Function.update runs runId none })

def startRun (definitionName : String) (createdAt : OperationChainTimePoint)
    (thread : Except ServiceFailure Unit) :
    Outcome (OperationChainRunSnapshot × OperationChain) :=
  let checked : Except ServiceFailure OperationChainDefinition := do
    manager.checkStopping
    let definition ← manager.getDefinition definitionName
    manager.checkNumbers
    return definition
  match checked with
  | .error failure => (.error failure, manager)
  | .ok definition =>
      let numbered := { manager with nextRunId := manager.nextRunId + 1 }
      match OperationChainBuilder.build definition manager.exchangers createdAt with
      | .error failure => (.error failure, numbered)
      | .ok chain =>
          let (added, after) := numbered.addRun manager.nextRunId .real chain.snapshot thread
          (added.map fun initialSnapshot => (initialSnapshot, chain), after)

def startSimulatedRun (plan : SimulatedOperationChainRunPlan) (createdAt : OperationChainTimePoint)
    (thread : Except ServiceFailure Unit) :
    Outcome (OperationChainRunSnapshot × SimulatedOperationChainRun) :=
  let checked : Except ServiceFailure Unit := do
    manager.checkStopping
    manager.checkNumbers
  match checked with
  | .error failure => (.error failure, manager)
  | .ok _ =>
      let numbered := { manager with nextRunId := manager.nextRunId + 1 }
      match SimulatedOperationChainRun.create plan createdAt with
      | .error failure => (.error failure, numbered)
      | .ok run =>
          let (added, after) := numbered.addRun manager.nextRunId .simulated run.snapshot thread
          (added.map fun initialSnapshot => (initialSnapshot, run), after)

/-- `threadStarts`: otherwise the failure is the coordinator's to record. -/
def requestRunCancellation (runId : OperationChainRunId) (threadStarts : Bool) :
    Outcome (Option OperationChainRunSnapshot) :=
  match manager.checkStopping, manager.runs runId with
  | .error failure, _ => (.error failure, manager)
  | .ok _, none =>
      (.error (.runtime ("Unknown operation-chain run: " ++ toString runId)), manager)
  | .ok _, some record =>
      if record.snapshot.cancellationRequested ||
          record.snapshot.chainSnapshot.status.isTerminal then
        (.ok none, manager)
      else
        match manager.checkSequence with
        | .error failure => (.error failure, manager)
        | .ok _ =>
            let changedSnapshot := { record.snapshot with
              cancellationRequested := true
              updateSequence := manager.nextUpdateSequence }
            let started := record.snapshot.kind = .real ∧ threadStarts
            (.ok (some changedSnapshot), { manager with
              nextUpdateSequence := manager.nextUpdateSequence + 1
              runs := Function.update manager.runs runId (some {
                snapshot := changedSnapshot
                cancellationWorkers := record.cancellationWorkers + if started then 1 else 0 }) })

def updateRun (runId : OperationChainRunId) (snapshot : OperationChainSnapshot) :
    Outcome (Option OperationChainRunSnapshot) :=
  match manager.runs runId with
  | none => (.ok none, manager)
  | some record =>
      if snapshot.revision ≤ record.snapshot.chainSnapshot.revision then (.ok none, manager)
      else
        match manager.checkSequence with
        | .error failure => (.error failure, manager)
        | .ok _ =>
            let changedSnapshot := { record.snapshot with
              chainSnapshot := snapshot
              updateSequence := manager.nextUpdateSequence }
            (.ok (some changedSnapshot), { manager with
              nextUpdateSequence := manager.nextUpdateSequence + 1
              runs := Function.update manager.runs runId
                (some { record with snapshot := changedSnapshot }) })

def getRun (runId : OperationChainRunId) : Option OperationChainRunSnapshot :=
  (manager.runs runId).map (·.snapshot)

/-- In the order of the ids. -/
def getRuns : List OperationChainRunSnapshot :=
  (List.range manager.nextRunId).filterMap manager.getRun

def requestStop : OperationChainRunManager :=
  { manager with stopping := true, runChangeHandler := false }

end OperationChainRunManager

/-! ## What the calls do -/

/-- A new run, under the next id. -/
structure Started (manager : OperationChainRunManager) (snapshot : OperationChainRunSnapshot)
    (after : OperationChainRunManager) : Prop where
  fresh : manager.runs snapshot.runId = none
  runId : snapshot.runId = manager.nextRunId
  sequence : snapshot.updateSequence = manager.nextUpdateSequence
  unrequested : snapshot.cancellationRequested = false
  after : after = { manager with
    nextRunId := manager.nextRunId + 1
    nextUpdateSequence := manager.nextUpdateSequence + 1
    runs := Function.update manager.runs snapshot.runId (some { snapshot }) }

/-- A start that threw may have used up numbers. -/
structure Refused (manager after : OperationChainRunManager) : Prop where
  runs : after.runs = manager.runs
  runChangeHandler : after.runChangeHandler = manager.runChangeHandler
  stopping : after.stopping = manager.stopping
  nextRunId : manager.nextRunId ≤ after.nextRunId
  nextUpdateSequence : manager.nextUpdateSequence ≤ after.nextUpdateSequence

/-- A record that gave way to another one of its run, under the next sequence number. -/
structure Revised (manager : OperationChainRunManager) (runId : OperationChainRunId)
    (record changed : RunRecord) (after : OperationChainRunManager) : Prop where
  found : manager.runs runId = some record
  sameRun : changed.snapshot.runId = record.snapshot.runId
  sequence : changed.snapshot.updateSequence = manager.nextUpdateSequence
  after : after = { manager with
    nextUpdateSequence := manager.nextUpdateSequence + 1
    runs := Function.update manager.runs runId (some changed) }

section Calls

variable {manager after : OperationChainRunManager} {runId : OperationChainRunId}
  {kind : OperationChainRunKind} {chainSnapshot : OperationChainSnapshot}
  {thread : Except ServiceFailure Unit} {snapshot : OperationChainRunSnapshot}
  {failure : ServiceFailure} {createdAt : OperationChainTimePoint} {threadStarts : Bool}

theorem Refused.refl (manager : OperationChainRunManager) : Refused manager manager :=
  ⟨rfl, rfl, rfl, le_rfl, le_rfl⟩

theorem Refused.numbered (manager : OperationChainRunManager) :
    Refused manager { manager with nextRunId := manager.nextRunId + 1 } :=
  ⟨rfl, rfl, rfl, Nat.le_succ _, le_rfl⟩

namespace OperationChainRunManager

theorem add_run_ok
    (added : ({ manager with nextRunId := manager.nextRunId + 1 } : OperationChainRunManager).addRun
      manager.nextRunId kind chainSnapshot thread = (.ok snapshot, after)) :
    Started manager snapshot after ∧ snapshot.chainSnapshot = chainSnapshot := by
  unfold addRun at added
  by_cases taken : (manager.runs manager.nextRunId).isSome
  · rw [if_pos taken] at added
    cases added
  · rw [if_neg taken] at added
    cases thread with
    | error failure => cases added
    | ok started =>
        cases added
        exact ⟨⟨by simpa using taken, rfl, rfl, rfl, rfl⟩, rfl⟩

theorem add_run_error
    (refused : ({ manager with nextRunId := manager.nextRunId + 1 } :
      OperationChainRunManager).addRun manager.nextRunId kind chainSnapshot thread =
        (.error failure, after)) : Refused manager after := by
  unfold addRun at refused
  by_cases taken : (manager.runs manager.nextRunId).isSome
  · rw [if_pos taken] at refused
    cases refused
    exact ⟨rfl, rfl, rfl, Nat.le_succ _, Nat.le_succ _⟩
  · rw [if_neg taken] at refused
    cases thread with
    | ok started => cases refused
    | error failure =>
        cases refused
        have absent : manager.runs manager.nextRunId = none := by simpa using taken
        refine ⟨?_, rfl, rfl, Nat.le_succ _, Nat.le_succ _⟩
        rw [Function.update_idem, ← absent]
        exact Function.update_eq_self _ _

theorem get_definition_mem {definitionName : String} {definition : OperationChainDefinition}
    (found : manager.getDefinition definitionName = .ok definition) :
    definition ∈ manager.definitions := by
  unfold getDefinition at found
  split at found <;> cases found
  exact List.mem_of_find?_eq_some ‹_›

theorem start_run_ok {definitionName : String} {chain : OperationChain}
    (started : manager.startRun definitionName createdAt thread = (.ok (snapshot, chain), after)) :
    Started manager snapshot after ∧ snapshot.chainSnapshot = chain.snapshot ∧
      ∃ definition ∈ manager.definitions,
        OperationChainBuilder.build definition manager.exchangers createdAt = .ok chain := by
  unfold startRun at started
  dsimp only at started
  split at started
  next => cases started
  next definition checked =>
    obtain ⟨_, _, rest⟩ := except_bind_ok.1 checked
    obtain ⟨found, known, rest⟩ := except_bind_ok.1 rest
    obtain ⟨_, _, same⟩ := except_bind_ok.1 rest
    cases same
    split at started
    next => cases started
    next built made =>
      cases added : ({ manager with nextRunId := manager.nextRunId + 1 } :
          OperationChainRunManager).addRun manager.nextRunId .real built.snapshot thread with
      | mk result changed =>
          rw [added] at started
          cases result with
          | error failure => cases started
          | ok initialSnapshot =>
              cases started
              obtain ⟨started, taken⟩ := add_run_ok added
              exact ⟨started, taken, definition, get_definition_mem known, made⟩

theorem start_run_error {definitionName : String}
    (threw : manager.startRun definitionName createdAt thread = (.error failure, after)) :
    Refused manager after := by
  unfold startRun at threw
  dsimp only at threw
  split at threw
  next =>
    cases threw
    exact .refl manager
  next definition checked =>
    split at threw
    next =>
      cases threw
      exact .numbered manager
    next built made =>
      cases added : ({ manager with nextRunId := manager.nextRunId + 1 } :
          OperationChainRunManager).addRun manager.nextRunId .real built.snapshot thread with
      | mk result changed =>
          rw [added] at threw
          cases result with
          | ok initialSnapshot => cases threw
          | error failure =>
              cases threw
              exact add_run_error added

theorem start_simulated_run_ok {plan : SimulatedOperationChainRunPlan}
    {run : SimulatedOperationChainRun}
    (started : manager.startSimulatedRun plan createdAt thread = (.ok (snapshot, run), after)) :
    Started manager snapshot after ∧ snapshot.chainSnapshot = run.snapshot ∧
      SimulatedOperationChainRun.create plan createdAt = .ok run := by
  unfold startSimulatedRun at started
  dsimp only at started
  split at started
  next => cases started
  next checked =>
    split at started
    next => cases started
    next created made =>
      cases added : ({ manager with nextRunId := manager.nextRunId + 1 } :
          OperationChainRunManager).addRun manager.nextRunId .simulated created.snapshot thread with
      | mk result changed =>
          rw [added] at started
          cases result with
          | error failure => cases started
          | ok initialSnapshot =>
              cases started
              obtain ⟨started, taken⟩ := add_run_ok added
              exact ⟨started, taken, made⟩

theorem start_simulated_run_error {plan : SimulatedOperationChainRunPlan}
    (threw : manager.startSimulatedRun plan createdAt thread = (.error failure, after)) :
    Refused manager after := by
  unfold startSimulatedRun at threw
  dsimp only at threw
  split at threw
  next =>
    cases threw
    exact .refl manager
  next checked =>
    split at threw
    next =>
      cases threw
      exact .numbered manager
    next created made =>
      cases added : ({ manager with nextRunId := manager.nextRunId + 1 } :
          OperationChainRunManager).addRun manager.nextRunId .simulated created.snapshot thread with
      | mk result changed =>
          rw [added] at threw
          cases result with
          | ok initialSnapshot => cases threw
          | error failure =>
              cases threw
              exact add_run_error added

/-- A cancellation that is accepted. -/
theorem request_run_cancellation_some
    (requested : manager.requestRunCancellation runId threadStarts =
      (.ok (some snapshot), after)) :
    ∃ record changed, Revised manager runId record changed after ∧ changed.snapshot = snapshot ∧
      record.snapshot.cancellationRequested = false ∧
      record.snapshot.chainSnapshot.status.isTerminal = false ∧
      snapshot.chainSnapshot = record.snapshot.chainSnapshot ∧ snapshot.cancellationRequested ∧
      changed.cancellationWorkers ≤ record.cancellationWorkers + 1 := by
  unfold requestRunCancellation at requested
  split at requested
  next => cases requested
  next => cases requested
  next record _ found =>
    split at requested
    next => cases requested
    next live =>
      split at requested
      next => cases requested
      next =>
        cases requested
        simp only [Bool.or_eq_true, not_or, Bool.not_eq_true] at live
        refine ⟨record, _, ⟨found, ?_, ?_, rfl⟩, rfl, live.1, live.2, rfl, rfl, ?_⟩
        · rfl
        · rfl
        · dsimp only
          split_ifs <;> omega

theorem request_run_cancellation_none
    (requested : manager.requestRunCancellation runId threadStarts = (.ok none, after)) :
    after = manager := by
  unfold requestRunCancellation at requested
  split at requested
  next => cases requested
  next => cases requested
  next =>
    split at requested
    next =>
      cases requested
      rfl
    next => split at requested <;> cases requested

theorem request_run_cancellation_error
    (threw : manager.requestRunCancellation runId threadStarts = (.error failure, after)) :
    after = manager := by
  unfold requestRunCancellation at threw
  split at threw
  next =>
    cases threw
    rfl
  next =>
    cases threw
    rfl
  next =>
    split at threw
    next => cases threw
    next =>
      split at threw <;> cases threw
      rfl

theorem update_run_some {chainSnapshot : OperationChainSnapshot}
    (updated : manager.updateRun runId chainSnapshot = (.ok (some snapshot), after)) :
    ∃ record, Revised manager runId record { record with snapshot } after ∧
      record.snapshot.chainSnapshot.revision < chainSnapshot.revision ∧
      snapshot = { record.snapshot with
        chainSnapshot, updateSequence := manager.nextUpdateSequence } := by
  unfold updateRun at updated
  split at updated
  next => cases updated
  next record found =>
    split at updated
    next => cases updated
    next newer =>
      split at updated
      next => cases updated
      next =>
        cases updated
        exact ⟨record, ⟨found, rfl, rfl, rfl⟩, not_le.1 newer, rfl⟩

theorem update_run_none {chainSnapshot : OperationChainSnapshot}
    (updated : manager.updateRun runId chainSnapshot = (.ok none, after)) :
    after = manager ∧ ∀ record, manager.runs runId = some record →
      chainSnapshot.revision ≤ record.snapshot.chainSnapshot.revision := by
  unfold updateRun at updated
  split at updated
  next absent =>
    cases updated
    exact ⟨rfl, fun record found => by rw [absent] at found; cases found⟩
  next record found =>
    split at updated
    next older =>
      cases updated
      refine ⟨rfl, fun other same => ?_⟩
      rw [found] at same
      cases same
      exact older
    next => split at updated <;> cases updated

theorem update_run_error {chainSnapshot : OperationChainSnapshot}
    (updated : manager.updateRun runId chainSnapshot = (.error failure, after)) :
    after = manager ∧ manager.nextUpdateSequence = 0 := by
  unfold updateRun at updated
  split at updated
  next => cases updated
  next =>
    split at updated
    next => cases updated
    next =>
      split at updated
      next exhausted =>
        cases updated
        unfold checkSequence throwIf at exhausted
        split_ifs at exhausted with none_left
        exact ⟨rfl, none_left⟩
      next => cases updated

end OperationChainRunManager

end Calls

/-! ## Workers -/

inductive RunProgram where
  | real (program : ChainProgram Unit)
  | simulated (program : SimulatedProgram Unit)

/-- One effect of a run's program, with any answer. -/
inductive RunProgram.Moves : RunProgram → Publishing OperationChainSnapshot → RunProgram → Prop where
  | real {effect : ChainEffect} {next : effect.Answer → ChainProgram Unit}
      (answer : effect.Answer) :
      Moves (.real (.request effect next)) effect.publishing (.real (next answer))
  | simulated {effect : SimulatedEffect} {next : effect.Answer → SimulatedProgram Unit}
      (answer : effect.Answer) :
      Moves (.simulated (.request effect next)) effect.publishing (.simulated (next answer))

/-- How a run's program has ended. -/
def RunProgram.outcome : RunProgram → Option (Except ServiceFailure Unit)
  | .real (.returned _) | .simulated (.returned _) => some (.ok ())
  | .real (.threw failure) | .simulated (.threw failure) => some (.error failure)
  | .real (.request _ _) | .simulated (.request _ _) => none

inductive WorkerPhase where
  /-- At its start gate, or right behind it. -/
  | waiting
  | executing
  /-- In `updateRun`, called by the run with this snapshot. -/
  | updating (snapshot : OperationChainSnapshot)
  /-- In a catch branch of `executeRun` or `executeSimulatedRun`. -/
  | catching
  | finished

structure RunWorker where
  program : RunProgram
  /-- What `getSnapshot` of the run's chain returns. -/
  snapshot : OperationChainSnapshot
  phase : WorkerPhase := .waiting

structure RunManagerState where
  manager : OperationChainRunManager
  workers : OperationChainRunId → Option RunWorker := fun _ => none
  /-- Changed snapshots whose `notifyRunChanged` is yet to come. -/
  owed : List OperationChainRunSnapshot := []
  /-- What the handler was called with. -/
  posted : List OperationChainRunSnapshot := []
  /-- Ghost: what each change of a record made of it, latest first. -/
  issued : List OperationChainRunSnapshot := []

namespace RunManagerState

variable (state : RunManagerState)

def withManager (manager : OperationChainRunManager) : RunManagerState := { state with manager }

def withWorker (runId : OperationChainRunId) (worker : RunWorker) : RunManagerState :=
  { state with workers := Function.update state.workers runId (some worker) }

/-- The thread that made this change will notify of it. -/
def owing (changed : Option OperationChainRunSnapshot) : RunManagerState :=
  { state with
    owed := changed.toList ++ state.owed
    issued := changed.toList ++ state.issued }

def notified (snapshot : OperationChainRunSnapshot) : RunManagerState :=
  { state with
    owed := state.owed.erase snapshot
    posted := if state.manager.runChangeHandler then snapshot :: state.posted else state.posted }

end RunManagerState

/-- `mayEnd`: the manager may be stopped, or the handler taken away. -/
inductive RunManagerStep (mayEnd : Prop) (state : RunManagerState) : RunManagerState → Prop where
  | attach (open_ : state.manager.stopping = false) :
      RunManagerStep mayEnd state
        (state.withManager { state.manager with runChangeHandler := true })
  | detach (permitted : mayEnd) :
      RunManagerStep mayEnd state
        (state.withManager { state.manager with runChangeHandler := false })
  | startRun {definitionName : String} {createdAt : OperationChainTimePoint}
      {thread : Except ServiceFailure Unit} {snapshot : OperationChainRunSnapshot}
      {chain : OperationChain} {manager : OperationChainRunManager}
      (started : state.manager.startRun definitionName createdAt thread =
        (.ok (snapshot, chain), manager)) :
      RunManagerStep mayEnd state
        (((state.withManager manager).withWorker snapshot.runId
          { program := .real chain.execute, snapshot := chain.snapshot }).owing (some snapshot))
  | startRunThrows {definitionName : String} {createdAt : OperationChainTimePoint}
      {thread : Except ServiceFailure Unit} {failure : ServiceFailure}
      {manager : OperationChainRunManager}
      (threw : state.manager.startRun definitionName createdAt thread =
        (.error failure, manager)) :
      RunManagerStep mayEnd state (state.withManager manager)
  | startSimulatedRun {plan : SimulatedOperationChainRunPlan} {createdAt : OperationChainTimePoint}
      {thread : Except ServiceFailure Unit} {snapshot : OperationChainRunSnapshot}
      {run : SimulatedOperationChainRun} {manager : OperationChainRunManager}
      (started : state.manager.startSimulatedRun plan createdAt thread =
        (.ok (snapshot, run), manager)) :
      RunManagerStep mayEnd state
        (((state.withManager manager).withWorker snapshot.runId
          { program := .simulated run.execute, snapshot := run.snapshot }).owing (some snapshot))
  | startSimulatedRunThrows {plan : SimulatedOperationChainRunPlan}
      {createdAt : OperationChainTimePoint} {thread : Except ServiceFailure Unit}
      {failure : ServiceFailure} {manager : OperationChainRunManager}
      (threw : state.manager.startSimulatedRun plan createdAt thread = (.error failure, manager)) :
      RunManagerStep mayEnd state (state.withManager manager)
  | cancel {runId : OperationChainRunId} {threadStarts : Bool}
      {changed : Option OperationChainRunSnapshot} {manager : OperationChainRunManager}
      (requested : state.manager.requestRunCancellation runId threadStarts =
        (.ok changed, manager)) :
      RunManagerStep mayEnd state ((state.withManager manager).owing changed)
  | cancelThrows {runId : OperationChainRunId} {threadStarts : Bool} {failure : ServiceFailure}
      {manager : OperationChainRunManager}
      (threw : state.manager.requestRunCancellation runId threadStarts =
        (.error failure, manager)) :
      RunManagerStep mayEnd state (state.withManager manager)
  | notify {snapshot : OperationChainRunSnapshot} (due : snapshot ∈ state.owed) :
      RunManagerStep mayEnd state (state.notified snapshot)
  /-- The gate is open and no stop was requested. -/
  | begin {runId : OperationChainRunId} {worker : RunWorker}
      (present : state.workers runId = some worker) (waiting : worker.phase = .waiting)
      (running : state.manager.stopping = false) :
      RunManagerStep mayEnd state (state.withWorker runId { worker with phase := .executing })
  | giveUp {runId : OperationChainRunId} {worker : RunWorker}
      (present : state.workers runId = some worker) (waiting : worker.phase = .waiting)
      (stopping : state.manager.stopping) :
      RunManagerStep mayEnd state (state.withWorker runId { worker with phase := .finished })
  | act {runId : OperationChainRunId} {worker : RunWorker} {program : RunProgram}
      (present : state.workers runId = some worker) (executing : worker.phase = .executing)
      (moves : worker.program.Moves .silent program) :
      RunManagerStep mayEnd state (state.withWorker runId { worker with program })
  | store {runId : OperationChainRunId} {worker : RunWorker} {program : RunProgram}
      {snapshot : OperationChainSnapshot}
      (present : state.workers runId = some worker) (executing : worker.phase = .executing)
      (moves : worker.program.Moves (.stores snapshot) program) :
      RunManagerStep mayEnd state (state.withWorker runId { worker with program, snapshot })
  | report {runId : OperationChainRunId} {worker : RunWorker} {program : RunProgram}
      {snapshot : OperationChainSnapshot}
      (present : state.workers runId = some worker) (executing : worker.phase = .executing)
      (moves : worker.program.Moves (.reports snapshot) program) :
      RunManagerStep mayEnd state
        (state.withWorker runId { worker with program, phase := .updating snapshot })
  /-- An exception of `updateRun` would be logged by the run. -/
  | update {runId : OperationChainRunId} {worker : RunWorker} {snapshot : OperationChainSnapshot}
      {result : Except ServiceFailure (Option OperationChainRunSnapshot)}
      {manager : OperationChainRunManager}
      (present : state.workers runId = some worker) (updating : worker.phase = .updating snapshot)
      (updated : state.manager.updateRun runId snapshot = (result, manager)) :
      RunManagerStep mayEnd state
        (((state.withManager manager).withWorker runId { worker with phase := .executing }).owing
          result.toOption.join)
  | returned {runId : OperationChainRunId} {worker : RunWorker}
      (present : state.workers runId = some worker) (executing : worker.phase = .executing)
      (ended : worker.program.outcome = some (.ok ())) :
      RunManagerStep mayEnd state (state.withWorker runId { worker with phase := .finished })
  | threw {runId : OperationChainRunId} {worker : RunWorker} {failure : ServiceFailure}
      (present : state.workers runId = some worker) (executing : worker.phase = .executing)
      (ended : worker.program.outcome = some (.error failure)) :
      RunManagerStep mayEnd state (state.withWorker runId { worker with phase := .catching })
  /-- The catch branch hands the chain's own snapshot to `updateRun`. -/
  | caught {runId : OperationChainRunId} {worker : RunWorker}
      {changed : Option OperationChainRunSnapshot} {manager : OperationChainRunManager}
      (present : state.workers runId = some worker) (catching : worker.phase = .catching)
      (updated : state.manager.updateRun runId worker.snapshot = (.ok changed, manager)) :
      RunManagerStep mayEnd state
        (((state.withManager manager).withWorker runId { worker with phase := .finished }).owing
          changed)
  | requestStop (permitted : mayEnd) :
      RunManagerStep mayEnd state (state.withManager state.manager.requestStop)

/-- The states that a manager of these definitions can reach. -/
def RunManagerReaches (mayEnd : Prop) (definitions : List OperationChainDefinition)
    (state : RunManagerState) : Prop :=
  Relation.ReflTransGen (RunManagerStep mayEnd) { manager := { definitions } } state

end CryptoDeal
