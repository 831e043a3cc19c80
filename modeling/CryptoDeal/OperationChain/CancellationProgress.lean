import CryptoDeal.OperationChain.AttemptedCancellation

/-!
# A chain and its cancellation never block each other

The chain worker waits for the cancellation worker between an operation's end and
the chain's, the cancellation worker for the chain worker only during an
operation. So one of them can always move on, and each step of the cancellation
worker brings it closer to its end.
-/

namespace CryptoDeal

open DealService Interaction OperationCancellationCoordinator

/-! ## Where the chain worker waits -/

/-- The effect neither delimits an operation nor waits for a resolution. -/
def ChainEffect.isPlain : ChainEffect → Bool
  | .startOperation _ | .finishOperation _ | .waitForCancellationResolution => false
  | _ => true

/-- A resolution is waited for outside of operations only. -/
def resolutionContract (initial : OperationChainSnapshot) :
    Contract ChainEffect ChainEffect.Answer :=
  requestsOnly fun history effect => effect = .waitForCancellationResolution →
    (ChainTrace.of initial history).stage.isRunning = false

section Waits

variable {initial : OperationChainSnapshot} {during : Bool}

/-- An operation is, or is not, under way. -/
def IsDuring (initial : OperationChainSnapshot) (during : Bool) (history : ChainHistory) : Prop :=
  (ChainTrace.of initial history).stage.isRunning = during

theorem ChainTrace.after_plain {trace : ChainTrace} {effect : ChainEffect}
    {answer : effect.Answer} (plain : effect.isPlain) :
    (trace.after effect answer).stage.isRunning = trace.stage.isRunning := by
  cases effect with
  | call asked => cases stage : trace.stage <;> simp [after, withStage, stage,
      OperationStage.afterCall, OperationStage.isRunning]
  | isCancellationConfirmed => simp [after, withStage]
  | startOperation canRegisterAction => cases plain
  | finishOperation outcome => cases plain
  | waitForCancellationResolution => cases plain
  | _ => rfl

theorem allowed_unless_waiting {history : ChainHistory} {effect : ChainEffect}
    (other : effect ≠ .waitForCancellationResolution) :
    (resolutionContract initial).requires history effect :=
  fun waiting => absurd waiting other

theorem preserves_plain {Result : Type} {effect : ChainEffect}
    {next : effect.Answer → ChainProgram Result} (plain : effect.isPlain)
    (continues : ∀ answer,
      Preserves (resolutionContract initial) (IsDuring initial during) (next answer)) :
    Preserves (resolutionContract initial) (IsDuring initial during) (.request effect next) := by
  apply preserves_request
  · rintro history _ rfl
    cases plain
  · intro history answer held
    exact (ChainTrace.after_plain plain).trans held
  · exact continues

namespace OperationChain

variable {chain : OperationChain} {stepIndex : ℕ}

theorem preserves_transition (change : Transition) :
    Preserves (resolutionContract initial) (IsDuring initial during) (transition change chain) := by
  apply (preserves_lift _).bind
  intro update
  apply (preserves_plain rfl fun timePoint => preserves_returned timePoint).bind
  intro timePoint
  exact (preserves_plain rfl fun _ => preserves_returned ()).bind fun _ => preserves_returned _

theorem preserves_advance (change : Transition) :
    Preserves (resolutionContract initial) (IsDuring initial during) (advance change chain) := by
  apply (preserves_transition change).bind
  intro changed
  exact (preserves_plain rfl fun _ => preserves_returned ()).bind fun _ => preserves_returned _

theorem preserves_conclude (change : Transition) :
    Preserves (resolutionContract initial) (IsDuring initial during) (conclude change chain) := by
  apply (preserves_transition change).bind
  intro changed
  apply (preserves_plain rfl fun _ => preserves_returned ()).bind
  intro _
  exact preserves_plain rfl fun _ => preserves_returned ()

theorem preserves_failure_text (what : String) :
    Preserves (resolutionContract initial) (IsDuring initial during) (failureText what) := by
  apply preserves_plain rfl
  intro failed
  cases failed with
  | true => exact preserves_plain rfl fun error => preserves_returned error
  | false => exact preserves_returned what

/-- An operation's program runs to a value; its exceptions are caught. -/
theorem meets_operation_returns (program : OperationProgram Unit) {history : ChainHistory}
    (held : IsDuring initial during history) :
    Meets (resolutionContract initial)
      (fun later outcome => IsDuring initial during later ∧ ∃ ended, outcome = .ok ended)
      (runOperation stepIndex program chain) history := by
  induction program generalizing chain history with
  | returned result => exact ⟨held, _, rfl⟩
  | threw failure => exact ⟨held, _, rfl⟩
  | request effect next ih =>
      cases effect with
      | call asked =>
          refine ⟨allowed_unless_waiting (by simp), fun answer _ => ih answer ?_⟩
          exact (ChainTrace.after_plain (by rfl)).trans held
      | assignContext context => exact ih () held
      | reportAwaiting identifiers =>
          rw [runOperation, meets_bind, meets_attempt]
          apply (preserves_advance _ history held).weaken
          intro later outcome kept
          cases outcome with
          | ok marked => exact ih (.ok ()) kept
          | error failure => exact ih (.error failure) kept

theorem preserves_perform_step (operation : Operation) :
    Preserves (resolutionContract initial) (IsDuring initial false)
      (performStep operation stepIndex chain) := by
  apply (preserves_advance _).bind
  intro started history held
  refine ⟨allowed_unless_waiting (by simp), fun answer _ => ?_⟩
  cases answer with
  | error failure => exact rfl
  | ok accepted =>
      have running : IsDuring initial true
          (⟨.startOperation (started.canRegisterAction stepIndex), .ok accepted⟩ :: history) := rfl
      apply (meets_operation_returns _ running).bind
      · intro later ended _
        exact ⟨allowed_unless_waiting (by simp), fun _ _ => rfl⟩
      · rintro later failure ⟨_, _, ended⟩
        cases ended

/-- The wait of a catch branch, then the rest of the branch. -/
theorem preserves_resolution {Result : Type} {next : Unit → ChainProgram Result}
    (continues : ∀ answer,
      Preserves (resolutionContract initial) (IsDuring initial false) (next answer)) :
    Preserves (resolutionContract initial) (IsDuring initial false)
      (.request .waitForCancellationResolution next) := by
  apply preserves_request
  · exact fun history held _ => held
  · intro history answer held
    change (ChainTrace.of initial history).stage.afterResolution.isRunning = false
    rw [OperationStage.after_resolution_running]
    exact held
  · exact continues

theorem preserves_unless_confirmed {rest : ChainProgram Unit}
    (unconfirmed : Preserves (resolutionContract initial) (IsDuring initial false) rest) :
    Preserves (resolutionContract initial) (IsDuring initial false)
      (do
        if ← isCancellationConfirmed then conclude (cancelStepAndExecution stepIndex) chain
        else rest) := by
  apply (preserves_plain rfl fun confirmed => preserves_returned confirmed).bind
  intro confirmed
  cases confirmed with
  | true => exact preserves_conclude _
  | false => exact unconfirmed

theorem preserves_catch_failure (failure : OperationFailure) :
    Preserves (resolutionContract initial) (IsDuring initial false)
      (catchFailure stepIndex chain failure) := by
  cases failure with
  | cancellationRequested what => exact preserves_conclude _
  | thrown failure =>
      cases failure with
      | nonStandard => exact (preserves_conclude _).bind fun _ => preserves_threw _
      | interrupted what =>
          apply preserves_unless_confirmed
          apply (preserves_failure_text what).bind
          intro error
          exact (preserves_conclude _).bind fun _ => preserves_threw _
      | runtime what =>
          apply preserves_resolution
          intro _
          apply preserves_unless_confirmed
          apply (preserves_failure_text what).bind
          intro error
          apply (preserves_conclude _).bind
          intro _
          apply (preserves_plain rfl fun failed => preserves_returned failed).bind
          intro failed
          cases failed with
          | true => exact preserves_threw _
          | false => exact preserves_threw _

theorem preserves_execute_steps (operations : List Operation) :
    Preserves (resolutionContract initial) (IsDuring initial false)
      (executeSteps operations stepIndex chain) := by
  induction operations generalizing stepIndex chain with
  | nil => exact preserves_conclude _
  | cons operation remaining ih =>
      apply (preserves_plain rfl fun requested => preserves_returned requested).bind
      intro requested
      cases requested with
      | true => exact preserves_conclude _
      | false =>
          apply (preserves_perform_step operation).bind
          rintro ⟨outcome, performed⟩
          cases outcome with
          | error failure => exact preserves_catch_failure failure
          | ok succeeded =>
              apply (preserves_advance _).bind
              intro finished
              apply (preserves_plain rfl fun requested => preserves_returned requested).bind
              intro requested
              by_cases stops : (requested && !remaining.isEmpty) = true
              · simp only [stops, if_true]
                exact preserves_conclude _
              · simp only [stops]
                exact ih

/-- `execute` waits for a resolution, and ends, outside of operations. -/
theorem preserves_execute (chain : OperationChain) :
    Preserves (resolutionContract initial) (IsDuring initial false) (execute chain) := by
  apply (preserves_plain rfl fun requested => preserves_returned requested).bind
  intro requested
  cases requested with
  | true => exact preserves_conclude _
  | false => exact (preserves_advance _).bind fun started => preserves_execute_steps _

end OperationChain

end Waits

/-! ## The cancellation worker's way -/

namespace CancellationWorker

/-- How many steps of its own the worker is from its end, at most. -/
def distance : CancellationWorker → ℕ
  | notStarted => 8
  | starting => 7
  | waiting => 6
  | captured _ => 5
  | calling _ => 4
  | returned _ _ => 3
  | stopping _ _ => 2
  | finishing _ => 1
  | done _ => 0

def isSettled : CancellationWorker → Bool
  | notStarted | done _ => true
  | _ => false

variable {coordinator : OperationCancellationCoordinator} {stopRequested : Bool}

theorem look_inside : (look coordinator stopRequested).isRunning := by
  rcases Coordination.look_cases coordinator stopRequested with
    looked | looked | ⟨captured, looked, _⟩ <;> rw [looked] <;> rfl

theorem look_nearer : (look coordinator stopRequested).distance ≤ 6 := by
  rcases Coordination.look_cases coordinator stopRequested with
    looked | looked | ⟨captured, looked, _⟩ <;> rw [looked] <;> simp [distance]

theorem look_idle (idle : coordinator.operationActive = false) :
    look coordinator stopRequested = .finishing none := by
  simp [look, idle]

theorem after_record_nearer (action : OrderAction) (source : Option StopSource) :
    (afterRecord action source).distance < 3 := by
  cases source <;> simp [afterRecord, distance]

end CancellationWorker

section Worker

variable {managerMayStop : Prop} {state after : CancellationRunState}

theorem CancellationStep.never_recedes (step : CancellationStep managerMayStop state after) :
    after.worker = state.worker ∨ after.worker.distance < state.worker.distance := by
  cases step with
  | request => exact .inl rfl
  | stopWorker stops started => exact .inl rfl
  | startWorker requested unstarted =>
      rw [unstarted]
      exact .inr (by simp [CancellationWorker.distance])
  | enter starting =>
      rw [starting]
      exact .inr (Nat.lt_succ_of_le CancellationWorker.look_nearer)
  | wake waiting =>
      rw [waiting]
      rcases Coordination.look_cases state.coordinator state.workerStopRequested with
        looked | looked | ⟨captured, looked, _⟩
      · rw [looked]
        exact .inr (by simp [CancellationWorker.distance])
      · exact .inl looked
      · rw [looked]
        exact .inr (by simp [CancellationWorker.distance])
  | call captured =>
      rw [captured]
      exact .inr (by simp [CancellationWorker.distance])
  | throw failure calling =>
      rw [calling]
      exact .inr (by simp [CancellationWorker.distance])
  | answer terminal calling =>
      rw [calling]
      exact .inr (by simp [CancellationWorker.distance])
  | record returned =>
      rw [returned]
      exact .inr (CancellationWorker.after_record_nearer _ _)
  | requestStop stopping =>
      rw [stopping]
      exact .inr (by simp [CancellationWorker.distance])
  | finish finishing =>
      rw [finishing]
      exact .inr (by simp [CancellationWorker.distance])

/-- The flag is up only while the worker is inside `cancelCurrentOperation`. -/
theorem CancellationStep.inside (step : CancellationStep managerMayStop state after)
    (inside : state.coordinator.cancellationWorkerRunning → state.worker.isRunning)
    (running : after.coordinator.cancellationWorkerRunning) : after.worker.isRunning := by
  cases step with
  | request => exact inside running
  | stopWorker stops started => exact inside running
  | startWorker requested unstarted =>
      have impossible := inside running
      rw [unstarted] at impossible
      cases impossible
  | enter starting => exact CancellationWorker.look_inside
  | wake waiting => exact CancellationWorker.look_inside
  | call captured => rfl
  | throw failure calling => rfl
  | answer terminal calling => rfl
  | @record _ verdict returned =>
      cases (state.coordinator.record verdict).2 <;> rfl
  | requestStop stopping => rfl
  | finish finishing => cases running

/-- With no operation under way the worker depends on nobody but the deal service. -/
theorem CancellationWorker.moves (unsettled : state.worker.isSettled = false)
    (idle : state.worker = .waiting → state.coordinator.operationActive = false) :
    ∃ after, CancellationStep managerMayStop state after ∧
      after.worker.distance < state.worker.distance := by
  have nearer : ∀ after, CancellationStep managerMayStop state after →
      after.worker ≠ state.worker → after.worker.distance < state.worker.distance :=
    fun after step moved => step.never_recedes.resolve_left moved
  cases worker : state.worker with
  | notStarted =>
      rw [worker] at unsettled
      cases unsettled
  | done action =>
      rw [worker] at unsettled
      cases unsettled
  | starting => exact ⟨_, .enter worker, Nat.lt_succ_of_le look_nearer⟩
  | waiting =>
      refine ⟨_, .wake worker, ?_⟩
      change (look _ _).distance < _
      rw [look_idle (idle worker)]
      simp [distance]
  | captured action => exact ⟨_, .call worker, by simp [distance]⟩
  | calling action => exact ⟨_, .throw .nonStandard worker, by simp [distance]⟩
  | returned action verdict => exact ⟨_, .record worker, after_record_nearer _ _⟩
  | stopping action source => exact ⟨_, .requestStop worker, by simp [distance]⟩
  | finishing action => exact ⟨_, .finish worker, by simp [distance]⟩

end Worker

/-! ## Runs go on -/

/-- The chain worker is held up at no place but the wait for a resolution. -/
theorem OperationCancellationCoordinator.answers_exist
    (coordinator : OperationCancellationCoordinator) (effect : ChainEffect)
    (resolved : effect = .waitForCancellationResolution → coordinator.isCancellationResolved) :
    ∃ answer after, coordinator.Answers effect answer after := by
  cases effect with
  | call asked =>
      cases asked with
      | register action =>
          cases registered : coordinator.register action with
          | ok after => exact ⟨.ok (), after, registered⟩
          | error failure => exact ⟨.error failure, coordinator, registered, rfl⟩
      | isCancellationRequested => exact ⟨_, _, rfl, rfl⟩
      | getWaitStopToken => exact ⟨_, _, rfl, rfl⟩
      | completeActionNaturally => exact ⟨(), _, rfl⟩
      | printSending => exact ⟨(), _, rfl⟩
      | _ => exact ⟨.error .nonStandard, _, rfl⟩
  | startOperation canRegisterAction =>
      cases started : coordinator.startOperation canRegisterAction with
      | ok after => exact ⟨.ok (), after, started⟩
      | error failure => exact ⟨.error failure, coordinator, started, rfl⟩
  | finishOperation outcome => exact ⟨(), _, rfl⟩
  | finishChain => exact ⟨(), _, rfl⟩
  | waitForCancellationResolution => exact ⟨(), _, resolved rfl, rfl⟩
  | clock => exact ⟨(0 : ℤ), _, rfl⟩
  | store snapshot => exact ⟨(), _, rfl⟩
  | notifyStateChanged snapshot => exact ⟨(), _, rfl⟩
  | _ => exact ⟨_, _, rfl, rfl⟩

def BothEnded (current : ChainProgram Unit) (state : CancellationRunState) : Prop :=
  (∃ outcome, current = .ofExcept outcome) ∧ state.worker.isSettled

/-- From here neither party is ever stuck, as long as the deal services answer. -/
structure NeverStuck (managerMayStop : Prop) (state : CancellationRunState)
    (current : ChainProgram Unit) : Prop where
  chain_moves : ∀ effect next, current = .request effect next →
    (effect = .waitForCancellationResolution → state.coordinator.isCancellationResolved) →
    ∃ answer after, (cancellationSystem managerMayStop fun _ _ => True).performs state effect
      answer after
  resolution_nears : ∀ next, current = .request .waitForCancellationResolution next →
    state.coordinator.isCancellationResolved ∨
      ∃ after, CancellationStep managerMayStop state after ∧
        after.worker.distance < state.worker.distance
  worker_moves : state.worker.isSettled = false →
    (∃ after, CancellationStep managerMayStop state after ∧
      after.worker.distance < state.worker.distance) ∨
    state.worker = .waiting ∧ state.coordinator.operationActive ∧
      ∃ effect next, current = .request effect next ∧ effect ≠ .waitForCancellationResolution
  never_recedes : ∀ after, CancellationStep managerMayStop state after →
    after.worker = state.worker ∨ after.worker.distance < state.worker.distance
  completes : ∃ history after ended,
    SharedRun (cancellationSystem managerMayStop fun _ _ => True) state current history after
      ended ∧ BothEnded ended after

section Runs

variable {definition : OperationChainDefinition} {exchangers : List ExchangerType}
  {createdAt : OperationChainTimePoint} {chain : OperationChain} {managerMayStop : Prop}
  {history : ChainHistory} {state : CancellationRunState} {current : ChainProgram Unit}

/-- What a run of a built chain keeps. -/
structure RunFacts (chain : OperationChain) (history : ChainHistory)
    (state : CancellationRunState) (current : ChainProgram Unit) : Prop where
  coordination : Coordination (.of chain.snapshot history) state
  inside : state.coordinator.cancellationWorkerRunning → state.worker.isRunning
  waits : Meets (resolutionContract chain.snapshot)
    (fun later _ => IsDuring chain.snapshot false later) current history

theorem RunFacts.of_run (built : OperationChainBuilder.build definition exchangers createdAt =
      .ok chain)
    (run : SharedRun (cancellationSystem managerMayStop fun _ _ => True) {} chain.execute
      history state current) : RunFacts chain history state current := by
  obtain ⟨initially, met⟩ := OperationChainBuilder.build_executes built
  have guarantees : Guarantees (cancellationSystem managerMayStop fun _ _ => True)
      (executeContract factoryDiscipline chain.snapshot) (fun _ => True) fun history state =>
        Coordinated chain.snapshot history state ∧
          (state.coordinator.cancellationWorkerRunning → state.worker.isRunning) := by
    apply coordinated_guarantees
    · rintro history state _ effect answer _ inside _ ⟨_, coordinator, answered, rfl⟩ running
      exact inside (answered.keeps.2.symm.trans running)
    · intro history state after _ inside interfered
      exact interfered.inside inside
  obtain ⟨_, coordinated, inside⟩ := run.meets guarantees
    ⟨initially, fun running => by cases running⟩ met trivial
  have waits : Meets (resolutionContract chain.snapshot)
      (fun later _ => IsDuring chain.snapshot false later) chain.execute [] :=
    OperationChain.preserves_execute chain [] rfl
  exact ⟨coordinated.coordination, inside, run.keeps_requests waits⟩

theorem RunFacts.idle (facts : RunFacts chain history state current)
    (apart : IsDuring chain.snapshot false history) : state.coordinator.operationActive = false :=
  facts.coordination.active.trans apart

theorem RunFacts.resolved_of_settled (facts : RunFacts chain history state current)
    (settled : state.worker.isSettled) : state.coordinator.isCancellationResolved := by
  have quiet : state.coordinator.cancellationWorkerRunning = false := by
    by_contra running
    have inside := facts.inside (by simpa using running)
    cases worker : state.worker <;>
      simp [worker, CancellationWorker.isRunning, CancellationWorker.isSettled] at inside settled
  simp [isCancellationResolved, quiet]

theorem RunFacts.during_of_request {effect : ChainEffect}
    {next : effect.Answer → ChainProgram Unit}
    (facts : RunFacts chain history state (.request effect next))
    (waits : effect = .waitForCancellationResolution) : IsDuring chain.snapshot false history :=
  facts.waits.1 waits

theorem RunFacts.during_of_ended (outcome : Except ServiceFailure Unit)
    (facts : RunFacts chain history state (.ofExcept outcome)) :
    IsDuring chain.snapshot false history := by
  have waits := facts.waits
  rwa [meets_of_except] at waits

theorem worker_settles (built : OperationChainBuilder.build definition exchangers createdAt =
      .ok chain) (apart : IsDuring chain.snapshot false history) (distance : ℕ)
    (run : SharedRun (cancellationSystem managerMayStop fun _ _ => True) {} chain.execute
      history state current) (near : state.worker.distance ≤ distance) :
    ∃ after, SharedRun (cancellationSystem managerMayStop fun _ _ => True) state current [] after
      current ∧ after.worker.isSettled := by
  induction distance generalizing state with
  | zero =>
      refine ⟨state, .start, ?_⟩
      cases worker : state.worker <;> simp [worker, CancellationWorker.distance] at near
      rfl
  | succ distance ih =>
      by_cases settled : state.worker.isSettled = true
      · exact ⟨state, .start, settled⟩
      · have idle := (RunFacts.of_run built run).idle apart
        obtain ⟨closer, step, nearer⟩ :=
          CancellationWorker.moves (by simpa using settled) fun _ => idle
        obtain ⟨after, onward, ended⟩ := ih (run.interfere step) (by omega)
        have first : SharedRun (cancellationSystem managerMayStop fun _ _ => True) state current []
            closer current := .interfere .start step
        exact ⟨after, first.trans onward, ended⟩

/-- From any state that a run reaches, the chain and its cancellation can be brought to an end. -/
theorem run_completes (built : OperationChainBuilder.build definition exchangers createdAt =
      .ok chain)
    (run : SharedRun (cancellationSystem managerMayStop fun _ _ => True) {} chain.execute
      history state current) :
    ∃ later after ended, SharedRun (cancellationSystem managerMayStop fun _ _ => True) state
      current later after ended ∧ BothEnded ended after := by
  induction current generalizing history state with
  | returned result =>
      have apart := (RunFacts.of_run built run).during_of_ended (.ok result)
      obtain ⟨after, onward, settled⟩ := worker_settles built apart _ run le_rfl
      exact ⟨[], after, _, onward, ⟨.ok result, rfl⟩, settled⟩
  | threw failure =>
      have apart := (RunFacts.of_run built run).during_of_ended (.error failure)
      obtain ⟨after, onward, settled⟩ := worker_settles built apart _ run le_rfl
      exact ⟨[], after, _, onward, ⟨.error failure, rfl⟩, settled⟩
  | request effect next ih =>
      obtain ⟨resolving, onward, resolved⟩ :
          ∃ resolving, SharedRun (cancellationSystem managerMayStop fun _ _ => True) state
              (.request effect next) [] resolving (.request effect next) ∧
            (effect = .waitForCancellationResolution →
              resolving.coordinator.isCancellationResolved) := by
        by_cases waits : effect = .waitForCancellationResolution
        · have apart := (RunFacts.of_run built run).during_of_request waits
          obtain ⟨resolving, onward, settled⟩ := worker_settles built apart _ run le_rfl
          refine ⟨resolving, onward, fun _ => ?_⟩
          exact (RunFacts.of_run built (run.trans onward)).resolved_of_settled settled
        · exact ⟨state, .start, fun same => absurd same waits⟩
      obtain ⟨answer, coordinator, answered⟩ :=
        resolving.coordinator.answers_exist effect resolved
      have acted := onward.act answer ⟨trivial, coordinator, answered, rfl⟩
      obtain ⟨later, after, ended, rest, both⟩ := ih answer (run.trans acted)
      exact ⟨_, after, ended, acted.trans rest, both⟩

/-- A built chain and its cancellation, at any moment of any interleaving. -/
theorem cancellation_never_blocks
    (built : OperationChainBuilder.build definition exchangers createdAt = .ok chain)
    (run : SharedRun (cancellationSystem managerMayStop fun _ _ => True) {} chain.execute
      history state current) : NeverStuck managerMayStop state current where
  chain_moves := by
    intro effect next _ resolved
    obtain ⟨answer, coordinator, answered⟩ := state.coordinator.answers_exist effect resolved
    exact ⟨answer, _, trivial, coordinator, answered, rfl⟩
  resolution_nears := by
    rintro next rfl
    have facts := RunFacts.of_run built run
    by_cases settled : state.worker.isSettled = true
    · exact .inl (facts.resolved_of_settled settled)
    · exact .inr (CancellationWorker.moves (by simpa using settled) fun _ =>
        facts.idle (facts.during_of_request rfl))
  worker_moves := by
    intro unsettled
    have facts := RunFacts.of_run built run
    by_cases blocked : state.worker = .waiting ∧ state.coordinator.operationActive = true
    · refine .inr ⟨blocked.1, blocked.2, ?_⟩
      have during : ¬ IsDuring chain.snapshot false history := by
        intro apart
        rw [facts.idle apart] at blocked
        cases blocked.2
      cases current with
      | returned result => exact absurd (facts.during_of_ended (.ok result)) during
      | threw failure => exact absurd (facts.during_of_ended (.error failure)) during
      | request effect next =>
          exact ⟨effect, next, rfl, fun waits => during (facts.during_of_request waits)⟩
    · refine .inl (CancellationWorker.moves unsettled fun waiting => ?_)
      by_contra active
      exact blocked ⟨waiting, by simpa using active⟩
  never_recedes := fun _ step => step.never_recedes
  completes := run_completes built run

end Runs

section Example

/-- The cancellation worker has captured a purchase that the chain worker waits for. -/
theorem captured_purchase_never_blocks :
    ∃ history state current, SharedRun (cancellationSystem True fun _ _ => True) {}
        buyBitcoinChain.execute history state current ∧
      state.worker = .captured (.ordinary .binance bitcoinOrder) ∧
      NeverStuck True state current := by
  have bought := SharedRun.run_alone (@patientExchange.performs True)
    (.start : SharedRun _ {} buyBitcoinChain.execute _ _ _)
  have requested := bought.interfere .request
  have starting := requested.interfere (.startWorker rfl (by decide +kernel))
  have captured := starting.interfere (.enter rfl)
  exact ⟨_, _, _, captured, by decide +kernel,
    cancellation_never_blocks buy_bitcoin_built captured⟩

end Example

end CryptoDeal
