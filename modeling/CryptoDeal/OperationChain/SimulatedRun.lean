import CryptoDeal.Library.SharedRun
import CryptoDeal.OperationChain.SimulatedOperationChainRun

/-!
# Every plan, every timing

A simulated run beside a cancellation and a stop that may come at any moment.
The steps before `stepIndex` have succeeded, those behind it are pending, and
the loop ends before it has passed the awaiting step: no transition is refused.
-/

namespace CryptoDeal

open DealService Interaction

/-- What `controlMutex` guards, and the worker's stop token. -/
structure SimulatedControl where
  cancellationRequested : Bool := false
  stopRequested : Bool := false

/-- A wait may end as soon as its outcome is settled, or when its delay has passed. -/
def SimulatedControl.Answers (control : SimulatedControl) :
    (effect : SimulatedEffect) → effect.Answer → Prop
  | .waitForDelay _, answer =>
      answer = (!control.cancellationRequested && !control.stopRequested)
  | .waitForCancellation, answer =>
      (control.cancellationRequested || control.stopRequested) ∧
        answer = control.cancellationRequested
  | .isCancellationRequested, answer => answer = control.cancellationRequested
  | .stopRequested, answer => answer = control.stopRequested
  | .clock, _ | .store _, _ | .notifyStateChanged _, _ => True

inductive SimulatedControl.Interferes (control : SimulatedControl) : SimulatedControl → Prop where
  | requestCancellation : Interferes control { control with cancellationRequested := true }
  | requestStop : Interferes control { control with stopRequested := true }

def simulatedSystem : SharedSystem SimulatedEffect SimulatedEffect.Answer SimulatedControl where
  performs control effect answer after := control.Answers effect answer ∧ after = control
  interferes := SimulatedControl.Interferes

def SimulatedEffect.stored : SimulatedEffect → Option OperationChainSnapshot
  | .store snapshot => some snapshot
  | _ => none

def SimulatedEffect.notified : SimulatedEffect → Option OperationChainSnapshot
  | .notifyStateChanged snapshot => some snapshot
  | _ => none

namespace SimulatedOperationChainRun

/-- All that `getSnapshot` could return since the start of `execute`, latest first. -/
def storedSnapshots (history : SimulatedHistory) : List OperationChainSnapshot :=
  history.filterMap fun event => event.1.stored

/-- All that the handler was called with, latest first. -/
def notifiedSnapshots (history : SimulatedHistory) : List OperationChainSnapshot :=
  history.filterMap fun event => event.1.notified

/-- Succeeded steps, the one under way if there is one, and pending steps. -/
def stepStatuses (succeeded : ℕ) (current : Option OperationStepStatus) (pending : ℕ) :
    List OperationStepStatus :=
  List.replicate succeeded .succeeded ++ current.toList ++ List.replicate pending .pending

structure SimulatedShape (plan : SimulatedOperationChainRunPlan)
    (snapshot : OperationChainSnapshot) : Prop where
  statuses : ∃ succeeded current pending,
    snapshot.steps.map (·.status) = stepStatuses succeeded current pending ∧
      ∀ status ∈ current, status = .running ∨ status = .awaiting ∨ status = .cancelled
  beyond : ∀ step ∈ snapshot.steps.drop (plan.awaitingStepIndex + 1), step.status = .pending
  unfinished : snapshot.status ≠ .completed ∧ snapshot.status ≠ .failed

/-! ## Transitions -/

/-- Where the run stands: so many steps done, one perhaps under way, so many to come. -/
structure Stands (plan : SimulatedOperationChainRunPlan) (run : SimulatedOperationChainRun)
    (status : OperationChainStatus) (index : ℕ) (current : Option OperationStepStatus)
    (pending : ℕ) : Prop where
  plan : run.plan = plan
  status : run.snapshot.status = status
  steps : run.snapshot.steps.map (·.status) = stepStatuses index current pending

/-- The relations between the lists of a plan that the constructor checks. -/
structure PlanFits (plan : SimulatedOperationChainRunPlan) : Prop where
  awaiting : plan.awaitingStepIndex < plan.definition.operations.length
  contexts : plan.succeededStepContexts.length = plan.awaitingStepIndex
  identifiers : plan.acceptedIdentifiers.length = plan.definition.operations.length

section Transitions

variable {plan : SimulatedOperationChainRunPlan} {run : SimulatedOperationChainRun}
  {status : OperationChainStatus} {index pending : ℕ} {current : Option OperationStepStatus}

theorem element_at_ok {Element : Type} {elements : List Element} (inside : index < elements.length) :
    elementAt elements index = .ok elements[index] := by
  simp [elementAt, List.getElem?_eq_getElem inside]

theorem step_statuses_current {found : OperationStepStatus} :
    (stepStatuses index (some found) pending)[index]? = some found := by
  simp [stepStatuses]

theorem step_statuses_next :
    (stepStatuses index none (pending + 1))[index]? = some .pending := by
  simp [stepStatuses]

theorem step_statuses_set {before after : OperationStepStatus} :
    (stepStatuses index (some before) pending).set index after =
      stepStatuses index (some after) pending := by
  simp [stepStatuses]

theorem step_statuses_start {after : OperationStepStatus} :
    (stepStatuses index none (pending + 1)).set index after =
      stepStatuses index (some after) pending := by
  simp [stepStatuses, List.replicate_succ]

theorem step_statuses_finish :
    stepStatuses index (some .succeeded) pending = stepStatuses (index + 1) none pending := by
  simp [stepStatuses, List.replicate_succ']

/-- The step under way, or the first one to come. -/
theorem Stands.step_at {found : OperationStepStatus}
    (stands : Stands plan run status index current pending)
    (here : (stepStatuses index current pending)[index]? = some found) :
    ∃ step, elementAt run.snapshot.steps index = .ok step ∧ step.status = found := by
  rw [← stands.steps, List.getElem?_map, Option.map_eq_some_iff] at here
  obtain ⟨step, present, same⟩ := here
  exact ⟨step, by rw [elementAt, present], same⟩

theorem Stands.shape (stands : Stands plan run status index current pending)
    (within : index + current.toList.length ≤ plan.awaitingStepIndex + 1)
    (underWay : ∀ status ∈ current, status = .running ∨ status = .awaiting ∨ status = .cancelled)
    (unfinished : status ≠ .completed ∧ status ≠ .failed) : SimulatedShape plan run.snapshot where
  statuses := ⟨index, current, pending, stands.steps, underWay⟩
  beyond := by
    intro step member
    have behind : step.status ∈
        (stepStatuses index current pending).drop (plan.awaitingStepIndex + 1) := by
      rw [← stands.steps, ← List.map_drop]
      exact List.mem_map_of_mem member
    rw [stepStatuses, List.drop_append, List.drop_eq_nil_of_le (by simpa using within),
      List.nil_append, List.drop_replicate] at behind
    exact List.eq_of_mem_replicate behind
  unfinished := by
    rw [stands.status]
    exact unfinished

/-- The transition is not refused, and it leads where it should. -/
def Takes (change : Transition) (run : SimulatedOperationChainRun)
    (arrives : SimulatedOperationChainRun → Prop) : Prop :=
  ∃ update, change run = .ok update ∧ ∀ timePoint,
    (update timePoint).revision = run.snapshot.revision + 1 ∧
      arrives { run with snapshot := update timePoint }

theorem start_execution_takes (stands : Stands plan run .pending index current pending) :
    Takes startExecution run fun after => Stands plan after .running index current pending := by
  refine ⟨_, throw_if_bind_ok.2 ⟨by simp [stands.status], rfl⟩, fun timePoint => ?_⟩
  exact ⟨rfl, stands.plan, rfl, stands.steps⟩

theorem start_step_takes (stands : Stands plan run .running index none (pending + 1)) :
    Takes (startStep index) run fun after =>
      Stands plan after .running index (some .running) pending := by
  obtain ⟨step, found, idle⟩ := stands.step_at step_statuses_next
  refine ⟨_, throw_if_bind_ok.2 ⟨by simp [stands.status], except_bind_ok.2 ⟨step, found,
    throw_if_bind_ok.2 ⟨by simp [idle], rfl⟩⟩⟩, fun timePoint => ?_⟩
  refine ⟨rfl, stands.plan, stands.status, ?_⟩
  show List.map _ (List.set _ _ _) = _
  rw [List.map_set, stands.steps]
  exact step_statuses_start

theorem finish_step_takes (fits : PlanFits plan)
    (stands : Stands plan run .running index (some .running) pending)
    (before : index < plan.awaitingStepIndex) :
    Takes (finishStep index) run fun after =>
      Stands plan after .running (index + 1) none pending := by
  obtain ⟨step, found, running⟩ := stands.step_at step_statuses_current
  have context : index < run.plan.succeededStepContexts.length := by
    rw [stands.plan, fits.contexts]
    exact before
  have identifiers : index < run.plan.acceptedIdentifiers.length := by
    rw [stands.plan, fits.identifiers]
    exact before.trans fits.awaiting
  refine ⟨_, except_bind_ok.2 ⟨step, found, throw_if_bind_ok.2 ⟨by simp [running],
    except_bind_ok.2 ⟨_, element_at_ok context,
      except_bind_ok.2 ⟨_, element_at_ok identifiers, rfl⟩⟩⟩⟩, fun timePoint => ?_⟩
  refine ⟨rfl, stands.plan, stands.status, ?_⟩
  show List.map _ (List.set _ _ _) = _
  rw [List.map_set, stands.steps, ← step_statuses_finish]
  exact step_statuses_set

theorem mark_step_awaiting_takes (fits : PlanFits plan)
    (stands : Stands plan run .running index (some .running) pending)
    (within : index ≤ plan.awaitingStepIndex) :
    Takes (markStepAwaiting index) run fun after =>
      Stands plan after .running index (some .awaiting) pending := by
  obtain ⟨step, found, running⟩ := stands.step_at step_statuses_current
  have identifiers : index < run.plan.acceptedIdentifiers.length := by
    rw [stands.plan, fits.identifiers]
    exact within.trans_lt fits.awaiting
  refine ⟨_, except_bind_ok.2 ⟨step, found, throw_if_bind_ok.2 ⟨by simp [running],
    except_bind_ok.2 ⟨_, element_at_ok identifiers, rfl⟩⟩⟩, fun timePoint => ?_⟩
  refine ⟨rfl, stands.plan, stands.status, ?_⟩
  show List.map _ (List.set _ _ _) = _
  rw [List.map_set, stands.steps]
  exact step_statuses_set

theorem cancel_pending_takes (stands : Stands plan run .pending index current pending) :
    Takes cancelPendingExecution run fun after =>
      Stands plan after .cancelled index current pending := by
  refine ⟨_, throw_if_bind_ok.2 ⟨by simp [stands.status], rfl⟩, fun timePoint => ?_⟩
  exact ⟨rfl, stands.plan, rfl, stands.steps⟩

theorem cancel_between_takes (stands : Stands plan run .running index current pending) :
    Takes cancelExecutionBetweenSteps run fun after =>
      Stands plan after .cancelled index current pending := by
  refine ⟨_, throw_if_bind_ok.2 ⟨by simp [stands.status], rfl⟩, fun timePoint => ?_⟩
  exact ⟨rfl, stands.plan, rfl, stands.steps⟩

theorem cancel_step_takes {underWay : OperationStepStatus}
    (stands : Stands plan run status index (some underWay) pending)
    (open_ : underWay = .running ∨ underWay = .awaiting) :
    Takes (cancelStepAndExecution index) run fun after =>
      Stands plan after .cancelled index (some .cancelled) pending := by
  obtain ⟨step, found, same⟩ := stands.step_at step_statuses_current
  have cancellable : ¬ (step.status ≠ .running ∧ step.status ≠ .awaiting) := by
    rw [same]
    cases open_ with
    | inl running => simp [running]
    | inr awaiting => simp [awaiting]
  refine ⟨_, except_bind_ok.2 ⟨step, found, throw_if_bind_ok.2 ⟨cancellable, rfl⟩⟩,
    fun timePoint => ?_⟩
  refine ⟨rfl, stands.plan, rfl, ?_⟩
  show List.map _ (List.set _ _ _) = _
  rw [List.map_set, stands.steps]
  exact step_statuses_set

theorem create_stands {createdAt : OperationChainTimePoint}
    (created : create plan createdAt = .ok run) :
    PlanFits plan ∧ run.snapshot.revision = 0 ∧
      Stands plan run .pending 0 none plan.definition.operations.length := by
  obtain ⟨awaiting, rest⟩ := throw_if_bind_ok.1 created
  obtain ⟨contexts, rest⟩ := throw_if_bind_ok.1 rest
  obtain ⟨identifiers, rest⟩ := throw_if_bind_ok.1 rest
  obtain ⟨_, rest⟩ := throw_if_bind_ok.1 rest
  obtain ⟨_, rest⟩ := throw_if_bind_ok.1 rest
  cases rest
  refine ⟨⟨not_le.1 awaiting, not_not.1 contexts, not_not.1 identifiers⟩, rfl, rfl, rfl, ?_⟩
  simp [fresh, stepStatuses, List.eq_replicate_iff]

end Transitions

/-! ## Execution -/

/-- Some delay did not elapse. -/
def CutShort (history : SimulatedHistory) : Prop :=
  ∃ delay, (⟨.waitForDelay delay, false⟩ : Sigma SimulatedEffect.Answer) ∈ history

/-- `stops`: the stop token may be used. Where it is not, a delay is cut short and a last wait
ends by a cancellation only. -/
def simulatedContract (plan : SimulatedOperationChainRunPlan) (initial : OperationChainSnapshot)
    (stops : Prop) : Contract SimulatedEffect SimulatedEffect.Answer where
  requires history effect :=
    match effect with
    | .store snapshot =>
        snapshot.revision = (storedValue SimulatedEffect.publishing initial history).revision + 1 ∧
          SimulatedShape plan snapshot ∧ isReported SimulatedEffect.publishing history
    | .notifyStateChanged snapshot =>
        snapshot = storedValue SimulatedEffect.publishing initial history ∧
          isReported SimulatedEffect.publishing history = false
    | _ => True
  ensures history effect answer := ¬ stops →
    match effect, answer with
    | .isCancellationRequested, answer => CutShort history → answer = true
    | .waitForCancellation, answer => answer = true
    | .stopRequested, answer => answer = false
    | _, _ => True

abbrev CancelledUnlessStopped (initial : OperationChainSnapshot) (stops : Prop)
    (later : SimulatedHistory) (outcome : Except ServiceFailure Unit) : Prop :=
  outcome = .ok () ∧
    (¬ stops → (storedValue SimulatedEffect.publishing initial later).status = .cancelled)

section Execution

variable {plan : SimulatedOperationChainRunPlan} {initial : OperationChainSnapshot} {stops : Prop}
  {history : SimulatedHistory} {run : SimulatedOperationChainRun} {index pending : ℕ}
  {status : OperationChainStatus} {current : Option OperationStepStatus} {change : Transition}

theorem InSync.silent (synced : InSync initial run history) {effect : SimulatedEffect}
    (silent : effect.publishing = .silent) (answer : effect.Answer) :
    InSync initial run (⟨effect, answer⟩ :: history) where
  stored := by simpa [storedValue, silent] using synced.stored
  reported := by simpa [isReported, silent] using synced.reported

theorem meets_advance {arrives : SimulatedOperationChainRun → Prop}
    {rest : SimulatedOperationChainRun → SimulatedProgram Unit}
    {post : SimulatedHistory → Except ServiceFailure Unit → Prop}
    (takes : Takes change run arrives) (synced : InSync initial run history)
    (shaped : ∀ after, arrives after → SimulatedShape plan after.snapshot)
    (continues : ∀ after later, arrives after → InSync initial after later →
      Meets (simulatedContract plan initial stops) post (rest after) later) :
    Meets (simulatedContract plan initial stops) post (advance change run >>= rest) history := by
  obtain ⟨update, accepted, leads⟩ := takes
  simp only [advance, accepted, meets_monad_bind, meets_lift]
  refine ⟨trivial, fun timePoint _ => ⟨⟨?_, ?_, synced.reported⟩, fun _ _ => ?_⟩⟩
  · show _ = (storedValue SimulatedEffect.publishing initial history).revision + 1
    rw [synced.stored]
    exact (leads timePoint).1
  · exact shaped _ (leads timePoint).2
  · exact ⟨⟨rfl, rfl⟩, fun _ _ => continues _ _ (leads timePoint).2 ⟨rfl, rfl⟩⟩

theorem meets_conclude
    (takes : Takes change run fun after => Stands plan after .cancelled index current pending)
    (synced : InSync initial run history)
    (within : index + current.toList.length ≤ plan.awaitingStepIndex + 1)
    (underWay : ∀ status ∈ current, status = .running ∨ status = .awaiting ∨ status = .cancelled) :
    Meets (simulatedContract plan initial stops) (CancelledUnlessStopped initial stops)
      (conclude change run) history := by
  apply meets_advance takes synced
  · intro after stands
    exact stands.shape within underWay (by simp)
  · intro after later stands synced
    refine ⟨rfl, fun _ => ?_⟩
    rw [synced.stored]
    exact stands.status

theorem execute_steps_meets (fits : PlanFits plan) {remaining : ℕ}
    (stands : Stands plan run .running index none pending) (synced : InSync initial run history)
    (bound : remaining + index = plan.awaitingStepIndex + 1) (within : index ≤ plan.awaitingStepIndex)
    (count : index + pending = plan.definition.operations.length) :
    Meets (simulatedContract plan initial stops) (CancelledUnlessStopped initial stops)
      (executeSteps remaining index run) history := by
  induction remaining generalizing run index pending history with
  | zero => omega
  | succ remaining ih =>
      have running : ∀ status ∈ some OperationStepStatus.running,
          status = .running ∨ status = .awaiting ∨ status = .cancelled := by simp
      have cancelled : ∀ status ∈ some OperationStepStatus.cancelled,
          status = .running ∨ status = .awaiting ∨ status = .cancelled := by simp
      have awaiting : ∀ status ∈ some OperationStepStatus.awaiting,
          status = .running ∨ status = .awaiting ∨ status = .cancelled := by simp
      have unfinished : OperationChainStatus.running ≠ .completed ∧
          OperationChainStatus.running ≠ .failed := by simp
      obtain ⟨pending, rfl⟩ : ∃ rest, pending = rest + 1 := by
        have inside := fits.awaiting
        exact ⟨pending - 1, by omega⟩
      refine ⟨trivial, fun stopped honest => ?_⟩
      have synced := synced.silent rfl stopped
      cases stopped with
      | true => exact ⟨rfl, fun unstopped => by cases honest unstopped⟩
      | false =>
          refine ⟨trivial, fun requested _ => ?_⟩
          have synced := synced.silent rfl requested
          cases requested with
          | true =>
              exact meets_conclude (cancel_between_takes stands) synced (by simp; omega) (by simp)
          | false =>
              apply meets_advance (start_step_takes stands) synced
              · intro after stands
                exact stands.shape (by simpa using within) running unfinished
              intro run history stands synced
              refine ⟨trivial, fun waited _ => ?_⟩
              have synced := synced.silent rfl waited
              cases waited with
              | false =>
                  refine ⟨trivial, fun requested honest => ?_⟩
                  have synced := synced.silent rfl requested
                  cases requested with
                  | true =>
                      exact meets_conclude (cancel_step_takes stands (.inl rfl)) synced
                        (by simpa using within) cancelled
                  | false =>
                      refine ⟨rfl, fun unstopped => ?_⟩
                      cases honest unstopped ⟨_, List.mem_cons_self⟩
              | true =>
                  show Meets _ _ (if index < run.plan.awaitingStepIndex then _ else _) _
                  split_ifs with before
                  · rw [stands.plan] at before
                    apply meets_advance (finish_step_takes fits stands before) synced
                    · intro after stands
                      exact stands.shape (by simpa using Nat.succ_le_succ within) (by simp)
                        unfinished
                    · intro run history stands synced
                      exact ih stands synced (by omega) before (by omega)
                  · apply meets_advance (mark_step_awaiting_takes fits stands within) synced
                    · intro after stands
                      exact stands.shape (by simpa using within) awaiting unfinished
                    intro run history stands synced
                    refine ⟨trivial, fun confirmed honest => ?_⟩
                    have synced := synced.silent rfl confirmed
                    cases confirmed with
                    | true =>
                        exact meets_conclude (cancel_step_takes stands (.inr rfl)) synced
                          (by simpa using within) cancelled
                    | false => exact ⟨rfl, fun unstopped => by cases honest unstopped⟩

theorem execute_meets {createdAt : OperationChainTimePoint}
    (created : create plan createdAt = .ok run) :
    Meets (simulatedContract plan run.snapshot stops) (CancelledUnlessStopped run.snapshot stops)
      (execute run) [] := by
  obtain ⟨fits, _, stands⟩ := create_stands created
  have synced : InSync run.snapshot run [] := ⟨rfl, rfl⟩
  refine ⟨trivial, fun waited _ => ?_⟩
  have synced := synced.silent rfl waited
  cases waited with
  | false =>
      refine ⟨trivial, fun requested honest => ?_⟩
      have synced := synced.silent rfl requested
      cases requested with
      | true => exact meets_conclude (cancel_pending_takes stands) synced (by simp) (by simp)
      | false =>
          refine ⟨rfl, fun unstopped => ?_⟩
          cases honest unstopped ⟨_, List.mem_cons_self⟩
  | true =>
      apply meets_advance (start_execution_takes stands) synced
      · intro after stands
        exact stands.shape (by simp) (by simp) (by simp)
      · intro run history stands synced
        show Meets _ _ (executeSteps (run.plan.awaitingStepIndex + 1) 0 run) _
        rw [stands.plan]
        exact execute_steps_meets fits stands synced rfl (Nat.zero_le _) (Nat.zero_add _)

end Execution

/-! ## Runs -/

/-- What was stored and what the handler saw, both latest first. -/
structure ShownInTurn (plan : SimulatedOperationChainRunPlan)
    (stored notified : List OperationChainSnapshot) : Prop where
  shapes : ∀ snapshot ∈ stored, SimulatedShape plan snapshot
  revisions : stored.map (·.revision) = (List.range' 1 stored.length).reverse
  notified_stored : notified = stored ∨ notified = stored.tail

/-- The control state goes with the history, and so does what has been shown. -/
structure RunInvariant (plan : SimulatedOperationChainRunPlan) (initial : OperationChainSnapshot)
    (stops : Prop) (history : SimulatedHistory) (control : SimulatedControl) : Prop where
  cut_short : ¬ stops → CutShort history → control.cancellationRequested
  shapes : ∀ snapshot ∈ storedSnapshots history, SimulatedShape plan snapshot
  revisions : (storedSnapshots history).map (·.revision) =
    (List.range' 1 (storedSnapshots history).length).reverse
  latest : (storedValue SimulatedEffect.publishing initial history).revision =
    (storedSnapshots history).length
  notified : notifiedSnapshots history =
    if isReported SimulatedEffect.publishing history then storedSnapshots history
    else (storedSnapshots history).tail

section Runs

variable {plan : SimulatedOperationChainRunPlan} {initial : OperationChainSnapshot} {stops : Prop}
  {history : SimulatedHistory} {control after : SimulatedControl}
  {run : SimulatedOperationChainRun} {createdAt : OperationChainTimePoint}

theorem stored_value_latest (initial : OperationChainSnapshot) (history : SimulatedHistory) :
    storedValue SimulatedEffect.publishing initial history =
      (storedSnapshots history).headD initial := by
  induction history with
  | nil => rfl
  | cons event earlier ih =>
      obtain ⟨effect, answer⟩ := event
      cases effect with
      | store snapshot => rfl
      | _ => exact ih

theorem stored_of_unreported (unreported : isReported SimulatedEffect.publishing history = false) :
    storedSnapshots history ≠ [] := by
  induction history with
  | nil => cases unreported
  | cons event earlier ih =>
      obtain ⟨effect, answer⟩ := event
      cases effect with
      | store snapshot => exact List.cons_ne_nil snapshot _
      | notifyStateChanged snapshot => cases unreported
      | _ => exact ih unreported

theorem RunInvariant.initially (fresh : initial.revision = 0) :
    RunInvariant plan initial stops [] {} where
  cut_short := by simp [CutShort]
  shapes := by simp [storedSnapshots]
  revisions := rfl
  latest := fresh
  notified := rfl

/-- Only a delay that is cut short adds to what was. -/
theorem RunInvariant.cut_short_cons (invariant : RunInvariant plan initial stops history control)
    {effect : SimulatedEffect} {answer : effect.Answer} (answers : control.Answers effect answer)
    (unstopped : stops ∨ control.stopRequested = false) (honest : ¬ stops)
    (cut : CutShort (⟨effect, answer⟩ :: history)) : control.cancellationRequested := by
  obtain ⟨delay, member⟩ := cut
  rcases List.mem_cons.1 member with here | before
  · cases here
    have running := unstopped.resolve_left honest
    simpa [SimulatedControl.Answers, running] using answers
  · exact invariant.cut_short honest ⟨delay, before⟩

theorem RunInvariant.act (invariant : RunInvariant plan initial stops history control)
    {effect : SimulatedEffect} {answer : effect.Answer}
    (required : (simulatedContract plan initial stops).requires history effect)
    (answers : control.Answers effect answer) (unstopped : stops ∨ control.stopRequested = false) :
    (simulatedContract plan initial stops).ensures history effect answer ∧
      RunInvariant plan initial stops (⟨effect, answer⟩ :: history) control := by
  have cut_short := fun honest => invariant.cut_short_cons answers unstopped honest
  cases effect with
  | waitForDelay delay => exact ⟨fun _ => trivial, { invariant with cut_short }⟩
  | waitForCancellation =>
      refine ⟨fun honest => ?_, { invariant with cut_short }⟩
      have running := unstopped.resolve_left honest
      obtain ⟨ended, same⟩ := answers
      simpa [running, same] using ended
  | isCancellationRequested =>
      refine ⟨fun honest cut => ?_, { invariant with cut_short }⟩
      exact answers.trans (invariant.cut_short honest cut)
  | stopRequested =>
      refine ⟨fun honest => ?_, { invariant with cut_short }⟩
      exact answers.trans (unstopped.resolve_left honest)
  | clock => exact ⟨fun _ => trivial, { invariant with cut_short }⟩
  | store snapshot =>
      obtain ⟨raised, shape, reported⟩ := required
      have revision : snapshot.revision = (storedSnapshots history).length + 1 := by
        rw [raised, invariant.latest]
      have shown := invariant.notified
      rw [if_pos reported] at shown
      refine ⟨fun _ => trivial, cut_short, ?_, ?_, revision, shown⟩
      · exact List.forall_mem_cons.2 ⟨shape, invariant.shapes⟩
      · show snapshot.revision :: (storedSnapshots history).map (·.revision) =
          (List.range' 1 ((storedSnapshots history).length + 1)).reverse
        rw [revision, invariant.revisions, List.range'_concat]
        simp [Nat.add_comm]
  | notifyStateChanged snapshot =>
      obtain ⟨same, unreported⟩ := required
      have shown := invariant.notified
      rw [unreported, if_neg Bool.false_ne_true] at shown
      refine ⟨fun _ => trivial, cut_short, invariant.shapes, invariant.revisions,
        invariant.latest, ?_⟩
      show snapshot :: notifiedSnapshots history = storedSnapshots history
      rw [shown, same, stored_value_latest]
      cases held : storedSnapshots history with
      | nil => exact absurd held (stored_of_unreported unreported)
      | cons latest earlier => rfl

theorem simulated_guarantees :
    Guarantees simulatedSystem (simulatedContract plan initial stops)
      (fun control => stops ∨ control.stopRequested = false)
      (RunInvariant plan initial stops) where
  covers_before_act := by
    rintro _ _ _ _ ⟨_, rfl⟩ covered
    exact covered
  covers_before_interference := by
    intro control after interfered covered
    cases interfered with
    | requestCancellation => exact covered
    | requestStop =>
        rcases covered with stopped | unstopped
        · exact .inl stopped
        · cases unstopped
  act := by
    rintro _ _ _ _ _ invariant required ⟨answers, rfl⟩ covered
    exact invariant.act required answers covered
  interfere := by
    intro history control after invariant interfered covered
    cases interfered with
    | requestCancellation => exact { invariant with cut_short := fun _ _ => rfl }
    | requestStop => exact { invariant with cut_short := invariant.cut_short }

/-- A simulated run of an accepted plan, however its cancellation and its stop are timed. -/
theorem simulated_run_well_formed (created : create plan createdAt = .ok run)
    {current : SimulatedProgram Unit}
    (ran : SharedRun simulatedSystem {} (execute run) history control current) :
    (∀ failure, current ≠ .threw failure) ∧
      ShownInTurn plan (storedSnapshots history) (notifiedSnapshots history) ∧
      ∀ result, current = .returned result → control.stopRequested = false →
        (storedSnapshots history).head?.map (·.status) = some .cancelled := by
  obtain ⟨_, fresh, stands⟩ := create_stands created
  obtain ⟨met, invariant⟩ := ran.meets (@simulated_guarantees plan run.snapshot True)
    (.initially fresh) (execute_meets created) (.inl trivial)
  refine ⟨?_, ⟨invariant.shapes, invariant.revisions, ?_⟩, ?_⟩
  · rintro failure rfl
    cases met.1
  · rw [invariant.notified]
    split_ifs
    · exact .inl rfl
    · exact .inr rfl
  · rintro result rfl unstopped
    obtain ⟨met, _⟩ := ran.meets (@simulated_guarantees plan run.snapshot False)
      (.initially fresh) (execute_meets created) (.inr unstopped)
    have cancelled := met.2 not_false
    rw [stored_value_latest] at cancelled
    cases held : storedSnapshots history with
    | nil =>
        rw [held] at cancelled
        cases stands.status.symm.trans cancelled
    | cons latest earlier =>
        rw [held] at cancelled
        exact congrArg some cancelled

end Runs

section Example

theorem sale_compatible : isConfigCompatible .sellCrypto (.base ⟨"USDT"⟩) := rfl

def tradingOperations : List OperationDefinition :=
  [⟨.buyCrypto, .base ⟨"BTC"⟩, purchase_compatible⟩,
    ⟨.sellCrypto, .base ⟨"USDT"⟩, sale_compatible⟩,
    ⟨.buyCrypto, .base ⟨"BTC"⟩, purchase_compatible⟩]

theorem trading_nonempty : tradingOperations ≠ [] := List.cons_ne_nil _ _

/-- A purchase that succeeds, a sale that is awaited, and another purchase. -/
def tradingPlan : SimulatedOperationChainRunPlan where
  definition := { buyBitcoin with
    operations := tradingOperations
    operations_nonempty := trading_nonempty }
  succeededStepContexts := [⟨.binance, "BTC", 2⟩]
  acceptedIdentifiers := [{}, {}, {}]
  awaitingStepIndex := 1

/-- Every wait that can end ends at once. -/
def controlAnswer (control : SimulatedControl) :
    (effect : SimulatedEffect) → Option (effect.Answer × SimulatedControl)
  | .waitForDelay _ => some (!control.cancellationRequested && !control.stopRequested, control)
  | .waitForCancellation =>
      if control.cancellationRequested || control.stopRequested then
        some (control.cancellationRequested, control)
      else none
  | .isCancellationRequested => some (control.cancellationRequested, control)
  | .stopRequested => some (control.stopRequested, control)
  | .clock => some ((0 : ℤ), control)
  | .store _ | .notifyStateChanged _ => some ((), control)

theorem answer_performs {control after : SimulatedControl} {effect : SimulatedEffect}
    {answer : effect.Answer} (answered : controlAnswer control effect = some (answer, after)) :
    simulatedSystem.performs control effect answer after := by
  cases effect with
  | waitForCancellation =>
      simp only [controlAnswer] at answered
      split_ifs at answered with ended
      cases answered
      exact ⟨⟨ended, rfl⟩, rfl⟩
  | _ =>
      cases answered
      exact ⟨by trivial, rfl⟩

/-- The sale is awaited until it is cancelled. -/
theorem awaited_sale_is_cancelled :
    ∃ run history control, create tradingPlan 0 = .ok run ∧
      SharedRun simulatedSystem {} run.execute history control (.returned ()) ∧
      (storedSnapshots history).head?.map (fun snapshot => snapshot.steps.map (·.status)) =
        some [.succeeded, .cancelled, .pending] ∧
      ShownInTurn tradingPlan (storedSnapshots history) (notifiedSnapshots history) ∧
      (storedSnapshots history).head?.map (·.status) = some .cancelled := by
  have created : create tradingPlan 0 = .ok (fresh tradingPlan 0) := rfl
  have awaiting := SharedRun.run_alone answer_performs
    (.start : SharedRun simulatedSystem {} (fresh tradingPlan 0).execute _ _ _)
  have cancelled := SharedRun.run_alone answer_performs (awaiting.interfere .requestCancellation)
  obtain ⟨_, shown, ends⟩ := simulated_run_well_formed created cancelled
  exact ⟨_, _, _, created, cancelled, by decide +kernel, shown, ends () rfl rfl⟩

end Example

end SimulatedOperationChainRun

end CryptoDeal
