import CryptoDeal.OperationChain.SnapshotInvariant

/-!
# The order of an execution

A trace sums up what `execute` has asked so far and what it was answered. A
discipline says what `execute` may ask after a trace, and `execute` keeps to it
whatever the answers are, if its operations keep to a discipline of their own.
-/

namespace CryptoDeal

open DealService Interaction

/-- The calls of one operation, latest first. -/
abbrev CallHistory := History OperationCall OperationCall.Answer

/-- The operation that was started last. -/
inductive OperationStage where
  | idle
  | running (calls : CallHistory)
  | ended (calls : CallHistory) (outcome : Except OperationFailure Unit) (resolved : Bool)
      (confirmed : Option Bool)
  /-- The coordinator refused to start it. -/
  | refused

namespace OperationStage

def calls : OperationStage → CallHistory
  | running calls | ended calls _ _ _ => calls
  | idle | refused => []

def isRunning : OperationStage → Bool
  | running _ => true
  | _ => false

/-- No operation is under way, and the last one did not fail. -/
def Settled : OperationStage → Prop
  | idle => True
  | ended _ (.ok _) _ _ => True
  | _ => False

/-- The catch branch of this failure has waited for a resolution if it has to. -/
def IsAwaited (failure : ServiceFailure) (resolved : Bool) : Prop :=
  ∀ what, failure = .runtime what → resolved

/-- The chain fails: the cancellation of the operation is known not to be confirmed,
or is not asked for. -/
def Fails : OperationStage → Prop
  | ended _ (.error (.thrown failure)) resolved confirmed =>
      (failure = .nonStandard ∨ confirmed = some false) ∧ IsAwaited failure resolved
  | _ => False

/-- The chain cancels the step of the operation. -/
def Cancels : OperationStage → Prop
  | ended _ (.error (.cancellationRequested _)) _ _ => True
  | ended _ (.error (.thrown failure)) resolved confirmed =>
      confirmed = some true ∧ IsAwaited failure resolved
  | _ => False

def afterCall (asked : OperationCall) (answer : asked.Answer) : OperationStage → OperationStage
  | running calls => running (⟨asked, answer⟩ :: calls)
  | stage => stage

def afterResolution : OperationStage → OperationStage
  | ended calls outcome _ confirmed => ended calls outcome true confirmed
  | stage => stage

def afterConfirmation (confirmed : Bool) : OperationStage → OperationStage
  | ended calls outcome resolved _ => ended calls outcome resolved (some confirmed)
  | stage => stage

end OperationStage

structure ChainTrace where
  /-- What `getSnapshot` returns. -/
  published : OperationChainSnapshot
  notified : ℕ := 0
  stage : OperationStage := .idle
  /-- No cancellation was requested at the last poll since an operation was under way. -/
  cleared : Bool := false

namespace ChainTrace

def publish (trace : ChainTrace) (snapshot : OperationChainSnapshot) : ChainTrace :=
  { trace with published := snapshot }

def notify (trace : ChainTrace) : ChainTrace :=
  { trace with notified := trace.notified + 1 }

def withStage (trace : ChainTrace) (stage : OperationStage) : ChainTrace :=
  { trace with stage }

def after (trace : ChainTrace) : (effect : ChainEffect) → effect.Answer → ChainTrace
  | .call asked, answer => trace.withStage (trace.stage.afterCall asked answer)
  | .isCancellationRequested, requested => { trace with cleared := !requested }
  | .startOperation _, .ok _ => { trace with stage := .running [], cleared := false }
  | .startOperation _, .error _ => trace.withStage .refused
  | .finishOperation outcome, _ =>
      { trace with stage := .ended trace.stage.calls outcome false none, cleared := false }
  | .waitForCancellationResolution, _ => trace.withStage trace.stage.afterResolution
  | .isCancellationConfirmed, confirmed =>
      trace.withStage (trace.stage.afterConfirmation confirmed)
  | .store snapshot, _ => trace.publish snapshot
  | .notifyStateChanged _, _ => trace.notify
  | .finishChain, _ | .hasCancellationFailed, _ | .getCancellationFailure, _ | .clock, _ => trace

def of (initial : OperationChainSnapshot) : ChainHistory → ChainTrace
  | [] => { published := initial }
  | ⟨effect, answer⟩ :: earlier => (of initial earlier).after effect answer

end ChainTrace

/-! ## The discipline -/

/-- When a snapshot of this status may be stored. -/
structure StoreAllowed (stage : OperationStage) (snapshot : OperationChainSnapshot) : Prop where
  failed : snapshot.status = .failed → stage.Fails
  cancelled : snapshot.status = .cancelled →
    stage.Cancels ∨ stage.Settled ∧ ∀ step ∈ snapshot.steps, step.status ≠ .cancelled
  completed : snapshot.status = .completed → stage.Settled

/-- What the operations of a chain keep to. -/
structure OperationDiscipline where
  callAllowed : CallHistory → OperationCall → Prop
  endAllowed : CallHistory → Except OperationFailure Unit → Prop

def callsIn : History OperationEffect OperationEffect.Answer → CallHistory
  | [] => []
  | ⟨.call asked, answer⟩ :: earlier => ⟨asked, answer⟩ :: callsIn earlier
  | ⟨.reportAwaiting _, _⟩ :: earlier | ⟨.assignContext _, _⟩ :: earlier => callsIn earlier

namespace OperationDiscipline

def AllowsEffect (discipline : OperationDiscipline) (calls : CallHistory) :
    OperationEffect → Prop
  | .call asked => discipline.callAllowed calls asked
  | .reportAwaiting _ | .assignContext _ => True

def contract (discipline : OperationDiscipline) :
    Contract OperationEffect OperationEffect.Answer :=
  requestsOnly fun history => discipline.AllowsEffect (callsIn history)

def Keeps (discipline : OperationDiscipline) (operation : Operation) : Prop :=
  ∀ context, Meets discipline.contract
    (fun history outcome => discipline.endAllowed (callsIn history) outcome) (operation context) []

/-- Nothing is asked of an operation. -/
def free : OperationDiscipline where
  callAllowed _ _ := True
  endAllowed _ _ := True

end OperationDiscipline

/-- What `execute` may ask after a trace. -/
def EffectAllowed (discipline : OperationDiscipline) (trace : ChainTrace) : ChainEffect → Prop
  | .call asked => ∃ calls, trace.stage = .running calls ∧ discipline.callAllowed calls asked
  | .startOperation _ =>
      trace.cleared ∧ trace.stage.Settled ∧ trace.published.status.isTerminal = false
  | .finishOperation outcome =>
      ∃ calls, trace.stage = .running calls ∧ discipline.endAllowed calls outcome
  | .finishChain => trace.stage.isRunning = false
  | .store snapshot =>
      SnapshotInvariant snapshot ∧ snapshot.revision = trace.published.revision + 1 ∧
        trace.published.status.isTerminal = false ∧ StoreAllowed trace.stage snapshot
  | .notifyStateChanged snapshot =>
      snapshot = trace.published ∧ snapshot.revision = trace.notified + 1
  | .isCancellationConfirmed => trace.published.status.isTerminal = false
  | .isCancellationRequested | .waitForCancellationResolution | .hasCancellationFailed
  | .getCancellationFailure | .clock => True

def executeContract (discipline : OperationDiscipline) (initial : OperationChainSnapshot) :
    Contract ChainEffect ChainEffect.Answer :=
  requestsOnly fun history => EffectAllowed discipline (.of initial history)

/-- How `execute` leaves the chain. -/
structure Concluded (trace : ChainTrace) : Prop where
  terminal : trace.published.status.isTerminal
  invariant : SnapshotInvariant trace.published
  stored : StoreAllowed trace.stage trace.published

def Exits (trace : ChainTrace) : Prop := trace.stage = .refused ∨ Concluded trace

section Stages

variable {stage : OperationStage} {snapshot : OperationChainSnapshot}

theorem OperationStage.Settled.not_running (settled : stage.Settled) :
    stage.isRunning = false := by
  cases stage with
  | running calls => exact settled.elim
  | idle => rfl
  | ended calls outcome resolved confirmed => rfl
  | refused => rfl

theorem StoreAllowed.of_running (running : snapshot.status = .running) :
    StoreAllowed stage snapshot := by
  constructor <;> simp [running]

theorem StoreAllowed.of_failed (failed : snapshot.status = .failed) (fails : stage.Fails) :
    StoreAllowed stage snapshot :=
  ⟨fun _ => fails, by simp [failed], by simp [failed]⟩

theorem StoreAllowed.of_cancelled (cancelled : snapshot.status = .cancelled)
    (cancels : stage.Cancels) : StoreAllowed stage snapshot :=
  ⟨by simp [cancelled], fun _ => .inl cancels, by simp [cancelled]⟩

theorem StoreAllowed.of_between {status : OperationChainStatus} {chain : OperationChain}
    (ended : chain.EndedBetween status) (unfailed : status ≠ .failed) (settled : stage.Settled) :
    StoreAllowed stage chain.snapshot := by
  constructor
  · intro failed
    exact absurd (ended.status.symm.trans failed) unfailed
  · exact fun _ => .inr ⟨settled, ended.uncancelled⟩
  · exact fun _ => settled

end Stages

/-! ## `execute` keeps to it -/

/-- The trace has published and notified what the chain holds. -/
structure InStep (trace : ChainTrace) (chain : OperationChain) : Prop where
  published : trace.published = chain.snapshot
  notified : trace.notified = chain.snapshot.revision

namespace OperationChain

section Rules

variable {discipline : OperationDiscipline} {initial : OperationChainSnapshot}
  {change : Transition} {leads : OperationChain → Prop} {chain : OperationChain}
  {history : ChainHistory} {trace : ChainTrace}

theorem meets_transition
    {post : ChainHistory → Except ServiceFailure OperationChain → Prop}
    (permits : Permits change chain leads) (before : ChainTrace.of initial history = trace)
    (published : trace.published = chain.snapshot)
    (live : chain.snapshot.status.isTerminal = false)
    (storable : ∀ changed, leads changed →
      SnapshotInvariant changed.snapshot ∧ StoreAllowed trace.stage changed.snapshot)
    (next : ∀ later changed, leads changed →
      ChainTrace.of initial later = trace.publish changed.snapshot →
      changed.snapshot.revision = chain.snapshot.revision + 1 → post later (.ok changed)) :
    Meets (executeContract discipline initial) post (transition change chain) history := by
  rcases permits with ⟨update, accepted, leading⟩
  simp only [transition, meets_monad_bind, meets_lift, accepted]
  refine ⟨trivial, fun timePoint _ => ⟨?_, fun _ _ => ?_⟩⟩
  · show EffectAllowed discipline (ChainTrace.of initial history) (.store _)
    rw [before]
    have stored := storable _ (leading timePoint).2
    refine ⟨stored.1, ?_, ?_, stored.2⟩
    · rw [published]
      exact (leading timePoint).1
    · rw [published]
      exact live
  · apply next _ _ (leading timePoint).2 _ (leading timePoint).1
    show ChainTrace.after (ChainTrace.of initial history) _ _ = _
    rw [before]
    rfl

/-- A transition that goes on, with its notification. -/
theorem meets_advance
    {post : ChainHistory → Except ServiceFailure OperationChain → Prop}
    (permits : Permits change chain leads) (before : ChainTrace.of initial history = trace)
    (inStep : InStep trace chain) (live : chain.snapshot.status.isTerminal = false)
    (running : ∀ changed, leads changed →
      SnapshotInvariant changed.snapshot ∧ changed.snapshot.status = .running)
    (next : ∀ later changed, leads changed →
      ChainTrace.of initial later = (trace.publish changed.snapshot).notify →
      InStep ((trace.publish changed.snapshot).notify) changed → post later (.ok changed)) :
    Meets (executeContract discipline initial) post (advance change chain) history := by
  simp only [advance, meets_monad_bind]
  apply meets_transition permits before inStep.published live
  · exact fun changed led => ⟨(running changed led).1, .of_running (running changed led).2⟩
  · intro later changed led after raised
    have notified : trace.notified + 1 = changed.snapshot.revision := by
      rw [inStep.notified, raised]
    refine ⟨?_, fun _ _ => ?_⟩
    · show EffectAllowed discipline (ChainTrace.of initial later) (.notifyStateChanged _)
      rw [after]
      exact ⟨rfl, notified.symm⟩
    · apply next _ changed led
      · show ChainTrace.after (ChainTrace.of initial later) _ _ = _
        rw [after]
        rfl
      · exact ⟨rfl, notified⟩

/-- The last transition. -/
theorem meets_conclude {status : OperationChainStatus}
    {post : ChainHistory → Except ServiceFailure Unit → Prop}
    (permits : Permits change chain leads) (before : ChainTrace.of initial history = trace)
    (inStep : InStep trace chain) (live : chain.snapshot.status.isTerminal = false)
    (idle : trace.stage.isRunning = false) (terminal : status.isTerminal)
    (ended : ∀ changed, leads changed → Ended status changed)
    (storable : ∀ changed, leads changed → StoreAllowed trace.stage changed.snapshot)
    (next : ∀ later, Concluded (ChainTrace.of initial later) → post later (.ok ())) :
    Meets (executeContract discipline initial) post (conclude change chain) history := by
  simp only [conclude, meets_monad_bind]
  apply meets_transition permits before inStep.published live
  · exact fun changed led => ⟨(ended changed led).invariant, storable changed led⟩
  · intro later changed led after raised
    refine ⟨?_, fun _ _ => ⟨?_, fun _ _ => ?_⟩⟩
    · show (ChainTrace.of initial later).stage.isRunning = false
      rw [after]
      exact idle
    · show EffectAllowed discipline (ChainTrace.of initial later) (.notifyStateChanged _)
      rw [after]
      refine ⟨rfl, ?_⟩
      rw [raised]
      exact congrArg (· + 1) inStep.notified.symm
    · apply next
      show Concluded ((ChainTrace.of initial later).notify)
      rw [after]
      refine ⟨?_, (ended changed led).invariant, storable changed led⟩
      show changed.snapshot.status.isTerminal
      rw [(ended changed led).status]
      exact terminal

theorem meets_refused {failure : ServiceFailure}
    {post : ChainHistory → Except ServiceFailure OperationChain → Prop}
    (refused : change chain = .error failure) (thrown : post history (.error failure)) :
    Meets (executeContract discipline initial) post (advance change chain) history := by
  simp only [advance, transition, meets_monad_bind, meets_lift, refused]
  exact thrown

variable {done ahead : ℕ}

/-- An operation runs in its step and leaves the step active, however it ends. -/
theorem meets_run_operation {program : OperationProgram Unit}
    {asked : History OperationEffect OperationEffect.Answer}
    {post : ChainHistory → Except ServiceFailure (Except OperationFailure Unit × OperationChain) →
      Prop}
    (kept : Meets discipline.contract
      (fun later outcome => discipline.endAllowed (callsIn later) outcome) program asked)
    (active : Active done ahead chain) (inStep : InStep (.of initial history) chain)
    (stage : (ChainTrace.of initial history).stage = .running (callsIn asked))
    (next : ∀ later outcome changed calls, Active done ahead changed →
      InStep (.of initial later) changed →
      (ChainTrace.of initial later).stage = .running calls →
      discipline.endAllowed calls outcome → post later (.ok (outcome, changed))) :
    Meets (executeContract discipline initial) post (runOperation done program chain) history := by
  induction program generalizing chain history asked with
  | returned result => exact next _ _ _ _ active inStep stage kept
  | threw failure => exact next _ _ _ _ active inStep stage kept
  | request effect rest ih =>
      cases effect with
      | call called =>
          refine ⟨⟨_, stage, kept.1⟩, fun answer _ => ?_⟩
          have after : (ChainTrace.of initial (⟨.call called, answer⟩ :: history)).stage =
              .running (callsIn (⟨.call called, answer⟩ :: asked)) := by
            show OperationStage.afterCall called answer (ChainTrace.of initial history).stage = _
            rw [stage]
            rfl
          exact ih answer (kept.2 answer trivial) active ⟨inStep.published, inStep.notified⟩ after
      | assignContext context =>
          exact ih () (kept.2 () trivial) (active.assign_context context)
            ⟨inStep.published, inStep.notified⟩ stage
      | reportAwaiting identifiers =>
          rw [runOperation, meets_bind, meets_attempt]
          rcases active.mark_step_awaiting identifiers with ⟨failure, refused⟩ | permits
          · apply meets_refused refused
            exact ih (.error failure) (kept.2 _ trivial) active inStep stage
          · apply meets_advance permits rfl inStep
            case live => simp [active.status, OperationChainStatus.isTerminal]
            case running => exact fun changed led => ⟨led.invariant, led.status⟩
            case next =>
              intro later changed led after inStep
              rw [← after] at inStep
              apply ih (.ok ()) (kept.2 _ trivial) led inStep
              rw [after]
              exact stage

theorem Active.live (active : Active done ahead chain) :
    chain.snapshot.status.isTerminal = false := by
  rw [active.status]
  rfl

theorem Between.live (between : Between done ahead chain) :
    chain.snapshot.status.isTerminal = false := by
  rw [between.status]
  rfl

theorem meets_cancel_step {post : ChainHistory → Except ServiceFailure Unit → Prop}
    (active : Active done ahead chain) (before : ChainTrace.of initial history = trace)
    (inStep : InStep trace chain) (idle : trace.stage.isRunning = false)
    (cancels : trace.stage.Cancels)
    (next : ∀ later, Concluded (ChainTrace.of initial later) → post later (.ok ())) :
    Meets (executeContract discipline initial) post
      (conclude (cancelStepAndExecution done) chain) history :=
  meets_conclude active.cancel_step_and_execution before inStep active.live idle rfl
    (fun _ ended => ended) (fun _ ended => .of_cancelled ended.status cancels) next

theorem meets_fail_step {post : ChainHistory → Except ServiceFailure Unit → Prop}
    {error : String} (active : Active done ahead chain)
    (before : ChainTrace.of initial history = trace) (inStep : InStep trace chain)
    (idle : trace.stage.isRunning = false) (fails : trace.stage.Fails)
    (next : ∀ later, Concluded (ChainTrace.of initial later) → post later (.ok ())) :
    Meets (executeContract discipline initial) post
      (conclude (failExecution done error) chain) history :=
  meets_conclude (active.fail_execution error) before inStep active.live idle rfl
    (fun _ ended => ended) (fun _ ended => .of_failed ended.status fails) next

theorem meets_cancel_between {post : ChainHistory → Except ServiceFailure Unit → Prop}
    (between : Between done (ahead + 1) chain) (before : ChainTrace.of initial history = trace)
    (inStep : InStep trace chain) (settled : trace.stage.Settled)
    (next : ∀ later, Concluded (ChainTrace.of initial later) → post later (.ok ())) :
    Meets (executeContract discipline initial) post
      (conclude cancelExecutionBetweenSteps chain) history :=
  meets_conclude between.cancel_execution_between_steps before inStep between.live
    settled.not_running rfl (fun _ ended => ended.toEnded)
    (fun _ ended => .of_between ended (by decide) settled) next

theorem meets_failure_text {what : String} {post : ChainHistory → Except ServiceFailure String → Prop}
    (before : ChainTrace.of initial history = trace)
    (next : ∀ later error, ChainTrace.of initial later = trace → post later (.ok error)) :
    Meets (executeContract discipline initial) post (failureText what) history := by
  refine ⟨trivial, fun failed _ => ?_⟩
  cases failed with
  | false => exact next _ _ before
  | true => exact ⟨trivial, fun error _ => next _ error before⟩

theorem meets_fail_with_text {what : String} {rest : String → ChainProgram Unit}
    {post : ChainHistory → Except ServiceFailure Unit → Prop}
    (active : Active done ahead chain) (before : ChainTrace.of initial history = trace)
    (inStep : InStep trace chain) (idle : trace.stage.isRunning = false)
    (fails : trace.stage.Fails)
    (next : ∀ later error, Concluded (ChainTrace.of initial later) →
      Meets (executeContract discipline initial) post (rest error) later) :
    Meets (executeContract discipline initial) post
      (do
        let error ← failureText what
        conclude (failExecution done error) chain
        rest error) history := by
  rw [meets_monad_bind]
  apply meets_failure_text before
  intro later error after
  simp only [meets_monad_bind]
  exact meets_fail_step active after inStep idle fails fun last concluded =>
    next last error concluded

/-- The end of a catch branch that asks whether the cancellation was confirmed. -/
theorem meets_unless_confirmed {failure : ServiceFailure} {calls : CallHistory} {resolved : Bool}
    {rest : ChainProgram Unit} {post : ChainHistory → Except ServiceFailure Unit → Prop}
    (active : Active done ahead chain) (before : ChainTrace.of initial history = trace)
    (inStep : InStep trace chain)
    (stage : trace.stage = .ended calls (.error (.thrown failure)) resolved none)
    (awaited : OperationStage.IsAwaited failure resolved)
    (cancelled : ∀ later, Concluded (ChainTrace.of initial later) → post later (.ok ()))
    (unconfirmed : ∀ later unconfirmed, ChainTrace.of initial later = unconfirmed →
      InStep unconfirmed chain → unconfirmed.stage.isRunning = false → unconfirmed.stage.Fails →
      Meets (executeContract discipline initial) post rest later) :
    Meets (executeContract discipline initial) post
      (do
        if ← isCancellationConfirmed then conclude (cancelStepAndExecution done) chain
        else rest) history := by
  refine ⟨?_, fun confirmed _ => ?_⟩
  · show (ChainTrace.of initial history).published.status.isTerminal = false
    rw [before, inStep.published]
    exact active.live
  have after : ChainTrace.of initial (⟨.isCancellationConfirmed, confirmed⟩ :: history) =
      trace.withStage (.ended calls (.error (.thrown failure)) resolved (some confirmed)) := by
    show ChainTrace.after (ChainTrace.of initial history) _ _ = _
    rw [before, ChainTrace.after, stage]
    rfl
  cases confirmed with
  | true =>
      apply meets_cancel_step active after ⟨inStep.published, inStep.notified⟩ rfl
      · exact ⟨rfl, awaited⟩
      · exact cancelled
  | false =>
      apply unconfirmed _ _ after ⟨inStep.published, inStep.notified⟩ rfl
      exact ⟨.inr rfl, awaited⟩

/-- Each catch branch ends the chain as its failure demands. -/
theorem meets_catch_failure {failure : OperationFailure} {calls : CallHistory}
    (active : Active done ahead chain) (before : ChainTrace.of initial history = trace)
    (inStep : InStep trace chain)
    (stage : trace.stage = .ended calls (.error failure) false none) :
    Meets (executeContract discipline initial) (fun later _ => Exits (.of initial later))
      (catchFailure done chain failure) history := by
  cases failure with
  | cancellationRequested what =>
      apply meets_cancel_step active before inStep
      case idle => rw [stage]; rfl
      case cancels => rw [stage]; trivial
      case next => exact fun later concluded => .inr concluded
  | thrown failure =>
      cases failure with
      | nonStandard =>
          rw [catchFailure, meets_monad_bind]
          apply meets_fail_step active before inStep
          case idle => rw [stage]; rfl
          case fails =>
            rw [stage]
            exact ⟨.inl rfl, fun _ same => ServiceFailure.noConfusion same⟩
          case next => exact fun later concluded => .inr concluded
      | interrupted what =>
          apply meets_unless_confirmed active before inStep stage
          case awaited => exact fun _ same => ServiceFailure.noConfusion same
          case cancelled => exact fun later concluded => .inr concluded
          case unconfirmed =>
            intro later unconfirmed after inStep idle fails
            apply meets_fail_with_text active after inStep idle fails
            exact fun later error concluded => .inr concluded
      | runtime what =>
          refine ⟨trivial, fun _ _ => ?_⟩
          have resolved : ChainTrace.of initial (⟨.waitForCancellationResolution, ()⟩ :: history) =
              trace.withStage
                (.ended calls (.error (.thrown (.runtime what))) true none) := by
            show ChainTrace.after (ChainTrace.of initial history) _ _ = _
            rw [before, ChainTrace.after, stage]
            rfl
          apply meets_unless_confirmed active resolved ⟨inStep.published, inStep.notified⟩ rfl
          case awaited => exact fun _ _ => rfl
          case cancelled => exact fun later concluded => .inr concluded
          case unconfirmed =>
            intro later unconfirmed after inStep idle fails
            apply meets_fail_with_text active after inStep idle fails
            intro later error concluded
            refine ⟨trivial, fun failed _ => ?_⟩
            cases failed with
            | false => exact .inr concluded
            | true => exact .inr concluded

theorem meets_perform_step {operation : Operation}
    {post : ChainHistory → Except ServiceFailure (Except OperationFailure Unit × OperationChain) →
      Prop}
    (keeps : discipline.Keeps operation) (between : Between done (ahead + 1) chain)
    (before : ChainTrace.of initial history = trace) (inStep : InStep trace chain)
    (settled : trace.stage.Settled) (cleared : trace.cleared)
    (next : ∀ later outcome changed calls, Active done ahead changed →
      InStep (.of initial later) changed →
      (ChainTrace.of initial later).stage = .ended calls outcome false none →
      post later (.ok (outcome, changed)))
    (refused : ∀ later failure, (ChainTrace.of initial later).stage = .refused →
      post later (.error failure)) :
    Meets (executeContract discipline initial) post (performStep operation done chain) history := by
  simp only [performStep, meets_monad_bind]
  apply meets_advance between.start_step before inStep between.live
  case running => exact fun changed active => ⟨active.invariant, active.status⟩
  case next =>
    intro later changed active after inStep
    refine ⟨?_, fun started _ => ?_⟩
    · show EffectAllowed discipline (ChainTrace.of initial later)
        (.startOperation (changed.canRegisterAction done))
      rw [after]
      exact ⟨cleared, settled, active.live⟩
    · rw [← after] at inStep
      cases started with
      | error failure => exact refused _ failure rfl
      | ok started =>
          simp only [meets_of_except]
          apply meets_run_operation (keeps changed.context) active
          case inStep => exact ⟨inStep.published, inStep.notified⟩
          case stage => rfl
          case next =>
            intro later outcome changed calls active inStep stage kept
            refine ⟨⟨calls, stage, kept⟩, fun _ _ => ?_⟩
            have ended : (ChainTrace.of initial (⟨.finishOperation outcome, ()⟩ :: later)).stage =
                .ended calls outcome false none := by
              show OperationStage.ended (ChainTrace.of initial later).stage.calls _ _ _ = _
              rw [stage]
              rfl
            exact next _ outcome changed calls active ⟨inStep.published, inStep.notified⟩ ended

theorem meets_execute_steps {operations : List Operation}
    (kept : ∀ operation ∈ operations, discipline.Keeps operation)
    (between : Between done operations.length chain)
    (before : ChainTrace.of initial history = trace) (inStep : InStep trace chain)
    (settled : trace.stage.Settled) :
    Meets (executeContract discipline initial) (fun later _ => Exits (.of initial later))
      (executeSteps operations done chain) history := by
  induction operations generalizing done chain history trace with
  | nil =>
      apply meets_conclude between.finish_execution before inStep between.live
        settled.not_running rfl (fun _ ended => ended.toEnded)
        (fun _ ended => .of_between ended (by decide) settled)
      exact fun later concluded => .inr concluded
  | cons operation remaining ih =>
      refine ⟨trivial, fun requested _ => ?_⟩
      have polled : ChainTrace.of initial (⟨.isCancellationRequested, requested⟩ :: history) =
          { trace with cleared := !requested } := by
        show ChainTrace.after (ChainTrace.of initial history) _ _ = _
        rw [before]
        rfl
      cases requested with
      | true =>
          apply meets_cancel_between between polled ⟨inStep.published, inStep.notified⟩ settled
          exact fun later concluded => .inr concluded
      | false =>
          simp only [Interaction.bind, Bool.false_eq_true, if_false, meets_monad_bind]
          apply meets_perform_step (kept operation List.mem_cons_self) between polled
            ⟨inStep.published, inStep.notified⟩ settled rfl
          case refused => exact fun later failure stage => .inl stage
          case next =>
            intro later outcome changed calls active inStep stage
            cases outcome with
            | error failure => exact meets_catch_failure active rfl inStep stage
            | ok succeeded =>
                simp only [meets_monad_bind]
                apply meets_advance active.finish_step rfl inStep active.live
                case running => exact fun changed between => ⟨between.invariant, between.status⟩
                case next =>
                  intro last changed between after inStep
                  have settled : (ChainTrace.of initial last).stage.Settled := by
                    rw [after]
                    show (ChainTrace.of initial later).stage.Settled
                    rw [stage]
                    trivial
                  rw [← after] at inStep
                  refine ⟨trivial, fun requested _ => ?_⟩
                  show Meets _ _ (if (requested && !remaining.isEmpty) = true then _ else _) _
                  by_cases stops : (requested && !remaining.isEmpty) = true
                  · rw [if_pos stops]
                    cases remaining with
                    | nil => simp at stops
                    | cons following remaining =>
                        apply meets_cancel_between between rfl
                        case inStep => exact ⟨inStep.published, inStep.notified⟩
                        case settled => exact settled
                        case next => exact fun later concluded => .inr concluded
                  · rw [if_neg stops]
                    apply ih (fun later member => kept later (List.mem_cons_of_mem _ member))
                      between rfl
                    case inStep => exact ⟨inStep.published, inStep.notified⟩
                    case settled => exact settled

/-- Whatever is answered, `execute` keeps to the discipline. -/
theorem meets_execute (unstarted : Unstarted chain)
    (count : chain.operations.length = chain.snapshot.steps.length)
    (fresh : chain.snapshot.revision = 0)
    (kept : ∀ operation ∈ chain.operations, discipline.Keeps operation) :
    Meets (executeContract discipline chain.snapshot)
      (fun later _ => Exits (.of chain.snapshot later)) (execute chain) [] := by
  have live : chain.snapshot.status.isTerminal = false := by
    rw [unstarted.status]
    rfl
  refine ⟨trivial, fun requested _ => ?_⟩
  cases requested with
  | true =>
      apply meets_conclude unstarted.cancel_pending_execution rfl
      case inStep => exact ⟨rfl, fresh.symm⟩
      case live => exact live
      case idle => rfl
      case ended => exact fun _ ended => ended.toEnded
      case terminal => rfl
      case storable => exact fun _ ended => .of_between ended (by decide) trivial
      case next => exact fun later concluded => .inr concluded
  | false =>
      simp only [Interaction.bind, Bool.false_eq_true, if_false, meets_monad_bind]
      apply meets_advance unstarted.start_execution.keeps_operations rfl
      case inStep => exact ⟨rfl, fresh.symm⟩
      case live => exact live
      case running => exact fun changed led => ⟨led.1.invariant, led.1.status⟩
      case next =>
        intro later changed led after inStep
        have settled : (ChainTrace.of chain.snapshot later).stage.Settled := by
          rw [after]
          trivial
        have between := led.1
        rw [← count, ← led.2] at between
        rw [← after] at inStep
        rw [← led.2] at kept
        exact meets_execute_steps kept between rfl inStep settled

end Rules

end OperationChain

end CryptoDeal
