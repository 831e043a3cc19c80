import CryptoDeal.OperationChain.OperationChain

/-!
# The snapshot invariant

What an observer may rely on in every snapshot of a chain, and where each
transition leads: the chain is `Between` two steps or one step is `Active`, and
a transition of `execute` moves from one such place to the next or ends the
chain.
-/

namespace CryptoDeal

open DealService

/-- Each started step took its input from the output of the step before it. -/
def ContextsChained : Option OperationContextSnapshot → List OperationStepSnapshot → Prop
  | _, [] => True
  | context, step :: remaining =>
      (step.status = .pending ∨ step.inputContext = context) ∧
        ContextsChained step.outputContext remaining

def lastOutput : Option OperationContextSnapshot → List OperationStepSnapshot →
    Option OperationContextSnapshot
  | context, [] => context
  | _, step :: remaining => lastOutput step.outputContext remaining

def OperationStepStatus.IsCurrent (status : OperationStepStatus) : Prop :=
  status = .running ∨ status = .awaiting ∨ status = .failed ∨ status = .cancelled

structure SnapshotInvariant (snapshot : OperationChainSnapshot) : Prop where
  steps_ordered : ∃ (succeeded : List OperationStepSnapshot)
      (current : Option OperationStepSnapshot) (pending : List OperationStepSnapshot),
    snapshot.steps = succeeded ++ current.toList ++ pending ∧
      (∀ step ∈ succeeded, step.status = .succeeded) ∧
      (∀ step ∈ current, step.status.IsCurrent) ∧ ∀ step ∈ pending, step.status = .pending
  pending_unstarted : snapshot.status = .pending →
    ∀ step ∈ snapshot.steps, step.status = .pending ∧ step.startedAt = none
  completed_iff : snapshot.status = .completed ↔
    (∀ step ∈ snapshot.steps, step.status = .succeeded) ∧ snapshot.finishedAt.isSome
  failed_iff : snapshot.status = .failed ↔
    (snapshot.steps.filter fun step => step.status = .failed).length = 1
  failed_error : snapshot.status = .failed →
    ∀ step ∈ snapshot.steps, step.status = .failed → step.error = snapshot.error
  cancelled_steps : snapshot.status = .cancelled →
    (∃ step ∈ snapshot.steps, step.status ≠ .succeeded) ∧
      ∀ step ∈ snapshot.steps,
        step.status ≠ .failed ∧ step.status ≠ .running ∧ step.status ≠ .awaiting
  cancelled_of_step : ∀ step ∈ snapshot.steps, step.status = .cancelled →
    snapshot.status = .cancelled
  terminal_index : snapshot.status.isTerminal → snapshot.currentStepIndex = none
  contexts_chained : ContextsChained (some snapshot.initialContext) snapshot.steps

section Contexts

variable {context : Option OperationContextSnapshot}

@[simp] theorem contexts_chained_append {first second : List OperationStepSnapshot} :
    ContextsChained context (first ++ second) ↔
      ContextsChained context first ∧ ContextsChained (lastOutput context first) second := by
  induction first generalizing context with
  | nil => simp [ContextsChained, lastOutput]
  | cons step remaining ih =>
      simp only [List.cons_append, ContextsChained, lastOutput, ih, and_assoc]

@[simp] theorem last_output_append {first second : List OperationStepSnapshot} :
    lastOutput context (first ++ second) = lastOutput (lastOutput context first) second := by
  induction first generalizing context with
  | nil => rfl
  | cons step remaining ih => exact ih

theorem contexts_chained_of_pending {steps : List OperationStepSnapshot}
    (pending : ∀ step ∈ steps, step.status = .pending) : ContextsChained context steps := by
  induction steps generalizing context with
  | nil => trivial
  | cons step remaining ih =>
      exact ⟨.inl (pending step List.mem_cons_self),
        ih fun later member => pending later (List.mem_cons_of_mem _ member)⟩

end Contexts

/-! ## Layouts -/

/-- The steps of a snapshot, read as done, under way and still to come. -/
structure Layout (snapshot : OperationChainSnapshot) (succeeded : List OperationStepSnapshot)
    (current : Option OperationStepSnapshot) (pending : List OperationStepSnapshot) : Prop where
  steps : snapshot.steps = succeeded ++ current.toList ++ pending
  succeeded_all : ∀ step ∈ succeeded, step.status = .succeeded
  pending_all : ∀ step ∈ pending, step.status = .pending ∧ step.startedAt = none
  contexts : ContextsChained (some snapshot.initialContext) succeeded
  current_input : ∀ step ∈ current,
    step.inputContext = lastOutput (some snapshot.initialContext) succeeded

/-- What the chain status says of the step under way and of the steps still to come. -/
def StatusFits (snapshot : OperationChainSnapshot) (succeeded : List OperationStepSnapshot)
    (current : Option OperationStepSnapshot) (pending : List OperationStepSnapshot) :
    OperationChainStatus → Prop
  | .pending => succeeded = [] ∧ current = none ∧ snapshot.finishedAt = none
  | .running => snapshot.finishedAt = none ∧
      ∀ step ∈ current, step.status = .running ∨ step.status = .awaiting
  | .completed => current = none ∧ pending = [] ∧ snapshot.finishedAt.isSome ∧
      snapshot.currentStepIndex = none
  | .failed => snapshot.currentStepIndex = none ∧
      ∃ step, current = some step ∧ step.status = .failed ∧ step.error = snapshot.error
  | .cancelled => snapshot.currentStepIndex = none ∧
      (∀ step ∈ current, step.status = .cancelled) ∧ (current = none → pending ≠ [])

/-- A snapshot that its status fits. -/
structure WellFormed (snapshot : OperationChainSnapshot) (succeeded : List OperationStepSnapshot)
    (current : Option OperationStepSnapshot) (pending : List OperationStepSnapshot) : Prop
    extends Layout snapshot succeeded current pending where
  fits : StatusFits snapshot succeeded current pending snapshot.status

section Layout

variable {snapshot changed : OperationChainSnapshot}
  {succeeded pending : List OperationStepSnapshot} {current : Option OperationStepSnapshot}
  {step : OperationStepSnapshot}

theorem Layout.place (layout : Layout snapshot succeeded current pending)
    (member : step ∈ snapshot.steps) :
    step ∈ succeeded ∧ step.status = .succeeded ∨ current = some step ∨
      step ∈ pending ∧ step.status = .pending ∧ step.startedAt = none := by
  rw [layout.steps, List.append_assoc, List.mem_append, List.mem_append,
    Option.mem_toList] at member
  rcases member with before | now | after
  · exact .inl ⟨before, layout.succeeded_all step before⟩
  · exact .inr (.inl now)
  · exact .inr (.inr ⟨after, layout.pending_all step after⟩)

theorem Layout.current_mem (layout : Layout snapshot succeeded (some step) pending) :
    step ∈ snapshot.steps := by
  rw [layout.steps]
  simp

theorem Layout.chained (layout : Layout snapshot succeeded current pending) :
    ContextsChained (some snapshot.initialContext) snapshot.steps := by
  have ahead : ∀ context, ContextsChained context pending := fun _ =>
    contexts_chained_of_pending fun step member => (layout.pending_all step member).1
  rw [layout.steps, List.append_assoc, contexts_chained_append]
  refine ⟨layout.contexts, ?_⟩
  cases current with
  | none => exact ahead _
  | some step => exact ⟨.inr (layout.current_input step rfl), ahead _⟩

theorem Layout.failed_length (layout : Layout snapshot succeeded current pending) :
    (snapshot.steps.filter fun step => step.status = .failed).length =
      (current.toList.filter fun step => step.status = .failed).length := by
  have done : (succeeded.filter fun step => step.status = .failed) = [] := by
    rw [List.filter_eq_nil_iff]
    intro step member
    simp [layout.succeeded_all step member]
  have ahead : (pending.filter fun step => step.status = .failed) = [] := by
    rw [List.filter_eq_nil_iff]
    intro step member
    simp [(layout.pending_all step member).1]
  rw [layout.steps, List.filter_append, List.filter_append, done, ahead, List.append_nil,
    List.nil_append]

/-! Steps of a layout change one at a time, at the boundary. -/

theorem Layout.start (layout : Layout snapshot succeeded none (step :: pending))
    {started : OperationStepSnapshot}
    (steps : changed.steps = snapshot.steps.set succeeded.length started)
    (context : changed.initialContext = snapshot.initialContext)
    (input : started.inputContext = lastOutput (some snapshot.initialContext) succeeded) :
    Layout changed succeeded (some started) pending where
  steps := by simp [steps, layout.steps]
  succeeded_all := layout.succeeded_all
  pending_all later member := layout.pending_all later (List.mem_cons_of_mem _ member)
  contexts := by simpa only [context] using layout.contexts
  current_input := by
    intro now same
    cases same
    rw [context, input]

theorem Layout.update (layout : Layout snapshot succeeded (some step) pending)
    {updated : OperationStepSnapshot}
    (steps : changed.steps = snapshot.steps.set succeeded.length updated)
    (context : changed.initialContext = snapshot.initialContext)
    (input : updated.inputContext = step.inputContext) :
    Layout changed succeeded (some updated) pending where
  steps := by simp [steps, layout.steps]
  succeeded_all := layout.succeeded_all
  pending_all := layout.pending_all
  contexts := by simpa only [context] using layout.contexts
  current_input := by
    intro now same
    cases same
    rw [context, input]
    exact layout.current_input step rfl

theorem Layout.finish (layout : Layout snapshot succeeded (some step) pending)
    {finished : OperationStepSnapshot}
    (steps : changed.steps = snapshot.steps.set succeeded.length finished)
    (context : changed.initialContext = snapshot.initialContext)
    (input : finished.inputContext = step.inputContext)
    (succeeds : finished.status = .succeeded) :
    Layout changed (succeeded ++ [finished]) none pending := by
  have updated := layout.update steps context input
  constructor
  case steps => simpa using updated.steps
  case succeeded_all =>
    intro done member
    rcases List.mem_append.1 member with before | last
    · exact layout.succeeded_all done before
    · rw [List.mem_singleton.1 last]
      exact succeeds
  case pending_all => exact layout.pending_all
  case contexts =>
    exact contexts_chained_append.2
      ⟨updated.contexts, .inr (updated.current_input finished rfl), trivial⟩
  case current_input => simp

theorem Layout.same (layout : Layout snapshot succeeded current pending)
    (steps : changed.steps = snapshot.steps)
    (context : changed.initialContext = snapshot.initialContext) :
    Layout changed succeeded current pending where
  steps := steps.trans layout.steps
  succeeded_all := layout.succeeded_all
  pending_all := layout.pending_all
  contexts := by simpa only [context] using layout.contexts
  current_input := by simpa only [context] using layout.current_input

/-- The step under way has a status that the chain status allows. -/
theorem WellFormed.current_status (formed : WellFormed snapshot succeeded (some step) pending) :
    snapshot.status = .running ∧ (step.status = .running ∨ step.status = .awaiting) ∨
      snapshot.status = .failed ∧ step.status = .failed ∧ step.error = snapshot.error ∨
      snapshot.status = .cancelled ∧ step.status = .cancelled := by
  have fits := formed.fits
  cases status : snapshot.status with
  | pending => simp [status, StatusFits] at fits
  | running =>
      rw [status] at fits
      exact .inl ⟨rfl, fits.2 step rfl⟩
  | completed => simp [status, StatusFits] at fits
  | failed =>
      rw [status] at fits
      rcases fits.2 with ⟨_, same, failed⟩
      cases same
      exact .inr (.inl ⟨rfl, failed⟩)
  | cancelled =>
      rw [status] at fits
      exact .inr (.inr ⟨rfl, fits.2.1 step rfl⟩)

theorem WellFormed.cancelled_unsucceeded (formed : WellFormed snapshot succeeded current pending)
    (cancelled : snapshot.status = .cancelled) :
    ∃ step ∈ snapshot.steps, step.status ≠ .succeeded := by
  have fits := formed.fits
  rw [cancelled] at fits
  cases current with
  | some step =>
      have here := fits.2.1 step rfl
      exact ⟨step, formed.current_mem, by simp [here]⟩
  | none =>
      rcases List.exists_mem_of_ne_nil _ (fits.2.2 rfl) with ⟨step, member⟩
      have ahead := (formed.pending_all step member).1
      exact ⟨step, by simp [formed.steps, member], by simp [ahead]⟩

theorem WellFormed.invariant (formed : WellFormed snapshot succeeded current pending) :
    SnapshotInvariant snapshot where
  steps_ordered := by
    refine ⟨succeeded, current, pending, formed.steps, formed.succeeded_all, ?_,
      fun step member => (formed.pending_all step member).1⟩
    intro step now
    cases now
    rcases formed.current_status with ⟨_, here | here⟩ | ⟨_, here, _⟩ | ⟨_, here⟩ <;>
      simp [OperationStepStatus.IsCurrent, here]
  pending_unstarted := by
    intro unstarted step member
    have fits := formed.fits
    rw [unstarted] at fits
    rcases formed.place member with ⟨before, _⟩ | now | ⟨_, ahead⟩
    · simp [fits.1] at before
    · simp [fits.2.1] at now
    · exact ahead
  completed_iff := by
    constructor
    · intro completed
      have fits := formed.fits
      rw [completed] at fits
      refine ⟨fun step member => ?_, fits.2.2.1⟩
      rcases formed.place member with ⟨_, done⟩ | now | ⟨after, _⟩
      · exact done
      · simp [fits.1] at now
      · simp [fits.2.1] at after
    · intro ⟨done, finished⟩
      have fits := formed.fits
      cases status : snapshot.status with
      | completed => rfl
      | pending =>
          rw [status] at fits
          simp [fits.2.2] at finished
      | running =>
          rw [status] at fits
          simp [fits.1] at finished
      | failed =>
          rw [status] at fits
          rcases fits.2 with ⟨step, rfl, failed, _⟩
          simp [done step formed.current_mem] at failed
      | cancelled =>
          rcases formed.cancelled_unsucceeded status with ⟨step, member, unsucceeded⟩
          exact absurd (done step member) unsucceeded
  failed_iff := by
    rw [formed.failed_length]
    cases current with
    | none =>
        have fits := formed.fits
        constructor
        · intro failed
          simp [failed, StatusFits] at fits
        · simp
    | some step =>
        rcases formed.current_status with ⟨status, here | here⟩ | ⟨status, here, _⟩ | ⟨status, here⟩
          <;> simp [status, here]
  failed_error := by
    intro failed step member same
    rcases formed.place member with ⟨_, done⟩ | now | ⟨_, ahead, _⟩
    · simp [done] at same
    · subst now
      rcases formed.current_status with ⟨status, _⟩ | ⟨_, _, error⟩ | ⟨status, _⟩
      · simp [status] at failed
      · exact error
      · simp [status] at failed
    · simp [ahead] at same
  cancelled_steps := by
    intro cancelled
    refine ⟨formed.cancelled_unsucceeded cancelled, fun step member => ?_⟩
    rcases formed.place member with ⟨_, done⟩ | now | ⟨_, ahead, _⟩
    · simp [done]
    · subst now
      rcases formed.current_status with ⟨status, _⟩ | ⟨status, _⟩ | ⟨_, here⟩
      · simp [status] at cancelled
      · simp [status] at cancelled
      · simp [here]
    · simp [ahead]
  cancelled_of_step := by
    intro step member same
    rcases formed.place member with ⟨_, done⟩ | now | ⟨_, ahead, _⟩
    · simp [done] at same
    · subst now
      rcases formed.current_status with ⟨_, here | here⟩ | ⟨_, here, _⟩ | ⟨status, _⟩
      · simp [here] at same
      · simp [here] at same
      · simp [here] at same
      · exact status
    · simp [ahead] at same
  terminal_index := by
    intro terminal
    have fits := formed.fits
    cases status : snapshot.status with
    | pending => simp [status, OperationChainStatus.isTerminal] at terminal
    | running => simp [status, OperationChainStatus.isTerminal] at terminal
    | completed =>
        rw [status] at fits
        exact fits.2.2.2
    | failed =>
        rw [status] at fits
        exact fits.1
    | cancelled =>
        rw [status] at fits
        exact fits.1
  contexts_chained := formed.chained

end Layout

/-! ## Places of an execution -/

namespace OperationChain

structure Unstarted (chain : OperationChain) : Prop where
  status : chain.snapshot.status = .pending
  unfinished : chain.snapshot.finishedAt = none
  layout : Layout chain.snapshot [] none chain.snapshot.steps
  nonempty : chain.snapshot.steps ≠ []
  context : chain.snapshot.initialContext = createContextSnapshot chain.context

/-- So many steps have succeeded, so many are still pending, and none is under way. -/
structure Between (done ahead : ℕ) (chain : OperationChain) : Prop where
  status : chain.snapshot.status = .running
  unfinished : chain.snapshot.finishedAt = none
  layout : ∃ succeeded pending, Layout chain.snapshot succeeded none pending ∧
    succeeded.length = done ∧ pending.length = ahead ∧
    lastOutput (some chain.snapshot.initialContext) succeeded =
      some (createContextSnapshot chain.context)

/-- The step after so many others is under way. -/
structure Active (done ahead : ℕ) (chain : OperationChain) : Prop where
  status : chain.snapshot.status = .running
  unfinished : chain.snapshot.finishedAt = none
  index : chain.snapshot.currentStepIndex = some done
  layout : ∃ succeeded step pending, Layout chain.snapshot succeeded (some step) pending ∧
    succeeded.length = done ∧ pending.length = ahead ∧
    (step.status = .running ∨ step.status = .awaiting)

structure Ended (status : OperationChainStatus) (chain : OperationChain) : Prop where
  status : chain.snapshot.status = status
  formed : ∃ succeeded current pending, WellFormed chain.snapshot succeeded current pending

/-- Ended with no operation under way. -/
structure EndedBetween (status : OperationChainStatus) (chain : OperationChain) : Prop
    extends Ended status chain where
  uncancelled : ∀ step ∈ chain.snapshot.steps, step.status ≠ .cancelled

variable {chain : OperationChain} {done ahead : ℕ}

theorem Unstarted.invariant (unstarted : Unstarted chain) : SnapshotInvariant chain.snapshot := by
  apply WellFormed.invariant ⟨unstarted.layout, _⟩
  rw [unstarted.status]
  exact ⟨rfl, rfl, unstarted.unfinished⟩

theorem Between.invariant (between : Between done ahead chain) :
    SnapshotInvariant chain.snapshot := by
  rcases between.layout with ⟨_, _, layout, _⟩
  apply WellFormed.invariant ⟨layout, _⟩
  rw [between.status]
  exact ⟨between.unfinished, by simp⟩

theorem Active.invariant (active : Active done ahead chain) :
    SnapshotInvariant chain.snapshot := by
  rcases active.layout with ⟨_, step, _, layout, _, _, here⟩
  apply WellFormed.invariant ⟨layout, _⟩
  rw [active.status]
  exact ⟨active.unfinished, by simpa using here⟩

theorem Ended.invariant {status : OperationChainStatus} (ended : Ended status chain) :
    SnapshotInvariant chain.snapshot := by
  rcases ended.formed with ⟨_, _, _, formed⟩
  exact formed.invariant

theorem Active.assign_context (active : Active done ahead chain) (context : OperationContext) :
    Active done ahead { chain with context } :=
  ⟨active.status, active.unfinished, active.index, active.layout⟩

/-! ## Where the transitions lead -/

/-- The transition is not refused, and whenever it happens it leads there. -/
def Permits (change : Transition) (chain : OperationChain) (leads : OperationChain → Prop) : Prop :=
  ∃ update, change chain = .ok update ∧ ∀ timePoint,
    (update timePoint).revision = chain.snapshot.revision + 1 ∧
      leads { chain with snapshot := update timePoint }

theorem Permits.intro {change : Transition} {leads : OperationChain → Prop}
    {update : OperationChainTimePoint → OperationChainSnapshot} (accepted : change chain = .ok update)
    (raises : ∀ timePoint, (update timePoint).revision = chain.snapshot.revision + 1)
    (leading : ∀ timePoint, leads { chain with snapshot := update timePoint }) :
    Permits change chain leads :=
  ⟨update, accepted, fun timePoint => ⟨raises timePoint, leading timePoint⟩⟩

theorem Permits.keeps_operations {change : Transition} {leads : OperationChain → Prop}
    (permits : Permits change chain leads) :
    Permits change chain fun changed => leads changed ∧ changed.operations = chain.operations := by
  rcases permits with ⟨update, accepted, leading⟩
  exact Permits.intro accepted (fun timePoint => (leading timePoint).1)
    fun timePoint => ⟨(leading timePoint).2, rfl⟩

theorem throw_if_bind {Value : Type} {condition : Prop} [Decidable condition] {message : String}
    {next : Unit → Except ServiceFailure Value} (fine : ¬ condition) :
    (throwIf condition message >>= next) = next () := by
  rw [throw_if_ok.2 fine]
  rfl

theorem step_at_bind {Value : Type} {snapshot : OperationChainSnapshot}
    {succeeded pending : List OperationStepSnapshot} {step : OperationStepSnapshot}
    {message : String} {next : OperationStepSnapshot → Except ServiceFailure Value}
    (steps : snapshot.steps = succeeded ++ step :: pending) :
    (stepAt snapshot succeeded.length message >>= next) = next step := by
  simp [stepAt, steps, bind, Except.bind]

theorem Unstarted.start_execution (unstarted : Unstarted chain) :
    Permits startExecution chain (Between 0 chain.snapshot.steps.length) := by
  apply Permits.intro
  · exact throw_if_bind (not_not.2 unstarted.status)
  · exact fun _ => rfl
  · intro timePoint
    exact ⟨rfl, unstarted.unfinished, [], chain.snapshot.steps, unstarted.layout.same rfl rfl, rfl,
      rfl, congrArg some unstarted.context⟩

theorem Unstarted.cancel_pending_execution (unstarted : Unstarted chain) :
    Permits cancelPendingExecution chain (EndedBetween .cancelled) := by
  apply Permits.intro
  · exact throw_if_bind (not_not.2 unstarted.status)
  · exact fun _ => rfl
  · intro timePoint
    refine ⟨⟨rfl, [], none, chain.snapshot.steps, unstarted.layout.same rfl rfl, ?_⟩, ?_⟩
    · exact ⟨rfl, by simp, fun _ => unstarted.nonempty⟩
    · intro step member
      simp [(unstarted.layout.pending_all step member).1]

theorem Between.start_step (between : Between done (ahead + 1) chain) :
    Permits (startStep done) chain (Active done ahead) := by
  rcases between.layout with ⟨succeeded, pending, layout, rfl, length, output⟩
  cases pending with
  | nil => simp at length
  | cons step pending =>
      have steps : chain.snapshot.steps = succeeded ++ step :: pending := by
        simpa using layout.steps
      have ahead := layout.pending_all step List.mem_cons_self
      apply Permits.intro
      · apply (throw_if_bind (not_not.2 between.status)).trans
        apply (step_at_bind steps).trans
        exact throw_if_bind (not_not.2 ahead.1)
      · exact fun _ => rfl
      · intro timePoint
        exact ⟨between.status, between.unfinished, rfl, succeeded, _, pending,
          layout.start rfl rfl output.symm, rfl, by simpa using length, .inl rfl⟩

theorem Between.uncancelled (between : Between done ahead chain) :
    ∀ step ∈ chain.snapshot.steps, step.status ≠ .cancelled := by
  intro step member same
  have cancelled := between.invariant.cancelled_of_step step member same
  rw [between.status] at cancelled
  cases cancelled

theorem Between.finish_execution (between : Between done 0 chain) :
    Permits finishExecution chain (EndedBetween .completed) := by
  rcases between.layout with ⟨succeeded, pending, layout, _, length, _⟩
  apply Permits.intro
  · exact throw_if_bind (not_not.2 between.status)
  · exact fun _ => rfl
  · intro timePoint
    refine ⟨⟨rfl, succeeded, none, pending, layout.same rfl rfl, ?_⟩, between.uncancelled⟩
    exact ⟨rfl, List.eq_nil_of_length_eq_zero length, rfl, rfl⟩

theorem Between.cancel_execution_between_steps (between : Between done (ahead + 1) chain) :
    Permits cancelExecutionBetweenSteps chain (EndedBetween .cancelled) := by
  rcases between.layout with ⟨succeeded, pending, layout, _, length, _⟩
  apply Permits.intro
  · exact throw_if_bind (not_not.2 between.status)
  · exact fun _ => rfl
  · intro timePoint
    refine ⟨⟨rfl, succeeded, none, pending, layout.same rfl rfl, ?_⟩, between.uncancelled⟩
    refine ⟨rfl, by simp, fun _ => ?_⟩
    exact List.ne_nil_of_length_eq_add_one length

/-- A second report of an operation is refused; the first one leaves its step active. -/
theorem Active.mark_step_awaiting (active : Active done ahead chain)
    (identifiers : OperationAcceptedIdentifiers) :
    (∃ failure, markStepAwaiting done identifiers chain = .error failure) ∨
      Permits (markStepAwaiting done identifiers) chain (Active done ahead) := by
  rcases active.layout with ⟨succeeded, step, pending, layout, rfl, length, here⟩
  have steps : chain.snapshot.steps = succeeded ++ step :: pending := by
    simpa using layout.steps
  have reaches : markStepAwaiting succeeded.length identifiers chain =
      (throwIf (step.status ≠ .running) "Operation-chain step is not running" >>= fun _ =>
        .ok fun timePoint => updateSnapshotTime { chain.snapshot with
          steps := chain.snapshot.steps.set succeeded.length { step with
            status := .awaiting
            acceptedIdentifiers := identifiers } } timePoint) := by
    apply (throw_if_bind (not_not.2 active.status)).trans
    apply (throw_if_bind (not_not.2 active.index)).trans
    exact step_at_bind steps
  rcases here with running | awaiting
  · right
    apply Permits.intro
    · exact reaches.trans (throw_if_bind (not_not.2 running))
    · exact fun _ => rfl
    · intro timePoint
      exact ⟨active.status, active.unfinished, active.index, succeeded, _, pending,
        layout.update rfl rfl rfl, rfl, length, .inr rfl⟩
  · left
    refine ⟨.runtime "Operation-chain step is not running", reaches.trans ?_⟩
    simp [throwIf, awaiting, bind, Except.bind]

theorem Active.finish_step (active : Active done ahead chain) :
    Permits (finishStep done) chain (Between (done + 1) ahead) := by
  rcases active.layout with ⟨succeeded, step, pending, layout, rfl, length, here⟩
  have steps : chain.snapshot.steps = succeeded ++ step :: pending := by
    simpa using layout.steps
  have started : ¬ (step.status ≠ .running ∧ step.status ≠ .awaiting) := by
    rcases here with running | awaiting <;> simp_all
  apply Permits.intro
  · apply (throw_if_bind (not_not.2 active.status)).trans
    apply (throw_if_bind (not_not.2 active.index)).trans
    apply (step_at_bind steps).trans
    exact throw_if_bind started
  · exact fun _ => rfl
  · intro timePoint
    refine ⟨active.status, active.unfinished, succeeded ++ [_], pending,
      layout.finish rfl rfl rfl rfl, by simp, length, ?_⟩
    simp [lastOutput]

theorem Active.cancel_step_and_execution (active : Active done ahead chain) :
    Permits (cancelStepAndExecution done) chain (Ended .cancelled) := by
  rcases active.layout with ⟨succeeded, step, pending, layout, rfl, length, here⟩
  have steps : chain.snapshot.steps = succeeded ++ step :: pending := by
    simpa using layout.steps
  have started : ¬ (step.status ≠ .running ∧ step.status ≠ .awaiting) := by
    rcases here with running | awaiting <;> simp_all
  apply Permits.intro
  · apply (throw_if_bind (not_not.2 active.status)).trans
    apply (step_at_bind steps).trans
    exact throw_if_bind started
  · exact fun _ => rfl
  · intro timePoint
    refine ⟨rfl, succeeded, some _, pending, layout.update rfl rfl rfl, ?_⟩
    exact ⟨rfl, by simp, by simp⟩

theorem Active.fail_execution (active : Active done ahead chain) (error : String) :
    Permits (failExecution done error) chain (Ended .failed) := by
  rcases active.layout with ⟨succeeded, step, pending, layout, rfl, length, here⟩
  have steps : chain.snapshot.steps = succeeded ++ step :: pending := by
    simpa using layout.steps
  apply Permits.intro
  · exact step_at_bind steps
  · exact fun _ => rfl
  · intro timePoint
    refine ⟨rfl, succeeded, some _, pending, layout.update rfl rfl rfl, ?_⟩
    exact ⟨rfl, _, rfl, rfl, rfl⟩

/-! ## Construction -/

theorem mem_map_idx_pending {definitions : List OperationDefinition} {step : OperationStepSnapshot}
    (member : step ∈ definitions.mapIdx fun index operationDefinition =>
      ({ index, type := operationDefinition.type, config := operationDefinition.config } :
        OperationStepSnapshot)) :
    step.status = .pending ∧ step.startedAt = none := by
  rcases List.mem_mapIdx.1 member with ⟨_, _, rfl⟩
  exact ⟨rfl, rfl⟩

/-- A chain that was constructed is unstarted and has an operation for each step. -/
theorem create_unstarted {definition : OperationChainDefinition} {operations : List Operation}
    {exchangers : List ExchangerType} {createdAt : OperationChainTimePoint}
    (created : create definition operations exchangers createdAt = .ok chain) :
    Unstarted chain ∧ chain.operations = operations ∧
      chain.operations.length = chain.snapshot.steps.length ∧ chain.snapshot.revision = 0 := by
  rcases except_bind_ok.1 created with ⟨_, counted, rest⟩
  have counts := not_not.1 (throw_if_ok.1 counted)
  cases rest
  refine ⟨⟨rfl, rfl, ?_, ?_, rfl⟩, rfl, ?_, rfl⟩
  · exact ⟨rfl, by simp, fun step member => mem_map_idx_pending member, trivial, by simp⟩
  · simpa [fresh] using definition.operations_nonempty
  · simpa [fresh] using counts

end OperationChain

end CryptoDeal
