import CryptoDeal.Library.Publication
import CryptoDeal.OperationChain.SnapshotHistory

/-!
# How a run publishes its snapshots

`execute` advances the revision of its snapshot one by one, never past a
terminal status, and does not return before the handler has seen the last one.
-/

namespace CryptoDeal

open DealService Interaction

/-- The next snapshot of a run that is not over. -/
def RevisionAdvances (held next : OperationChainSnapshot) : Prop :=
  next.revision = held.revision + 1 ∧ held.status.isTerminal = false

def ChainEffect.publishing : ChainEffect → Publishing OperationChainSnapshot
  | .store snapshot => .stores snapshot
  | .notifyStateChanged snapshot => .reports snapshot
  | _ => .silent

theorem stored_value_published (initial : OperationChainSnapshot) (history : ChainHistory) :
    storedValue ChainEffect.publishing initial history =
      (ChainTrace.of initial history).published := by
  induction history with
  | nil => rfl
  | cons event earlier ih =>
      obtain ⟨effect, answer⟩ := event
      cases effect with
      | startOperation canRegisterAction => cases answer <;> exact ih
      | store snapshot => rfl
      | _ => exact ih

theorem effect_allowed_publication {discipline : OperationDiscipline}
    {initial : OperationChainSnapshot} {history : ChainHistory} {effect : ChainEffect}
    (allowed : EffectAllowed discipline (.of initial history) effect) :
    effect.publishing.Allowed RevisionAdvances
      (storedValue ChainEffect.publishing initial history) := by
  rw [stored_value_published]
  cases effect with
  | store snapshot => exact ⟨allowed.2.1, allowed.2.2.1⟩
  | notifyStateChanged snapshot => exact allowed.1
  | _ => trivial

namespace OperationChain

/-- Whenever the program returns, its last snapshot has been reported. -/
abbrev ReturnsReported (program : ChainProgram Unit) (history : ChainHistory) : Prop :=
  Returns (fun later _ => isReported ChainEffect.publishing later) program history

section Reported

variable {chain : OperationChain} {index : ℕ} {history : ChainHistory}

/-- Only the last part of a program matters. -/
theorem returns_reported_bind {Result : Type} {program : ChainProgram Result}
    {rest : Result → ChainProgram Unit}
    (last : ∀ result later, ReturnsReported (rest result) later) :
    ReturnsReported (program >>= rest) history :=
  (returns_growing program history).bind fun later result _ => last result later

theorem conclude_reported (change : Transition) :
    ReturnsReported (conclude change chain) history := by
  apply returns_reported_bind
  intro concluded later
  apply returns_reported_bind
  intro _ later
  apply returns_request
  intro _ result ended
  rfl

theorem conclude_throws (change : Transition) (failure : ServiceFailure) :
    ReturnsReported (conclude change chain >>= fun _ => .threw failure) history :=
  returns_reported_bind fun _ _ => returns_threw failure

theorem catch_failure_reported (failure : OperationFailure) :
    ReturnsReported (catchFailure index chain failure) history := by
  cases failure with
  | cancellationRequested what => exact conclude_reported _
  | thrown failure =>
      cases failure with
      | nonStandard => exact conclude_throws _ _
      | interrupted what =>
          apply returns_request
          intro confirmed
          cases confirmed with
          | true => exact conclude_reported _
          | false =>
              show ReturnsReported (failureText what >>= _) _
              exact returns_reported_bind fun error later => conclude_throws _ _
      | runtime what =>
          apply returns_request
          intro _
          apply returns_request
          intro confirmed
          cases confirmed with
          | true => exact conclude_reported _
          | false =>
              show ReturnsReported (failureText what >>= _) _
              apply returns_reported_bind
              intro error later
              apply returns_reported_bind
              intro _ later
              apply returns_request
              intro failed
              cases failed with
              | false => exact returns_threw _
              | true => exact returns_threw _

theorem execute_steps_reported (operations : List Operation) :
    ReturnsReported (executeSteps operations index chain) history := by
  induction operations generalizing chain index history with
  | nil => exact conclude_reported _
  | cons operation remaining ih =>
      apply returns_request
      intro requested
      cases requested with
      | true => exact conclude_reported _
      | false =>
          show ReturnsReported (performStep operation index chain >>= _) _
          apply returns_reported_bind
          rintro ⟨outcome, performed⟩ later
          cases outcome with
          | error failure => exact catch_failure_reported failure
          | ok succeeded =>
              apply returns_reported_bind
              intro finished later
              apply returns_request
              intro requested
              show ReturnsReported (if (requested && !remaining.isEmpty) = true then _ else _) _
              split_ifs with stops
              · exact conclude_reported _
              · exact ih

theorem execute_reported : ReturnsReported (execute chain) history := by
  apply returns_request
  intro requested
  cases requested with
  | true => exact conclude_reported _
  | false =>
      show ReturnsReported (advance startExecution chain >>= _) _
      exact returns_reported_bind fun started later => execute_steps_reported _

end Reported

/-- A chain that was constructed publishes its snapshots well, whatever its operations are. -/
theorem execute_publishes {definition : OperationChainDefinition} {operations : List Operation}
    {exchangers : List ExchangerType} {createdAt : OperationChainTimePoint}
    {chain : OperationChain}
    (created : create definition operations exchangers createdAt = .ok chain) :
    Publishes ChainEffect.publishing RevisionAdvances chain.snapshot true (execute chain) := by
  obtain ⟨unstarted, _, count, fresh⟩ := create_unstarted created
  have met := meets_execute unstarted count fresh fun operation _ =>
    OperationDiscipline.free_keeps operation
  apply Meets.publishes
  apply met.publication
  case allows => exact fun earlier effect allowed => effect_allowed_publication allowed
  case free => exact fun _ _ _ => trivial
  case returns => exact execute_reported

end OperationChain

end CryptoDeal
