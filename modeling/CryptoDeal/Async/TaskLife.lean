import CryptoDeal.OrderSession.OrderSessionModel

/-!
# The life of an asynchronous task

What becomes of one task of `AsyncTaskExecutor`, whatever the other tasks do: its
worker runs and posts a completion, the event loop takes the completion's record
out and delivers it, and the delivery ends the task with a status.
-/

namespace CryptoDeal.Async

open DealService OrderSession

abbrev TaskId := ℕ

abbrev StateId := ℕ

abbrev ReceiverId := ℕ

/-- `TaskCompletionBase`'s guarded pointers. -/
structure TaskCompletion where
  receiver : ReceiverId
  state : StateId
  deriving DecidableEq, Repr

structure TaskOutcome (Result : Type) where
  result : Option Result := none
  failure : Option ServiceFailure := none
  deriving DecidableEq

def TaskOutcome.ofWork {Result : Type} : Except ServiceFailure Result → TaskOutcome Result
  | .ok result => { result := some result }
  | .error failure => { failure := some failure }

/-- Where the event loop stands in a task's `startTask` or `completeTask`. -/
inductive Activity where
  | starting
  /-- The record is out of the map, its worker not yet joined. -/
  | extracted
  | delivering
  | succeeding
  | succeeded
  | settled
  | failing (error : String)
  | notifying (error : String)
  | handling (error : String)
  deriving DecidableEq, Repr

inductive Ending where
  | succeeded
  | failed (error : String)
  | unheard (error : String)
  deriving DecidableEq, Repr

inductive TaskStage where
  | unborn
  | working
  | worked
  | queueing
  | queued
  /-- The worker ended without a completion, because it saw the stop. -/
  | unqueued
  | running (activity : Activity)
  | dropped
  | finished (ending : Ending)
  deriving DecidableEq, Repr

inductive TaskEvent (Result : Type) where
  | started (completion : TaskCompletion)
  | launched
  | launchFailed (failure : ServiceFailure) (stopping : Bool)
  | worked (outcome : TaskOutcome Result)
  | readStopping (stopping : Bool)
  | posted
  | extracted
  | dropped
  | delivering
  | failureFound (failure : ServiceFailure)
  | successCalled (result : Result)
  | resultMissing
  | successSkipped
  | successReturned
  | successThrew (failure : ServiceFailure)
  | finishedSuccessfully
  | finishedWithFailure (error : String)
  | returned
  | failureCalled (error : String)
  | failureSkipped
  /-- Also when the failure callback threw: `deliverFailureSafely` only logs that. -/
  | failureReturned

/-- The text of `std::bad_optional_access`. -/
def badOptionalAccess : String := "bad optional access"

variable {Result : Type}

/-- How a task goes on that its work has left with `outcome`. -/
inductive Advances (outcome : TaskOutcome Result) : TaskStage → TaskEvent Result → TaskStage → Prop
  | started (completion : TaskCompletion) :
      Advances outcome .unborn (.started completion) (.running .starting)
  | launched : Advances outcome (.running .starting) .launched .working
  | launchFailed (failure : ServiceFailure) (stopping : Bool) :
      Advances outcome (.running .starting) (.launchFailed failure stopping)
        (if stopping then .unqueued else .queued)
  | worked (work : Except ServiceFailure Result) :
      Advances outcome .working (.worked (.ofWork work)) .worked
  | readStopping (stopping : Bool) :
      Advances outcome .worked (.readStopping stopping) (if stopping then .unqueued else .queueing)
  | posted : Advances outcome .queueing .posted .queued
  | extracted : Advances outcome .queued .extracted (.running .extracted)
  | dropped : Advances outcome (.running .extracted) .dropped .dropped
  | delivering : Advances outcome (.running .extracted) .delivering (.running .delivering)
  | failureFound {failure : ServiceFailure} (failed : outcome.failure = some failure) :
      Advances outcome (.running .delivering) (.failureFound failure)
        (.running (.failing (getFailureMessage failure)))
  | successCalled {result : Result} (unfailed : outcome.failure = none)
      (present : outcome.result = some result) :
      Advances outcome (.running .delivering) (.successCalled result) (.running .succeeding)
  | resultMissing (unfailed : outcome.failure = none) (missing : outcome.result = none) :
      Advances outcome (.running .delivering) .resultMissing
        (.running (.failing badOptionalAccess))
  | successSkipped (unfailed : outcome.failure = none) :
      Advances outcome (.running .delivering) .successSkipped (.running .succeeded)
  | successReturned :
      Advances outcome (.running .succeeding) .successReturned (.running .succeeded)
  | successThrew (failure : ServiceFailure) :
      Advances outcome (.running .succeeding) (.successThrew failure)
        (.running (.failing (getFailureMessage failure)))
  | finishedSuccessfully :
      Advances outcome (.running .succeeded) .finishedSuccessfully (.running .settled)
  | finishedWithFailure (error : String) :
      Advances outcome (.running (.failing error)) (.finishedWithFailure error)
        (.running (.notifying error))
  | returned : Advances outcome (.running .settled) .returned (.finished .succeeded)
  | failureCalled (error : String) :
      Advances outcome (.running (.notifying error)) (.failureCalled error)
        (.running (.handling error))
  | failureSkipped (error : String) :
      Advances outcome (.running (.notifying error)) .failureSkipped (.finished (.unheard error))
  | failureReturned (error : String) :
      Advances outcome (.running (.handling error)) .failureReturned (.finished (.failed error))

def outcomeOf : List (TaskEvent Result) → TaskOutcome Result
  | [] => {}
  | .worked outcome :: _ => outcome
  | .launchFailed failure _ :: _ => { failure := some failure }
  | _ :: earlier => outcomeOf earlier

/-- What has happened to a task, latest first, and where it stands. -/
inductive TaskLife : List (TaskEvent Result) → TaskStage → Prop
  | unborn : TaskLife [] .unborn
  | step {events : List (TaskEvent Result)} {stage next : TaskStage} {event : TaskEvent Result}
      (life : TaskLife events stage) (advances : Advances (outcomeOf events) stage event next) :
      TaskLife (event :: events) next

/-! ## What has happened by a stage -/

def TaskEvent.isDelivery : TaskEvent Result → Bool
  | .delivering => true
  | _ => false

def TaskEvent.isVerdict : TaskEvent Result → Bool
  | .finishedSuccessfully | .finishedWithFailure _ => true
  | _ => false

def TaskStage.deliveries : TaskStage → ℕ
  | .running .starting | .running .extracted => 0
  | .running _ | .finished _ => 1
  | _ => 0

def TaskStage.verdicts : TaskStage → ℕ
  | .running .settled | .running (.notifying _) | .running (.handling _) | .finished _ => 1
  | _ => 0

variable {events : List (TaskEvent Result)} {stage next : TaskStage} {event : TaskEvent Result}
  {error : String}

theorem TaskLife.deliveries (life : TaskLife events stage) :
    events.countP (·.isDelivery) = stage.deliveries := by
  induction life with
  | unborn => rfl
  | step life advances ih =>
      rw [List.countP_cons, ih]
      cases advances with
      | launchFailed failure stopping => cases stopping <;> rfl
      | readStopping stopping => cases stopping <;> rfl
      | _ => rfl

theorem TaskLife.verdicts (life : TaskLife events stage) :
    events.countP (·.isVerdict) = stage.verdicts := by
  induction life with
  | unborn => rfl
  | step life advances ih =>
      rw [List.countP_cons, ih]
      cases advances with
      | launchFailed failure stopping => cases stopping <;> rfl
      | readStopping stopping => cases stopping <;> rfl
      | _ => rfl

theorem TaskStage.deliveries_le_one (stage : TaskStage) : stage.deliveries ≤ 1 := by
  unfold TaskStage.deliveries
  split <;> omega

theorem TaskStage.verdicts_le_one (stage : TaskStage) : stage.verdicts ≤ 1 := by
  unfold TaskStage.verdicts
  split <;> omega

theorem TaskLife.unborn_iff (life : TaskLife events stage) : stage = .unborn ↔ events = [] := by
  cases life with
  | unborn => exact iff_of_true rfl rfl
  | step life advances =>
      refine iff_of_false ?_ (List.cons_ne_nil _ _)
      cases advances with
      | launchFailed failure stopping => cases stopping <;> nofun
      | readStopping stopping => cases stopping <;> nofun
      | _ => nofun

theorem TaskLife.before_success (life : TaskLife events (.running .succeeded)) :
    .successReturned ∈ events ∨ .successSkipped ∈ events := by
  generalize reached : TaskStage.running .succeeded = stage at life
  cases life with
  | unborn => cases reached
  | step life advances =>
      cases advances with
      | successReturned => exact .inl List.mem_cons_self
      | successSkipped => exact .inr List.mem_cons_self
      | launchFailed failure stopping => cases stopping <;> cases reached
      | readStopping stopping => cases stopping <;> cases reached
      | _ => cases reached

def TaskStage.hasOutcome : TaskStage → Bool
  | .unborn | .running .starting | .working => false
  | _ => true

theorem TaskLife.outcome (life : TaskLife events stage) (done : stage.hasOutcome = true) :
    (outcomeOf events).failure = none → (outcomeOf events).result ≠ none := by
  induction life with
  | unborn => cases done
  | step life advances ih =>
      cases advances with
      | launchFailed failure stopping => nofun
      | worked work =>
          cases work with
          | ok result => nofun
          | error failure => nofun
      | started completion => cases done
      | launched => cases done
      | _ => exact ih rfl

/-- Where the text that a task fails with comes from. -/
inductive FailsWith (events : List (TaskEvent Result)) (error : String) : Prop
  | work {failure : ServiceFailure} (threw : (outcomeOf events).failure = some failure)
      (text : error = getFailureMessage failure)
  | callback {failure : ServiceFailure} (threw : .successThrew failure ∈ events)
      (text : error = getFailureMessage failure)

theorem TaskLife.before_failure (life : TaskLife events (.running (.failing error))) :
    FailsWith events error := by
  generalize reached : TaskStage.running (.failing error) = stage at life
  cases life with
  | unborn => cases reached
  | step life advances =>
      cases advances with
      | failureFound failed =>
          cases reached
          exact .work failed rfl
      | successThrew failure =>
          cases reached
          exact .callback List.mem_cons_self rfl
      | resultMissing unfailed missing => exact absurd missing (life.outcome rfl unfailed)
      | launchFailed failure stopping => cases stopping <;> cases reached
      | readStopping stopping => cases stopping <;> cases reached
      | _ => cases reached

theorem TaskLife.started_once {first second : TaskCompletion} (life : TaskLife events stage)
    (one : .started first ∈ events) (other : .started second ∈ events) : first = second := by
  induction life with
  | unborn => cases one
  | step life advances ih =>
      cases advances with
      | started completion =>
          rw [(life.unborn_iff).mp rfl, List.mem_singleton] at one other
          exact (TaskEvent.started.inj one).trans (TaskEvent.started.inj other).symm
      | _ =>
          exact ih ((List.mem_cons.mp one).resolve_left nofun)
            ((List.mem_cons.mp other).resolve_left nofun)

theorem TaskLife.finished_with_failure_iff (life : TaskLife events stage) :
    .finishedWithFailure error ∈ events ↔ stage = .running (.notifying error) ∨
      stage = .running (.handling error) ∨ stage = .finished (.failed error) ∨
      stage = .finished (.unheard error) := by
  induction life with
  | unborn => simp
  | step life advances ih =>
      cases advances with
      | launchFailed failure stopping => cases stopping <;> simpa using ih
      | readStopping stopping => cases stopping <;> simpa using ih
      | finishedWithFailure failed => simp_all [eq_comm]
      | _ => simp_all

theorem TaskLife.failure_called_iff (life : TaskLife events stage) :
    .failureCalled error ∈ events ↔
      stage = .running (.handling error) ∨ stage = .finished (.failed error) := by
  induction life with
  | unborn => simp
  | step life advances ih =>
      cases advances with
      | launchFailed failure stopping => cases stopping <;> simpa using ih
      | readStopping stopping => cases stopping <;> simpa using ih
      | failureCalled failed => simp_all [eq_comm]
      | _ => simp_all

theorem TaskLife.unheard_iff (life : TaskLife events stage) :
    .failureSkipped ∈ events ↔ ∃ error, stage = .finished (.unheard error) := by
  induction life with
  | unborn => simp
  | step life advances ih =>
      cases advances with
      | launchFailed failure stopping => cases stopping <;> simpa using ih
      | readStopping stopping => cases stopping <;> simpa using ih
      | _ => simp_all

end CryptoDeal.Async
