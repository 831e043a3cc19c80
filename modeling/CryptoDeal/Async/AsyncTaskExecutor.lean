import CryptoDeal.Async.TaskLife

/-!
# The asynchronous task executor

`AsyncTaskExecutor` with its workers and its event loop. The event loop runs one
call at a time, but a callback or a signal handler may call the executor again
and may run a nested event loop, so the calls in progress form a stack. Workers
move at any time.
-/

namespace CryptoDeal.OrderSession.UiTaskState

def startLoading (_ : UiTaskState) : UiTaskState := { status := .loading, error := "" }

def finishSuccessfully (state : UiTaskState) : UiTaskState := { state with status := .succeeded }

def finishWithFailure (failure : String) (_ : UiTaskState) : UiTaskState :=
  { status := .failed, error := failure }

end CryptoDeal.OrderSession.UiTaskState

namespace CryptoDeal.Async

open DealService OrderSession

inductive Worker where
  | notStarted
  | working
  | worked
  /-- `stopping` was read as false and the completion is not yet posted. -/
  | queueing
  | ended
  deriving DecidableEq, Repr

def Worker.Joined (worker : Worker) : Prop := worker = .notStarted ∨ worker = .ended

instance (worker : Worker) : Decidable worker.Joined := inferInstanceAs (Decidable (_ ∨ _))

/-- A call of `startTask` or `completeTask` that the event loop has not come back from. -/
structure MainCall where
  taskId : TaskId
  completion : TaskCompletion
  activity : Activity
  deriving DecidableEq, Repr

def Activity.runsHandlers : Activity → Bool
  | .starting | .succeeding | .settled | .notifying _ | .handling _ => true
  | .extracted | .delivering | .succeeded | .failing _ => false

structure AsyncTaskExecutor (Result : Type) where
  tasks : TaskId → Option TaskCompletion := fun _ => none
  stopping : Bool := false
  nextTaskId : TaskId := 1
  workers : TaskId → Worker := fun _ => .notStarted
  outcomes : TaskId → TaskOutcome Result := fun _ => {}
  posted : List TaskId := []
  /-- Innermost first. -/
  calls : List MainCall := []
  joining : Bool := false
  states : StateId → Option UiTaskState
  receivers : ReceiverId → Bool

inductive ExecutorEvent (Result : Type) where
  | task (taskId : TaskId) (event : TaskEvent Result)
  | refused (completion : TaskCompletion)
  | stale (taskId : TaskId)
  | stopRequested
  | joinStarted
  | cleared
  | receiverDestroyed (receiver : ReceiverId)
  | stateDestroyed (state : StateId)

variable {Result : Type}

namespace AsyncTaskExecutor

def AcceptsCalls (executor : AsyncTaskExecutor Result) : Prop :=
  executor.joining = false ∧ ∀ call ∈ executor.calls.head?, call.activity.runsHandlers

def refuses (executor : AsyncTaskExecutor Result) (state : UiTaskState) : Bool :=
  executor.stopping || state.isLoading

def started (executor : AsyncTaskExecutor Result) (completion : TaskCompletion)
    (state : UiTaskState) : AsyncTaskExecutor Result :=
  { executor with
    tasks := Function.update executor.tasks executor.nextTaskId (some completion)
    nextTaskId := executor.nextTaskId + 1
    states := Function.update executor.states completion.state (some state.startLoading)
    calls := ⟨executor.nextTaskId, completion, .starting⟩ :: executor.calls }

def launched (executor : AsyncTaskExecutor Result) (taskId : TaskId) (rest : List MainCall) :
    AsyncTaskExecutor Result :=
  { executor with
    workers := Function.update executor.workers taskId .working
    calls := rest }

/-- `queueTaskCompletion` on the event loop itself. -/
def queueTaskCompletion (executor : AsyncTaskExecutor Result) (taskId : TaskId) :
    AsyncTaskExecutor Result :=
  if executor.stopping then executor
  else { executor with posted := executor.posted ++ [taskId] }

def launchFailed (executor : AsyncTaskExecutor Result) (taskId : TaskId) (failure : ServiceFailure)
    (rest : List MainCall) : AsyncTaskExecutor Result :=
  queueTaskCompletion
    { executor with
      outcomes := Function.update executor.outcomes taskId { failure := some failure }
      calls := rest } taskId

def worked (executor : AsyncTaskExecutor Result) (taskId : TaskId) (outcome : TaskOutcome Result) :
    AsyncTaskExecutor Result :=
  { executor with
    workers := Function.update executor.workers taskId .worked
    outcomes := Function.update executor.outcomes taskId outcome }

def readStopping (executor : AsyncTaskExecutor Result) (taskId : TaskId) :
    AsyncTaskExecutor Result :=
  { executor with
    workers := Function.update executor.workers taskId
      (if executor.stopping then .ended else .queueing) }

def post (executor : AsyncTaskExecutor Result) (taskId : TaskId) : AsyncTaskExecutor Result :=
  { executor with
    workers := Function.update executor.workers taskId .ended
    posted := executor.posted ++ [taskId] }

/-- `completeTask` up to the join. -/
def extract (executor : AsyncTaskExecutor Result) (taskId : TaskId) (completion : TaskCompletion)
    (later : List TaskId) : AsyncTaskExecutor Result :=
  { executor with
    tasks := Function.update executor.tasks taskId none
    posted := later
    calls := ⟨taskId, completion, .extracted⟩ :: executor.calls }

/-- `completeTask` after the join and `deliverTaskCompletion`: what the event loop does next with
the innermost call, and where the call stands after it, if it goes on. -/
inductive Delivers (executor : AsyncTaskExecutor Result) (call : MainCall) :
    TaskEvent Result → Option Activity → Prop
  | dropped (extracted : call.activity = .extracted)
      (joined : (executor.workers call.taskId).Joined) (stopping : executor.stopping = true) :
      Delivers executor call .dropped none
  | delivering (extracted : call.activity = .extracted)
      (joined : (executor.workers call.taskId).Joined) (stopping : executor.stopping = false) :
      Delivers executor call .delivering (some .delivering)
  | failureFound {failure : ServiceFailure} (delivering : call.activity = .delivering)
      (failed : (executor.outcomes call.taskId).failure = some failure) :
      Delivers executor call (.failureFound failure) (some (.failing (getFailureMessage failure)))
  | successCalled {result : Result} (delivering : call.activity = .delivering)
      (unfailed : (executor.outcomes call.taskId).failure = none)
      (alive : executor.receivers call.completion.receiver = true)
      (present : (executor.outcomes call.taskId).result = some result) :
      Delivers executor call (.successCalled result) (some .succeeding)
  | resultMissing (delivering : call.activity = .delivering)
      (unfailed : (executor.outcomes call.taskId).failure = none)
      (alive : executor.receivers call.completion.receiver = true)
      (missing : (executor.outcomes call.taskId).result = none) :
      Delivers executor call .resultMissing (some (.failing badOptionalAccess))
  | successSkipped (delivering : call.activity = .delivering)
      (unfailed : (executor.outcomes call.taskId).failure = none)
      (destroyed : executor.receivers call.completion.receiver = false) :
      Delivers executor call .successSkipped (some .succeeded)
  | successReturned (succeeding : call.activity = .succeeding) :
      Delivers executor call .successReturned (some .succeeded)
  | successThrew (failure : ServiceFailure) (succeeding : call.activity = .succeeding) :
      Delivers executor call (.successThrew failure) (some (.failing (getFailureMessage failure)))
  | finishedSuccessfully (succeeded : call.activity = .succeeded) :
      Delivers executor call .finishedSuccessfully (some .settled)
  | finishedWithFailure {error : String} (failing : call.activity = .failing error) :
      Delivers executor call (.finishedWithFailure error) (some (.notifying error))
  | returned (settled : call.activity = .settled) : Delivers executor call .returned none
  | failureCalled {error : String} (notifying : call.activity = .notifying error)
      (alive : executor.receivers call.completion.receiver = true) :
      Delivers executor call (.failureCalled error) (some (.handling error))
  | failureSkipped {error : String} (notifying : call.activity = .notifying error)
      (destroyed : executor.receivers call.completion.receiver = false) :
      Delivers executor call .failureSkipped none
  | failureReturned {error : String} (handling : call.activity = .handling error) :
      Delivers executor call .failureReturned none

def settle : TaskEvent Result → UiTaskState → UiTaskState
  | .finishedSuccessfully, state => state.finishSuccessfully
  | .finishedWithFailure error, state => state.finishWithFailure error
  | _, state => state

def delivered (executor : AsyncTaskExecutor Result) (call : MainCall) (rest : List MainCall)
    (event : TaskEvent Result) (next : Option Activity) : AsyncTaskExecutor Result :=
  { executor with
    states := Function.update executor.states call.completion.state
      ((executor.states call.completion.state).map (settle event))
    calls := (next.map fun activity => { call with activity }).toList ++ rest }

def requestStop (executor : AsyncTaskExecutor Result) : AsyncTaskExecutor Result :=
  { executor with stopping := true }

/-- `stopAndWait` up to its joins. -/
def stopAndJoin (executor : AsyncTaskExecutor Result) : AsyncTaskExecutor Result :=
  { executor.requestStop with joining := true }

def clear (executor : AsyncTaskExecutor Result) : AsyncTaskExecutor Result :=
  { executor with tasks := fun _ => none, joining := false }

def destroyReceiver (executor : AsyncTaskExecutor Result) (receiver : ReceiverId) :
    AsyncTaskExecutor Result :=
  { executor with receivers := Function.update executor.receivers receiver false }

def destroyState (executor : AsyncTaskExecutor Result) (state : StateId) :
    AsyncTaskExecutor Result :=
  { executor with states := Function.update executor.states state none }

inductive Moves (before : AsyncTaskExecutor Result) :
    ExecutorEvent Result → AsyncTaskExecutor Result → Prop
  | refused (completion : TaskCompletion) {state : UiTaskState} (accepts : before.AcceptsCalls)
      (found : before.states completion.state = some state)
      (alive : before.receivers completion.receiver = true)
      (refuses : before.refuses state = true) : Moves before (.refused completion) before
  | started (completion : TaskCompletion) {state : UiTaskState} (accepts : before.AcceptsCalls)
      (found : before.states completion.state = some state)
      (alive : before.receivers completion.receiver = true)
      (accepted : before.refuses state = false) :
      Moves before (.task before.nextTaskId (.started completion))
        (before.started completion state)
  | launched {call : MainCall} {rest : List MainCall} (top : before.calls = call :: rest)
      (moving : before.joining = false) (starting : call.activity = .starting) :
      Moves before (.task call.taskId .launched) (before.launched call.taskId rest)
  | launchFailed {call : MainCall} {rest : List MainCall} (failure : ServiceFailure)
      (top : before.calls = call :: rest) (moving : before.joining = false)
      (starting : call.activity = .starting) :
      Moves before (.task call.taskId (.launchFailed failure before.stopping))
        (before.launchFailed call.taskId failure rest)
  | worked {taskId : TaskId} (work : Except ServiceFailure Result)
      (working : before.workers taskId = .working) :
      Moves before (.task taskId (.worked (.ofWork work))) (before.worked taskId (.ofWork work))
  | readStopping {taskId : TaskId} (worked : before.workers taskId = .worked) :
      Moves before (.task taskId (.readStopping before.stopping)) (before.readStopping taskId)
  | posted {taskId : TaskId} (queueing : before.workers taskId = .queueing) :
      Moves before (.task taskId .posted) (before.post taskId)
  | extracted {taskId : TaskId} {completion : TaskCompletion} {later : List TaskId}
      (accepts : before.AcceptsCalls) (next : before.posted = taskId :: later)
      (found : before.tasks taskId = some completion) :
      Moves before (.task taskId .extracted) (before.extract taskId completion later)
  | stale {taskId : TaskId} {later : List TaskId} (accepts : before.AcceptsCalls)
      (next : before.posted = taskId :: later) (gone : before.tasks taskId = none) :
      Moves before (.stale taskId) { before with posted := later }
  | delivers {call : MainCall} {rest : List MainCall} {event : TaskEvent Result}
      {next : Option Activity} (top : before.calls = call :: rest)
      (moving : before.joining = false) (delivers : before.Delivers call event next) :
      Moves before (.task call.taskId event) (before.delivered call rest event next)
  | stopRequested (accepts : before.AcceptsCalls) : Moves before .stopRequested before.requestStop
  | joinStarted (accepts : before.AcceptsCalls)
      -- otherwise `startTask` would go on to write to a record that `stopAndWait` destroyed
      (launched : ∀ call ∈ before.calls, call.activity ≠ .starting) :
      Moves before .joinStarted before.stopAndJoin
  | cleared (joining : before.joining = true)
      (joined : ∀ taskId, (before.tasks taskId).isSome → (before.workers taskId).Joined) :
      Moves before .cleared before.clear
  | receiverDestroyed (receiver : ReceiverId) (accepts : before.AcceptsCalls) :
      Moves before (.receiverDestroyed receiver) (before.destroyReceiver receiver)
  | stateDestroyed (state : StateId) (accepts : before.AcceptsCalls) :
      Moves before (.stateDestroyed state) (before.destroyState state)

end AsyncTaskExecutor

abbrev ExecutorStep (Result : Type) := AsyncTaskExecutor Result × ExecutorEvent Result

/-- The steps of a new executor, latest first, and where they lead. -/
inductive ExecutorRun (states : StateId → Option UiTaskState) (receivers : ReceiverId → Bool) :
    List (ExecutorStep Result) → AsyncTaskExecutor Result → Prop
  | start : ExecutorRun states receivers [] { states, receivers }
  | step {steps : List (ExecutorStep Result)} {before after : AsyncTaskExecutor Result}
      {event : ExecutorEvent Result} (run : ExecutorRun states receivers steps before)
      (moves : before.Moves event after) :
      ExecutorRun states receivers ((before, event) :: steps) after

def lifeOf (steps : List (ExecutorStep Result)) (taskId : TaskId) : List (TaskEvent Result) :=
  steps.filterMap fun step =>
    match step.2 with
    | .task other event => if other = taskId then some event else none
    | _ => none

end CryptoDeal.Async
