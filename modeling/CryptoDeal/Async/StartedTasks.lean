import CryptoDeal.Async.TasksInFlight

/-!
# Delivery of asynchronous tasks

Every task that `startTask` accepts is delivered once, unless the executor stops,
and its delivery finishes its state before the callback that reports a failure.
-/

namespace CryptoDeal.Async

open DealService OrderSession

variable {Result : Type} {before after executor : AsyncTaskExecutor Result} {state : StateId}
  {taskId : TaskId} {stage : TaskStage} {event : ExecutorEvent Result} {call : MainCall}
  {rest : List MainCall} {steps : List (ExecutorStep Result)} {completion : TaskCompletion}
  {states : StateId → Option UiTaskState} {receivers : ReceiverId → Bool}

/-- Something is still to come of a task before its delivery. -/
inductive StillToCome (executor : AsyncTaskExecutor Result) (taskId : TaskId) : Prop
  | called (call : MainCall) (listed : call ∈ executor.calls) (own : call.taskId = taskId)
      (undelivered : call.activity = .starting ∨ call.activity = .extracted)
  | working (worker : executor.workers taskId = .working ∨ executor.workers taskId = .worked ∨
      executor.workers taskId = .queueing)
  | posted (recorded : (executor.tasks taskId).isSome) (posted : taskId ∈ executor.posted)

theorem Fits.listed {activity : Activity} (fits : Fits executor taskId (.running activity)) :
    ∃ call ∈ executor.calls, call.taskId = taskId ∧ call.activity = activity := by
  have among : activity ∈ activitiesOf executor.calls taskId := by
    rw [fits.calls]
    exact List.mem_cons_self
  obtain ⟨call, kept, same⟩ := List.mem_map.mp among
  obtain ⟨listed, own⟩ := List.mem_filter.mp kept
  exact ⟨call, listed, of_decide_eq_true own, same⟩

theorem Fits.still_to_come (fits : Fits executor taskId stage) (born : stage ≠ .unborn)
    (running : executor.stopping = false) (undelivered : stage.deliveries = 0) :
    StillToCome executor taskId := by
  have unstopped : ¬executor.stopping = true := by simp [running]
  have worker := fits.worker
  cases stage with
  | unborn => exact absurd rfl born
  | working => exact .working (.inl worker)
  | worked => exact .working (.inr (.inl worker))
  | queueing => exact .working (.inr (.inr worker))
  | queued =>
      have recorded := (fits.kept rfl).resolve_right fun cleared => unstopped cleared.1
      have once := fits.posted rfl recorded
      exact .posted recorded (List.count_pos_iff.mp (by omega))
  | unqueued => exact absurd (fits.stopped (.inl rfl)) unstopped
  | dropped => exact absurd (fits.stopped (.inr rfl)) unstopped
  | running activity =>
      obtain ⟨call, listed, own, same⟩ := fits.listed
      cases activity with
      | starting => exact .called call listed own (.inl same)
      | extracted => exact .called call listed own (.inr same)
      | _ => cases undelivered
  | finished ending => cases undelivered

theorem Fits.come (fits : Fits executor taskId stage) (delivered : stage.deliveries = 1) :
    ¬StillToCome executor taskId := by
  have detached : stage.detached = true := by
    cases stage with
    | running activity => cases activity <;> first | rfl | cases delivered
    | finished ending => rfl
    | _ => cases delivered
  rintro (⟨call, listed, own, starting | extracted⟩ | worker | ⟨recorded, posted⟩)
  · rw [fits.activity listed own, starting] at delivered
    cases delivered
  · rw [fits.activity listed own, extracted] at delivered
    cases delivered
  · have joined := (TaskStage.threaded_of_detached detached).mp fits.worker
    obtain joined | joined := joined
    all_goals
      rw [joined] at worker
      simp at worker
  · exact absurd ((TaskStage.recorded_of_detached detached).symm.trans (fits.recorded recorded))
      nofun

/-! ## The completion that a task was started with -/

structure Holds (steps : List (ExecutorStep Result)) (executor : AsyncTaskExecutor Result) :
    Prop where
  recorded {taskId : TaskId} {completion : TaskCompletion}
    (found : executor.tasks taskId = some completion) :
    .started completion ∈ lifeOf steps taskId
  called {call : MainCall} (listed : call ∈ executor.calls) :
    .started call.completion ∈ lifeOf steps call.taskId

theorem life_grows (before : AsyncTaskExecutor Result) (event : ExecutorEvent Result)
    (steps : List (ExecutorStep Result)) (taskId : TaskId) :
    lifeOf steps taskId ⊆ lifeOf ((before, event) :: steps) taskId := by
  unfold lifeOf
  rw [List.filterMap_cons]
  split
  · exact List.Subset.refl _
  · exact List.subset_cons_self _ _

theorem AsyncTaskExecutor.Moves.holds (moves : before.Moves event after)
    (holds : Holds steps before) : Holds ((before, event) :: steps) after := by
  have kept (tasks : ∀ {taskId completion}, after.tasks taskId = some completion →
      before.tasks taskId = some completion) (calls : after.calls ⊆ before.calls) :
      Holds ((before, event) :: steps) after := {
    recorded := fun found => life_grows _ _ _ _ (holds.recorded (tasks found))
    called := fun listed => life_grows _ _ _ _ (holds.called (calls listed)) }
  cases moves with
  | @started completion uiState accepts found alive accepted =>
      constructor
      · intro taskId other recorded
        by_cases own : taskId = before.nextTaskId
        · subst own
          have same : some completion = some other :=
            (Function.update_self before.nextTaskId _ before.tasks).symm.trans recorded
          rw [life_of_own, Option.some.inj same]
          exact List.mem_cons_self
        · exact life_grows _ _ _ _
            (holds.recorded ((Function.update_of_ne own _ _).symm.trans recorded))
      · intro call listed
        cases listed with
        | head =>
            rw [life_of_own]
            exact List.mem_cons_self
        | tail _ listed => exact life_grows _ _ _ _ (holds.called listed)
  | launched top moving starting =>
      exact kept id (by rw [top]; exact List.subset_cons_self _ _)
  | @launchFailed call rest failure top moving starting =>
      have unwritten : (before.launchFailed call.taskId failure rest).tasks = before.tasks ∧
          (before.launchFailed call.taskId failure rest).calls = rest := by
        unfold AsyncTaskExecutor.launchFailed AsyncTaskExecutor.queueTaskCompletion
        split <;> exact ⟨rfl, rfl⟩
      refine kept (fun found => unwritten.1 ▸ found) ?_
      rw [unwritten.2, top]
      exact List.subset_cons_self _ _
  | @extracted acting completion later accepts next found =>
      constructor
      · intro taskId other recorded
        by_cases own : taskId = acting
        · subst own
          exact absurd ((Function.update_self taskId _ before.tasks).symm.trans recorded) nofun
        · exact life_grows _ _ _ _
            (holds.recorded ((Function.update_of_ne own _ _).symm.trans recorded))
      · intro call listed
        cases listed with
        | head => exact life_grows _ _ _ _ (holds.recorded found)
        | tail _ listed => exact life_grows _ _ _ _ (holds.called listed)
  | @delivers call rest taskEvent next top moving delivers =>
      refine ⟨fun found => life_grows _ _ _ _ (holds.recorded found), fun {other} listed => ?_⟩
      obtain own | later := List.mem_append.mp listed
      · obtain ⟨activity, -, rfl⟩ := Option.map_eq_some_iff.mp (Option.mem_toList.mp own)
        have started := holds.called (top ▸ List.mem_cons_self)
        exact life_grows _ _ _ _ started
      · exact life_grows _ _ _ _ (holds.called (top ▸ List.mem_cons_of_mem _ later))
  | cleared joining joined => exact kept nofun (List.Subset.refl _)
  | _ => exact kept id (List.Subset.refl _)

theorem ExecutorRun.holds (run : ExecutorRun states receivers steps executor) :
    Holds steps executor := by
  induction run with
  | start => exact ⟨nofun, nofun⟩
  | step run moves ih => exact moves.holds ih

theorem AsyncTaskExecutor.Moves.destroyed (moves : before.Moves event after)
    {receiver : ReceiverId} (destroyed : before.receivers receiver = false) :
    after.receivers receiver = false := by
  cases moves with
  | launchFailed failure top moving starting =>
      unfold AsyncTaskExecutor.launchFailed AsyncTaskExecutor.queueTaskCompletion
      split <;> exact destroyed
  | receiverDestroyed other accepts =>
      refine (Function.update_apply before.receivers other false receiver).trans ?_
      split
      · rfl
      · exact destroyed
  | _ => exact destroyed

/-- A failure goes unheard only when its receiver is gone. -/
theorem ExecutorRun.unheard (run : ExecutorRun states receivers steps executor)
    (started : .started completion ∈ lifeOf steps taskId)
    (skipped : .failureSkipped ∈ lifeOf steps taskId) :
    executor.receivers completion.receiver = false := by
  induction run with
  | start => cases skipped
  | @step steps before after event run moves ih =>
      obtain ⟨stage, life, fits⟩ := run.life taskId
      obtain ⟨taskEvent, next, rfl, advances, -⟩ | ⟨apart, -⟩ := moves.fits run.joins fits
      · rw [life_of_own] at started skipped
        cases advances with
        | started first =>
            rw [(life.unborn_iff).mp rfl] at skipped
            cases skipped with
            | tail _ none => cases none
        | failureSkipped error =>
            have started := (List.mem_cons.mp started).resolve_left nofun
            cases moves with
            | delivers top moving delivers =>
                cases delivers with
                | failureSkipped notifying destroyed =>
                    have own := run.holds.called (top ▸ List.mem_cons_self)
                    rw [life.started_once started own]
                    exact destroyed
        | _ =>
            exact moves.destroyed (ih ((List.mem_cons.mp started).resolve_left nofun)
              ((List.mem_cons.mp skipped).resolve_left nofun))
      · rw [life_of_other apart] at started skipped
        exact moves.destroyed (ih started skipped)

/-! ## The executor goes on by itself -/

/-- Steps of workers and of the event loop that no code outside the executor asks for. -/
def ExecutorEvent.own : ExecutorEvent Result → Bool
  | .task _ (.started _) => false
  | .task _ _ | .stale _ => true
  | _ => false

/-- The innermost call goes on. -/
theorem AsyncTaskExecutor.delivers_something
    (joined : (executor.workers call.taskId).Joined) (launched : call.activity ≠ .starting) :
    ∃ taskEvent next, executor.Delivers call taskEvent next := by
  cases standing : call.activity with
  | starting => exact absurd standing launched
  | extracted =>
      cases stopping : executor.stopping with
      | true => exact ⟨_, _, .dropped standing joined stopping⟩
      | false => exact ⟨_, _, .delivering standing joined stopping⟩
  | delivering =>
      cases failed : (executor.outcomes call.taskId).failure with
      | some failure => exact ⟨_, _, .failureFound standing failed⟩
      | none =>
          cases alive : executor.receivers call.completion.receiver with
          | false => exact ⟨_, _, .successSkipped standing failed alive⟩
          | true =>
              cases present : (executor.outcomes call.taskId).result with
              | none => exact ⟨_, _, .resultMissing standing failed alive present⟩
              | some result => exact ⟨_, _, .successCalled standing failed alive present⟩
  | succeeding => exact ⟨_, _, .successReturned standing⟩
  | succeeded => exact ⟨_, _, .finishedSuccessfully standing⟩
  | settled => exact ⟨_, _, .returned standing⟩
  | failing error => exact ⟨_, _, .finishedWithFailure standing⟩
  | notifying error =>
      cases alive : executor.receivers call.completion.receiver with
      | false => exact ⟨_, _, .failureSkipped standing alive⟩
      | true => exact ⟨_, _, .failureCalled standing alive⟩
  | handling error => exact ⟨_, _, .failureReturned standing⟩

theorem AsyncTaskExecutor.Delivers.own {taskEvent : TaskEvent Result} {next : Option Activity}
    (delivers : executor.Delivers call taskEvent next) (taskId : TaskId) :
    (ExecutorEvent.task taskId taskEvent).own = true := by
  cases delivers <;> rfl

theorem ExecutorRun.call_goes_on (run : ExecutorRun states receivers steps executor)
    (moving : executor.joining = false) (top : executor.calls = call :: rest) :
    ∃ event after, executor.Moves event after ∧ event.own = true := by
  by_cases starting : call.activity = .starting
  · exact ⟨_, _, .launched top moving starting, rfl⟩
  · obtain ⟨stage, -, fits⟩ := run.life call.taskId
    obtain ⟨rfl, -⟩ := fits.top top
    have detached : (TaskStage.running call.activity).detached = true := by
      revert starting
      cases call.activity <;> simp [TaskStage.detached]
    have joined := (TaskStage.threaded_of_detached detached).mp fits.worker
    obtain ⟨taskEvent, next, delivers⟩ :=
      AsyncTaskExecutor.delivers_something joined starting
    exact ⟨_, _, .delivers top moving delivers, delivers.own _⟩

/-- As long as something is still to come of a task, the executor is not stuck. -/
theorem ExecutorRun.goes_on (run : ExecutorRun states receivers steps executor)
    (running : executor.stopping = false) (coming : StillToCome executor taskId) :
    ∃ event after, executor.Moves event after ∧ event.own = true := by
  have moving : executor.joining = false := by
    by_contra joining
    have stopping := (run.joins (Bool.eq_true_of_not_eq_false joining)).1
    exact absurd (running.symm.trans stopping) nofun
  cases calls : executor.calls with
  | cons call rest => exact run.call_goes_on moving calls
  | nil =>
      cases coming with
      | called call listed own undelivered =>
          rw [calls] at listed
          cases listed
      | working worker =>
          obtain working | worked | queueing := worker
          · exact ⟨_, _, .worked (.error .nonStandard) working, rfl⟩
          · exact ⟨_, _, .readStopping worked, rfl⟩
          · exact ⟨_, _, .posted queueing, rfl⟩
      | posted recorded posted =>
          have accepts : executor.AcceptsCalls := ⟨moving, by rw [calls]; nofun⟩
          cases waiting : executor.posted with
          | nil =>
              rw [waiting] at posted
              cases posted
          | cons first later =>
              cases found : executor.tasks first with
              | some completion => exact ⟨_, _, .extracted accepts waiting found, rfl⟩
              | none => exact ⟨_, _, .stale accepts waiting found, rfl⟩

/-! ## What runs and their steps keep -/

/-- The event loop is not inside a call for the task. -/
def Idle (executor : AsyncTaskExecutor Result) (taskId : TaskId) : Prop :=
  ∀ call ∈ executor.calls, call.taskId ≠ taskId

structure TasksDelivered (steps : List (ExecutorStep Result))
    (executor : AsyncTaskExecutor Result) : Prop where
  one_in_flight {state : StateId} {one other : TaskId} :
    executor.InFlight state one → executor.InFlight state other → one = other
  delivered_at_most_once (taskId : TaskId) : (lifeOf steps taskId).countP (·.isDelivery) ≤ 1
  delivered_once {taskId : TaskId} {completion : TaskCompletion} :
    executor.stopping = false → .started completion ∈ lifeOf steps taskId →
      ((lifeOf steps taskId).countP (·.isDelivery) = 1 ↔ ¬StillToCome executor taskId)
  goes_on {taskId : TaskId} : executor.stopping = false → StillToCome executor taskId →
    ∃ event after, executor.Moves event after ∧ event.own = true
  finished_at_most_once (taskId : TaskId) : (lifeOf steps taskId).countP (·.isVerdict) ≤ 1
  finished_once {taskId : TaskId} :
    (lifeOf steps taskId).countP (·.isDelivery) = 1 → Idle executor taskId →
      (lifeOf steps taskId).countP (·.isVerdict) = 1
  failure_called_iff {taskId : TaskId} {completion : TaskCompletion} :
    .started completion ∈ lifeOf steps taskId → Idle executor taskId →
      executor.receivers completion.receiver = true →
      ((∃ error, .failureCalled error ∈ lifeOf steps taskId) ↔
        ∃ error, .finishedWithFailure error ∈ lifeOf steps taskId)

theorem ExecutorRun.delivered (run : ExecutorRun states receivers steps executor) :
    TasksDelivered steps executor where
  one_in_flight := run.exclusive.alone
  delivered_at_most_once taskId := by
    obtain ⟨stage, life, -⟩ := run.life taskId
    rw [life.deliveries]
    exact stage.deliveries_le_one
  delivered_once {taskId completion} running started := by
    obtain ⟨stage, life, fits⟩ := run.life taskId
    rw [life.deliveries]
    refine ⟨fits.come, fun come => ?_⟩
    by_contra undelivered
    have born : stage ≠ .unborn := fun unborn => by
      rw [life.unborn_iff.mp unborn] at started
      cases started
    have none := stage.deliveries_le_one
    exact come (fits.still_to_come born running (by omega))
  goes_on := run.goes_on
  finished_at_most_once taskId := by
    obtain ⟨stage, life, -⟩ := run.life taskId
    rw [life.verdicts]
    exact stage.verdicts_le_one
  finished_once {taskId} delivered idle := by
    obtain ⟨stage, life, fits⟩ := run.life taskId
    rw [life.deliveries] at delivered
    rw [life.verdicts]
    cases stage with
    | running activity =>
        obtain ⟨call, listed, own, -⟩ := fits.listed
        exact absurd own (idle call listed)
    | finished ending => rfl
    | _ => cases delivered
  failure_called_iff {taskId completion} started idle alive := by
    obtain ⟨stage, life, fits⟩ := run.life taskId
    simp only [life.failure_called_iff, life.finished_with_failure_iff]
    cases stage with
    | running activity =>
        obtain ⟨call, listed, own, -⟩ := fits.listed
        exact absurd own (idle call listed)
    | finished ending =>
        cases ending with
        | succeeded => simp
        | failed error => simp
        | unheard error =>
            have skipped : .failureSkipped ∈ lifeOf steps taskId := by
              rw [life.unheard_iff]
              exact ⟨error, rfl⟩
            exact absurd ((run.unheard started skipped).symm.trans alive) nofun
    | _ => simp

structure StepKept (steps : List (ExecutorStep Result)) (before : AsyncTaskExecutor Result)
    (event : ExecutorEvent Result) (after : AsyncTaskExecutor Result) : Prop where
  refused {completion : TaskCompletion} : event = .refused completion → after = before
  accepted {taskId : TaskId} {completion : TaskCompletion} :
    event = .task taskId (.started completion) →
      before.stopping = false ∧ ∀ other, ¬before.InFlight completion.state other
  delivery_begins {taskId : TaskId} : event = .task taskId .delivering → before.stopping = false
  record_removed {taskId : TaskId} {result : Result} {error : String} :
    event = .task taskId (.successCalled result) ∨ event = .task taskId (.failureCalled error) →
      before.tasks taskId = none
  succeeds {taskId : TaskId} {completion : TaskCompletion} :
    event = .task taskId .finishedSuccessfully → .started completion ∈ lifeOf steps taskId →
      (.successReturned ∈ lifeOf steps taskId ∨ .successSkipped ∈ lifeOf steps taskId) ∧
      ∀ uiState, before.states completion.state = some uiState → uiState.status = .loading ∧
        after.states completion.state = some { uiState with status := .succeeded }
  success_skipped {taskId : TaskId} {completion : TaskCompletion} :
    event = .task taskId .successSkipped → .started completion ∈ lifeOf steps taskId →
      before.receivers completion.receiver = false
  fails {taskId : TaskId} {completion : TaskCompletion} {error : String} :
    event = .task taskId (.finishedWithFailure error) →
      .started completion ∈ lifeOf steps taskId →
      FailsWith (lifeOf steps taskId) error ∧
      ∀ uiState, before.states completion.state = some uiState → uiState.status = .loading ∧
        after.states completion.state = some { status := .failed, error }
  failure_called {taskId : TaskId} {error : String} :
    event = .task taskId (.failureCalled error) →
      .finishedWithFailure error ∈ lifeOf steps taskId
  states_written {state : StateId} : after.states state ≠ before.states state →
    (∃ taskId completion, event = .task taskId (.started completion) ∧
      completion.state = state) ∨
    (∃ taskId taskEvent, event = .task taskId taskEvent ∧ taskEvent.isVerdict = true ∧
      before.InFlight state taskId) ∨ event = .stateDestroyed state

theorem is_loading_iff {uiState : UiTaskState} :
    uiState.isLoading = true ↔ uiState.status = .loading :=
  decide_eq_true_iff

/-- While a task is in flight its state, if it still exists, is loading. -/
theorem ExecutorRun.loading {uiState : UiTaskState}
    (run : ExecutorRun states receivers steps executor) (top : executor.calls = call :: rest)
    (unsettled : call.activity.unsettled = true)
    (found : executor.states call.completion.state = some uiState) :
    uiState.status = .loading := by
  have flying : executor.InFlight call.completion.state call.taskId :=
    .inr ⟨call, top ▸ List.mem_cons_self, rfl, unsettled, rfl⟩
  exact is_loading_iff.mp (run.exclusive.loading flying found)

/-- The completion of the innermost call is the one its task was started with. -/
theorem ExecutorRun.completion_of (run : ExecutorRun states receivers steps executor)
    (top : executor.calls = call :: rest)
    (started : .started completion ∈ lifeOf steps call.taskId) : completion = call.completion := by
  obtain ⟨stage, life, -⟩ := run.life call.taskId
  exact life.started_once started (run.holds.called (top ▸ List.mem_cons_self))

/-- The life of the innermost call's task. -/
theorem ExecutorRun.life_of_top (run : ExecutorRun states receivers steps executor)
    (top : executor.calls = call :: rest) :
    TaskLife (lifeOf steps call.taskId) (.running call.activity) := by
  obtain ⟨stage, life, fits⟩ := run.life call.taskId
  exact (fits.top top).1 ▸ life

theorem ExecutorRun.record_removed {taskEvent : TaskEvent Result} {next : Option Activity}
    (run : ExecutorRun states receivers steps executor) (top : executor.calls = call :: rest)
    (delivers : executor.Delivers call taskEvent next) : executor.tasks call.taskId = none := by
  obtain ⟨stage, -, fits⟩ := run.life call.taskId
  obtain ⟨rfl, -⟩ := fits.top top
  have out := TaskStage.recorded_of_detached delivers.detached
  exact Option.not_isSome_iff_eq_none.mp fun still =>
    absurd (out.symm.trans (fits.recorded still)) nofun

theorem AsyncTaskExecutor.Moves.states_written (moves : before.Moves event after)
    (written : after.states state ≠ before.states state) :
    (∃ taskId completion, event = .task taskId (.started completion) ∧
      completion.state = state) ∨
    (∃ taskId taskEvent, event = .task taskId taskEvent ∧ taskEvent.isVerdict = true ∧
      before.InFlight state taskId) ∨ event = .stateDestroyed state := by
  cases moves with
  | @started completion uiState accepts found alive accepted =>
      refine .inl ⟨_, completion, rfl, ?_⟩
      by_contra apart
      exact written (Function.update_of_ne (Ne.symm apart) _ _)
  | launchFailed failure top moving starting =>
      refine absurd ?_ written
      unfold AsyncTaskExecutor.launchFailed AsyncTaskExecutor.queueTaskCompletion
      split <;> rfl
  | @delivers call rest taskEvent next top moving delivers =>
      have own : state = call.completion.state := by
        by_contra apart
        exact written (Function.update_of_ne apart _ _)
      subst own
      have flying (unsettled : call.activity.unsettled = true) :
          before.InFlight call.completion.state call.taskId :=
        .inr ⟨call, top ▸ List.mem_cons_self, rfl, unsettled, rfl⟩
      cases delivers with
      | finishedSuccessfully succeeded =>
          exact .inr (.inl ⟨_, _, rfl, rfl, flying (succeeded ▸ rfl)⟩)
      | finishedWithFailure failing =>
          exact .inr (.inl ⟨_, _, rfl, rfl, flying (failing ▸ rfl)⟩)
      | _ =>
          refine absurd ((Function.update_self _ _ _).trans ?_) written
          cases before.states call.completion.state <;> rfl
  | stateDestroyed other accepts =>
      have own : state = other := by
        by_contra apart
        exact written (Function.update_of_ne apart _ _)
      exact .inr (.inr (own ▸ rfl))
  | _ => exact absurd rfl written

theorem ExecutorRun.step_kept (run : ExecutorRun states receivers steps before)
    (moves : before.Moves event after) : StepKept steps before event after where
  refused {completion} := by
    rintro rfl
    cases moves with
    | refused completion accepts found alive refuses => rfl
  accepted {taskId completion} := by
    rintro rfl
    cases moves with
    | started completion accepts found alive accepted =>
        obtain ⟨running, unloaded⟩ := AsyncTaskExecutor.refuses_false_iff.mp accepted
        refine ⟨running, fun other flying => ?_⟩
        exact absurd ((run.exclusive.loading flying found).symm.trans unloaded) nofun
    | delivers top moving delivers => cases delivers
  delivery_begins {taskId} := by
    rintro rfl
    cases moves with
    | delivers top moving delivers =>
        cases delivers with
        | delivering extracted joined stopping => exact stopping
  record_removed {taskId result error} := by
    rintro (rfl | rfl)
    all_goals
      cases moves with
      | delivers top moving delivers => exact run.record_removed top delivers
  succeeds {taskId completion} := by
    rintro rfl started
    cases moves with
    | delivers top moving delivers =>
        cases delivers with
        | finishedSuccessfully succeeded =>
            obtain rfl := run.completion_of top started
            have life := run.life_of_top top
            rw [succeeded] at life
            refine ⟨life.before_success, fun uiState found => ?_⟩
            refine ⟨run.loading top (succeeded ▸ rfl) found, ?_⟩
            exact (Function.update_self _ _ _).trans (by rw [found]; rfl)
  success_skipped {taskId completion} := by
    rintro rfl started
    cases moves with
    | delivers top moving delivers =>
        cases delivers with
        | successSkipped delivering unfailed destroyed =>
            rw [run.completion_of top started]
            exact destroyed
  fails {taskId completion error} := by
    rintro rfl started
    cases moves with
    | delivers top moving delivers =>
        cases delivers with
        | finishedWithFailure failing =>
            obtain rfl := run.completion_of top started
            have life := run.life_of_top top
            rw [failing] at life
            refine ⟨life.before_failure, fun uiState found => ?_⟩
            refine ⟨run.loading top (failing ▸ rfl) found, ?_⟩
            exact (Function.update_self _ _ _).trans (by rw [found]; rfl)
  failure_called {taskId error} := by
    rintro rfl
    cases moves with
    | delivers top moving delivers =>
        cases delivers with
        | failureCalled notifying alive =>
            have life := run.life_of_top top
            rw [notifying] at life
            exact life.finished_with_failure_iff.mpr (.inl rfl)
  states_written := moves.states_written

/-- In every run each task is delivered as it should be, and so it is after each next step. -/
theorem async_tasks_delivered (run : ExecutorRun states receivers steps before) :
    TasksDelivered steps before ∧
      ∀ event after, before.Moves event after → StepKept steps before event after :=
  ⟨run.delivered, fun _ _ moves => run.step_kept moves⟩

theorem unlaunched_task_delivered :
    ∃ (steps : List (ExecutorStep Unit)) (executor : AsyncTaskExecutor Unit),
      lifeOf steps 1 = [.finishedWithFailure "no thread", .failureFound (.runtime "no thread"),
        .delivering, .extracted, .launchFailed (.runtime "no thread") false, .started ⟨0, 0⟩] ∧
      TasksDelivered steps executor ∧
      ∀ event after, executor.Moves event after → StepKept steps executor event after := by
  have created : ExecutorRun (fun _ => some {}) (fun _ => true) []
    ({ states := fun _ => some {}, receivers := fun _ => true } : AsyncTaskExecutor Unit) := .start
  have started := created.step (.started ⟨0, 0⟩ ⟨rfl, nofun⟩ rfl rfl rfl)
  have failed := started.step (.launchFailed (.runtime "no thread") rfl rfl rfl)
  have extracted := failed.step (.extracted ⟨rfl, nofun⟩ rfl rfl)
  have delivering := extracted.step (.delivers rfl rfl (.delivering rfl (.inl rfl) rfl))
  have found := delivering.step (.delivers rfl rfl (.failureFound rfl rfl))
  have finished := found.step (.delivers rfl rfl (.finishedWithFailure rfl))
  exact ⟨_, _, rfl, async_tasks_delivered finished⟩

end CryptoDeal.Async
