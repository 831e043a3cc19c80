import CryptoDeal.Async.TaskDelivery

/-!
# One task at a time for a UI state

A UI state is loading as long as a task of it is in flight, so `startTask` refuses
it, and a task leaves the flight by the write that finishes the state.
-/

namespace CryptoDeal.Async

open DealService OrderSession

/-- The task has not yet finished its state. -/
def Activity.unsettled : Activity → Bool
  | .settled | .notifying _ | .handling _ => false
  | .starting | .extracted | .delivering | .succeeding | .succeeded | .failing _ => true

def TaskStage.inFlight : TaskStage → Bool
  | .running activity => activity.unsettled
  | stage => stage.recorded

variable {Result : Type}

namespace AsyncTaskExecutor

/-- The executor has a task of the UI state that has not finished it. -/
def InFlight (executor : AsyncTaskExecutor Result) (state : StateId) (taskId : TaskId) : Prop :=
  (∃ completion, executor.tasks taskId = some completion ∧ completion.state = state) ∨
  ∃ call ∈ executor.calls, call.taskId = taskId ∧ call.activity.unsettled = true ∧
    call.completion.state = state

end AsyncTaskExecutor

variable {before after executor : AsyncTaskExecutor Result} {state : StateId} {taskId : TaskId}
  {stage : TaskStage} {event : ExecutorEvent Result} {call : MainCall} {rest : List MainCall}

theorem Fits.activity (fits : Fits executor taskId stage) (listed : call ∈ executor.calls)
    (own : call.taskId = taskId) : stage = .running call.activity := by
  have among : call.activity ∈ activitiesOf executor.calls taskId :=
    List.mem_map_of_mem (List.mem_filter.mpr ⟨listed, decide_eq_true own⟩)
  rw [fits.calls] at among
  cases stage with
  | running activity => rw [List.mem_singleton.mp among]
  | _ => cases among

theorem Fits.in_flight (fits : Fits executor taskId stage)
    (flying : executor.InFlight state taskId) : stage.inFlight = true := by
  obtain ⟨completion, found, -⟩ | ⟨call, listed, own, unsettled, -⟩ := flying
  · have recorded := fits.recorded (Option.isSome_of_eq_some found)
    cases stage with
    | running activity =>
        cases activity with
        | starting => rfl
        | _ => cases recorded
    | _ => exact recorded
  · rw [fits.activity listed own]
    exact unsettled

theorem AsyncTaskExecutor.Delivers.unsettled {taskEvent : TaskEvent Result} {activity : Activity}
    (delivers : executor.Delivers call taskEvent (some activity))
    (unsettled : activity.unsettled = true) : call.activity.unsettled = true := by
  cases delivers <;> simp_all [Activity.unsettled]

/-- A task comes into flight only by its start. -/
theorem AsyncTaskExecutor.Moves.in_flight (moves : before.Moves event after)
    (flying : after.InFlight state taskId) :
    before.InFlight state taskId ∨
      ∃ completion, event = .task taskId (.started completion) ∧ completion.state = state := by
  have fewer {calls : List MainCall} (tasks : after.tasks = before.tasks)
      (same : after.calls = calls) (subset : calls ⊆ before.calls) :
      before.InFlight state taskId := by
    unfold AsyncTaskExecutor.InFlight at flying
    rw [tasks, same] at flying
    exact flying.imp_right fun ⟨call, listed, rest⟩ => ⟨call, subset listed, rest⟩
  cases moves with
  | @started completion uiState accepts found alive accepted =>
      by_cases own : taskId = before.nextTaskId
      · obtain ⟨other, found, same⟩ | ⟨call, listed, ofTask, unsettled, same⟩ := flying
        · refine .inr ⟨completion, by rw [own], ?_⟩
          have recorded : (before.started completion uiState).tasks taskId = some completion := by
            rw [own]
            exact Function.update_self _ _ _
          rw [← same, Option.some.inj (found.symm.trans recorded)]
        · cases listed with
          | head => exact .inr ⟨completion, by rw [own], same⟩
          | tail _ listed => exact .inl (.inr ⟨call, listed, ofTask, unsettled, same⟩)
      · refine .inl ?_
        obtain ⟨other, found, same⟩ | ⟨call, listed, ofTask, unsettled, same⟩ := flying
        · exact .inl ⟨other, (Function.update_of_ne own _ _).symm.trans found, same⟩
        · cases listed with
          | head => exact absurd ofTask.symm own
          | tail _ listed => exact .inr ⟨call, listed, ofTask, unsettled, same⟩
  | launched top moving starting =>
      exact .inl (fewer rfl rfl (by rw [top]; exact List.subset_cons_self _ _))
  | launchFailed failure top moving starting =>
      refine .inl (fewer ?_ ?_ (by rw [top]; exact List.subset_cons_self _ _))
      all_goals
        unfold AsyncTaskExecutor.launchFailed AsyncTaskExecutor.queueTaskCompletion
        split <;> rfl
  | @extracted acting completion later accepts next found =>
      refine .inl ?_
      obtain ⟨other, recorded, same⟩ | ⟨call, listed, ofTask, unsettled, same⟩ := flying
      · by_cases own : taskId = acting
        · rw [own] at recorded
          exact absurd ((Function.update_self _ _ _).symm.trans recorded) nofun
        · exact .inl ⟨other, (Function.update_of_ne own _ _).symm.trans recorded, same⟩
      · cases listed with
        | head => exact .inl ⟨completion, ofTask ▸ found, same⟩
        | tail _ listed => exact .inr ⟨call, listed, ofTask, unsettled, same⟩
  | @delivers call rest taskEvent next top moving delivers =>
      cases next with
      | none => exact .inl (fewer rfl rfl (by rw [top]; exact List.subset_cons_self _ _))
      | some activity =>
          refine .inl (flying.imp_right ?_)
          rintro ⟨other, listed, ofTask, unsettled, same⟩
          rw [top]
          cases listed with
          | head =>
              exact ⟨call, List.mem_cons_self, ofTask, delivers.unsettled unsettled, same⟩
          | tail _ listed =>
              exact ⟨other, List.mem_cons_of_mem _ listed, ofTask, unsettled, same⟩
  | cleared joining joined => exact .inl (.inr (flying.resolve_left nofun))
  | _ => exact .inl flying

/-- What keeps two tasks from being in flight for one UI state. -/
structure Exclusive (executor : AsyncTaskExecutor Result) : Prop where
  alone {state : StateId} {one other : TaskId} (first : executor.InFlight state one)
    (second : executor.InFlight state other) : one = other
  loading {state : StateId} {taskId : TaskId} {uiState : UiTaskState}
    (flying : executor.InFlight state taskId) (found : executor.states state = some uiState) :
    uiState.isLoading = true

theorem AsyncTaskExecutor.refuses_false_iff {uiState : UiTaskState} :
    executor.refuses uiState = false ↔
      executor.stopping = false ∧ uiState.isLoading = false := by
  unfold AsyncTaskExecutor.refuses
  exact Bool.or_eq_false_iff

/-- A delivery's step leaves its task's state loading or takes the task out of flight. -/
theorem AsyncTaskExecutor.Delivers.settles {taskEvent : TaskEvent Result}
    {next : Option Activity} (delivers : executor.Delivers call taskEvent next) :
    (∀ uiState, AsyncTaskExecutor.settle taskEvent uiState = uiState) ∨
      call.activity.unsettled = true ∧
      ∃ activity, next = some activity ∧ activity.unsettled = false := by
  cases delivers with
  | finishedSuccessfully succeeded => exact .inr ⟨succeeded ▸ rfl, _, rfl, rfl⟩
  | finishedWithFailure failing => exact .inr ⟨failing ▸ rfl, _, rfl, rfl⟩
  | _ => exact .inl fun _ => rfl

/-- A step that starts no task and writes no state. -/
theorem Exclusive.kept (exclusive : Exclusive before)
    (flying : ∀ {state taskId}, after.InFlight state taskId → before.InFlight state taskId)
    (states : ∀ {state uiState}, after.states state = some uiState →
      before.states state = some uiState) : Exclusive after where
  alone first second := exclusive.alone (flying first) (flying second)
  loading flown found := exclusive.loading (flying flown) (states found)

theorem Exclusive.started {completion : TaskCompletion} {uiState : UiTaskState}
    (exclusive : Exclusive before) (found : before.states completion.state = some uiState)
    (accepted : before.refuses uiState = false)
    (flying : ∀ {state taskId}, (before.started completion uiState).InFlight state taskId →
      before.InFlight state taskId ∨ taskId = before.nextTaskId ∧ state = completion.state) :
    Exclusive (before.started completion uiState) := by
  have unloaded := (AsyncTaskExecutor.refuses_false_iff.mp accepted).2
  have grounded (taskId : TaskId) : ¬before.InFlight completion.state taskId := fun flown =>
    absurd ((exclusive.loading flown found).symm.trans unloaded) nofun
  constructor
  · intro state one other first second
    obtain earlier | ⟨newest, same⟩ := flying first
    · obtain earlier' | ⟨newest', same'⟩ := flying second
      · exact exclusive.alone earlier earlier'
      · exact absurd (same' ▸ earlier) (grounded one)
    · obtain earlier' | ⟨newest', same'⟩ := flying second
      · exact absurd (same ▸ earlier') (grounded other)
      · exact newest.trans newest'.symm
  · intro state taskId after flown written
    by_cases own : state = completion.state
    · subst own
      have loaded : some uiState.startLoading = some after :=
        (Function.update_self completion.state _ before.states).symm.trans written
      rw [← Option.some.inj loaded]
      rfl
    · have earlier := (flying flown).resolve_right fun newest => own newest.2
      exact exclusive.loading earlier ((Function.update_of_ne own _ _).symm.trans written)

theorem Exclusive.delivered {taskEvent : TaskEvent Result} {next : Option Activity}
    (exclusive : Exclusive before) (top : before.calls = call :: rest)
    (delivers : before.Delivers call taskEvent next)
    (flying : ∀ {state taskId}, (before.delivered call rest taskEvent next).InFlight state taskId →
      before.InFlight state taskId)
    (fits : Fits (before.delivered call rest taskEvent next) call.taskId stage) :
    Exclusive (before.delivered call rest taskEvent next) := by
  refine ⟨fun first second => exclusive.alone (flying first) (flying second), ?_⟩
  intro state taskId after flown written
  by_cases own : state = call.completion.state
  · subst own
    have written := (Function.update_self _ _ _).symm.trans written
    obtain unwritten | ⟨unsettled, activity, rfl, settled⟩ := delivers.settles
    · obtain ⟨uiState, found, rfl⟩ := Option.map_eq_some_iff.mp written
      rw [unwritten]
      exact exclusive.loading (flying flown) found
    · -- the only task in flight for the state is the one that has just finished it
      have mine : before.InFlight call.completion.state call.taskId :=
        .inr ⟨call, top ▸ List.mem_cons_self, rfl, unsettled, rfl⟩
      rw [exclusive.alone (flying flown) mine] at flown
      have landed := fits.in_flight flown
      rw [fits.activity List.mem_cons_self rfl] at landed
      exact absurd (settled.symm.trans landed) nofun
  · exact exclusive.loading (flying flown) ((Function.update_of_ne own _ _).symm.trans written)

theorem AsyncTaskExecutor.Moves.exclusive (moves : before.Moves event after)
    (exclusive : Exclusive before) (fits : ∀ taskId, ∃ stage, Fits after taskId stage) :
    Exclusive after := by
  have flying {state : StateId} {taskId : TaskId}
      (unstarted : ∀ completion, event ≠ .task taskId (.started completion))
      (flown : after.InFlight state taskId) : before.InFlight state taskId :=
    (moves.in_flight flown).resolve_right fun ⟨completion, same, _⟩ => unstarted completion same
  cases moves with
  | refused completion accepts found alive refuses => exact exclusive
  | started completion accepts found alive accepted =>
      refine exclusive.started found accepted fun {state taskId} flown => ?_
      by_cases own : taskId = before.nextTaskId
      · obtain earlier | ⟨other, recorded, same⟩ :=
          (started completion accepts found alive accepted).in_flight flown
        · exact .inl earlier
        · cases recorded
          exact .inr ⟨own, same.symm⟩
      · exact .inl (flying (fun other same => own (ExecutorEvent.task.inj same).1.symm) flown)
  | launched top moving starting => exact exclusive.kept (flying nofun) id
  | launchFailed failure top moving starting =>
      refine exclusive.kept (flying nofun) fun {state uiState} found => ?_
      unfold AsyncTaskExecutor.launchFailed AsyncTaskExecutor.queueTaskCompletion at found
      split at found <;> exact found
  | @delivers call rest taskEvent next top moving delivers =>
      obtain ⟨stage, fits⟩ := fits call.taskId
      refine exclusive.delivered top delivers (fun flown => flying ?_ flown) fits
      rintro completion same
      cases delivers <;> cases same
  | stateDestroyed uiState accepts =>
      refine exclusive.kept (flying nofun) fun {state other} found => ?_
      by_cases own : state = uiState
      · subst own
        exact absurd ((Function.update_self _ _ _).symm.trans found) nofun
      · exact (Function.update_of_ne own _ _).symm.trans found
  | _ => exact exclusive.kept (flying nofun) id

theorem ExecutorRun.exclusive {states : StateId → Option UiTaskState}
    {receivers : ReceiverId → Bool} {steps : List (ExecutorStep Result)}
    (run : ExecutorRun states receivers steps executor) : Exclusive executor := by
  induction run with
  | start =>
      have grounded {state : StateId} {taskId : TaskId} :
          ¬({ states, receivers } : AsyncTaskExecutor Result).InFlight state taskId :=
        fun flown => flown.elim nofun nofun
      exact ⟨fun first => absurd first grounded, fun flown => absurd flown grounded⟩
  | step run moves ih =>
      refine moves.exclusive ih fun taskId => ?_
      obtain ⟨stage, -, fits⟩ := (run.step moves).life taskId
      exact ⟨stage, fits⟩

end CryptoDeal.Async
