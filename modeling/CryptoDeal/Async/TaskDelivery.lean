import CryptoDeal.Async.AsyncTaskExecutor

/-!
# The executor leads every task through its life

The map of records, the posted completions, the workers and the calls of the event
loop agree on where each task stands.
-/

namespace CryptoDeal.Async

open DealService OrderSession

namespace TaskStage

/-- The task's record is still in the map, unless `stopAndWait` has cleared it. -/
def recorded : TaskStage → Bool
  | .running .starting | .working | .worked | .queueing | .queued | .unqueued => true
  | .unborn | .running _ | .dropped | .finished _ => false

def activities : TaskStage → List Activity
  | .running activity => [activity]
  | _ => []

def Threaded : TaskStage → Worker → Prop
  | .unborn, worker | .running .starting, worker => worker = .notStarted
  | .working, worker => worker = .working
  | .worked, worker => worker = .worked
  | .queueing, worker => worker = .queueing
  | _, worker => worker.Joined

variable {stage : TaskStage} {worker : Worker}

theorem Threaded.working (threaded : stage.Threaded .working) : stage = .working := by
  unfold Threaded Worker.Joined at threaded
  split at threaded <;> simp_all

theorem Threaded.worked (threaded : stage.Threaded .worked) : stage = .worked := by
  unfold Threaded Worker.Joined at threaded
  split at threaded <;> simp_all

theorem Threaded.queueing (threaded : stage.Threaded .queueing) : stage = .queueing := by
  unfold Threaded Worker.Joined at threaded
  split at threaded <;> simp_all

/-- The record has been taken out of the map. -/
def detached : TaskStage → Bool
  | .running .starting => false
  | .running _ | .dropped | .finished _ => true
  | _ => false

theorem threaded_of_detached (detached : stage.detached = true) :
    stage.Threaded worker ↔ worker.Joined := by
  unfold TaskStage.detached at detached
  unfold Threaded
  split at detached <;> simp_all

theorem recorded_of_detached (detached : stage.detached = true) : stage.recorded = false := by
  unfold TaskStage.detached at detached
  unfold recorded
  split at detached <;> simp_all

theorem unqueued_of_detached (detached : stage.detached = true) :
    stage ≠ .unborn ∧ stage ≠ .queued ∧ stage ≠ .unqueued := by
  unfold TaskStage.detached at detached
  split at detached <;> simp_all

end TaskStage

variable {Result : Type}

/-- Where the event loop stands in a task. -/
def activitiesOf (calls : List MainCall) (taskId : TaskId) : List Activity :=
  (calls.filter (·.taskId = taskId)).map (·.activity)

theorem activities_of_self (call : MainCall) (calls : List MainCall) :
    activitiesOf (call :: calls) call.taskId =
      call.activity :: activitiesOf calls call.taskId := by
  simp [activitiesOf]

theorem activities_of_other {call : MainCall} {taskId : TaskId} (apart : taskId ≠ call.taskId)
    (calls : List MainCall) :
    activitiesOf (call :: calls) taskId = activitiesOf calls taskId := by
  simp [activitiesOf, apart.symm]

structure Fits (state : AsyncTaskExecutor Result) (taskId : TaskId) (stage : TaskStage) :
    Prop where
  unborn : state.nextTaskId ≤ taskId → stage = .unborn
  recorded : (state.tasks taskId).isSome → stage.recorded = true
  kept : stage.recorded = true → (state.tasks taskId).isSome ∨
    state.stopping = true ∧ (stage = .queued ∨ stage = .unqueued)
  worker : stage.Threaded (state.workers taskId)
  unposted : stage ≠ .queued → state.posted.count taskId = 0
  posted : stage = .queued → (state.tasks taskId).isSome → state.posted.count taskId = 1
  calls : activitiesOf state.calls taskId = stage.activities
  stopped : stage = .unqueued ∨ stage = .dropped → state.stopping = true

/-- A step that is not about a task leaves what it reads of the executor. -/
structure Untouched (before after : AsyncTaskExecutor Result) (taskId : TaskId) : Prop where
  unborn : after.nextTaskId ≤ taskId → before.nextTaskId ≤ taskId
  tasks : after.tasks taskId = before.tasks taskId
  worker : after.workers taskId = before.workers taskId
  posted : after.posted.count taskId = before.posted.count taskId
  calls : activitiesOf after.calls taskId = activitiesOf before.calls taskId
  stopping : before.stopping = true → after.stopping = true

section

variable {before after state : AsyncTaskExecutor Result} {taskId : TaskId}
  {stage next : TaskStage} {event : ExecutorEvent Result} {call : MainCall}
  {rest : List MainCall}

theorem Fits.untouched (fits : Fits before taskId stage)
    (untouched : Untouched before after taskId) : Fits after taskId stage where
  unborn born := fits.unborn (untouched.unborn born)
  recorded found := fits.recorded (untouched.tasks ▸ found)
  kept recorded := by
    rw [untouched.tasks]
    exact (fits.kept recorded).imp_right (And.imp_left untouched.stopping)
  worker := untouched.worker ▸ fits.worker
  unposted apart := untouched.posted.trans (fits.unposted apart)
  posted queued found := untouched.posted.trans (fits.posted queued (untouched.tasks ▸ found))
  calls := untouched.calls.trans fits.calls
  stopped ended := untouched.stopping (fits.stopped ended)

/-- The stage of the task that the innermost call is about. -/
theorem Fits.top (fits : Fits state call.taskId stage) (top : state.calls = call :: rest) :
    stage = .running call.activity ∧ activitiesOf rest call.taskId = [] := by
  have calls := fits.calls
  rw [top, activities_of_self] at calls
  cases stage with
  | running activity =>
      obtain ⟨same, none⟩ := List.cons.inj calls
      exact ⟨by rw [same], none⟩
  | _ => cases calls

theorem Fits.next_unborn (fits : Fits state state.nextTaskId stage) : stage = .unborn :=
  fits.unborn le_rfl

theorem Fits.queued {later : List TaskId} {completion : TaskCompletion}
    (fits : Fits state taskId stage) (posted : state.posted = taskId :: later)
    (found : state.tasks taskId = some completion) :
    stage = .queued ∧ later.count taskId = 0 := by
  have queued : stage = .queued := by
    by_contra apart
    have none := fits.unposted apart
    rw [posted, List.count_cons_self] at none
    omega
  have once := fits.posted queued (by rw [found]; rfl)
  rw [posted, List.count_cons_self] at once
  exact ⟨queued, by omega⟩

theorem AsyncTaskExecutor.Delivers.goes_on {event : TaskEvent Result} {activity : Activity}
    (delivers : state.Delivers call event (some activity)) :
    Advances (state.outcomes call.taskId) (.running call.activity) event (.running activity) ∧
      (TaskStage.running activity).detached = true := by
  cases delivers with
  | delivering extracted joined stopping => exact ⟨extracted ▸ .delivering, rfl⟩
  | failureFound delivering failed => exact ⟨delivering ▸ .failureFound failed, rfl⟩
  | successCalled delivering unfailed alive present =>
      exact ⟨delivering ▸ .successCalled unfailed present, rfl⟩
  | resultMissing delivering unfailed alive missing =>
      exact ⟨delivering ▸ .resultMissing unfailed missing, rfl⟩
  | successSkipped delivering unfailed destroyed =>
      exact ⟨delivering ▸ .successSkipped unfailed, rfl⟩
  | successReturned succeeding => exact ⟨succeeding ▸ .successReturned, rfl⟩
  | successThrew failure succeeding => exact ⟨succeeding ▸ .successThrew failure, rfl⟩
  | finishedSuccessfully succeeded => exact ⟨succeeded ▸ .finishedSuccessfully, rfl⟩
  | finishedWithFailure failing => exact ⟨failing ▸ .finishedWithFailure _, rfl⟩
  | failureCalled notifying alive => exact ⟨notifying ▸ .failureCalled _, rfl⟩

theorem AsyncTaskExecutor.Delivers.ends {event : TaskEvent Result}
    (delivers : state.Delivers call event none) :
    ∃ stage, Advances (state.outcomes call.taskId) (.running call.activity) event stage ∧
      (stage = .dropped ∧ state.stopping = true ∨ ∃ ending, stage = .finished ending) := by
  cases delivers with
  | dropped extracted joined stopping => exact ⟨_, extracted ▸ .dropped, .inl ⟨rfl, stopping⟩⟩
  | returned settled => exact ⟨.finished .succeeded, settled ▸ .returned, .inr ⟨_, rfl⟩⟩
  | @failureSkipped error notifying destroyed =>
      exact ⟨.finished (.unheard error), notifying ▸ .failureSkipped error, .inr ⟨_, rfl⟩⟩
  | @failureReturned error handling =>
      exact ⟨.finished (.failed error), handling ▸ .failureReturned error, .inr ⟨_, rfl⟩⟩

/-- A delivery's step takes the task on, its record out of the map. -/
theorem AsyncTaskExecutor.Delivers.advances {event : TaskEvent Result} {next : Option Activity}
    (delivers : state.Delivers call event next) :
    ∃ stage, Advances (state.outcomes call.taskId) (.running call.activity) event stage ∧
      stage.activities = next.toList ∧ stage.detached = true ∧
      (stage = .dropped → state.stopping = true) := by
  cases next with
  | some activity =>
      obtain ⟨advances, launched⟩ := delivers.goes_on
      exact ⟨.running activity, advances, rfl, launched, nofun⟩
  | none =>
      obtain ⟨stage, advances, ⟨rfl, stopping⟩ | ⟨ending, rfl⟩⟩ := delivers.ends
      · exact ⟨.dropped, advances, rfl, rfl, fun _ => stopping⟩
      · exact ⟨.finished ending, advances, rfl, rfl, nofun⟩

theorem AsyncTaskExecutor.Delivers.detached {event : TaskEvent Result} {next : Option Activity}
    (delivers : state.Delivers call event next) :
    (TaskStage.running call.activity).detached = true := by
  cases delivers <;> simp_all [TaskStage.detached]

/-! ## One step -/

theorem fits_started {completion : TaskCompletion} {uiState : UiTaskState}
    (fits : Fits before before.nextTaskId stage) :
    Fits (before.started completion uiState) before.nextTaskId (.running .starting) := by
  obtain rfl := fits.next_unborn
  constructor
  · intro born
    exact absurd born (by simp [AsyncTaskExecutor.started])
  · intro _
    rfl
  · intro _
    exact .inl (by simp [AsyncTaskExecutor.started])
  · exact fits.worker
  · intro _
    exact fits.unposted nofun
  · nofun
  · have none := fits.calls
    simp only [AsyncTaskExecutor.started, activitiesOf] at none ⊢
    simpa [TaskStage.activities] using none
  · nofun

theorem untouched_started {completion : TaskCompletion} {uiState : UiTaskState}
    (apart : taskId ≠ before.nextTaskId) :
    Untouched before (before.started completion uiState) taskId where
  unborn born := (Nat.le_succ _).trans born
  tasks := Function.update_of_ne apart _ _
  worker := rfl
  posted := rfl
  calls := activities_of_other apart _
  stopping := id

theorem fits_launched (fits : Fits before call.taskId stage) (top : before.calls = call :: rest)
    (starting : call.activity = .starting) :
    Fits (before.launched call.taskId rest) call.taskId .working := by
  obtain ⟨rfl, alone⟩ := fits.top top
  rw [starting] at fits
  exact {
    unborn := fun born => absurd (fits.unborn born) nofun
    recorded := fun _ => rfl
    kept := fun _ => .inl ((fits.kept rfl).resolve_right (by simp))
    worker := Function.update_self _ _ _
    unposted := fun _ => fits.unposted nofun
    posted := nofun
    calls := alone
    stopped := nofun }

theorem untouched_launched (top : before.calls = call :: rest) (apart : taskId ≠ call.taskId) :
    Untouched before (before.launched call.taskId rest) taskId where
  unborn := id
  tasks := rfl
  worker := Function.update_of_ne apart _ _
  posted := rfl
  calls := by rw [top, activities_of_other apart]; rfl
  stopping := id

theorem fits_launch_failed (failure : ServiceFailure) (fits : Fits before call.taskId stage)
    (top : before.calls = call :: rest) (starting : call.activity = .starting) :
    Fits (before.launchFailed call.taskId failure rest) call.taskId
      (if before.stopping then .unqueued else .queued) := by
  obtain ⟨rfl, alone⟩ := fits.top top
  rw [starting] at fits
  have found := (fits.kept rfl).resolve_right (by simp)
  have unposted := fits.unposted nofun
  have born : ¬before.nextTaskId ≤ call.taskId := fun born => absurd (fits.unborn born) nofun
  unfold AsyncTaskExecutor.launchFailed AsyncTaskExecutor.queueTaskCompletion
  by_cases stopping : before.stopping = true
  · rw [if_pos stopping, if_pos stopping]
    exact {
      unborn := fun unborn => absurd unborn born
      recorded := fun _ => rfl
      kept := fun _ => .inl found
      worker := .inl fits.worker
      unposted := fun _ => unposted
      posted := nofun
      calls := alone
      stopped := fun _ => stopping }
  · rw [if_neg stopping, if_neg stopping]
    exact {
      unborn := fun unborn => absurd unborn born
      recorded := fun _ => rfl
      kept := fun _ => .inl found
      worker := .inl fits.worker
      unposted := fun apart => absurd rfl apart
      posted := fun _ _ => by simp [unposted]
      calls := alone
      stopped := nofun }

theorem untouched_launch_failed (failure : ServiceFailure) (top : before.calls = call :: rest)
    (apart : taskId ≠ call.taskId) :
    Untouched before (before.launchFailed call.taskId failure rest) taskId := by
  unfold AsyncTaskExecutor.launchFailed AsyncTaskExecutor.queueTaskCompletion
  have calls : activitiesOf rest taskId = activitiesOf before.calls taskId := by
    rw [top, activities_of_other apart]
  by_cases stopping : before.stopping = true
  · rw [if_pos stopping]
    exact ⟨id, rfl, rfl, rfl, calls, id⟩
  · rw [if_neg stopping]
    exact ⟨id, rfl, rfl, by simp [apart.symm], calls, id⟩

theorem fits_worked (outcome : TaskOutcome Result) (fits : Fits before taskId stage)
    (working : before.workers taskId = .working) :
    stage = .working ∧ Fits (before.worked taskId outcome) taskId .worked := by
  obtain rfl := (working ▸ fits.worker).working
  exact ⟨rfl, {
    unborn := fun born => absurd (fits.unborn born) nofun
    recorded := fun _ => rfl
    kept := fun _ => .inl ((fits.kept rfl).resolve_right (by simp))
    worker := Function.update_self _ _ _
    unposted := fun _ => fits.unposted nofun
    posted := nofun
    calls := fits.calls
    stopped := nofun }⟩

theorem fits_read_stopping (fits : Fits before taskId stage)
    (worked : before.workers taskId = .worked) :
    stage = .worked ∧ Fits (before.readStopping taskId) taskId
      (if before.stopping then .unqueued else .queueing) := by
  obtain rfl := (worked ▸ fits.worker).worked
  have found := (fits.kept rfl).resolve_right (by simp)
  have unposted := fits.unposted nofun
  refine ⟨rfl, ?_⟩
  unfold AsyncTaskExecutor.readStopping
  by_cases stopping : before.stopping = true
  · rw [if_pos stopping, if_pos stopping]
    exact {
      unborn := fun born => absurd (fits.unborn born) nofun
      recorded := fun _ => rfl
      kept := fun _ => .inl found
      worker := .inr (Function.update_self _ _ _)
      unposted := fun _ => unposted
      posted := nofun
      calls := fits.calls
      stopped := fun _ => stopping }
  · rw [if_neg stopping, if_neg stopping]
    exact {
      unborn := fun born => absurd (fits.unborn born) nofun
      recorded := fun _ => rfl
      kept := fun _ => .inl found
      worker := Function.update_self _ _ _
      unposted := fun _ => unposted
      posted := nofun
      calls := fits.calls
      stopped := nofun }

theorem fits_posted (fits : Fits before taskId stage)
    (queueing : before.workers taskId = .queueing) :
    stage = .queueing ∧ Fits (before.post taskId) taskId .queued := by
  obtain rfl := (queueing ▸ fits.worker).queueing
  have unposted := fits.unposted nofun
  exact ⟨rfl, {
    unborn := fun born => absurd (fits.unborn born) nofun
    recorded := fun _ => rfl
    kept := fun _ => .inl ((fits.kept rfl).resolve_right (by simp))
    worker := .inr (Function.update_self _ _ _)
    unposted := fun apart => absurd rfl apart
    posted := fun _ _ => by simp [AsyncTaskExecutor.post, unposted]
    calls := fits.calls
    stopped := nofun }⟩

theorem fits_extracted {completion : TaskCompletion} {later : List TaskId}
    (fits : Fits before taskId stage) (posted : before.posted = taskId :: later)
    (found : before.tasks taskId = some completion) :
    stage = .queued ∧
      Fits (before.extract taskId completion later) taskId (.running .extracted) := by
  obtain ⟨rfl, unposted⟩ := fits.queued posted found
  exact ⟨rfl, {
    unborn := fun born => absurd (fits.unborn born) nofun
    recorded := fun still => by simp [AsyncTaskExecutor.extract] at still
    kept := nofun
    worker := fits.worker
    unposted := fun _ => unposted
    posted := nofun
    calls := by
      refine (activities_of_self ⟨taskId, completion, .extracted⟩ before.calls).trans ?_
      rw [fits.calls]
      rfl
    stopped := nofun }⟩

theorem fits_delivered {taskEvent : TaskEvent Result} {nextActivity : Option Activity}
    (fits : Fits before call.taskId stage) (top : before.calls = call :: rest)
    (delivers : before.Delivers call taskEvent nextActivity) :
    ∃ next, Advances (before.outcomes call.taskId) stage taskEvent next ∧
      Fits (before.delivered call rest taskEvent nextActivity) call.taskId next := by
  obtain ⟨rfl, alone⟩ := fits.top top
  obtain ⟨next, advances, activities, detached, stopped⟩ := delivers.advances
  have out := TaskStage.recorded_of_detached delivers.detached
  have joined := (TaskStage.threaded_of_detached delivers.detached).mp fits.worker
  have gone : (before.tasks call.taskId).isSome = false :=
    Bool.eq_false_iff.mpr fun still => absurd (out.symm.trans (fits.recorded still)) nofun
  obtain ⟨_, unqueued, counted⟩ := TaskStage.unqueued_of_detached detached
  refine ⟨next, advances, {
    unborn := fun born => absurd (fits.unborn born) nofun
    recorded := fun still => absurd (gone.symm.trans still) nofun
    kept := fun recorded => absurd
      ((TaskStage.recorded_of_detached detached).symm.trans recorded) nofun
    worker := (TaskStage.threaded_of_detached detached).mpr joined
    unposted := fun _ => fits.unposted nofun
    posted := fun queued => absurd queued unqueued
    calls := ?_
    stopped := fun ended => stopped (ended.resolve_left counted) }⟩
  rw [activities]
  cases nextActivity with
  | none => exact alone
  | some activity =>
      refine (activities_of_self { call with activity } rest).trans ?_
      rw [alone]
      rfl

theorem untouched_delivered {taskEvent : TaskEvent Result} {nextActivity : Option Activity}
    (top : before.calls = call :: rest) (apart : taskId ≠ call.taskId) :
    Untouched before (before.delivered call rest taskEvent nextActivity) taskId where
  unborn := id
  tasks := rfl
  worker := rfl
  posted := rfl
  calls := by
    rw [top, activities_of_other apart]
    cases nextActivity with
    | none => rfl
    | some activity =>
        exact activities_of_other (by exact apart : taskId ≠ { call with activity }.taskId) rest
  stopping := id

theorem fits_stale {later : List TaskId} (fits : Fits before taskId stage)
    (posted : before.posted = taskId :: later) (gone : before.tasks taskId = none) :
    Fits { before with posted := later } taskId stage := by
  have queued : stage = .queued := by
    by_contra apart
    have none := fits.unposted apart
    rw [posted, List.count_cons_self] at none
    omega
  exact {
    unborn := fits.unborn
    recorded := fits.recorded
    kept := fits.kept
    worker := fits.worker
    unposted := fun apart => absurd queued apart
    posted := fun _ found => absurd gone (Option.isSome_iff_ne_none.mp found)
    calls := fits.calls
    stopped := fits.stopped }

/-- What `stopAndWait` relies on while it joins. -/
def Joins (state : AsyncTaskExecutor Result) : Prop :=
  state.joining = true → state.stopping = true ∧ ∀ call ∈ state.calls, call.activity ≠ .starting

theorem Fits.recorded_joined (fits : Fits state taskId stage) (recorded : stage.recorded = true)
    (launched : ∀ call ∈ state.calls, call.activity ≠ .starting)
    (joined : (state.workers taskId).Joined) : stage = .queued ∨ stage = .unqueued := by
  have worker := fits.worker
  have calls := fits.calls
  unfold Worker.Joined at joined
  cases stage with
  | running activity =>
      cases activity with
      | starting =>
          have among : Activity.starting ∈ activitiesOf state.calls taskId := by
            rw [calls]
            exact List.mem_cons_self
          obtain ⟨call, listed, starting⟩ := List.mem_map.mp among
          exact absurd starting (launched call (List.mem_filter.mp listed).1)
      | _ => cases recorded
  | working | worked | queueing => simp_all [TaskStage.Threaded]
  | queued => exact .inl rfl
  | unqueued => exact .inr rfl
  | unborn | dropped | finished ending => cases recorded

theorem fits_cleared (fits : Fits before taskId stage) (joins : Joins before)
    (joining : before.joining = true)
    (joined : ∀ taskId, (before.tasks taskId).isSome → (before.workers taskId).Joined) :
    Fits before.clear taskId stage where
  unborn := fits.unborn
  recorded := nofun
  kept recorded := by
    refine .inr ((fits.kept recorded).elim (fun found => ?_) id)
    obtain ⟨stopping, launched⟩ := joins joining
    exact ⟨stopping, fits.recorded_joined recorded launched (joined taskId found)⟩
  worker := fits.worker
  unposted := fits.unposted
  posted _ := nofun
  calls := fits.calls
  stopped := fits.stopped

/-- A task either takes the step that an event records for it or stays where it is. -/
theorem AsyncTaskExecutor.Moves.fits (moves : before.Moves event after) (joins : Joins before)
    (fits : Fits before taskId stage) :
    (∃ taskEvent next, event = .task taskId taskEvent ∧
      Advances (before.outcomes taskId) stage taskEvent next ∧ Fits after taskId next) ∨
    (∀ taskEvent, event ≠ .task taskId taskEvent) ∧ Fits after taskId stage := by
  have other {acting : TaskId} {taskEvent : TaskEvent Result} (apart : taskId ≠ acting)
      (untouched : Untouched before after taskId) :
      (∀ own, ExecutorEvent.task acting taskEvent ≠ .task taskId own) ∧ Fits after taskId stage :=
    ⟨fun own same => apart (ExecutorEvent.task.inj same).1.symm, fits.untouched untouched⟩
  cases moves with
  | refused completion accepts found alive refuses => exact .inr ⟨nofun, fits⟩
  | started completion accepts found alive accepted =>
      by_cases own : taskId = before.nextTaskId
      · subst own
        obtain rfl := fits.next_unborn
        exact .inl ⟨_, _, rfl, .started _, fits_started fits⟩
      · exact .inr (other own (untouched_started own))
  | @launched call rest top moving starting =>
      by_cases own : taskId = call.taskId
      · subst own
        obtain ⟨rfl, alone⟩ := fits.top top
        exact .inl ⟨_, _, rfl, starting ▸ .launched, fits_launched fits top starting⟩
      · exact .inr (other own (untouched_launched top own))
  | @launchFailed call rest failure top moving starting =>
      by_cases own : taskId = call.taskId
      · subst own
        obtain ⟨rfl, alone⟩ := fits.top top
        exact .inl ⟨_, _, rfl, starting ▸ .launchFailed failure before.stopping,
          fits_launch_failed failure fits top starting⟩
      · exact .inr (other own (untouched_launch_failed failure top own))
  | @worked acting work working =>
      by_cases own : taskId = acting
      · subst own
        obtain ⟨rfl, after⟩ := fits_worked (.ofWork work) fits working
        exact .inl ⟨_, _, rfl, .worked _, after⟩
      · exact .inr (other own
          ⟨id, rfl, Function.update_of_ne own _ _, rfl, rfl, id⟩)
  | @readStopping acting worked =>
      by_cases own : taskId = acting
      · subst own
        obtain ⟨rfl, after⟩ := fits_read_stopping fits worked
        exact .inl ⟨_, _, rfl, .readStopping _, after⟩
      · exact .inr (other own
          ⟨id, rfl, Function.update_of_ne own _ _, rfl, rfl, id⟩)
  | @posted acting queueing =>
      by_cases own : taskId = acting
      · subst own
        obtain ⟨rfl, after⟩ := fits_posted fits queueing
        exact .inl ⟨_, _, rfl, .posted, after⟩
      · exact .inr (other own
          ⟨id, rfl, Function.update_of_ne own _ _,
            by simp [AsyncTaskExecutor.post, Ne.symm own], rfl, id⟩)
  | @extracted acting completion later accepts next found =>
      by_cases own : taskId = acting
      · subst own
        obtain ⟨rfl, after⟩ := fits_extracted fits next found
        exact .inl ⟨_, _, rfl, .extracted, after⟩
      · exact .inr (other own
          ⟨id, Function.update_of_ne own _ _, rfl,
            by simp [AsyncTaskExecutor.extract, next, Ne.symm own],
            activities_of_other own _, id⟩)
  | @stale acting later accepts next gone =>
      refine .inr ⟨nofun, ?_⟩
      by_cases own : taskId = acting
      · subst own
        exact fits_stale fits next gone
      · exact fits.untouched
          ⟨id, rfl, rfl, by simp [next, Ne.symm own], rfl, id⟩
  | @delivers call rest taskEvent next top moving delivers =>
      by_cases own : taskId = call.taskId
      · subst own
        obtain ⟨next, advances, after⟩ := fits_delivered fits top delivers
        exact .inl ⟨_, next, rfl, advances, after⟩
      · exact .inr (other own (untouched_delivered top own))
  | stopRequested accepts =>
      exact .inr ⟨nofun, fits.untouched ⟨id, rfl, rfl, rfl, rfl, fun _ => rfl⟩⟩
  | joinStarted accepts launched =>
      exact .inr ⟨nofun, fits.untouched ⟨id, rfl, rfl, rfl, rfl, fun _ => rfl⟩⟩
  | cleared joining joined => exact .inr ⟨nofun, fits_cleared fits joins joining joined⟩
  | receiverDestroyed receiver accepts =>
      exact .inr ⟨nofun, fits.untouched ⟨id, rfl, rfl, rfl, rfl, id⟩⟩
  | stateDestroyed uiState accepts =>
      exact .inr ⟨nofun, fits.untouched ⟨id, rfl, rfl, rfl, rfl, id⟩⟩

theorem AsyncTaskExecutor.Moves.joins (moves : before.Moves event after) (joins : Joins before) :
    Joins after := by
  have still (moving : before.joining = false) (same : after.joining = before.joining) :
      Joins after := fun joining => absurd (moving.symm.trans (same.symm.trans joining)) nofun
  cases moves with
  | refused completion accepts found alive refuses => exact joins
  | started completion accepts found alive accepted => exact still accepts.1 rfl
  | launched top moving starting => exact still moving rfl
  | launchFailed failure top moving starting =>
      refine still moving ?_
      unfold AsyncTaskExecutor.launchFailed AsyncTaskExecutor.queueTaskCompletion
      split <;> rfl
  | worked work working => exact joins
  | readStopping worked => exact joins
  | posted queueing => exact joins
  | extracted accepts next found => exact still accepts.1 rfl
  | stale accepts next gone => exact joins
  | delivers top moving delivers => exact still moving rfl
  | stopRequested accepts => exact still accepts.1 rfl
  | joinStarted accepts launched => exact fun _ => ⟨rfl, launched⟩
  | cleared joining joined => nofun
  | receiverDestroyed receiver accepts => exact joins
  | stateDestroyed uiState accepts => exact joins

end

/-! ## Whole runs -/

section

variable {states : StateId → Option UiTaskState} {receivers : ReceiverId → Bool}
  {steps : List (ExecutorStep Result)} {before state : AsyncTaskExecutor Result} {taskId : TaskId}

theorem life_of_own (taskEvent : TaskEvent Result) :
    lifeOf ((before, .task taskId taskEvent) :: steps) taskId =
      taskEvent :: lifeOf steps taskId := by
  simp [lifeOf]

theorem life_of_other {event : ExecutorEvent Result}
    (apart : ∀ taskEvent, event ≠ .task taskId taskEvent) :
    lifeOf ((before, event) :: steps) taskId = lifeOf steps taskId := by
  cases event with
  | task other taskEvent =>
      have unlike : other ≠ taskId := fun same => apart taskEvent (same ▸ rfl)
      simp [lifeOf, unlike]
  | _ => rfl

theorem ExecutorRun.joins (run : ExecutorRun states receivers steps state) : Joins state := by
  induction run with
  | start => nofun
  | step run moves ih => exact moves.joins ih

theorem AsyncTaskExecutor.Delivers.outcome_kept {call : MainCall} {taskEvent : TaskEvent Result}
    {next : Option Activity} (delivers : state.Delivers call taskEvent next)
    (events : List (TaskEvent Result)) :
    outcomeOf (taskEvent :: events) = outcomeOf events := by
  cases delivers <;> rfl

/-- The outcome that a task's worker and its completion share. -/
theorem ExecutorRun.outcome (run : ExecutorRun states receivers steps state) (taskId : TaskId) :
    state.outcomes taskId = outcomeOf (lifeOf steps taskId) := by
  induction run with
  | start => rfl
  | @step steps before after event run moves ih =>
      have other {acting : TaskId} {taskEvent : TaskEvent Result} (apart : taskId ≠ acting) :
          lifeOf ((before, .task acting taskEvent) :: steps) taskId = lifeOf steps taskId :=
        life_of_other fun own same => apart (ExecutorEvent.task.inj same).1.symm
      have kept {acting : TaskId} {taskEvent : TaskEvent Result}
          (kept : outcomeOf (taskEvent :: lifeOf steps taskId) = outcomeOf (lifeOf steps taskId)) :
          before.outcomes taskId =
            outcomeOf (lifeOf ((before, .task acting taskEvent) :: steps) taskId) := by
        by_cases own : taskId = acting
        · rw [ih, ← own, life_of_own, kept]
        · rw [ih, other own]
      cases moves with
      | started completion accepts found alive accepted => exact kept rfl
      | launched top moving starting => exact kept rfl
      | @launchFailed call rest failure top moving starting =>
          have written : (before.launchFailed call.taskId failure rest).outcomes =
              Function.update before.outcomes call.taskId { failure := some failure } := by
            unfold AsyncTaskExecutor.launchFailed AsyncTaskExecutor.queueTaskCompletion
            split <;> rfl
          rw [written]
          by_cases own : taskId = call.taskId
          · rw [own, Function.update_self, life_of_own]
            rfl
          · rw [Function.update_of_ne own, ih, other own]
      | @worked acting work working =>
          by_cases own : taskId = acting
          · rw [own, life_of_own]
            exact Function.update_self _ _ _
          · exact (Function.update_of_ne own _ _).trans (ih.trans (by rw [other own]))
      | readStopping worked => exact kept rfl
      | posted queueing => exact kept rfl
      | extracted accepts next found => exact kept rfl
      | delivers top moving delivers => exact kept (delivers.outcome_kept _)
      | _ => exact ih

/-- Every task lives its life, and the executor stands where the task does. -/
theorem ExecutorRun.life (run : ExecutorRun states receivers steps state) (taskId : TaskId) :
    ∃ stage, TaskLife (lifeOf steps taskId) stage ∧ Fits state taskId stage := by
  induction run with
  | start =>
      exact ⟨.unborn, .unborn, fun _ => rfl, nofun, nofun, rfl, fun _ => rfl, nofun, rfl, nofun⟩
  | step run moves ih =>
      obtain ⟨stage, life, fits⟩ := ih
      obtain ⟨taskEvent, next, rfl, advances, fits⟩ | ⟨apart, fits⟩ := moves.fits run.joins fits
      · rw [run.outcome] at advances
        exact ⟨next, life_of_own taskEvent ▸ life.step advances, fits⟩
      · exact ⟨stage, (life_of_other apart).symm ▸ life, fits⟩

end

end CryptoDeal.Async
