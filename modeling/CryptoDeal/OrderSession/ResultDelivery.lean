import CryptoDeal.OrderSession.EntryLifecycle

/-!
# Delivery of action results

A result is merged only while its entry still has the revision that the action
was started with. The entry's own action never changes that revision, but its
monitoring does: the continuation of an accepted submission, a wait that fails
while a refresh is in flight, and an OCO wait that names neither child. Results
that arrive after one of these are dropped, and only those are.
-/

namespace CryptoDeal.OrderSession

open DealService OrderStatusUtil Interaction OrderSessionModel

variable {Effect : Type} {Answer : Effect → Type} {event : SessionEvent Effect Answer}
  {services : ExchangerType → DealServiceCalls Effect Answer}
  {session after : OrderSessionModel} {entryId : EntryId} {entry before moved : Entry}

/-! ## Displaced actions -/

/-- The event raises the entry's revision under its action and leaves the entry open. -/
inductive Displaces (entry : Entry) : SessionEvent Effect Answer → Prop where
  | continued {call : QueuedCall} (continues : call.Continues entry) :
      Displaces entry (.runQueuedCall call)
  | waitFailed {task : SessionTask} {history : History Effect Answer} {failure : ServiceFailure}
      (waiting : entry.status = .waiting) (waited : task.waited = some (entry.id, entry.revision))
      (refreshing : entry.action = .refreshing) :
      Displaces entry (.completeTask task history (.error failure))
  | waitUnidentified {exchangerType : ExchangerType} {ocoInfo : OcoInfo}
      {history : History Effect Answer} {result : OcoWaitResult}
      (waiting : entry.status = .waiting)
      (unidentified : entry.updateOcoChildrenAfterCompletion result = none) :
      Displaces entry (.completeTask (.ocoWait entry.id entry.revision exchangerType ocoInfo)
        history (.ok result))

/-- Since the entry last was idle, some step displaced it. -/
def ActionDisplaced (entryId : EntryId) : List (SessionStep Effect Answer) → Prop
  | [] => False
  | (session, event) :: steps =>
      ∃ entry, session.findEntry entryId = some entry ∧ entry.action ≠ .none ∧
        (Displaces entry event ∨ ActionDisplaced entryId steps)

theorem action_displaced_cons {steps : List (SessionStep Effect Answer)}
    (found : session.findEntry entryId = some entry) (busy : entry.action ≠ .none) :
    ActionDisplaced entryId ((session, event) :: steps) ↔
      Displaces entry event ∨ ActionDisplaced entryId steps := by
  constructor
  · rintro ⟨known, foundKnown, _, displaced⟩
    obtain rfl := Option.some.inj (found.symm.trans foundKnown)
    exact displaced
  · intro displaced
    exact ⟨entry, found, busy, displaced⟩

theorem not_action_displaced_of_idle {steps : List (SessionStep Effect Answer)}
    (found : session.findEntry entryId = some entry) (idle : entry.action = .none) :
    ¬ ActionDisplaced entryId ((session, event) :: steps) := by
  rintro ⟨known, foundKnown, busy, _⟩
  obtain rfl := Option.some.inj (found.symm.trans foundKnown)
  exact busy idle

/-! ## Displacing raises the revision -/

theorem QueuedCall.Continues.own {call : QueuedCall} (continues : call.Continues entry)
    (other : call.Continues before) : entry.id = before.id := by
  cases call with
  | continueAfterBasicAcceptance entryId => exact continues.1.trans other.1.symm
  | continueAfterOcoAcceptance entryId => exact continues.1.trans other.1.symm

theorem QueuedOutcome.raises {call : QueuedCall} (outcome : QueuedOutcome session call after)
    (indexed : session.Indexed) (found : session.findEntry entry.id = some entry)
    (continues : call.Continues entry) :
    ∃ moved, after.findEntry entry.id = some moved ∧ entry.revision < moved.revision := by
  cases outcome with
  | ignored idle => exact absurd continues (idle entry found)
  | @filled other foundOther addressed accepted filled =>
      rw [addressed] at continues
      obtain ⟨sameId, _, _, _, unfilled⟩ := continues
      rw [← sameId, found] at foundOther
      obtain rfl := Option.some.inj foundOther
      exact absurd filled unfilled
  | @refused other foundOther continuesOther failure =>
      rw [continuesOther.own continues, found] at foundOther
      obtain rfl := Option.some.inj foundOther
      refine ⟨Publication.entryChange.stamp (session.clock 0)
        { entry with status := .monitoringFailed, error := failure }, ?_, Nat.lt_succ_self _⟩
      rw [failMonitoring, indexed.find_publish, if_pos rfl, found]
      rfl
  | @waiting other foundOther continuesOther task waits actionless fits failure =>
      rw [continuesOther.own continues, found] at foundOther
      obtain rfl := Option.some.inj foundOther
      rcases find_start_wait indexed found task failure with
        ⟨now, started, _⟩ | ⟨publication, now, later, refused, _⟩
      · exact ⟨_, started, Nat.lt_succ_self _⟩
      · refine ⟨_, refused, ?_⟩
        cases publication with
        | entryChange => exact Nat.lt_succ_of_lt (Nat.lt_succ_self _)
        | entryActionChange => exact Nat.lt_succ_self _

theorem fail_order_wait_raises (indexed : session.Indexed)
    (found : session.findEntry entryId = some entry)
    (current : entry.isCurrentWaitingRevision entry.revision)
    (refreshing : entry.action = .refreshing) (failure : String) :
    ∃ moved, (session.failOrderWait entryId entry.revision failure).findEntry entryId =
      some moved ∧ entry.revision < moved.revision := by
  refine ⟨_, indexed.find_updated (fail_order_wait_keeps_id entry.revision failure) found, ?_⟩
  have shown : ¬ (entry.action = .cancelling ∨ entry.action = .cancellingAll) := by
    rw [refreshing]
    nofun
  simp only [Reaction.run, current, if_true, if_neg shown]
  exact Nat.lt_succ_self _

theorem finish_oco_wait_raises (indexed : session.Indexed)
    (found : session.findEntry entryId = some entry)
    (current : entry.isCurrentWaitingRevision entry.revision) {result : OcoWaitResult}
    (unidentified : entry.updateOcoChildrenAfterCompletion result = none) :
    ∃ moved, (session.finishOcoWait entryId entry.revision result).findEntry entryId =
      some moved ∧ entry.revision < moved.revision := by
  refine ⟨_, indexed.find_updated (finish_oco_wait_keeps_id entry.revision result) found, ?_⟩
  simp only [Reaction.run, current, if_true, unidentified]
  exact Nat.lt_succ_self _

theorem Occurs.displaces_raises (occurs : Occurs services session event after)
    (indexed : session.Indexed) (running : session.stopping = false)
    (found : session.findEntry entry.id = some entry) (displaces : Displaces entry event) :
    ∃ moved, after.findEntry entry.id = some moved ∧ entry.revision < moved.revision := by
  cases displaces with
  | continued continues =>
      cases occurs with
      | runQueuedCall queued =>
          exact (run_queued_call_outcome _ _).raises indexed.frame found continues
  | @waitFailed task history failure waiting waited refreshing =>
      obtain ⟨earlier, later, inFlight, rfl⟩ := occurs.completed
      have current : entry.isCurrentWaitingRevision entry.revision := by
        simp [Entry.isCurrentWaitingRevision, waiting]
      let remaining : OrderSessionModel := { session with tasks := earlier ++ later }
      have stillRunning : remaining.stopping = false := running
      have marked : (remaining.setTaskState task.slot
          { status := .failed, error := getFailureMessage failure }).Indexed := indexed.frame
      rw [complete_task_delivers stillRunning]
      cases task with
      | orderWait waitEntry waitRevision exchangerType symbol orderId =>
          cases waited
          exact fail_order_wait_raises marked found current refreshing _
      | ocoWait waitEntry waitRevision exchangerType ocoInfo =>
          cases waited
          exact fail_order_wait_raises marked found current refreshing _
      | submitBasic entryId draft => cases waited
      | submitOco entryId draft => cases waited
      | refresh exchangerType request => cases waited
      | cancelBasic exchangerType request => cases waited
      | cancelOco exchangerType request ocoInfo => cases waited
      | cancelAll contextId exchangerType symbol requests => cases waited
  | @waitUnidentified exchangerType ocoInfo history result waiting unidentified =>
      obtain ⟨earlier, later, inFlight, rfl⟩ := occurs.completed
      have current : entry.isCurrentWaitingRevision entry.revision := by
        simp [Entry.isCurrentWaitingRevision, waiting]
      let remaining : OrderSessionModel := { session with tasks := earlier ++ later }
      have stillRunning : remaining.stopping = false := running
      have indexedToo : remaining.Indexed := indexed.frame
      rw [complete_task_delivers stillRunning]
      exact finish_oco_wait_raises indexedToo found current unidentified

/-! ## Unsent entries -/

/-- A submission in flight has no order yet. -/
def Entry.Unsent (entry : Entry) : Prop :=
  entry.status = .submitting →
    entry.acceptedOrder = none ∧ entry.acceptedOco = none ∧ entry.terminalOrder = none

theorem EntryChange.still_submitting (change : EntryChange event before moved)
    (submitting : moved.status = .submitting) :
    before.status = .submitting ∧ moved.acceptedOrder = before.acceptedOrder ∧
      moved.acceptedOco = before.acceptedOco ∧ moved.terminalOrder = before.terminalOrder := by
  cases change with
  | unchanged => exact ⟨submitting, rfl, rfl, rfl⟩
  | actionTouched action message error now touches => exact ⟨submitting, rfl, rfl, rfl⟩
  | submissionFailed failure now submitting => cases submitting
  | basicAccepted orderInfo now submitting basic => cases submitting
  | ocoAccepted ocoInfo now submitting oco => cases submitting
  | filledAtAcceptance now queued accepted filled => cases submitting
  | monitoringRefused failure now queued continues => cases submitting
  | waitStarted now queued continues => cases submitting
  | waitRefused failure publication now later queued continues =>
      cases publication <;> cases submitting
  | waitFailed now completed waited current =>
      unfold waitFailurePublication at submitting
      split_ifs at submitting <;> cases submitting
  | orderWaitFinished orderInfo now completed current => cases submitting
  | ocoWaitFinished updated now completed current identified => cases submitting
  | ocoWaitUnidentified failure now completed current unidentified => cases submitting

/-- There is nothing to merge into an entry without orders. -/
theorem apply_entry_refresh_result_unsent {result : EntryRefreshResult}
    (unsent : entry.acceptedOrder = none ∧ entry.acceptedOco = none ∧ entry.terminalOrder = none)
    (asked : result.basicOrder.isSome → entry.IsOrdered) :
    entry.applyEntryRefreshResult result = (entry, false) := by
  unfold Entry.applyEntryRefreshResult
  split
  · split
    next orderInfo answered =>
        have ordered : entry.IsOrdered := by
          apply asked
          rw [answered]
          rfl
        have carried := ordered.2
        rw [unsent.1, unsent.2.2] at carried
        cases carried
    next => rfl
  · rw [Entry.applyOcoRefresh, unsent.2.1]

theorem Occurs.unsent (occurs : Occurs services session event after) (sound : session.Sound)
    (informed : session.Informed) (unsent : ∀ entry ∈ session.entries, entry.Unsent) :
    ∀ entry ∈ after.entries, entry.Unsent := by
  intro entry present submitting
  have found := (occurs.sound sound).indexed.find_of_mem present
  cases occurs.entry_origin sound found with
  | fresh unknown fresh => exact ⟨fresh.acceptedOrder, fresh.acceptedOco, fresh.terminalOrder⟩
  | @concluded before result known concludes message error now merged =>
      have same : before.id = entry.id := find_entry_id known
      have asked := occurs.knows informed concludes (same ▸ known)
      rw [merged, concluded_status] at submitting
      have submittingBefore : before.status = .submitting := by
        rcases before.apply_entry_refresh_result_status result with ⟨kept, _⟩ | filled | terminal
        · exact kept.symm.trans submitting
        · rw [filled] at submitting
          cases submitting
        · rw [terminal] at submitting
          cases submitting
      have carries := unsent before (find_entry_mem known) submittingBefore
      rw [merged, OrderSession.concluded, apply_entry_refresh_result_unsent carries asked]
      exact carries
  | @changed before known stale change =>
      obtain ⟨submittingBefore, order, oco, terminal⟩ := change.still_submitting submitting
      rw [order, oco, terminal]
      exact unsent before (find_entry_mem known) submittingBefore

theorem SessionRun.unsent {steps : List (SessionStep Effect Answer)}
    (run : SessionRun services steps session) : ∀ entry ∈ session.entries, entry.Unsent := by
  induction run with
  | start clock =>
      intro entry present
      cases present
  | step run occurs ih => exact occurs.unsent run.sound run.informed ih

theorem created_request_sent {request : EntryRefreshRequest}
    (created : entry.createEntryRefreshRequest = some request) (unsent : entry.Unsent) :
    entry.status ≠ .submitting := by
  intro submitting
  obtain ⟨order, oco, terminal⟩ := unsent submitting
  unfold Entry.createEntryRefreshRequest at created
  rw [order, oco, terminal] at created
  split at created <;> cases created

/-! ## Actions in flight -/

/-- How an entry stands to the request that its action in flight was started with. -/
structure Tracked (session : OrderSessionModel) (steps : List (SessionStep Effect Answer))
    (task : SessionTask) (request : EntryRefreshRequest) (entry : Entry) : Prop where
  action : entry.action = task.action
  busy : task.action ≠ .none
  sent : entry.status ≠ .submitting
  started : request.revision ≤ entry.revision
  displaced : session.stopping = false → ¬ entry.IsOver →
    (ActionDisplaced request.entryId steps ↔ request.revision < entry.revision)

/-- A busy entry's revision is raised by what displaces it, and else only at its end. -/
theorem EntryChange.raises (change : EntryChange event before moved)
    (sent : before.status ≠ .submitting) (busy : before.action ≠ .none) (isOpen : ¬ moved.IsOver) :
    moved.revision = before.revision ∨
      (before.revision < moved.revision ∧ Displaces before event) := by
  cases change with
  | unchanged => exact .inl rfl
  | actionTouched action message error now touches => exact .inl rfl
  | submissionFailed failure now submitting => exact absurd submitting sent
  | basicAccepted orderInfo now submitting basic => exact absurd submitting sent
  | ocoAccepted ocoInfo now submitting oco => exact absurd submitting sent
  | filledAtAcceptance now queued accepted filled => exact absurd (.inl rfl) isOpen
  | monitoringRefused failure now queued continues =>
      rw [queued]
      exact .inr ⟨Nat.lt_succ_self _, .continued continues⟩
  | waitStarted now queued continues =>
      rw [queued]
      exact .inr ⟨Nat.lt_succ_self _, .continued continues⟩
  | waitRefused failure publication now later queued continues =>
      rw [queued]
      refine .inr ⟨?_, .continued continues⟩
      cases publication with
      | entryChange => exact Nat.lt_succ_of_lt (Nat.lt_succ_self _)
      | entryActionChange => exact Nat.lt_succ_self _
  | waitFailed now completed waited current =>
      obtain ⟨waiting, sameRevision⟩ := current_waiting current
      rw [completed]
      unfold waitFailurePublication
      split_ifs with cancelling
      · exact .inl rfl
      · rw [← sameRevision] at waited
        refine .inr ⟨Nat.lt_succ_self _, .waitFailed waiting waited ?_⟩
        cases shown : before.action with
        | none => exact absurd shown busy
        | refreshing => rfl
        | cancelling => exact absurd (.inl shown) cancelling
        | cancellingAll => exact absurd (.inr shown) cancelling
  | orderWaitFinished orderInfo now completed current => exact absurd (.inl rfl) isOpen
  | ocoWaitFinished updated now completed current identified => exact absurd (.inl rfl) isOpen
  | ocoWaitUnidentified failure now completed current unidentified =>
      obtain ⟨waiting, rfl⟩ := current_waiting current
      rw [completed]
      exact .inr ⟨Nat.lt_succ_self _, .waitUnidentified waiting unidentified⟩

theorem EntryChange.revision_le (change : EntryChange event before moved) :
    before.revision ≤ moved.revision := by
  cases change with
  | unchanged => exact le_rfl
  | actionTouched action message error now touches => exact le_rfl
  | submissionFailed failure now submitting => exact Nat.le_succ _
  | basicAccepted orderInfo now submitting basic => exact Nat.le_succ _
  | ocoAccepted ocoInfo now submitting oco => exact Nat.le_succ _
  | filledAtAcceptance now queued accepted filled => exact Nat.le_succ _
  | monitoringRefused failure now queued continues => exact Nat.le_succ _
  | waitStarted now queued continues => exact Nat.le_succ _
  | waitRefused failure publication now later queued continues =>
      cases publication with
      | entryChange => exact Nat.le_succ_of_le (Nat.le_succ _)
      | entryActionChange => exact Nat.le_succ _
  | waitFailed now completed waited current =>
      unfold waitFailurePublication
      split_ifs
      · exact le_rfl
      · exact Nat.le_succ _
  | orderWaitFinished orderInfo now completed current => exact Nat.le_succ _
  | ocoWaitFinished updated now completed current identified =>
      have same : updated.revision = before.revision := (updated_children_action identified).2
      rw [← same]
      exact Nat.le_succ _
  | ocoWaitUnidentified failure now completed current unidentified => exact Nat.le_succ _

/-- An event that has nothing to do with the action keeps track of it. -/
theorem Occurs.keeps_track {steps : List (SessionStep Effect Answer)} {task : SessionTask}
    {request : EntryRefreshRequest} (occurs : Occurs services session event after)
    (sound : session.Sound) (found : session.findEntry request.entryId = some entry)
    (tracked : Tracked session steps task request entry) (untouched : ¬ event.Touches entry)
    (stale : ∀ result, ¬ event.Concludes session entry result)
    (running : after.stopping = false → session.stopping = false) :
    ∃ moved, after.findEntry request.entryId = some moved ∧
      Tracked after ((session, event) :: steps) task request moved := by
  obtain ⟨moved, foundMoved, change⟩ :=
    occurs.entry_change sound.indexed sound.distinct found stale
  have busy : entry.action ≠ .none := by
    rw [tracked.action]
    exact tracked.busy
  refine ⟨moved, foundMoved, (change.keeps_action untouched).trans tracked.action, tracked.busy,
    ?_, tracked.started.trans change.revision_le, ?_⟩
  · intro submitting
    exact tracked.sent (change.still_submitting submitting).1
  · intro stillRunning isOpen
    have wasOpen : ¬ entry.IsOver := fun wasOver => isOpen (change.stays_over wasOver)
    rw [action_displaced_cons found busy, tracked.displaced (running stillRunning) wasOpen]
    constructor
    · rintro (displaces | earlier)
      · have own := find_entry_id found
        rw [← own] at found foundMoved
        obtain ⟨raised, foundRaised, above⟩ :=
          occurs.displaces_raises sound.indexed (running stillRunning) found displaces
        obtain rfl := Option.some.inj (foundMoved.symm.trans foundRaised)
        exact lt_of_le_of_lt tracked.started above
      · exact lt_of_lt_of_le earlier change.revision_le
    · intro above
      rcases change.raises tracked.sent busy isOpen with same | ⟨_, displaces⟩
      · rw [same] at above
        exact .inr above
      · exact .inl displaces

/-! ## The invariant -/

/-- The entries that the actions in flight have requests of. -/
def OrderSessionModel.requestedIds (session : OrderSessionModel) : List EntryId :=
  session.tasks.flatMap fun task => task.requests.map EntryRefreshRequest.entryId

structure ActionsTracked (session : OrderSessionModel) (steps : List (SessionStep Effect Answer)) :
    Prop where
  distinct : session.requestedIds.Nodup
  tracked : ∀ task ∈ session.tasks, ∀ request ∈ task.requests,
    ∃ entry, session.findEntry request.entryId = some entry ∧
      Tracked session steps task request entry

theorem requested_ids_append {started : List SessionTask}
    (tasks : after.tasks = session.tasks ++ started) :
    after.requestedIds = session.requestedIds ++
      started.flatMap fun task => task.requests.map EntryRefreshRequest.entryId := by
  rw [requestedIds, tasks, List.flatMap_append]
  rfl

theorem requested_ids_unchanged {started : List SessionTask}
    (tasks : after.tasks = session.tasks ++ started)
    (actionless : ∀ task ∈ started, task.requests = []) :
    after.requestedIds = session.requestedIds := by
  rw [requested_ids_append tasks]
  have nothing : (started.flatMap fun task => task.requests.map EntryRefreshRequest.entryId) =
      [] := by
    apply List.flatMap_eq_nil_iff.2
    intro task member
    rw [actionless task member]
    rfl
  rw [nothing, List.append_nil]

/-- The completed task's requests are none of the other tasks'. -/
theorem requested_ids_around {earlier later : List SessionTask} {task : SessionTask}
    (inFlight : session.tasks = earlier ++ task :: later) :
    session.requestedIds.Perm ((task.requests.map EntryRefreshRequest.entryId) ++
      (earlier ++ later).flatMap fun task => task.requests.map EntryRefreshRequest.entryId) := by
  have rows : session.tasks.Perm (task :: (earlier ++ later)) := by
    rw [inFlight]
    exact List.perm_middle
  rw [requestedIds]
  exact rows.flatMap_right _

/-- A result that is delivered to an entry answers a request of the completed task. -/
theorem Occurs.delivered_request (occurs : Occurs services session event after)
    {result : EntryRefreshResult} (delivered : result ∈ event.results session) :
    ∃ (task : SessionTask) (history : History Effect Answer)
      (outcome : Except ServiceFailure task.Result),
      event = .completeTask task history outcome ∧ session.stopping = false ∧
        task ∈ session.tasks ∧ result.request ∈ task.requests := by
  cases occurs with
  | placeOrder draft => cases delivered
  | placeOco draft => cases delivered
  | refreshOrder entryId => cases delivered
  | cancelOrder entryId => cases delivered
  | cancelAllOpenOrders entryId => cases delivered
  | runQueuedCall queued => cases delivered
  | requestStop => cases delivered
  | @completeTask earlier later task stopRequested history outcome inFlight token ended =>
      refine ⟨task, history, outcome, rfl, ?_⟩
      cases outcome with
      | error failure => cases delivered
      | ok outcome =>
          rw [SessionEvent.results] at delivered
          split_ifs at delivered with stopping
          · cases delivered
          · refine ⟨Bool.eq_false_iff.2 stopping, ?_, ?_⟩
            · rw [inFlight]
              exact List.mem_append_right _ List.mem_cons_self
            · obtain ⟨request, member, answers⟩ :=
                answered_request (SessionTask.work_answers ended) delivered
              rw [answers.1]
              exact member

/-- An action that is not completed is not touched. -/
theorem Occurs.untouched (occurs : Occurs services session event after)
    (busy : entry.action ≠ .none)
    (apart : ∀ (task : SessionTask) (history : History Effect Answer)
      (outcome : Except ServiceFailure task.Result), event = .completeTask task history outcome →
      ∀ request ∈ task.requests, request.entryId ≠ entry.id) :
    ¬ event.Touches entry ∧ ∀ result, ¬ event.Concludes session entry result := by
  have untouched : ¬ event.Touches entry := by
    intro touches
    cases event with
    | placeOrder draft => exact touches
    | placeOco draft => exact touches
    | refreshOrder entryId => exact busy touches
    | cancelOrder entryId => exact busy touches
    | cancelAllOpenOrders entryId => exact busy touches
    | runQueuedCall call => exact touches
    | completeTask task history outcome =>
        obtain ⟨request, member, same⟩ := touches
        exact apart task history outcome rfl request member same
    | requestStop => exact touches
  refine ⟨untouched, ?_⟩
  rintro result ⟨delivered, addressed, _⟩
  obtain ⟨task, history, outcome, completed, _, _, member⟩ := occurs.delivered_request delivered
  exact apart task history outcome completed result.request member addressed

theorem ActionsTracked.survives {steps : List (SessionStep Effect Answer)}
    (actions : ActionsTracked session steps) (occurs : Occurs services session event after)
    (sound : session.Sound) (running : after.stopping = false → session.stopping = false)
    {task : SessionTask} (inFlight : task ∈ session.tasks) {request : EntryRefreshRequest}
    (member : request ∈ task.requests)
    (apart : ∀ (completed : SessionTask) (history : History Effect Answer)
      (outcome : Except ServiceFailure completed.Result),
      event = .completeTask completed history outcome →
      ∀ other ∈ completed.requests, other.entryId ≠ request.entryId) :
    ∃ entry, after.findEntry request.entryId = some entry ∧
      Tracked after ((session, event) :: steps) task request entry := by
  obtain ⟨entry, found, tracked⟩ := actions.tracked task inFlight request member
  have busy : entry.action ≠ .none := by
    rw [tracked.action]
    exact tracked.busy
  have own : entry.id = request.entryId := find_entry_id found
  obtain ⟨untouched, stale⟩ := occurs.untouched busy (own ▸ apart)
  exact occurs.keeps_track sound found tracked untouched stale running

theorem ActionsTracked.completed {steps : List (SessionStep Effect Answer)}
    (actions : ActionsTracked session steps) (sound : session.Sound) {task : SessionTask}
    {history : History Effect Answer} {outcome : Except ServiceFailure task.Result}
    (occurs : Occurs services session (.completeTask task history outcome) after) :
    ActionsTracked after ((session, .completeTask task history outcome) :: steps) := by
  obtain ⟨earlier, later, inFlight, result⟩ := occurs.completed
  have writes : Writes [] { session with tasks := earlier ++ later } after := by
    rw [result]
    exact complete_task_writes task outcome
  have tasks : after.tasks = earlier ++ later := by
    rw [writes.tasks]
    exact List.append_nil _
  have both := (requested_ids_around inFlight).nodup_iff.1 actions.distinct
  rw [List.nodup_append] at both
  constructor
  · rw [requestedIds, tasks]
    exact both.2.1
  · intro other otherInFlight request member
    rw [tasks] at otherInFlight
    have known : other ∈ session.tasks := by
      rw [inFlight]
      rcases List.mem_append.1 otherInFlight with before | behind
      · exact List.mem_append_left _ before
      · exact List.mem_append_right _ (List.mem_cons_of_mem _ behind)
    apply actions.survives occurs sound _ known member
    · intro completed _ _ same own requested
      cases same
      apply both.2.2 own.entryId (List.mem_map_of_mem requested) request.entryId
      exact List.mem_flatMap.2 ⟨other, otherInFlight, List.mem_map_of_mem member⟩
    · rw [writes.stopping]
      exact id

theorem SessionTask.busy_of_request {task : SessionTask} {request : EntryRefreshRequest}
    (member : request ∈ task.requests) : task.action ≠ .none := by
  cases task with
  | submitBasic entryId draft => cases member
  | submitOco entryId draft => cases member
  | orderWait entryId waitRevision exchangerType symbol orderId => cases member
  | ocoWait entryId waitRevision exchangerType ocoInfo => cases member
  | refresh exchangerType request => nofun
  | cancelBasic exchangerType request => nofun
  | cancelOco exchangerType request ocoInfo => nofun
  | cancelAll contextId exchangerType symbol requests => nofun

theorem ActionStarted.tracked {steps : List (SessionStep Effect Answer)} {task : SessionTask}
    (started : ActionStarted session task after)
    (unsent : ∀ entry ∈ session.entries, entry.Unsent) {request : EntryRefreshRequest}
    (member : request ∈ task.requests) :
    ∃ entry, after.findEntry request.entryId = some entry ∧
      Tracked after ((session, event) :: steps) task request entry := by
  obtain ⟨entry, now, found, idle, sameRevision, _, made, shown⟩ := started.among request member
  refine ⟨_, shown, rfl, SessionTask.busy_of_request member, ?_, le_of_eq sameRevision, ?_⟩
  · rcases made with created | ⟨_, sent⟩
    · exact created_request_sent created (unsent entry (find_entry_mem found))
    · exact sent
  · intro _ _
    constructor
    · intro displaced
      exact absurd displaced (not_action_displaced_of_idle found idle)
    · intro above
      exact absurd above (not_lt.2 (ge_of_eq sameRevision))

/-- Entries that an action starts on had none. -/
theorem ActionStarted.distinct_ids {steps : List (SessionStep Effect Answer)} {task : SessionTask}
    (started : ActionStarted session task after) (actions : ActionsTracked session steps) :
    after.requestedIds.Nodup := by
  rw [requested_ids_append started.writes.tasks, List.flatMap_cons, List.flatMap_nil,
    List.append_nil, List.nodup_append]
  refine ⟨actions.distinct, started.distinct, ?_⟩
  intro known requested added new
  rw [requestedIds, List.mem_flatMap] at requested
  obtain ⟨other, inFlight, listed⟩ := requested
  obtain ⟨request, member, rfl⟩ := List.mem_map.1 listed
  obtain ⟨request', member', rfl⟩ := List.mem_map.1 new
  intro same
  obtain ⟨entry, found, tracked⟩ := actions.tracked other inFlight request member
  obtain ⟨fresh, now, foundFresh, idle, _⟩ := started.among request' member'
  rw [same, foundFresh] at found
  obtain rfl := Option.some.inj found
  exact tracked.busy (tracked.action.symm.trans idle)

theorem Occurs.actions_tracked {steps : List (SessionStep Effect Answer)}
    (occurs : Occurs services session event after) (sound : session.Sound)
    (unsent : ∀ entry ∈ session.entries, entry.Unsent) (actions : ActionsTracked session steps) :
    ActionsTracked after ((session, event) :: steps) := by
  by_cases completes : ∃ (task : SessionTask) (history : History Effect Answer)
      (outcome : Except ServiceFailure task.Result), event = .completeTask task history outcome
  · obtain ⟨task, history, outcome, rfl⟩ := completes
    exact actions.completed sound occurs
  · have survives : (after.stopping = false → session.stopping = false) →
        ∀ task ∈ session.tasks, ∀ request ∈ task.requests,
        ∃ entry, after.findEntry request.entryId = some entry ∧
          Tracked after ((session, event) :: steps) task request entry := by
      intro running task inFlight request member
      apply actions.survives occurs sound running inFlight member
      intro completed history outcome same
      exact absurd ⟨completed, history, outcome, same⟩ completes
    cases occurs.task_change sound.indexed with
    | unchanged same =>
        subst same
        exact ⟨actions.distinct, survives id⟩
    | stopped same =>
        subst same
        exact ⟨actions.distinct, survives nofun⟩
    | submitted submitted =>
        obtain ⟨started, tasks, unanswered⟩ := submitted.tasks
        constructor
        · rw [requested_ids_unchanged tasks fun task member => (unanswered task member).2]
          exact actions.distinct
        · intro task inFlight request member
          rw [tasks] at inFlight
          rcases List.mem_append.1 inFlight with old | new
          · apply survives _ task old request member
            rw [submitted.stopping]
            exact id
          · rw [(unanswered task new).2] at member
            cases member
    | actionStarted task started =>
        constructor
        · exact started.distinct_ids actions
        · intro other inFlight request member
          rw [started.writes.tasks] at inFlight
          rcases List.mem_append.1 inFlight with old | new
          · apply survives _ other old request member
            rw [started.writes.stopping]
            exact id
          · obtain rfl := List.mem_singleton.1 new
            exact started.tracked unsent member
    | continued queued outcome =>
        obtain ⟨started, writes, actionless⟩ := queued_outcome_writes outcome
        constructor
        · rw [requested_ids_unchanged writes.tasks actionless]
          exact actions.distinct
        · intro task inFlight request member
          rw [writes.tasks] at inFlight
          rcases List.mem_append.1 inFlight with old | new
          · apply survives _ task old request member
            rw [writes.stopping]
            exact id
          · rw [actionless task new] at member
            cases member
    | completed completed inFlight result => exact absurd ⟨_, _, _, completed⟩ completes

theorem SessionRun.actions_tracked {steps : List (SessionStep Effect Answer)}
    (run : SessionRun services steps session) : ActionsTracked session steps := by
  induction run with
  | start clock =>
      constructor
      · exact List.nodup_nil
      · intro task inFlight
        cases inFlight
  | step run occurs ih => exact occurs.actions_tracked run.sound run.unsent ih

/-! ## Delivery -/

/-- The entries agree on what the exchange said about the order. -/
def Entry.SameOrder (left right : Entry) : Prop :=
  left.status = right.status ∧ left.acceptedOrder = right.acceptedOrder ∧
    left.acceptedOco = right.acceptedOco ∧ left.terminalOrder = right.terminalOrder

theorem concluded_same_order (entry : Entry) (result : EntryRefreshResult) (message error : String)
    (now : ℤ) :
    (concluded entry result message error now).SameOrder (entry.applyEntryRefreshResult result).1 := by
  unfold concluded
  dsimp only
  split_ifs <;> exact ⟨rfl, rfl, rfl, rfl⟩

theorem SessionTask.waitless_of_request {task : SessionTask} {request : EntryRefreshRequest}
    (member : request ∈ task.requests) : task.waited = none := by
  cases task with
  | submitBasic entryId draft => rfl
  | submitOco entryId draft => rfl
  | orderWait entryId waitRevision exchangerType symbol orderId => cases member
  | ocoWait entryId waitRevision exchangerType ocoInfo => cases member
  | refresh exchangerType request => rfl
  | cancelBasic exchangerType request => rfl
  | cancelOco exchangerType request ocoInfo => rfl
  | cancelAll contextId exchangerType symbol requests => rfl

/-- Completing an action changes nothing about orders but by merging. -/
theorem EntryChange.same_order {task : SessionTask} {history : History Effect Answer}
    {outcome : Except ServiceFailure task.Result} {request : EntryRefreshRequest}
    (change : EntryChange (.completeTask task history outcome) before moved)
    (sent : before.status ≠ .submitting) (member : request ∈ task.requests) :
    moved.SameOrder before := by
  cases change with
  | unchanged => exact ⟨rfl, rfl, rfl, rfl⟩
  | actionTouched action message error now touches => exact ⟨rfl, rfl, rfl, rfl⟩
  | submissionFailed failure now submitting => exact absurd submitting sent
  | basicAccepted orderInfo now submitting basic => exact absurd submitting sent
  | ocoAccepted ocoInfo now submitting oco => exact absurd submitting sent
  | filledAtAcceptance now queued accepted filled => cases queued
  | monitoringRefused failure now queued continues => cases queued
  | waitStarted now queued continues => cases queued
  | waitRefused failure publication now later queued continues => cases queued
  | waitFailed now completed waited current =>
      cases completed
      rw [SessionTask.waitless_of_request member] at waited
      cases waited
  | orderWaitFinished orderInfo now completed current =>
      cases completed
      cases member
  | ocoWaitFinished updated now completed current identified =>
      cases completed
      cases member
  | ocoWaitUnidentified failure now completed current unidentified =>
      cases completed
      cases member

/-- A result that is delivered to an entry that is not over is merged, unless the entry was
displaced since its action started and the merge would have changed something. -/
theorem action_result_applied_iff {steps : List (SessionStep Effect Answer)}
    (run : SessionRun services steps session) (occurs : Occurs services session event after)
    {result : EntryRefreshResult} (delivered : result ∈ event.results session)
    (found : session.findEntry result.request.entryId = some entry) (isOpen : ¬ entry.IsOver) :
    (∃ moved, after.findEntry result.request.entryId = some moved ∧
        moved.SameOrder (entry.applyEntryRefreshResult result).1) ↔
      ¬ ActionDisplaced result.request.entryId steps ∨
        entry.SameOrder (entry.applyEntryRefreshResult result).1 := by
  have sound := run.sound
  obtain ⟨task, history, outcome, rfl, running, inFlight, member⟩ :=
    occurs.delivered_request delivered
  obtain ⟨known, foundKnown, tracked⟩ :=
    run.actions_tracked.tracked task inFlight result.request member
  obtain rfl := Option.some.inj (found.symm.trans foundKnown)
  have own : result.request.entryId = entry.id := (find_entry_id found).symm
  by_cases current : result.request.revision = entry.revision
  · -- the entry is as the action found it
    have concludes : SessionEvent.Concludes session (.completeTask task history outcome) entry
        result := by
      refine ⟨delivered, own, ?_⟩
      simp [Entry.isEntryActionCurrent, current, SessionEvent.action, tracked.action]
    obtain ⟨message, error, now, merged⟩ :=
      occurs.entry_concluded sound.indexed sound.distinct found concludes
    have undisplaced : ¬ ActionDisplaced result.request.entryId steps := by
      rw [tracked.displaced running isOpen]
      exact not_lt.2 (ge_of_eq current)
    exact iff_of_true ⟨_, merged, concluded_same_order entry result message error now⟩
      (.inl undisplaced)
  · have displaced : ActionDisplaced result.request.entryId steps := by
      rw [tracked.displaced running isOpen]
      exact lt_of_le_of_ne tracked.started current
    have stale : ∀ other, ¬ SessionEvent.Concludes session (.completeTask task history outcome)
        entry other := by
      rintro other ⟨otherDelivered, addressed, isCurrent⟩
      obtain ⟨_, _, _, completed, _, _, otherMember⟩ := occurs.delivered_request otherDelivered
      cases completed
      have same : other.request = result.request :=
        List.inj_on_of_nodup_map (sound.distinct task inFlight) otherMember member
          (addressed.trans own.symm)
      rw [same, Entry.isEntryActionCurrent, Bool.and_eq_true, decide_eq_true_eq] at isCurrent
      exact current isCurrent.1.symm
    obtain ⟨moved, foundMoved, change⟩ :=
      occurs.entry_change sound.indexed sound.distinct found stale
    have same := change.same_order tracked.sent member
    constructor
    · rintro ⟨reached, foundReached, merged⟩
      obtain rfl := Option.some.inj (foundMoved.symm.trans foundReached)
      right
      exact ⟨same.1.symm.trans merged.1, same.2.1.symm.trans merged.2.1,
        same.2.2.1.symm.trans merged.2.2.1, same.2.2.2.symm.trans merged.2.2.2⟩
    · rintro (undisplaced | unchanged)
      · exact absurd displaced undisplaced
      · exact ⟨moved, foundMoved, same.1.trans unchanged.1, same.2.1.trans unchanged.2.1,
          same.2.2.1.trans unchanged.2.2.1, same.2.2.2.trans unchanged.2.2.2⟩

/-! ## A cancellation overtaken by its entry's continuation -/

def cancelledOrder : OrderInfo := { openOrder with status := "CANCELED" }

def cancelRequest : EntryRefreshRequest where
  entryId := 1
  revision := 2
  type := .basicOrder
  basicOrder := some { symbol := "BTCUSDT", orderId := some "1" }

def cancelTask : SessionTask := .cancelBasic .binance cancelRequest

def cancelledResult : EntryRefreshResult where
  request := cancelRequest
  basicOrder := some cancelledOrder

/-- Cancel is clicked before the event loop runs the continuation of the acceptance. -/
def cancellingSession : OrderSessionModel := (acceptedSession.cancelOrder 1).2

def overtakenSession : OrderSessionModel :=
  ({ cancellingSession with queuedCalls := [] } : OrderSessionModel).runQueuedCall
    (.continueAfterBasicAcceptance 1)

def overtakenEntry : Entry := { monitoredEntry with action := .cancelling }

def cancelAnswers : PromptAnswers where
  placed := openOrder
  cancelled := cancelledOrder
  filled := { openOrder with status := "FILLED" }

theorem overtaken_session_run :
    ∃ steps, SessionRun (promptServices cancelAnswers) steps overtakenSession := by
  obtain ⟨steps, accepted⟩ := accepted_session_run cancelAnswers rfl
  have cancelling : SessionRun (promptServices cancelAnswers) _ cancellingSession :=
    accepted.step (.cancelOrder 1)
  exact ⟨_, cancelling.continue rfl⟩

theorem overtaken_cancel_occurs :
    ∃ after, Occurs (promptServices cancelAnswers) overtakenSession
        (.completeTask cancelTask [] (.ok cancelledResult)) after ∧
      after.findEntry 1 = some { monitoredEntry with action := .none } := by
  have inFlight : overtakenSession.tasks =
      [] ++ cancelTask :: [.orderWait 1 3 .binance "BTCUSDT" "1"] := rfl
  have ended : Ends (cancelTask.work (promptServices cancelAnswers) false) []
      (.ok cancelledResult) := .start
  exact ⟨_, .complete [] _ inFlight ended, rfl⟩

/-- The exchange confirms the cancellation, and the entry goes on waiting for the order. -/
theorem confirmed_cancellation_dropped :
    ∃ (steps : List (SessionStep Empty fun _ => Unit)) (event : SessionEvent Empty fun _ => Unit)
      (after : OrderSessionModel) (moved : Entry),
      SessionRun (promptServices cancelAnswers) steps overtakenSession ∧
        Occurs (promptServices cancelAnswers) overtakenSession event after ∧
        cancelledResult ∈ event.results overtakenSession ∧
        overtakenSession.findEntry cancelledResult.request.entryId = some overtakenEntry ∧
        ¬ overtakenEntry.IsOver ∧
        (overtakenEntry.applyEntryRefreshResult cancelledResult).1.status = .terminal ∧
        after.findEntry cancelledResult.request.entryId = some moved ∧
        moved.status = .waiting := by
  obtain ⟨steps, run⟩ := overtaken_session_run
  obtain ⟨after, occurs, kept⟩ := overtaken_cancel_occurs
  refine ⟨steps, _, after, _, run, occurs, List.mem_singleton_self _, rfl, ?_, rfl, kept, rfl⟩
  nofun

/-- Clicked a moment later, the same cancellation is merged. -/
theorem confirmed_cancellation_applied :
    ∃ after moved, Occurs (promptServices cancelAnswers) (monitoredSession.cancelOrder 1).2
        (.completeTask (.cancelBasic .binance { cancelRequest with revision := 3 }) []
          (.ok { cancelledResult with request := { cancelRequest with revision := 3 } })) after ∧
      after.findEntry 1 = some moved ∧ moved.status = .terminal := by
  let result : EntryRefreshResult :=
    { cancelledResult with request := { cancelRequest with revision := 3 } }
  let waiting : Entry := { monitoredEntry with action := .cancelling }
  obtain ⟨steps, monitored⟩ := monitored_session_run cancelAnswers rfl
  have run : SessionRun (promptServices cancelAnswers)
      ((monitoredSession, .cancelOrder 1) :: steps) (monitoredSession.cancelOrder 1).2 :=
    monitored.step (.cancelOrder 1)
  have inFlight : (monitoredSession.cancelOrder 1).2.tasks =
      [.orderWait 1 3 .binance "BTCUSDT" "1"] ++ .cancelBasic .binance result.request :: [] := rfl
  have ended : Ends (SessionTask.work (promptServices cancelAnswers) false
      (.cancelBasic .binance result.request)) [] (.ok result) := .start
  have found : (monitoredSession.cancelOrder 1).2.findEntry result.request.entryId =
      some waiting := rfl
  have occurs := Occurs.complete _ _ inFlight ended
  have undisplaced : ¬ ActionDisplaced result.request.entryId
      ((monitoredSession, .cancelOrder 1) :: steps) :=
    not_action_displaced_of_idle rfl rfl
  obtain ⟨moved, foundMoved, same⟩ :=
    (action_result_applied_iff run occurs (List.mem_singleton_self result) found nofun).2
      (.inl undisplaced)
  exact ⟨_, moved, occurs, foundMoved, same.1⟩

end CryptoDeal.OrderSession
