import CryptoDeal.OrderSession.WaitMatching

/-!
# Actions and the tasks they stand for

Every entry in the requests of a task in flight shows that task's action, no two
tasks have an entry in common, and no entry shows an action without such a task.
So an action ends with its task, and none starts on an entry that shows one.
-/

namespace CryptoDeal.OrderSession

open DealService OrderStatusUtil Interaction OrderSessionModel

variable {Effect : Type} {Answer : Effect → Type} {event : SessionEvent Effect Answer}
  {services : ExchangerType → DealServiceCalls Effect Answer}
  {session after : OrderSessionModel} {entryId other : EntryId} {entry before moved : Entry}

/-! ## Events beside an entry's action -/

theorem Occurs.concludes_touches (occurs : Occurs services session event after)
    {result : EntryRefreshResult} (concludes : event.Concludes session entry result) :
    event.Touches entry := by
  obtain ⟨delivered, addressed, _⟩ := concludes
  cases occurs with
  | placeOrder draft => cases delivered
  | placeOco draft => cases delivered
  | refreshOrder entryId => cases delivered
  | cancelOrder entryId => cases delivered
  | cancelAllOpenOrders entryId => cases delivered
  | runQueuedCall queued => cases delivered
  | requestStop => cases delivered
  | @completeTask earlier later task stopRequested history outcome inFlight token ended =>
      cases outcome with
      | error failure => cases delivered
      | ok outcome =>
          rw [SessionEvent.results] at delivered
          split_ifs at delivered with stopping
          · cases delivered
          · obtain ⟨request, member, answers⟩ :=
              answered_request (SessionTask.work_answers ended) delivered
            refine ⟨request, member, ?_⟩
            rw [← answers.1]
            exact addressed

theorem Occurs.keeps_action (occurs : Occurs services session event after)
    (sound : session.Sound) (found : session.findEntry other = some entry)
    (untouched : ¬ event.Touches entry) :
    ∃ moved, after.findEntry other = some moved ∧ moved.action = entry.action := by
  have stale : ∀ result, ¬ event.Concludes session entry result := by
    intro result concludes
    exact untouched (occurs.concludes_touches concludes)
  obtain ⟨moved, reached, change⟩ :=
    occurs.entry_change sound.indexed sound.distinct found stale
  exact ⟨moved, reached, change.keeps_action untouched⟩

/-! ## Completions -/

section Endings

variable {result : EntryRefreshResult} {action : Action} {message : Entry → String}
  {text error : String} {now : ℤ}

theorem concluded_action : (concluded entry result text error now).action = .none := by
  unfold concluded
  dsimp only
  split_ifs <;> rfl

/-- Whichever revision the result is for, the entry's action is over. -/
theorem finish_action_ends (shown : entry.action = action) :
    ((finishAction result action message error).run now entry).action = .none := by
  by_cases current : entry.isEntryActionCurrent result.request.revision action
  · have merged : (finishAction result action message error).run now entry =
        (concludeAction result action message error).run now entry := by
      simp only [Reaction.run, finishAction, current, if_true]
    rw [merged, run_conclude_action current]
    exact concluded_action
  · have dropped : finishAction result action message error entry =
        some ({ entry with action := .none }, .entryActionChange) := by
      rw [finishAction, if_neg current, dropAction, if_pos shown]
    rw [Reaction.run_some dropped]
    rfl

theorem end_action_ends {actionRevision : ℕ}
    (shown : entry.action = action ∨ entry.action = .none) :
    ((endAction actionRevision action text error).run now entry).action = .none := by
  by_cases same : entry.action = action
  · by_cases current : entry.revision = actionRevision
    · have isCurrent : entry.isEntryActionCurrent actionRevision action = true := by
        simp [Entry.isEntryActionCurrent, current, same]
      have ended : endAction actionRevision action text error entry =
          some ({ entry with action := .none, actionMessage := text, actionError := error },
            .entryActionChange) := by
        rw [endAction, if_neg (not_not.2 same), if_pos current, Entry.finishEntryAction,
          if_pos isCurrent]
      rw [Reaction.run_some ended]
      rfl
    · have ended : endAction actionRevision action text error entry =
          some ({ entry with action := .none }, .entryActionChange) := by
        rw [endAction, if_neg (not_not.2 same), if_neg current]
      rw [Reaction.run_some ended]
      rfl
  · rw [end_action_of_other same]
    exact shown.resolve_left same

theorem finish_cancel_all_reaction_action (shown : entry.action = .cancellingAll) :
    ((finishCancelAllReaction result).run now entry).action = .cancellingAll ∨
      ((finishCancelAllReaction result).run now entry).action = .none := by
  by_cases current : entry.isEntryActionCurrent result.request.revision .cancellingAll
  · right
    have merged : (finishCancelAllReaction result).run now entry =
        (concludeAction result .cancellingAll (cancelAllMessage result)
          (prefixedError "Cancel All accepted; " result.getEntryRefreshError)).run now entry := by
      simp only [Reaction.run, finishCancelAllReaction, current, if_true]
    rw [merged, run_conclude_action current]
    exact concluded_action
  · left
    have silent : finishCancelAllReaction result entry = none := if_neg current
    rw [Reaction.run_none silent]
    exact shown

end Endings

/-- The entry is there and its action is over. -/
def OrderSessionModel.IsIdle (session : OrderSessionModel) (entryId : EntryId) : Prop :=
  ∃ entry, session.findEntry entryId = some entry ∧ entry.action = .none

theorem finish_pair_action_idle (indexed : session.Indexed) {requests : List EntryRefreshRequest}
    (distinct : (requests.map EntryRefreshRequest.entryId).Nodup) (message error : String)
    {request : EntryRefreshRequest} (member : request ∈ requests)
    (found : session.findEntry request.entryId = some entry)
    (shown : entry.action = .cancellingAll ∨ entry.action = .none) :
    (session.finishPairAction requests message error).IsIdle request.entryId := by
  have ended : ∃ now, (session.finishPairAction requests message error).findEntry
      request.entryId =
        some ((endAction request.revision .cancellingAll message error).run now entry) :=
    indexed.find_among_updates (fun _ => keeps_id_end_action) distinct member found
  obtain ⟨now, ended⟩ := ended
  exact ⟨_, ended, end_action_ends shown⟩

theorem finish_cancel_all_idle (indexed : session.Indexed) {requests : List EntryRefreshRequest}
    {results : List EntryRefreshResult}
    (answered : results.map (fun result => result.request.entryId) =
      requests.map EntryRefreshRequest.entryId)
    (distinct : (requests.map EntryRefreshRequest.entryId).Nodup)
    {request : EntryRefreshRequest} (member : request ∈ requests)
    (found : session.findEntry request.entryId = some entry)
    (shown : entry.action = .cancellingAll) :
    (session.finishCancelAll requests results).IsIdle request.entryId := by
  have known : request.entryId ∈ results.map (fun result => result.request.entryId) := by
    rw [answered]
    exact List.mem_map_of_mem member
  obtain ⟨result, answer, addressed⟩ := List.mem_map.1 known
  rw [← addressed] at found
  obtain ⟨now, changed⟩ := indexed.find_among_updates finish_cancel_all_keeps_id
    (answered ▸ distinct) answer found
  rw [addressed, ← finish_cancel_all_entries] at changed
  have between : (results.foldl finishCancelAllEntry session).Indexed := by
    rw [finish_cancel_all_entries]
    exact indexed.update_entries results
  exact finish_pair_action_idle between distinct "Cancel All accepted" "" member changed
    (finish_cancel_all_reaction_action shown)

theorem deliver_success_idle (indexed : session.Indexed) {task : SessionTask}
    (distinct : task.DistinctRequests) {result : task.Result}
    (answers : List.Forall₂ EntryRefreshResult.AnswersTo (task.refreshResults result)
      task.requests)
    {request : EntryRefreshRequest} (member : request ∈ task.requests)
    (found : session.findEntry request.entryId = some entry)
    (shown : entry.action = task.action) :
    (session.deliverSuccess task result).IsIdle request.entryId := by
  cases task with
  | submitBasic entryId draft => cases member
  | submitOco entryId draft => cases member
  | orderWait entryId waitRevision exchangerType symbol orderId => cases member
  | ocoWait entryId waitRevision exchangerType ocoInfo => cases member
  | refresh exchangerType asked =>
      obtain rfl := List.mem_singleton.1 member
      rw [← answered_id answers] at found ⊢
      exact ⟨_, indexed.find_updated finish_action_keeps_id found, finish_action_ends shown⟩
  | cancelBasic exchangerType asked =>
      obtain rfl := List.mem_singleton.1 member
      rw [← answered_id answers] at found ⊢
      exact ⟨_, indexed.find_updated finish_action_keeps_id found, finish_action_ends shown⟩
  | cancelOco exchangerType asked ocoInfo =>
      obtain rfl := List.mem_singleton.1 member
      rw [← answered_id answers] at found ⊢
      exact ⟨_, indexed.find_updated finish_action_keeps_id found, finish_action_ends shown⟩
  | cancelAll contextId exchangerType symbol requests =>
      exact finish_cancel_all_idle indexed (answered_ids answers) distinct member found shown

theorem deliver_failure_idle (indexed : session.Indexed) {task : SessionTask}
    (distinct : task.DistinctRequests) (failure : String) {request : EntryRefreshRequest}
    (member : request ∈ task.requests)
    (found : session.findEntry request.entryId = some entry)
    (shown : entry.action = task.action) :
    (session.deliverFailure task failure).IsIdle request.entryId := by
  cases task with
  | submitBasic entryId draft => cases member
  | submitOco entryId draft => cases member
  | orderWait entryId waitRevision exchangerType symbol orderId => cases member
  | ocoWait entryId waitRevision exchangerType ocoInfo => cases member
  | refresh exchangerType asked =>
      obtain rfl := List.mem_singleton.1 member
      exact ⟨_, indexed.find_updated keeps_id_end_action found, end_action_ends (.inl shown)⟩
  | cancelBasic exchangerType asked =>
      obtain rfl := List.mem_singleton.1 member
      exact ⟨_, indexed.find_updated keeps_id_end_action found, end_action_ends (.inl shown)⟩
  | cancelOco exchangerType asked ocoInfo =>
      obtain rfl := List.mem_singleton.1 member
      exact ⟨_, indexed.find_updated keeps_id_end_action found, end_action_ends (.inl shown)⟩
  | cancelAll contextId exchangerType symbol requests =>
      exact finish_pair_action_idle indexed distinct _ _ member found (.inl shown)

/-- A completed task takes its action off every entry that it has a request of. -/
theorem complete_task_idle (indexed : session.Indexed) (running : session.stopping = false)
    {task : SessionTask} (distinct : task.DistinctRequests) {stopRequested : Bool}
    {history : History Effect Answer} {outcome : Except ServiceFailure task.Result}
    (ended : Ends (task.work services stopRequested) history outcome)
    {request : EntryRefreshRequest} (member : request ∈ task.requests)
    (found : session.findEntry request.entryId = some entry)
    (shown : entry.action = task.action) :
    (session.completeTask task outcome).IsIdle request.entryId := by
  rw [complete_task_delivers running]
  cases outcome with
  | ok result =>
      exact deliver_success_idle indexed distinct (SessionTask.work_answers ended) member found
        shown
  | error failure =>
      have marked : (session.setTaskState task.slot
          { status := .failed, error := getFailureMessage failure }).Indexed := indexed.frame
      exact deliver_failure_idle marked distinct _ member found shown

/-! ## Cancel All and its pair -/

theorem start_task_mem {task other : SessionTask}
    (inFlight : other ∈ (session.startTask task).2.tasks) : other ∈ session.tasks ∨ other = task := by
  rcases Writes.start_task session task with refused | ⟨_, writes⟩
  · rw [refused] at inFlight
    exact .inl inFlight
  · rw [writes.tasks] at inFlight
    rcases List.mem_append.1 inFlight with old | new
    · exact .inl old
    · exact .inr (List.mem_singleton.1 new)

theorem start_entry_action_mem {task other : SessionTask}
    (inFlight : other ∈ (session.startEntryAction task entryId).2.tasks) :
    other ∈ session.tasks ∨ other = task := by
  unfold startEntryAction at inFlight
  dsimp only at inFlight
  split_ifs at inFlight
  · rw [update_entry_tasks] at inFlight
    exact start_task_mem inFlight
  · exact start_task_mem inFlight

/-- What `placeOrder` and `placeOco` share. -/
theorem submit_mem {draft : EntryDraft} {task other : SessionTask} {failure : String}
    (inFlight : other ∈
      (if ((session.createEntry draft).startTask task).1 then
        ((session.createEntry draft).startTask task).2
      else
        ((session.createEntry draft).startTask task).2.failSubmission session.nextEntryId
          failure).tasks) :
    other ∈ session.tasks ∨ other = task := by
  have started : other ∈ ((session.createEntry draft).startTask task).2.tasks := by
    split_ifs at inFlight
    · exact inFlight
    · rw [failSubmission, update_entry_tasks] at inFlight
      exact inFlight
  have created : other ∈ (session.createEntry draft).tasks ∨ other = task :=
    start_task_mem started
  exact created

/-- The Cancel All task that the session starts for a context entry. -/
def OrderSessionModel.cancelAllTask (session : OrderSessionModel) (context : Entry) : SessionTask :=
  .cancelAll context.id context.exchangerType context.pair.symbol
    (session.createPairRefreshRequests context.exchangerType context.pair.symbol)

def SessionTask.isCancelAll : SessionTask → Bool
  | cancelAll _ _ _ _ => true
  | submitBasic _ _ | submitOco _ _ | orderWait _ _ _ _ _ | ocoWait _ _ _ _ | refresh _ _
  | cancelBasic _ _ | cancelOco _ _ _ => false

theorem start_pair_action_tasks (session : OrderSessionModel)
    (requests : List EntryRefreshRequest) :
    (session.startPairAction requests).tasks = session.tasks :=
  (update_entries_frame session requests).1

theorem cancel_all_open_orders_mem {other : SessionTask}
    (inFlight : other ∈ (session.cancelAllOpenOrders entryId).2.tasks) :
    other ∈ session.tasks ∨
      ∃ context ∈ session.entries, other = session.cancelAllTask context := by
  unfold cancelAllOpenOrders at inFlight
  split at inFlight
  next => exact .inl inFlight
  next context chosen =>
      obtain ⟨found, _⟩ := Option.filter_eq_some_iff.1 chosen
      have started : other ∈ (session.startTask (.cancelAll entryId context.exchangerType
          context.pair.symbol (session.createPairRefreshRequests context.exchangerType
            context.pair.symbol))).2.tasks := by
        dsimp only at inFlight
        split_ifs at inFlight
        · rw [start_pair_action_tasks] at inFlight
          exact inFlight
        · exact inFlight
      rcases start_task_mem started with old | new
      · exact .inl old
      · refine .inr ⟨context, find_entry_mem found, ?_⟩
        rw [new, cancelAllTask, find_entry_id found]

theorem SessionTask.cancel_all_waitless {task : SessionTask} (covers : task.isCancelAll) :
    task.waited = none := by
  cases task with
  | cancelAll contextId exchangerType symbol requests => rfl
  | _ => cases covers

theorem queued_outcome_mem {call : QueuedCall} (outcome : QueuedOutcome session call after)
    {task : SessionTask} (covers : task.isCancelAll) (inFlight : task ∈ after.tasks) :
    task ∈ session.tasks := by
  cases outcome with
  | ignored idle => exact inFlight
  | filled found addressed accepted filled => exact inFlight
  | refused found continues failure => exact inFlight
  | waiting found continues wait waits actionless fits failure =>
      obtain ⟨started, member, writes⟩ := start_wait_writes wait failure
      rw [writes.tasks] at inFlight
      rcases List.mem_append.1 inFlight with old | new
      · exact old
      · rcases List.mem_cons.1 member with rfl | single
        · cases new
        · rw [List.mem_singleton.1 single] at new
          rw [List.mem_singleton.1 new] at covers
          have waitless := SessionTask.cancel_all_waitless covers
          rw [waits] at waitless
          cases waitless

/-- A Cancel All in flight was in flight before or is started now. -/
theorem Occurs.cancel_all_origin (occurs : Occurs services session event after) {task : SessionTask}
    (covers : task.isCancelAll) (inFlight : task ∈ after.tasks) :
    task ∈ session.tasks ∨ ∃ context ∈ session.entries, task = session.cancelAllTask context := by
  have others : ∀ {started : SessionTask}, started.isCancelAll = false →
      (task ∈ session.tasks ∨ task = started) → task ∈ session.tasks := by
    rintro started not (old | rfl)
    · exact old
    · rw [not] at covers
      cases covers
  cases occurs with
  | placeOrder draft =>
      left
      unfold OrderSessionModel.placeOrder at inFlight
      split_ifs at inFlight
      · exact others rfl (submit_mem inFlight)
      · exact inFlight
  | placeOco draft => exact .inl (others rfl (submit_mem inFlight))
  | refreshOrder entryId =>
      left
      unfold OrderSessionModel.refreshOrder at inFlight
      split at inFlight
      · exact inFlight
      · split at inFlight
        · exact inFlight
        · exact others rfl (start_entry_action_mem inFlight)
  | cancelOrder entryId =>
      left
      unfold OrderSessionModel.cancelOrder at inFlight
      split at inFlight
      · exact inFlight
      · split at inFlight
        · exact inFlight
        · split at inFlight
          · exact others rfl (start_entry_action_mem inFlight)
          · exact others rfl (start_entry_action_mem inFlight)
  | cancelAllOpenOrders entryId => exact cancel_all_open_orders_mem inFlight
  | @runQueuedCall earlier later call queued =>
      have outcome := run_queued_call_outcome
        ({ session with queuedCalls := earlier ++ later } : OrderSessionModel) call
      exact .inl (queued_outcome_mem outcome covers inFlight)
  | completeTask known token ended =>
      left
      rw [(complete_task_writes _ _).tasks, List.append_nil] at inFlight
      rw [known]
      rcases List.mem_append.1 inFlight with before | behind
      · exact List.mem_append_left _ before
      · exact List.mem_append_right _ (List.mem_cons_of_mem _ behind)
  | requestStop => exact .inl inFlight

/-! ## The invariant -/

def SessionTask.entryIds (task : SessionTask) : List EntryId :=
  task.requests.map EntryRefreshRequest.entryId

theorem SessionTask.mem_entry_ids {task : SessionTask} :
    entryId ∈ task.entryIds ↔ ∃ request ∈ task.requests, request.entryId = entryId :=
  List.mem_map

/-- A task that works for an entry is a refresh or a cancellation. -/
theorem SessionTask.action_of_entry {task : SessionTask} (works : entryId ∈ task.entryIds) :
    task.action ≠ .none := by
  cases task with
  | submitBasic entryId draft => cases works
  | submitOco entryId draft => cases works
  | orderWait entryId waitRevision exchangerType symbol orderId => cases works
  | ocoWait entryId waitRevision exchangerType ocoInfo => cases works
  | refresh exchangerType request => exact nofun
  | cancelBasic exchangerType request => exact nofun
  | cancelOco exchangerType request ocoInfo => exact nofun
  | cancelAll contextId exchangerType symbol requests => exact nofun

/-- How the entries' actions and the tasks in flight agree. -/
structure ActionsMatch (session : OrderSessionModel) : Prop where
  marked : ∀ task ∈ session.tasks, ∀ entryId ∈ task.entryIds,
    ∃ entry, session.findEntry entryId = some entry ∧ entry.action = task.action
  attended : ∀ entryId entry, session.findEntry entryId = some entry → entry.action ≠ .none →
    ∃ task ∈ session.tasks, task.action = entry.action ∧ entryId ∈ task.entryIds
  apart : (session.tasks.flatMap SessionTask.entryIds).Nodup

namespace ActionsMatch

theorem initially (clock : ℕ → ℤ) : ActionsMatch { clock } where
  marked := by
    intro task inFlight
    cases inFlight
  attended := by
    intro entryId entry found
    cases found
  apart := List.nodup_nil

/-- Tasks without entries may come, and entries may change beside their action. -/
theorem carry (matched : ActionsMatch session) {started : List SessionTask}
    (tasks : after.tasks = session.tasks ++ started)
    (actionless : ∀ task ∈ started, task.requests = [])
    (kept : ∀ entryId entry, session.findEntry entryId = some entry →
      ∃ moved, after.findEntry entryId = some moved ∧ moved.action = entry.action)
    (origin : ∀ entryId moved, after.findEntry entryId = some moved → moved.action ≠ .none →
      ∃ entry, session.findEntry entryId = some entry) : ActionsMatch after where
  marked := by
    intro task inFlight entryId works
    rw [tasks] at inFlight
    rcases List.mem_append.1 inFlight with old | new
    · obtain ⟨entry, found, shown⟩ := matched.marked task old entryId works
      obtain ⟨moved, reached, same⟩ := kept entryId entry found
      exact ⟨moved, reached, same.trans shown⟩
    · rw [SessionTask.entryIds, actionless task new] at works
      cases works
  attended := by
    intro entryId moved reached acting
    obtain ⟨entry, found⟩ := origin entryId moved reached acting
    obtain ⟨same, sameReached, sameAction⟩ := kept entryId entry found
    obtain rfl := Option.some.inj (reached.symm.trans sameReached)
    rw [sameAction] at acting ⊢
    obtain ⟨task, inFlight, shows, works⟩ := matched.attended entryId entry found acting
    refine ⟨task, ?_, shows, works⟩
    rw [tasks]
    exact List.mem_append_left _ inFlight
  apart := by
    have nothing : started.flatMap SessionTask.entryIds = [] := by
      rw [List.flatMap_eq_nil_iff]
      intro task new
      rw [SessionTask.entryIds, actionless task new, List.map_nil]
    rw [tasks, List.flatMap_append, nothing, List.append_nil]
    exact matched.apart

theorem submitted (matched : ActionsMatch session) (indexed : session.Indexed)
    (submitted : Submitted session after) : ActionsMatch after := by
  obtain ⟨started, tasks, waitless⟩ := submitted.tasks
  apply matched.carry tasks fun task new => (waitless task new).2
  · intro entryId entry found
    have issued : entryId ≠ session.nextEntryId := Nat.ne_of_lt (indexed.issued_of_find found)
    exact ⟨entry, (submitted.beside entryId issued).trans found, rfl⟩
  · intro entryId moved reached acting
    by_cases own : entryId = session.nextEntryId
    · obtain ⟨fresh, found, isFresh⟩ := submitted.fresh
      rw [own, found] at reached
      rw [← Option.some.inj reached] at acting
      exact absurd isFresh.action acting
    · rw [submitted.beside entryId own] at reached
      exact ⟨moved, reached⟩

theorem action_started (matched : ActionsMatch session) {task : SessionTask}
    (started : ActionStarted session task after) : ActionsMatch after := by
  -- the started task takes idle entries, and every task before it only has busy ones
  have idle : ∀ entryId ∈ task.entryIds, ∃ entry, session.findEntry entryId = some entry ∧
      entry.action = .none := by
    intro entryId works
    obtain ⟨request, member, rfl⟩ := SessionTask.mem_entry_ids.1 works
    obtain ⟨entry, now, found, free, _⟩ := started.among request member
    exact ⟨entry, found, free⟩
  have shown : ∀ entryId ∈ task.entryIds, ∃ moved, after.findEntry entryId = some moved ∧
      moved.action = task.action := by
    intro entryId works
    obtain ⟨request, member, rfl⟩ := SessionTask.mem_entry_ids.1 works
    obtain ⟨entry, now, _, _, _, _, _, shown⟩ := started.among request member
    exact ⟨_, shown, rfl⟩
  have beside : ∀ entryId, entryId ∉ task.entryIds →
      after.findEntry entryId = session.findEntry entryId := by
    intro entryId free
    apply started.beside
    intro request member same
    exact free (SessionTask.mem_entry_ids.2 ⟨request, member, same⟩)
  have disjoint : ∀ old ∈ session.tasks, ∀ entryId ∈ old.entryIds, entryId ∉ task.entryIds := by
    intro old inFlight entryId works shared
    obtain ⟨entry, found, shows⟩ := matched.marked old inFlight entryId works
    obtain ⟨same, foundSame, free⟩ := idle entryId shared
    obtain rfl := Option.some.inj (found.symm.trans foundSame)
    exact SessionTask.action_of_entry works (shows.symm.trans free)
  constructor
  · intro other inFlight entryId works
    rw [started.writes.tasks] at inFlight
    rcases List.mem_append.1 inFlight with old | new
    · rw [beside entryId (disjoint other old entryId works)]
      exact matched.marked other old entryId works
    · obtain rfl := List.mem_singleton.1 new
      exact shown entryId works
  · intro entryId moved reached acting
    rw [started.writes.tasks]
    by_cases works : entryId ∈ task.entryIds
    · obtain ⟨same, reachedSame, shows⟩ := shown entryId works
      obtain rfl := Option.some.inj (reached.symm.trans reachedSame)
      exact ⟨task, List.mem_append_right _ (List.mem_singleton_self _), shows.symm, works⟩
    · rw [beside entryId works] at reached
      obtain ⟨old, inFlight, attends⟩ := matched.attended entryId moved reached acting
      exact ⟨old, List.mem_append_left _ inFlight, attends⟩
  · have own : task.entryIds.Nodup := started.distinct
    rw [started.writes.tasks, List.flatMap_append, List.flatMap_singleton, List.nodup_append]
    refine ⟨matched.apart, own, ?_⟩
    intro entryId old entryId' new same
    subst same
    obtain ⟨earlier, inFlight, works⟩ := List.mem_flatMap.1 old
    exact disjoint earlier inFlight entryId works new

theorem continued (matched : ActionsMatch session) (sound : session.Sound)
    {call : QueuedCall} (occurs : Occurs services session (.runQueuedCall call) after)
    {calls : List QueuedCall}
    (outcome : QueuedOutcome { session with queuedCalls := calls } call after) :
    ActionsMatch after := by
  obtain ⟨started, writes, actionless⟩ := queued_outcome_writes outcome
  apply matched.carry writes.tasks actionless
  · intro entryId entry found
    exact occurs.keeps_action sound found id
  · intro entryId moved reached _
    by_contra unknown
    have absent : session.findEntry entryId = none :=
      Option.eq_none_iff_forall_ne_some.2 (not_exists.1 unknown)
    rw [writes.absent absent] at reached
    cases reached

theorem completed (matched : ActionsMatch session) (sound : session.Sound)
    (running : session.stopping = false) {task : SessionTask} {history : History Effect Answer}
    {outcome : Except ServiceFailure task.Result}
    (occurs : Occurs services session (.completeTask task history outcome) after)
    {earlier later : List SessionTask} (inFlight : session.tasks = earlier ++ task :: later)
    (result : after =
      ({ session with tasks := earlier ++ later } : OrderSessionModel).completeTask task outcome) :
    ActionsMatch after := by
  have writes : Writes [] ({ session with tasks := earlier ++ later } : OrderSessionModel) after := by
    rw [result]
    exact complete_task_writes task outcome
  have tasks : after.tasks = earlier ++ later := by
    rw [writes.tasks, List.append_nil]
  have present : task ∈ session.tasks := by
    rw [inFlight]
    exact List.mem_append_right _ List.mem_cons_self
  have remains : ∀ other ∈ after.tasks, other ∈ session.tasks := by
    intro other left
    rw [tasks] at left
    rw [inFlight]
    rcases List.mem_append.1 left with before | behind
    · exact List.mem_append_left _ before
    · exact List.mem_append_right _ (List.mem_cons_of_mem _ behind)
  have apart : (task.entryIds ++ (earlier ++ later).flatMap SessionTask.entryIds).Nodup := by
    have reordered : (earlier ++ task :: later).Perm (task :: (earlier ++ later)) :=
      List.perm_middle
    have known := matched.apart
    rw [inFlight] at known
    exact (reordered.flatMap_right SessionTask.entryIds).nodup_iff.1 known
  obtain ⟨_, others, disjoint⟩ := List.nodup_append.1 apart
  have untouched : ∀ entryId entry, session.findEntry entryId = some entry →
      entryId ∉ task.entryIds →
      ¬ (.completeTask task history outcome : SessionEvent Effect Answer).Touches entry := by
    rintro entryId entry found free ⟨request, member, addressed⟩
    rw [find_entry_id found] at addressed
    exact free (SessionTask.mem_entry_ids.2 ⟨request, member, addressed⟩)
  constructor
  · intro other left entryId works
    have free : entryId ∉ task.entryIds := by
      intro shared
      rw [tasks] at left
      exact disjoint entryId shared entryId (List.mem_flatMap.2 ⟨other, left, works⟩) rfl
    obtain ⟨entry, found, shows⟩ := matched.marked other (remains other left) entryId works
    obtain ⟨moved, reached, same⟩ :=
      occurs.keeps_action sound found (untouched entryId entry found free)
    exact ⟨moved, reached, same.trans shows⟩
  · intro entryId moved reached acting
    have known : ∃ entry, session.findEntry entryId = some entry := by
      by_contra unknown
      have absent : session.findEntry entryId = none :=
        Option.eq_none_iff_forall_ne_some.2 (not_exists.1 unknown)
      rw [writes.absent absent] at reached
      cases reached
    obtain ⟨entry, found⟩ := known
    have free : entryId ∉ task.entryIds := by
      intro works
      obtain ⟨request, member, addressed⟩ := SessionTask.mem_entry_ids.1 works
      obtain ⟨same, foundSame, shows⟩ := matched.marked task present entryId works
      obtain ⟨stopRequested, ended⟩ := occurs.ended
      have indexed : ({ session with tasks := earlier ++ later } : OrderSessionModel).Indexed :=
        sound.indexed.frame
      rw [← addressed] at foundSame
      obtain ⟨idle, reachedIdle, settled⟩ := complete_task_idle indexed running
        (sound.distinct task present) ended member foundSame shows
      rw [← result, addressed] at reachedIdle
      obtain rfl := Option.some.inj (reached.symm.trans reachedIdle)
      exact acting settled
    obtain ⟨same, reachedSame, sameAction⟩ :=
      occurs.keeps_action sound found (untouched entryId entry found free)
    obtain rfl := Option.some.inj (reached.symm.trans reachedSame)
    rw [sameAction] at acting ⊢
    obtain ⟨other, attends, shows, works⟩ := matched.attended entryId entry found acting
    refine ⟨other, ?_, shows, works⟩
    rw [inFlight] at attends
    rw [tasks]
    rcases List.mem_append.1 attends with before | behind
    · exact List.mem_append_left _ before
    · rcases List.mem_cons.1 behind with rfl | behind
      · exact absurd works free
      · exact List.mem_append_right _ behind
  · rw [tasks]
    exact others

end ActionsMatch

theorem Occurs.actions_match (occurs : Occurs services session event after)
    (sound : session.Sound) (running : session.stopping = false) (matched : ActionsMatch session)
    (runningAfter : after.stopping = false) : ActionsMatch after := by
  cases occurs.task_change sound.indexed with
  | unchanged same => exact same ▸ matched
  | stopped same =>
      rw [same] at runningAfter
      cases runningAfter
  | submitted submitted => exact matched.submitted sound.indexed submitted
  | actionStarted task started => exact matched.action_started started
  | continued queued outcome =>
      subst queued
      exact matched.continued sound occurs outcome
  | completed completed inFlight result =>
      subst completed
      exact matched.completed sound running occurs inFlight result

/-- A session that stops never runs again. -/
theorem Occurs.running_before (occurs : Occurs services session event after)
    (sound : session.Sound) (running : after.stopping = false) : session.stopping = false := by
  cases occurs.task_change sound.indexed with
  | unchanged same => exact same ▸ running
  | stopped same =>
      rw [same] at running
      cases running
  | submitted submitted => exact submitted.stopping ▸ running
  | actionStarted task started => exact started.writes.stopping ▸ running
  | continued queued outcome =>
      obtain ⟨_, writes, _⟩ := queued_outcome_writes outcome
      exact writes.stopping ▸ running
  | completed completed inFlight result =>
      subst result
      rw [(complete_task_writes _ _).stopping] at running
      exact running

variable {steps : List (SessionStep Effect Answer)}

theorem SessionRun.actions_match (run : SessionRun services steps session)
    (running : session.stopping = false) : ActionsMatch session := by
  induction run with
  | start clock => exact .initially clock
  | step run occurs ih =>
      have before := occurs.running_before run.sound running
      exact occurs.actions_match run.sound before (ih before) running

/-- Every Cancel All in flight has an entry of its pair among its requests. -/
def OrderSessionModel.PairsCovered (session : OrderSessionModel) : Prop :=
  ∀ contextId exchangerType symbol requests,
    SessionTask.cancelAll contextId exchangerType symbol requests ∈ session.tasks →
    ∃ request ∈ requests, ∃ entry, session.findEntry request.entryId = some entry ∧
      isOfPair exchangerType symbol entry

theorem Occurs.pairs_covered (occurs : Occurs services session event after)
    (sound : session.Sound) (covered : session.PairsCovered) : after.PairsCovered := by
  have kept : ∀ {entryId : EntryId} {entry : Entry} {exchangerType : ExchangerType}
      {symbol : String}, session.findEntry entryId = some entry →
      isOfPair exchangerType symbol entry →
      ∃ moved, after.findEntry entryId = some moved ∧ isOfPair exchangerType symbol moved := by
    intro entryId entry exchangerType symbol found ofPair
    obtain ⟨moved, reached, succeeds⟩ := occurs.succeeds sound found
    refine ⟨moved, reached, ?_⟩
    rw [isOfPair, succeeds.exchange, Entry.pair, succeeds.draft]
    exact ofPair
  intro contextId exchangerType symbol requests inFlight
  rcases occurs.cancel_all_origin rfl inFlight with old | ⟨context, present, started⟩
  · obtain ⟨request, member, entry, found, ofPair⟩ := covered _ _ _ _ old
    obtain ⟨moved, reached, same⟩ := kept found ofPair
    exact ⟨request, member, moved, reached, same⟩
  · cases started
    have ofPair : isOfPair context.exchangerType context.pair.symbol context = true := by
      simp [isOfPair]
    have found := sound.indexed.find_of_mem present
    obtain ⟨moved, reached, same⟩ := kept found ofPair
    refine ⟨pairRequest context, ?_, moved, ?_, same⟩
    · exact List.mem_map_of_mem (List.mem_filter.2 ⟨present, ofPair⟩)
    · rw [(pair_request_frame context).1]
      exact reached

theorem SessionRun.pairs_covered (run : SessionRun services steps session) :
    session.PairsCovered := by
  induction run with
  | start clock =>
      intro contextId exchangerType symbol requests inFlight
      cases inFlight
  | step run occurs ih => exact occurs.pairs_covered run.sound ih

/-! ## No action gets stuck -/

/-- An entry shows an action only while a task in flight will end it. -/
structure Entry.Attended (entry : Entry) (session : OrderSessionModel) : Prop where
  own : entry.action = .refreshing ∨ entry.action = .cancelling →
    ∃ task ∈ session.tasks, task.slot = (entry.id, .action) ∧ task.action = entry.action ∧
      task.entryIds = [entry.id]
  pair : entry.action = .cancellingAll →
    ∃ contextId exchangerType symbol requests,
      SessionTask.cancelAll contextId exchangerType symbol requests ∈ session.tasks ∧
        ∃ request ∈ requests, request.entryId = entry.id

/-- While a Cancel All is in flight nothing else starts on the entries that it marked, and no other
Cancel All on its pair. -/
def OrderSessionModel.CancelAllExclusive (session : OrderSessionModel) : Prop :=
  ∀ contextId exchangerType symbol requests,
    SessionTask.cancelAll contextId exchangerType symbol requests ∈ session.tasks →
    (∀ request ∈ requests,
      (∃ entry, session.findEntry request.entryId = some entry ∧ entry.action = .cancellingAll) ∧
        session.refreshOrder request.entryId = (false, session) ∧
        session.cancelOrder request.entryId = (false, session)) ∧
    ∀ context ∈ session.entries, isOfPair exchangerType symbol context →
      session.cancelAllOpenOrders context.id = (false, session)

/-- Whichever way a task ends, the entries that it marked are idle then. -/
def OrderSessionModel.ActionsEnd (services : ExchangerType → DealServiceCalls Effect Answer)
    (session : OrderSessionModel) : Prop :=
  ∀ (task : SessionTask) (history : History Effect Answer)
    (outcome : Except ServiceFailure task.Result) (after : OrderSessionModel),
    Occurs services session (.completeTask task history outcome) after →
    ∀ entryId ∈ task.entryIds, after.IsIdle entryId

theorem ActionsMatch.attends (matched : ActionsMatch session)
    (found : session.findEntry entry.id = some entry) : entry.Attended session := by
  constructor
  · intro shown
    have acting : entry.action ≠ .none := by
      rcases shown with refreshing | cancelling
      · rw [refreshing]
        nofun
      · rw [cancelling]
        nofun
    obtain ⟨task, inFlight, shows, works⟩ := matched.attended entry.id entry found acting
    refine ⟨task, inFlight, ?_, shows, ?_⟩
    · cases task with
      | cancelAll contextId exchangerType symbol requests =>
          rcases shown with other | other <;> cases shows.trans other
      | refresh exchangerType request => rw [List.mem_singleton.1 works]; rfl
      | cancelBasic exchangerType request => rw [List.mem_singleton.1 works]; rfl
      | cancelOco exchangerType request ocoInfo => rw [List.mem_singleton.1 works]; rfl
      | _ => cases works
    · cases task with
      | cancelAll contextId exchangerType symbol requests =>
          rcases shown with other | other <;> cases shows.trans other
      | refresh exchangerType request => rw [List.mem_singleton.1 works]; rfl
      | cancelBasic exchangerType request => rw [List.mem_singleton.1 works]; rfl
      | cancelOco exchangerType request ocoInfo => rw [List.mem_singleton.1 works]; rfl
      | _ => cases works
  · intro shown
    have acting : entry.action ≠ .none := by
      rw [shown]
      nofun
    obtain ⟨task, inFlight, shows, works⟩ := matched.attended entry.id entry found acting
    rw [shown] at shows
    cases task with
    | cancelAll contextId exchangerType symbol requests =>
        exact ⟨contextId, exchangerType, symbol, requests, inFlight, List.mem_map.1 works⟩
    | _ => cases shows

theorem refresh_order_refused (found : session.findEntry entryId = some entry)
    (acting : entry.action ≠ .none) : session.refreshOrder entryId = (false, session) := by
  have refused : entry.canRefreshOrder = false := by simp [Entry.canRefreshOrder, acting]
  unfold refreshOrder
  rw [found, Option.filter_some, refused]
  rfl

theorem cancel_order_refused (found : session.findEntry entryId = some entry)
    (acting : entry.action ≠ .none) : session.cancelOrder entryId = (false, session) := by
  have refused : entry.canCancelOrder = false := by simp [Entry.canCancelOrder, acting]
  unfold cancelOrder
  rw [found, Option.filter_some, refused]
  rfl

theorem cancel_all_open_orders_refused {context : Entry}
    (found : session.findEntry entryId = some context) (present : entry ∈ session.entries)
    (ofPair : isOfPair context.exchangerType context.pair.symbol entry)
    (acting : entry.action ≠ .none) :
    session.cancelAllOpenOrders entryId = (false, session) := by
  have refused : session.canCancelAllOpenOrders entryId = false := by
    by_contra allowed
    exact acting (pair_idle found (by simpa using allowed) present ofPair).2.1
  simp [cancelAllOpenOrders, refused]

theorem ActionsMatch.exclusive (matched : ActionsMatch session) (sound : session.Sound)
    (covered : session.PairsCovered) : session.CancelAllExclusive := by
  intro contextId exchangerType symbol requests inFlight
  have marked : ∀ request ∈ requests, ∃ entry,
      session.findEntry request.entryId = some entry ∧ entry.action = .cancellingAll := by
    intro request member
    exact matched.marked _ inFlight _ (List.mem_map_of_mem member)
  have acts : Action.cancellingAll ≠ .none := nofun
  constructor
  · intro request member
    obtain ⟨entry, found, shown⟩ := marked request member
    exact ⟨⟨entry, found, shown⟩, refresh_order_refused found (shown ▸ acts),
      cancel_order_refused found (shown ▸ acts)⟩
  · intro context present ofPair
    obtain ⟨request, member, entry, found, sharesPair⟩ := covered _ _ _ _ inFlight
    obtain ⟨same, foundSame, shown⟩ := marked request member
    obtain rfl := Option.some.inj (found.symm.trans foundSame)
    have ofContext : isOfPair context.exchangerType context.pair.symbol entry = true := by
      simp only [isOfPair, Bool.and_eq_true, decide_eq_true_eq] at ofPair sharesPair ⊢
      exact ⟨sharesPair.1.trans ofPair.1.symm, sharesPair.2.trans ofPair.2.symm⟩
    exact cancel_all_open_orders_refused (sound.indexed.find_of_mem present)
      (find_entry_mem found) ofContext (shown ▸ acts)

theorem ActionsMatch.ends (matched : ActionsMatch session) (sound : session.Sound)
    (running : session.stopping = false) : session.ActionsEnd services := by
  intro task history outcome after occurs entryId works
  obtain ⟨request, member, rfl⟩ := SessionTask.mem_entry_ids.1 works
  obtain ⟨stopRequested, ended⟩ := occurs.ended
  obtain ⟨earlier, later, inFlight, rfl⟩ := occurs.completed
  have present : task ∈ session.tasks := by
    rw [inFlight]
    exact List.mem_append_right _ List.mem_cons_self
  obtain ⟨entry, found, shows⟩ := matched.marked task present request.entryId works
  have indexed : ({ session with tasks := earlier ++ later } : OrderSessionModel).Indexed :=
    sound.indexed.frame
  exact complete_task_idle indexed running (sound.distinct task present) ended member found shows

/-- No order action gets stuck: each has its task in flight, each task ends what it marked, and
nothing else touches what a Cancel All marked. -/
theorem order_actions_never_stuck (run : SessionRun services steps session)
    (running : session.stopping = false) :
    (∀ entry ∈ session.entries, entry.Attended session) ∧ session.CancelAllExclusive ∧
      session.ActionsEnd services := by
  have matched := run.actions_match running
  refine ⟨?_, matched.exclusive run.sound run.pairs_covered, matched.ends run.sound running⟩
  intro entry present
  exact matched.attends (run.sound.indexed.find_of_mem present)

/-! ## A Cancel All in flight -/

def cancelAllSession : OrderSessionModel := (monitoredSession.cancelAllOpenOrders 1).2

theorem cancelling_session_attended :
    (∀ entry ∈ cancelAllSession.entries, entry.action = .cancellingAll) ∧
      (∀ entry ∈ cancelAllSession.entries, entry.Attended cancelAllSession) ∧
      cancelAllSession.CancelAllExclusive ∧
      cancelAllSession.ActionsEnd (promptServices { placed := openOrder }) := by
  obtain ⟨steps, monitored⟩ := monitored_session_run { placed := openOrder } rfl
  have run := monitored.step (.cancelAllOpenOrders 1)
  exact ⟨by decide, order_actions_never_stuck run rfl⟩

end CryptoDeal.OrderSession
