import CryptoDeal.OrderSession.SessionMoves

/-!
# Tasks in flight

Which events start which tasks, and that every state of a run has its entries
indexed and its actions addressed to distinct entries.
-/

namespace CryptoDeal.OrderSession

open DealService Interaction OrderSessionModel

variable {Effect : Type} {Answer : Effect → Type} {event : SessionEvent Effect Answer}
  {session middle after : OrderSessionModel} {entryId : EntryId} {entry : Entry}

/-! ## What handlers write and start -/

/-- Only entries that were there are written, and only these tasks are started. -/
structure Writes (started : List SessionTask) (session after : OrderSessionModel) : Prop where
  indexed : session.Indexed → after.Indexed
  ids : (after.entries.map Entry.id).Perm (session.entries.map Entry.id)
  tasks : after.tasks = session.tasks ++ started
  stopping : after.stopping = session.stopping
  next : after.nextEntryId = session.nextEntryId

namespace Writes

variable {started further : List SessionTask}

theorem refl (session : OrderSessionModel) : Writes [] session session :=
  ⟨id, .refl _, (List.append_nil _).symm, rfl, rfl⟩

theorem trans (first : Writes started session middle) (second : Writes further middle after) :
    Writes (started ++ further) session after where
  indexed := fun indexed => second.indexed (first.indexed indexed)
  ids := second.ids.trans first.ids
  tasks := by rw [second.tasks, first.tasks, List.append_assoc]
  stopping := second.stopping.trans first.stopping
  next := second.next.trans first.next

theorem publish (publication : Publication) (changed : Entry) :
    Writes [] session (session.publish publication changed) :=
  ⟨fun indexed => indexed.publish, publish_ids, (List.append_nil _).symm, rfl, rfl⟩

theorem update_entry (entryId : EntryId) (reaction : Reaction) :
    Writes [] session (session.updateEntry entryId reaction) := by
  unfold updateEntry
  split
  · exact refl session
  · exact publish _ _

theorem update_entries {Item : Type} (idOf : Item → EntryId) (reactionOf : Item → Reaction)
    (items : List Item) : Writes [] session (session.updateEntries idOf reactionOf items) := by
  induction items generalizing session with
  | nil => exact refl session
  | cons item items ih => exact (update_entry _ _).trans ih

/-- The same with a queued call or a task state besides. -/
theorem framed (only : Writes started session after) {states : EntryId × TaskPart → UiTaskState}
    {queuedCalls : List QueuedCall} :
    Writes started session { after with entryTaskStates := states, queuedCalls } :=
  ⟨fun indexed => (only.indexed indexed).frame, only.ids, only.tasks, only.stopping, only.next⟩

theorem start_task (session : OrderSessionModel) (task : SessionTask) :
    session.startTask task = (false, session) ∨
      ((session.startTask task).1 = true ∧ Writes [task] session (session.startTask task).2) := by
  unfold startTask
  split_ifs
  · exact .inl rfl
  · exact .inr ⟨rfl, fun indexed => indexed.frame, .refl _, rfl, rfl, rfl⟩

theorem absent (only : Writes started session after)
    (unknown : session.findEntry entryId = none) : after.findEntry entryId = none := by
  apply KeyedRows.find_eq_none_iff.2
  intro entry present
  have known : entry.id ∈ session.entries.map Entry.id :=
    only.ids.mem_iff.1 (List.mem_map_of_mem present)
  obtain ⟨old, oldPresent, sameId⟩ := List.mem_map.1 known
  rw [← sameId]
  exact KeyedRows.find_eq_none_iff.1 unknown old oldPresent

end Writes

theorem finish_cancel_all_writes (requests : List EntryRefreshRequest)
    (results : List EntryRefreshResult) :
    Writes [] session (session.finishCancelAll requests results) := by
  have merged : Writes [] session (results.foldl finishCancelAllEntry session) := by
    rw [finish_cancel_all_entries]
    exact .update_entries _ _ results
  exact merged.trans (.update_entries _ _ requests)

theorem deliver_success_writes (task : SessionTask) (result : task.Result) :
    Writes [] session (session.deliverSuccess task result) := by
  cases task with
  | submitBasic entryId draft =>
      unfold deliverSuccess acceptBasicOrder
      dsimp only
      split_ifs
      · exact (Writes.update_entry entryId _).framed
      · exact .refl session
  | submitOco entryId draft =>
      unfold deliverSuccess acceptOco
      dsimp only
      split_ifs
      · exact (Writes.update_entry entryId _).framed
      · exact .refl session
  | orderWait entryId waitRevision exchangerType symbol orderId => exact .update_entry _ _
  | ocoWait entryId waitRevision exchangerType ocoInfo => exact .update_entry _ _
  | refresh exchangerType request => exact .update_entry _ _
  | cancelBasic exchangerType request => exact .update_entry _ _
  | cancelOco exchangerType request ocoInfo => exact .update_entry _ _
  | cancelAll contextId exchangerType symbol requests =>
      exact finish_cancel_all_writes requests result

theorem deliver_failure_writes (task : SessionTask) (failure : String) :
    Writes [] session (session.deliverFailure task failure) := by
  cases task with
  | submitBasic entryId draft => exact .update_entry _ _
  | submitOco entryId draft => exact .update_entry _ _
  | orderWait entryId waitRevision exchangerType symbol orderId => exact .update_entry _ _
  | ocoWait entryId waitRevision exchangerType ocoInfo => exact .update_entry _ _
  | refresh exchangerType request => exact .update_entry _ _
  | cancelBasic exchangerType request => exact .update_entry _ _
  | cancelOco exchangerType request ocoInfo => exact .update_entry _ _
  | cancelAll contextId exchangerType symbol requests => exact .update_entries _ _ requests

theorem complete_task_writes (task : SessionTask) (outcome : Except ServiceFailure task.Result) :
    Writes [] session (session.completeTask task outcome) := by
  unfold OrderSessionModel.completeTask
  split_ifs
  · exact .refl session
  · cases outcome with
    | ok result => exact (deliver_success_writes task result).framed
    | error failure =>
        have marked : Writes [] session (session.setTaskState task.slot
            { status := .failed, error := getFailureMessage failure }) :=
          (Writes.refl session).framed
        exact marked.trans (deliver_failure_writes task (getFailureMessage failure))

theorem start_task_running {task : SessionTask} (started : (session.startTask task).1 = true) :
    session.stopping = false := by
  unfold startTask at started
  split_ifs at started with free
  have both : session.stopping = false ∧ (session.entryTaskStates task.slot).isLoading = false := by
    simpa using free
  exact both.1

theorem start_wait_writes (task : ℕ → SessionTask) (failure : String) :
    (∃ started ∈ [[], [task (entry.revision + 1)]],
      Writes started session (session.startWait entry task failure)) := by
  unfold startWait
  dsimp only
  have published :
      Writes [] session (session.publish .entryChange { entry with status := .waiting }) :=
    .publish _ _
  rcases Writes.start_task (session.publish .entryChange { entry with status := .waiting })
    (task (entry.revision + 1)) with refused | ⟨started, writes⟩
  · rw [refused]
    exact ⟨[], by simp, published.trans (.update_entry _ _)⟩
  · rw [if_pos started]
    exact ⟨[task (entry.revision + 1)], by simp, published.trans writes⟩

/-! ## Actions -/

/-- An action's task is in flight for entries that were idle and show it from now on. -/
structure ActionStarted (session : OrderSessionModel) (task : SessionTask)
    (after : OrderSessionModel) : Prop where
  writes : Writes [task] session after
  waited : task.waited = none
  distinct : task.DistinctRequests
  running : session.stopping = false
  beside : ∀ other, (∀ request ∈ task.requests, request.entryId ≠ other) →
    after.findEntry other = session.findEntry other
  among : ∀ request ∈ task.requests, ∃ entry now,
    session.findEntry request.entryId = some entry ∧ entry.action = .none ∧
      request.revision = entry.revision ∧ task.Fits entry ∧
      (entry.createEntryRefreshRequest = some request ∨
        (request = entry.emptyRequest ∧ entry.status ≠ .submitting)) ∧
      after.findEntry request.entryId = some (Publication.entryActionChange.stamp now
        { entry with action := task.action, actionMessage := "", actionError := "" })

theorem start_entry_action (indexed : session.Indexed) {task : SessionTask}
    {request : EntryRefreshRequest} (works : task.requests = [request])
    (waited : task.waited = none) (found : session.findEntry entryId = some entry)
    (idle : entry.action = .none) (created : entry.createEntryRefreshRequest = some request)
    (fits : task.Fits entry) :
    (session.startEntryAction task entryId).2 = session ∨
      ActionStarted session task (session.startEntryAction task entryId).2 := by
  obtain ⟨sameId, sameRevision⟩ := create_entry_refresh_request_frame created
  have addressed : request.entryId = entryId := sameId.trans (find_entry_id found)
  unfold startEntryAction
  dsimp only
  rcases Writes.start_task session task with refused | ⟨started, writes⟩
  · left
    rw [refused]
    rfl
  · right
    rw [if_pos started]
    have between := start_task_indexed indexed task
    have same : ∀ other, (session.startTask task).2.findEntry other = session.findEntry other :=
      fun other => find_start_task task
    constructor
    · exact writes.trans (.update_entry _ _)
    · exact waited
    · rw [SessionTask.DistinctRequests, works]
      exact List.nodup_singleton _
    · exact start_task_running started
    · intro other apart
      rw [between.find_not_updated (keeps_id_show_action _), same]
      intro equal
      apply apart request
      · rw [works]
        exact List.mem_singleton_self _
      · rw [addressed, equal]
    · intro asked member
      rw [works] at member
      obtain rfl := List.mem_singleton.1 member
      rw [addressed]
      refine ⟨entry, (session.startTask task).2.clock 0, found, idle, sameRevision, fits,
        .inl created, ?_⟩
      exact between.find_updated (keeps_id_show_action _) ((same entryId).trans found)

theorem refresh_order_starts (indexed : session.Indexed) (entryId : EntryId) :
    (session.refreshOrder entryId).2 = session ∨
      ∃ task, ActionStarted session task (session.refreshOrder entryId).2 := by
  unfold refreshOrder
  split
  next => exact .inl rfl
  next entry chosen =>
      split
      next => exact .inl rfl
      next request created =>
          obtain ⟨found, allowed⟩ := Option.filter_eq_some_iff.1 chosen
          have idle : entry.action = .none := by
            simp only [Entry.canRefreshOrder, Bool.and_eq_true, decide_eq_true_eq] at allowed
            exact allowed.1
          have works : SessionTask.requests (.refresh entry.exchangerType request) = [request] :=
            rfl
          have fits : SessionTask.Fits (.refresh entry.exchangerType request) entry := by
            refine ⟨rfl, ?_⟩
            intro type required
            cases required
          rcases start_entry_action indexed works rfl found idle created fits with
            refused | started
          · exact .inl refused
          · exact .inr ⟨_, started⟩

theorem cancel_order_starts (indexed : session.Indexed) (entryId : EntryId) :
    (session.cancelOrder entryId).2 = session ∨
      ∃ task, ActionStarted session task (session.cancelOrder entryId).2 := by
  unfold cancelOrder
  split
  next => exact .inl rfl
  next entry chosen =>
      split
      next => exact .inl rfl
      next request created =>
          obtain ⟨found, allowed⟩ := Option.filter_eq_some_iff.1 chosen
          have idle : entry.action = .none := by
            simp only [Entry.canCancelOrder, Bool.and_eq_true, decide_eq_true_eq] at allowed
            exact allowed.1.1
          split
          next type =>
              have works : SessionTask.requests (.cancelBasic entry.exchangerType request) =
                  [request] := rfl
              have fits : SessionTask.Fits (.cancelBasic entry.exchangerType request) entry :=
                ⟨rfl, by rintro _ ⟨⟩; exact type⟩
              rcases start_entry_action indexed works rfl found idle created fits with
                refused | started
              · exact .inl refused
              · exact .inr ⟨_, started⟩
          next type =>
              let task : SessionTask :=
                .cancelOco entry.exchangerType request (entry.acceptedOco.getD {})
              have works : task.requests = [request] := rfl
              have fits : task.Fits entry := ⟨rfl, by rintro _ ⟨⟩; exact type⟩
              rcases start_entry_action indexed works rfl found idle created fits with
                refused | started
              · exact .inl refused
              · exact .inr ⟨_, started⟩

theorem pair_request_created (entry : Entry) (submitted : entry.status ≠ .submitting) :
    entry.createEntryRefreshRequest = some (pairRequest entry) ∨
      (pairRequest entry = entry.emptyRequest ∧ entry.status ≠ .submitting) := by
  unfold pairRequest
  cases created : entry.createEntryRefreshRequest with
  | none => exact .inr ⟨rfl, submitted⟩
  | some request => exact .inl rfl

theorem cancel_all_open_orders_starts (indexed : session.Indexed) (entryId : EntryId) :
    (session.cancelAllOpenOrders entryId).2 = session ∨
      ∃ task, ActionStarted session task (session.cancelAllOpenOrders entryId).2 := by
  unfold cancelAllOpenOrders
  split
  next => exact .inl rfl
  next context chosen =>
      obtain ⟨found, allowed⟩ := Option.filter_eq_some_iff.1 chosen
      dsimp only
      let requests :=
        session.createPairRefreshRequests context.exchangerType context.pair.symbol
      let task : SessionTask :=
        .cancelAll entryId context.exchangerType context.pair.symbol requests
      have distinct : (requests.map EntryRefreshRequest.entryId).Nodup :=
        pair_requests_distinct indexed context.exchangerType context.pair.symbol
      rcases Writes.start_task session task with refused | ⟨started, writes⟩
      · left
        rw [refused]
        rfl
      · right
        rw [if_pos started]
        have between := start_task_indexed indexed task
        have same : ∀ other, (session.startTask task).2.findEntry other = session.findEntry other :=
          fun other => find_start_task task
        refine ⟨task, writes.trans (.update_entries _ _ _), rfl, distinct,
          start_task_running started, ?_, ?_⟩
        · intro other apart
          rw [← same other]
          exact between.find_beside_updates start_pair_reaction_keeps_id requests apart
        · intro request member
          obtain ⟨entry, selected, rfl⟩ := List.mem_map.1 member
          obtain ⟨present, ofPair⟩ := List.mem_filter.1 selected
          obtain ⟨submitted, idle, exchange⟩ := pair_idle found allowed present ofPair
          have known : session.findEntry (pairRequest entry).entryId = some entry := by
            rw [(pair_request_frame entry).1]
            exact indexed.find_of_mem present
          obtain ⟨now, shown⟩ := between.find_among_updates start_pair_reaction_keeps_id distinct
            member ((same _).trans known)
          refine ⟨entry, now, known, idle, (pair_request_frame entry).2,
            ⟨exchange.symm, nofun⟩, pair_request_created entry submitted, ?_⟩
          rw [Reaction.run_some] at shown
          · exact shown
          · exact if_neg (not_not.2 (pair_request_frame entry).2.symm)

/-! ## Submission -/

/-- An entry as a submission leaves it: nothing is accepted yet. -/
structure Entry.Fresh (entry : Entry) : Prop where
  status : entry.status = .submitting ∨ entry.status = .submissionFailed
  action : entry.action = .none
  acceptedOrder : entry.acceptedOrder = none
  acceptedOco : entry.acceptedOco = none
  terminalOrder : entry.terminalOrder = none

structure Submitted (session after : OrderSessionModel) : Prop where
  indexed : after.Indexed
  stopping : after.stopping = session.stopping
  next : after.nextEntryId = session.nextEntryId + 1
  tasks : ∃ started : List SessionTask, after.tasks = session.tasks ++ started ∧
    ∀ task ∈ started, task.waited = none ∧ task.requests = []
  beside : ∀ other, other ≠ session.nextEntryId → after.findEntry other = session.findEntry other
  fresh : ∃ entry, after.findEntry session.nextEntryId = some entry ∧ entry.Fresh

theorem submit_submitted (indexed : session.Indexed) (draft : EntryDraft) {task : SessionTask}
    (waited : task.waited = none) (works : task.requests = []) (failure : String) :
    Submitted session
      (if ((session.createEntry draft).startTask task).1 then
        ((session.createEntry draft).startTask task).2
      else
        ((session.createEntry draft).startTask task).2.failSubmission session.nextEntryId
          failure) := by
  have created : (session.createEntry draft).Indexed := indexed.create_entry
  have known : (session.createEntry draft).findEntry session.nextEntryId =
      some (session.createdEntry draft) := by
    rw [indexed.find_create_entry, if_pos rfl]
  have beside : ∀ other, other ≠ session.nextEntryId →
      (session.createEntry draft).findEntry other = session.findEntry other := by
    intro other apart
    rw [indexed.find_create_entry, if_neg apart]
  rcases Writes.start_task (session.createEntry draft) task with refused | ⟨started, writes⟩
  · rw [refused]
    let reaction : Reaction := fun entry =>
      if entry.status ≠ .submitting then none
      else some ({ entry with status := .submissionFailed, error := failure }, .entryChange)
    have keeps : reaction.KeepsId := fail_submission_keeps_id failure
    constructor
    · exact created.update_entry
    · exact update_entry_stopping
    · exact update_entry_next
    · have same : ((session.createEntry draft).updateEntry session.nextEntryId reaction).tasks =
          session.tasks := update_entry_tasks
      exact ⟨[], same.trans (List.append_nil _).symm, by simp⟩
    · intro other apart
      exact (created.find_not_updated keeps apart).trans (beside other apart)
    · exact ⟨_, created.find_updated keeps known, .inr rfl, rfl, rfl, rfl, rfl⟩
  · rw [if_pos started]
    constructor
    · exact writes.indexed created
    · exact writes.stopping
    · exact writes.next
    · refine ⟨[task], writes.tasks, ?_⟩
      intro only member
      obtain rfl := List.mem_singleton.1 member
      exact ⟨waited, works⟩
    · intro other apart
      exact (find_start_task task).trans (beside other apart)
    · exact ⟨_, (find_start_task task).trans known, .inl rfl, rfl, rfl, rfl, rfl⟩

theorem place_order_submitted (indexed : session.Indexed) (draft : BasicOrderDraft) :
    (session.placeOrder draft).2 = session ∨ Submitted session (session.placeOrder draft).2 := by
  unfold placeOrder
  split_ifs
  · right
    have unanswered : SessionTask.requests (.submitBasic session.nextEntryId draft) = [] := rfl
    exact submit_submitted indexed (.basic draft) rfl unanswered _
  · exact .inl rfl

theorem place_oco_submitted (indexed : session.Indexed) (draft : OcoOrderDraft) :
    Submitted session (session.placeOco draft).2 := by
  have unanswered : SessionTask.requests (.submitOco session.nextEntryId draft) = [] := rfl
  exact submit_submitted indexed (.oco draft) rfl unanswered _

/-! ## Events -/

theorem queued_outcome_writes {call : QueuedCall} (outcome : QueuedOutcome session call after) :
    ∃ started, Writes started session after ∧ ∀ task ∈ started, task.requests = [] := by
  cases outcome with
  | ignored idle => exact ⟨[], .refl session, by simp⟩
  | filled found addressed accepted filled => exact ⟨[], .publish _ _, by simp⟩
  | refused found continues failure => exact ⟨[], .publish _ _, by simp⟩
  | @waiting entry found continues task waits actionless fits failure =>
      obtain ⟨started, member, writes⟩ : ∃ started ∈ [[], [task (entry.revision + 1)]],
        Writes started session (session.startWait entry task failure) :=
        start_wait_writes task failure
      refine ⟨started, writes, ?_⟩
      intro wait inFlight
      rcases List.mem_cons.1 member with rfl | single
      · cases inFlight
      · rw [List.mem_singleton.1 single] at inFlight
        rw [List.mem_singleton.1 inFlight]
        exact actionless _

/-- What an event does to the tasks in flight, and which entries it adds. -/
inductive TaskChange (session : OrderSessionModel) (event : SessionEvent Effect Answer)
    (after : OrderSessionModel) : Prop where
  | unchanged (same : after = session)
  | stopped (same : after = { session with stopping := true })
  | submitted (submitted : Submitted session after)
  | actionStarted (task : SessionTask) (started : ActionStarted session task after)
  | continued {calls : List QueuedCall} {call : QueuedCall}
      (queued : event = .runQueuedCall call)
      (outcome : QueuedOutcome { session with queuedCalls := calls } call after)
  | completed {earlier later : List SessionTask} {task : SessionTask}
      {history : History Effect Answer} {outcome : Except ServiceFailure task.Result}
      (completed : event = .completeTask task history outcome)
      (inFlight : session.tasks = earlier ++ task :: later)
      (result : after =
        ({ session with tasks := earlier ++ later } : OrderSessionModel).completeTask task outcome)

variable {services : ExchangerType → DealServiceCalls Effect Answer}

theorem Occurs.completed {task : SessionTask} {history : History Effect Answer}
    {outcome : Except ServiceFailure task.Result}
    (occurs : Occurs services session (.completeTask task history outcome) after) :
    ∃ earlier later, session.tasks = earlier ++ task :: later ∧
      after =
        ({ session with tasks := earlier ++ later } : OrderSessionModel).completeTask task
          outcome := by
  cases occurs with
  | completeTask inFlight token ended => exact ⟨_, _, inFlight, rfl⟩

theorem Occurs.ended {task : SessionTask} {history : History Effect Answer}
    {outcome : Except ServiceFailure task.Result}
    (occurs : Occurs services session (.completeTask task history outcome) after) :
    ∃ stopRequested, Ends (task.work services stopRequested) history outcome := by
  cases occurs with
  | completeTask inFlight token ended => exact ⟨_, ended⟩

theorem Occurs.task_change (indexed : session.Indexed)
    (occurs : Occurs services session event after) : TaskChange session event after := by
  cases occurs with
  | placeOrder draft =>
      rcases place_order_submitted indexed draft with same | submitted
      · exact .unchanged same
      · exact .submitted submitted
  | placeOco draft => exact .submitted (place_oco_submitted indexed draft)
  | refreshOrder entryId =>
      rcases refresh_order_starts indexed entryId with same | ⟨task, started⟩
      · exact .unchanged same
      · exact .actionStarted task started
  | cancelOrder entryId =>
      rcases cancel_order_starts indexed entryId with same | ⟨task, started⟩
      · exact .unchanged same
      · exact .actionStarted task started
  | cancelAllOpenOrders entryId =>
      rcases cancel_all_open_orders_starts indexed entryId with same | ⟨task, started⟩
      · exact .unchanged same
      · exact .actionStarted task started
  | runQueuedCall queued => exact .continued rfl (run_queued_call_outcome _ _)
  | completeTask inFlight token ended => exact .completed rfl inFlight rfl
  | requestStop => exact .stopped rfl

namespace TaskChange

theorem indexed (change : TaskChange session event after) (indexed : session.Indexed) :
    after.Indexed := by
  cases change with
  | unchanged same => exact same ▸ indexed
  | stopped same =>
      rw [same]
      exact indexed.frame
  | submitted submitted => exact submitted.indexed
  | actionStarted task started => exact started.writes.indexed indexed
  | continued queued outcome =>
      obtain ⟨started, writes, _⟩ := queued_outcome_writes outcome
      exact writes.indexed indexed.frame
  | completed completed inFlight result =>
      rw [result]
      exact (complete_task_writes _ _).indexed indexed.frame

theorem distinct_requests (change : TaskChange session event after)
    (distinct : ∀ task ∈ session.tasks, task.DistinctRequests) :
    ∀ task ∈ after.tasks, task.DistinctRequests := by
  have actionless : ∀ task : SessionTask, task.requests = [] → task.DistinctRequests := by
    intro task works
    rw [SessionTask.DistinctRequests, works]
    exact List.nodup_nil
  intro task inFlight
  cases change with
  | unchanged same => exact distinct task (same ▸ inFlight)
  | stopped same =>
      rw [same] at inFlight
      exact distinct task inFlight
  | submitted submitted =>
      obtain ⟨started, tasks, unanswered⟩ := submitted.tasks
      rw [tasks] at inFlight
      rcases List.mem_append.1 inFlight with old | new
      · exact distinct task old
      · exact actionless task (unanswered task new).2
  | actionStarted only started =>
      rw [started.writes.tasks] at inFlight
      rcases List.mem_append.1 inFlight with old | new
      · exact distinct task old
      · rw [List.mem_singleton.1 new]
        exact started.distinct
  | continued queued outcome =>
      obtain ⟨started, writes, unanswered⟩ := queued_outcome_writes outcome
      rw [writes.tasks] at inFlight
      rcases List.mem_append.1 inFlight with old | new
      · exact distinct task old
      · exact actionless task (unanswered task new)
  | completed completed known result =>
      rw [result, (complete_task_writes _ _).tasks, List.append_nil] at inFlight
      apply distinct task
      rw [known]
      rcases List.mem_append.1 inFlight with before | behind
      · exact List.mem_append_left _ before
      · exact List.mem_append_right _ (List.mem_cons_of_mem _ behind)

/-- An entry that was not there before is a fresh one. -/
theorem fresh (change : TaskChange session event after) (unknown : session.findEntry other = none)
    (found : after.findEntry other = some entry) : entry.Fresh := by
  have none_of : ∀ {started : List SessionTask} {before : OrderSessionModel},
      Writes started before after → before.findEntry other = none → entry.Fresh := by
    intro started before writes absent
    rw [writes.absent absent] at found
    cases found
  cases change with
  | unchanged same =>
      rw [same, unknown] at found
      cases found
  | stopped same =>
      rw [same] at found
      rw [show session.findEntry other = some entry from found] at unknown
      cases unknown
  | submitted submitted =>
      by_cases own : other = session.nextEntryId
      · obtain ⟨new, known, fresh⟩ := submitted.fresh
        rw [own, known] at found
        exact Option.some.inj found ▸ fresh
      · rw [submitted.beside other own, unknown] at found
        cases found
  | actionStarted task started => exact none_of started.writes unknown
  | continued queued outcome =>
      obtain ⟨started, writes, _⟩ := queued_outcome_writes outcome
      exact none_of writes unknown
  | completed completed inFlight result =>
      subst result
      exact none_of (complete_task_writes _ _) unknown

end TaskChange

/-! ## Runs -/

/-- What the other results about runs rest on. -/
structure OrderSessionModel.Sound (session : OrderSessionModel) : Prop where
  indexed : session.Indexed
  distinct : ∀ task ∈ session.tasks, task.DistinctRequests

theorem Occurs.sound (occurs : Occurs services session event after) (sound : session.Sound) :
    after.Sound where
  indexed := (occurs.task_change sound.indexed).indexed sound.indexed
  distinct := (occurs.task_change sound.indexed).distinct_requests sound.distinct

theorem SessionRun.sound {steps : List (SessionStep Effect Answer)}
    (run : SessionRun services steps session) : session.Sound := by
  induction run with
  | start clock =>
      constructor
      · exact .initially clock
      · intro task inFlight
        cases inFlight
  | step run occurs ih => exact occurs.sound ih

/-- Where an entry comes from: it is new, its action was concluded, or it made a move. -/
inductive EntryOrigin (event : SessionEvent Effect Answer) (session : OrderSessionModel)
    (entryId : EntryId) (entry : Entry) : Prop where
  | fresh (unknown : session.findEntry entryId = none) (fresh : entry.Fresh)
  | concluded {before : Entry} {result : EntryRefreshResult}
      (found : session.findEntry entryId = some before)
      (concludes : event.Concludes session before result) (message error : String) (now : ℤ)
      (merged : entry = OrderSession.concluded before result message error now)
  | changed {before : Entry} (found : session.findEntry entryId = some before)
      (stale : ∀ result, ¬ event.Concludes session before result)
      (change : EntryChange event before entry)

theorem Occurs.entry_origin (occurs : Occurs services session event after) (sound : session.Sound)
    (found : after.findEntry other = some entry) : EntryOrigin event session other entry := by
  cases known : session.findEntry other with
  | none => exact .fresh known ((occurs.task_change sound.indexed).fresh known found)
  | some before =>
      by_cases concludes : ∃ result, event.Concludes session before result
      · obtain ⟨result, concludes⟩ := concludes
        obtain ⟨message, error, now, merged⟩ :=
          occurs.entry_concluded sound.indexed sound.distinct known concludes
        exact .concluded known concludes message error now
          (Option.some.inj (found.symm.trans merged))
      · have stale : ∀ result, ¬ event.Concludes session before result := not_exists.1 concludes
        obtain ⟨moved, reached, change⟩ :=
          occurs.entry_change sound.indexed sound.distinct known stale
        rw [Option.some.inj (found.symm.trans reached)]
        exact .changed known stale change

/-- No entry is lost. -/
theorem Occurs.keeps_entry (occurs : Occurs services session event after) (sound : session.Sound)
    (known : session.findEntry other = some entry) : ∃ moved, after.findEntry other = some moved := by
  by_cases concludes : ∃ result, event.Concludes session entry result
  · obtain ⟨result, concludes⟩ := concludes
    obtain ⟨message, error, now, merged⟩ :=
      occurs.entry_concluded sound.indexed sound.distinct known concludes
    exact ⟨_, merged⟩
  · obtain ⟨moved, reached, _⟩ :=
      occurs.entry_change sound.indexed sound.distinct known (not_exists.1 concludes)
    exact ⟨moved, reached⟩

/-! ## Entries of tasks in flight -/

/-- A basic entry whose order the exchange can be asked about. -/
def Entry.IsOrdered (entry : Entry) : Prop :=
  entry.type = .basicOrder ∧ (entry.terminalOrder.or entry.acceptedOrder).isSome

/-- What no move takes from an entry. -/
structure Succeeds (before moved : Entry) : Prop where
  id : moved.id = before.id
  draft : moved.draft = before.draft
  ordered : before.IsOrdered → moved.IsOrdered

theorem Succeeds.exchange {before moved : Entry} (succeeds : Succeeds before moved) :
    moved.exchangerType = before.exchangerType := by
  rw [Entry.exchangerType, Entry.exchangerType, succeeds.draft]

theorem Succeeds.type {before moved : Entry} (succeeds : Succeeds before moved) :
    moved.type = before.type := by
  rw [Entry.type, Entry.type, succeeds.draft]

theorem ordered_of_accepted {orderInfo : OrderInfo} (basic : entry.type = .basicOrder)
    (accepted : entry.acceptedOrder = some orderInfo) : entry.IsOrdered := by
  refine ⟨basic, ?_⟩
  rw [accepted]
  cases entry.terminalOrder <;> rfl

theorem ordered_of_terminal {orderInfo : OrderInfo} (basic : entry.type = .basicOrder)
    (terminal : entry.terminalOrder = some orderInfo) : entry.IsOrdered := by
  refine ⟨basic, ?_⟩
  rw [terminal]
  rfl

theorem updated_children_draft {result : OcoWaitResult} {updated : Entry}
    (identified : entry.updateOcoChildrenAfterCompletion result = some updated) :
    updated.draft = entry.draft := by
  unfold Entry.updateOcoChildrenAfterCompletion at identified
  split at identified
  · cases identified
  · split_ifs at identified
    · cases identified
      rfl
    · cases identified
      rfl

theorem EntryChange.succeeds {before moved : Entry} (change : EntryChange event before moved) :
    Succeeds before moved := by
  cases change with
  | unchanged => exact ⟨rfl, rfl, id⟩
  | actionTouched action message error now touches => exact ⟨rfl, rfl, id⟩
  | submissionFailed failure now submitting => exact ⟨rfl, rfl, id⟩
  | basicAccepted orderInfo now submitting basic =>
      exact ⟨rfl, rfl, fun _ => ordered_of_accepted basic rfl⟩
  | ocoAccepted ocoInfo now submitting oco => exact ⟨rfl, rfl, id⟩
  | filledAtAcceptance now queued accepted filled =>
      refine ⟨rfl, rfl, fun ordered => ⟨ordered.1, ?_⟩⟩
      unfold isAcceptedBasicOrderFilled at filled
      split at filled
      next draft orderInfo basic known =>
          have some_ : before.acceptedOrder.isSome := by
            rw [known]
            rfl
          rw [Option.isSome_or]
          exact Bool.or_eq_true_iff.2 (.inl some_)
      next => cases filled
  | monitoringRefused failure now queued continues => exact ⟨rfl, rfl, id⟩
  | waitStarted now queued continues => exact ⟨rfl, rfl, id⟩
  | waitRefused failure publication now later queued continues =>
      cases publication <;> exact ⟨rfl, rfl, id⟩
  | waitFailed now completed waited current =>
      unfold waitFailurePublication
      split_ifs <;> exact ⟨rfl, rfl, id⟩
  | orderWaitFinished orderInfo now completed current =>
      exact ⟨rfl, rfl, fun ordered => ordered_of_terminal ordered.1 rfl⟩
  | ocoWaitFinished updated now completed current identified =>
      have sameDraft := updated_children_draft identified
      have sameId : updated.id = before.id := updated_children_id identified
      refine ⟨sameId, sameDraft, fun ordered => ⟨?_, rfl⟩⟩
      have sameType : updated.type = before.type := by
        rw [Entry.type, Entry.type, sameDraft]
      exact sameType.trans ordered.1
  | ocoWaitUnidentified failure now completed current unidentified => exact ⟨rfl, rfl, id⟩

theorem apply_basic_order_refresh_ordered (orderInfo : OrderInfo) (ordered : entry.IsOrdered) :
    (entry.applyBasicOrderRefresh orderInfo).1.IsOrdered := by
  unfold Entry.applyBasicOrderRefresh
  split_ifs
  · exact ordered
  · split
    · exact ordered_of_accepted ordered.1 rfl
    · exact ordered_of_accepted ordered.1 rfl
    · exact ordered_of_accepted ordered.1 rfl
    · exact ordered_of_accepted ordered.1 rfl
    · exact ordered_of_accepted ordered.1 rfl

theorem apply_entry_refresh_result_succeeds (entry : Entry) (result : EntryRefreshResult) :
    Succeeds entry (entry.applyEntryRefreshResult result).1 := by
  obtain ⟨sameId, sameDraft, _, _⟩ := entry.apply_entry_refresh_result_frame result
  refine ⟨sameId, sameDraft, ?_⟩
  intro ordered
  unfold Entry.applyEntryRefreshResult
  split
  next draft basic =>
      split
      · exact apply_basic_order_refresh_ordered _ ordered
      · exact ordered
  next draft oco =>
      have type := ordered.1
      rw [Entry.type, oco] at type
      cases type

theorem concluded_succeeds (entry : Entry) (result : EntryRefreshResult) (message error : String)
    (now : ℤ) : Succeeds entry (concluded entry result message error now) := by
  have merged := apply_entry_refresh_result_succeeds entry result
  unfold concluded
  dsimp only
  split_ifs <;> exact ⟨merged.id, merged.draft, merged.ordered⟩

theorem Occurs.succeeds (occurs : Occurs services session event after) (sound : session.Sound)
    (known : session.findEntry other = some entry) :
    ∃ moved, after.findEntry other = some moved ∧ Succeeds entry moved := by
  obtain ⟨moved, found⟩ := occurs.keeps_entry sound known
  refine ⟨moved, found, ?_⟩
  cases occurs.entry_origin sound found with
  | fresh unknown fresh =>
      rw [known] at unknown
      cases unknown
  | concluded before concludes message error now merged =>
      obtain rfl := Option.some.inj (known.symm.trans before)
      rw [merged]
      exact concluded_succeeds _ _ _ _ _
  | changed before stale change =>
      obtain rfl := Option.some.inj (known.symm.trans before)
      exact change.succeeds

/-- The task waits for the entry or has a request of it. -/
def SessionTask.Serves (task : SessionTask) (entryId : EntryId) : Prop :=
  (∃ waitRevision, task.waited = some (entryId, waitRevision)) ∨
    ∃ request ∈ task.requests, request.entryId = entryId

/-- What a task in flight may count on about an entry that it serves. -/
structure SessionTask.Knows (task : SessionTask) (entry : Entry) : Prop where
  fits : task.Fits entry
  asked : ∀ request ∈ task.requests, request.entryId = entry.id → request.basicOrder.isSome →
    entry.IsOrdered

theorem SessionTask.Knows.succeeds {task : SessionTask} {before moved : Entry}
    (knows : task.Knows before) (succeeds : Succeeds before moved) : task.Knows moved where
  fits := by
    rw [SessionTask.Fits, succeeds.exchange, succeeds.type]
    exact knows.fits
  asked := by
    intro request member addressed asks
    rw [succeeds.id] at addressed
    exact succeeds.ordered (knows.asked request member addressed asks)

theorem created_request_asks {request : EntryRefreshRequest}
    (created : entry.createEntryRefreshRequest = some request)
    (asks : request.basicOrder.isSome) : entry.IsOrdered := by
  unfold Entry.createEntryRefreshRequest at created
  split at created
  next draft basic =>
      split at created
      next => cases created
      next orderInfo known =>
          refine ⟨?_, by rw [known]; rfl⟩
          rw [Entry.type, basic]
  next draft oco =>
      split at created
      · cases created
      · split_ifs at created
        cases created
        cases asks

theorem ActionStarted.knows {task : SessionTask} (started : ActionStarted session task after)
    {request : EntryRefreshRequest} (member : request ∈ task.requests) :
    ∃ entry, after.findEntry request.entryId = some entry ∧ task.Knows entry := by
  obtain ⟨entry, now, found, idle, _, fits, made, shown⟩ := started.among request member
  refine ⟨_, shown, ⟨fits, ?_⟩⟩
  intro asked askedMember addressed asks
  have same : asked = request := by
    have sameId : asked.entryId = request.entryId := addressed.trans (find_entry_id shown)
    exact List.inj_on_of_nodup_map started.distinct askedMember member sameId
  subst same
  rcases made with created | ⟨empty, _⟩
  · exact created_request_asks created asks
  · rw [empty] at asks
    cases asks

/-- Every entry that a task in flight serves is there, and is what the task takes it for. -/
def OrderSessionModel.Informed (session : OrderSessionModel) : Prop :=
  ∀ task ∈ session.tasks, ∀ entryId, task.Serves entryId →
    ∃ entry, session.findEntry entryId = some entry ∧ task.Knows entry

theorem start_wait_knows (indexed : session.Indexed)
    (found : session.findEntry entry.id = some entry) {task : ℕ → SessionTask}
    (actionless : ∀ waitRevision, (task waitRevision).requests = [])
    (fits : ∀ waitRevision, (task waitRevision).Fits entry) (waitRevision : ℕ) (failure : String) :
    ∃ moved, (session.startWait entry task failure).findEntry entry.id = some moved ∧
      (task waitRevision).Knows moved := by
  have knows : (task waitRevision).Knows entry := by
    refine ⟨fits waitRevision, ?_⟩
    intro request member
    rw [actionless] at member
    cases member
  rcases find_start_wait indexed found task failure with
    ⟨now, started, _⟩ | ⟨publication, now, later, refused, _⟩
  · exact ⟨_, started, knows.succeeds ⟨rfl, rfl, id⟩⟩
  · refine ⟨_, refused, knows.succeeds ?_⟩
    cases publication <;> exact ⟨rfl, rfl, id⟩

theorem Occurs.informed (occurs : Occurs services session event after) (sound : session.Sound)
    (informed : session.Informed) : after.Informed := by
  have carried : ∀ task ∈ session.tasks, ∀ entryId, task.Serves entryId →
      ∃ entry, after.findEntry entryId = some entry ∧ task.Knows entry := by
    intro task inFlight entryId serves
    obtain ⟨before, known, knows⟩ := informed task inFlight entryId serves
    obtain ⟨moved, found, succeeds⟩ := occurs.succeeds sound known
    exact ⟨moved, found, knows.succeeds succeeds⟩
  intro task inFlight entryId serves
  cases occurs.task_change sound.indexed with
  | unchanged same => exact carried task (same ▸ inFlight) entryId serves
  | stopped same =>
      rw [same] at inFlight
      exact carried task inFlight entryId serves
  | submitted submitted =>
      obtain ⟨started, tasks, unanswered⟩ := submitted.tasks
      rw [tasks] at inFlight
      rcases List.mem_append.1 inFlight with old | new
      · exact carried task old entryId serves
      · obtain ⟨waitless, works⟩ := unanswered task new
        rcases serves with ⟨waitRevision, waited⟩ | ⟨request, member, _⟩
        · rw [waitless] at waited
          cases waited
        · rw [works] at member
          cases member
  | actionStarted only started =>
      rw [started.writes.tasks] at inFlight
      rcases List.mem_append.1 inFlight with old | new
      · exact carried task old entryId serves
      · obtain rfl := List.mem_singleton.1 new
        rcases serves with ⟨waitRevision, waited⟩ | ⟨request, member, rfl⟩
        · rw [started.waited] at waited
          cases waited
        · exact started.knows member
  | @continued calls call queued outcome =>
      cases outcome with
      | ignored idle => exact carried task inFlight entryId serves
      | filled found addressed accepted filled => exact carried task inFlight entryId serves
      | refused found continues failure => exact carried task inFlight entryId serves
      | @waiting entry found continues wait waits actionless fits failure =>
          obtain ⟨started, member, writes⟩ := start_wait_writes wait failure
          rw [writes.tasks] at inFlight
          rcases List.mem_append.1 inFlight with old | new
          · exact carried task old entryId serves
          · rcases List.mem_cons.1 member with rfl | single
            · cases new
            · rw [List.mem_singleton.1 single] at new
              obtain rfl := List.mem_singleton.1 new
              rcases serves with ⟨waitRevision, waited⟩ | ⟨request, requested, _⟩
              · have own : entry.id = entryId := by
                  rw [waits] at waited
                  exact congrArg Prod.fst (Option.some.inj waited)
                subst own
                exact start_wait_knows sound.indexed.frame found actionless fits _ failure
              · rw [actionless] at requested
                cases requested
  | completed completed known result =>
      rw [result, (complete_task_writes _ _).tasks, List.append_nil] at inFlight
      apply carried task _ entryId serves
      rw [known]
      rcases List.mem_append.1 inFlight with before | behind
      · exact List.mem_append_left _ before
      · exact List.mem_append_right _ (List.mem_cons_of_mem _ behind)

theorem SessionRun.informed {steps : List (SessionStep Effect Answer)}
    (run : SessionRun services steps session) : session.Informed := by
  induction run with
  | start clock =>
      intro task inFlight
      cases inFlight
  | step run occurs ih => exact occurs.informed run.sound ih

/-- The entry of a result that is delivered is what the result's task takes it for. -/
theorem Occurs.knows (occurs : Occurs services session event after) (informed : session.Informed)
    {result : EntryRefreshResult} (concludes : event.Concludes session entry result)
    (found : session.findEntry entry.id = some entry) :
    result.basicOrder.isSome → entry.IsOrdered := by
  obtain ⟨delivered, addressed, _⟩ := concludes
  cases occurs with
  | placeOrder draft => cases delivered
  | placeOco draft => cases delivered
  | refreshOrder entryId => cases delivered
  | cancelOrder entryId => cases delivered
  | cancelAllOpenOrders entryId => cases delivered
  | runQueuedCall queued => cases delivered
  | requestStop => cases delivered
  | @completeTask earlier later task stopRequested history outcome inFlight token ended =>
      cases outcome with
      | error failure => cases delivered
      | ok outcome =>
          rw [SessionEvent.results] at delivered
          split_ifs at delivered with stopping
          · cases delivered
          · intro answered
            obtain ⟨request, member, answers⟩ :=
              answered_request (SessionTask.work_answers ended) delivered
            rw [answers.1] at addressed
            have present : task ∈ session.tasks := by
              rw [inFlight]
              exact List.mem_append_right _ List.mem_cons_self
            obtain ⟨known, foundKnown, knows⟩ :=
              informed task present entry.id (.inr ⟨request, member, addressed⟩)
            obtain rfl := Option.some.inj (found.symm.trans foundKnown)
            exact knows.asked request member addressed (answers.2 answered)

end CryptoDeal.OrderSession
