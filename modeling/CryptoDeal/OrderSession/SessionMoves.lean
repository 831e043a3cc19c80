import CryptoDeal.OrderSession.SessionChange

/-!
# The moves of the handlers

For each handler, what it does to whichever entry one looks at; together, that
every event either concludes an entry's action or moves the entry as
`EntryChange` says.
-/

namespace CryptoDeal.OrderSession

open DealService OrderStatusUtil Interaction OrderSessionModel

variable {Effect : Type} {Answer : Effect → Type} {event : SessionEvent Effect Answer}
  {session after : OrderSessionModel} {entryId other : EntryId} {entry : Entry}

/-- What is found under an id afterwards is what was found before, moved. -/
def Moves (event : SessionEvent Effect Answer) (session after : OrderSessionModel)
    (other : EntryId) : Prop :=
  ∀ entry, session.findEntry other = some entry →
    ∃ moved, after.findEntry other = some moved ∧ EntryChange event entry moved

theorem moves_of_same_find (same : after.findEntry other = session.findEntry other) :
    Moves event session after other := by
  intro entry found
  exact ⟨entry, same.trans found, .unchanged⟩

theorem publish_moves (indexed : session.Indexed) {publication : Publication} {changed : Entry}
    (moves : ∀ entry, session.findEntry changed.id = some entry →
      ∀ now, EntryChange event entry (publication.stamp now changed)) :
    Moves event session (session.publish publication changed) other := by
  intro entry found
  by_cases same : changed.id = other
  · refine ⟨publication.stamp (session.clock 0) changed, ?_, ?_⟩
    · rw [indexed.find_publish, if_pos same, found]
      rfl
    · exact moves entry (same ▸ found) _
  · exact ⟨entry, by rw [indexed.find_publish, if_neg same, found], .unchanged⟩

theorem update_entry_moves (indexed : session.Indexed) {reaction : Reaction}
    (keeps : reaction.KeepsId)
    (moves : ∀ entry, session.findEntry entryId = some entry →
      ∀ written ∈ reaction entry, ∀ now, EntryChange event entry (written.2.stamp now written.1)) :
    Moves event session (session.updateEntry entryId reaction) other := by
  intro entry found
  by_cases same : other = entryId
  · subst same
    refine ⟨_, indexed.find_updated keeps found, ?_⟩
    cases reacted : reaction entry with
    | none =>
        rw [Reaction.run_none reacted]
        exact .unchanged
    | some written =>
        rw [Reaction.run_some reacted]
        exact moves entry found written reacted _
  · exact ⟨entry, (indexed.find_not_updated keeps same).trans found, .unchanged⟩

/-! ## Submission -/

theorem fail_submission_keeps_id (failure : String) :
    Reaction.KeepsId fun entry =>
      if entry.status ≠ .submitting then none
      else some ({ entry with status := .submissionFailed, error := failure }, .entryChange) := by
  intro entry written
  dsimp only
  split_ifs
  · exact nofun
  · rintro ⟨⟩
    rfl

theorem fail_submission_moves (indexed : session.Indexed) (failure : String) :
    Moves event session (session.failSubmission entryId failure) other := by
  apply update_entry_moves indexed (fail_submission_keeps_id failure)
  intro entry found written
  split_ifs with submitting
  · exact nofun
  · rintro ⟨⟩ now
    exact .submissionFailed failure now (not_not.1 submitting)

theorem find_start_task (task : SessionTask) :
    (session.startTask task).2.findEntry other = session.findEntry other := by
  unfold startTask
  split_ifs <;> rfl

theorem start_task_indexed (indexed : session.Indexed) (task : SessionTask) :
    (session.startTask task).2.Indexed := by
  unfold startTask
  split_ifs
  · exact indexed
  · exact ⟨indexed.distinct, indexed.issued, indexed.sorted⟩

/-- What `placeOrder` and `placeOco` share. -/
theorem submit_moves (indexed : session.Indexed) (draft : EntryDraft) (task : SessionTask)
    (failure : String) :
    Moves event session
      (if ((session.createEntry draft).startTask task).1 then
        ((session.createEntry draft).startTask task).2
      else
        ((session.createEntry draft).startTask task).2.failSubmission session.nextEntryId failure)
      other := by
  intro entry found
  have apart : other ≠ session.nextEntryId := Nat.ne_of_lt (indexed.issued_of_find found)
  have created : ((session.createEntry draft).startTask task).2.findEntry other = some entry := by
    rw [find_start_task, indexed.find_create_entry, if_neg apart, found]
  refine ⟨entry, ?_, .unchanged⟩
  split_ifs
  · exact created
  · rw [failSubmission, (start_task_indexed indexed.create_entry task).find_not_updated
      (fail_submission_keeps_id failure) apart]
    exact created

theorem place_order_moves (indexed : session.Indexed) (draft : BasicOrderDraft) :
    Moves event session (session.placeOrder draft).2 other := by
  unfold placeOrder
  split_ifs
  · exact submit_moves indexed (.basic draft) (.submitBasic session.nextEntryId draft) _
  · exact moves_of_same_find rfl

theorem place_oco_moves (indexed : session.Indexed) (draft : OcoOrderDraft) :
    Moves event session (session.placeOco draft).2 other :=
  submit_moves indexed (.oco draft) (.submitOco session.nextEntryId draft) _

theorem is_submitting_found {type : EntryType} (submitting : session.isSubmitting entryId type)
    (found : session.findEntry entryId = some entry) :
    entry.status = .submitting ∧ entry.type = type := by
  rw [isSubmitting, found] at submitting
  simpa using submitting

theorem accept_basic_order_moves (indexed : session.Indexed) (orderInfo : OrderInfo) :
    Moves event session (session.acceptBasicOrder entryId orderInfo) other := by
  unfold acceptBasicOrder
  split_ifs with submitting
  · apply update_entry_moves indexed
    · rintro entry written ⟨⟩
      rfl
    · rintro entry found written ⟨⟩ now
      obtain ⟨status, type⟩ := is_submitting_found submitting found
      exact .basicAccepted orderInfo now status type
  · exact moves_of_same_find rfl

theorem accept_oco_moves (indexed : session.Indexed) (ocoInfo : OcoInfo) :
    Moves event session (session.acceptOco entryId ocoInfo) other := by
  unfold acceptOco
  split_ifs with submitting
  · apply update_entry_moves indexed
    · rintro entry written ⟨⟩
      rfl
    · rintro entry found written ⟨⟩ now
      obtain ⟨status, type⟩ := is_submitting_found submitting found
      exact .ocoAccepted ocoInfo now status type
  · exact moves_of_same_find rfl

/-! ## Waits -/

theorem current_waiting {waitRevision : ℕ} (current : entry.isCurrentWaitingRevision waitRevision) :
    entry.status = .waiting ∧ entry.revision = waitRevision := by
  simpa [Entry.isCurrentWaitingRevision] using current

theorem fail_order_wait_keeps_id (waitRevision : ℕ) (failure : String) :
    Reaction.KeepsId fun entry =>
      if entry.isCurrentWaitingRevision waitRevision then
        some ({ entry with status := .monitoringFailed, error := failure },
          if entry.action = .cancelling ∨ entry.action = .cancellingAll then .entryActionChange
          else .entryChange)
      else none := by
  intro entry written
  dsimp only
  split_ifs
  · rintro ⟨⟩
    rfl
  · rintro ⟨⟩
    rfl
  · exact nofun

theorem fail_order_wait_moves (indexed : session.Indexed) {task : SessionTask} {waitRevision : ℕ}
    {history : History Effect Answer} {failure : ServiceFailure}
    (completed : event = .completeTask task history (.error failure))
    (waited : task.waited = some (entryId, waitRevision)) :
    Moves event session
      (session.failOrderWait entryId waitRevision (getFailureMessage failure)) other := by
  apply update_entry_moves indexed (fail_order_wait_keeps_id waitRevision _)
  intro entry found written reacted now
  rw [← find_entry_id found] at waited
  by_cases current : entry.isCurrentWaitingRevision waitRevision
  · rw [if_pos current] at reacted
    cases reacted
    exact .waitFailed now completed waited current
  · rw [if_neg current] at reacted
    cases reacted

theorem fail_monitoring_moves (indexed : session.Indexed) {call : QueuedCall}
    (found : session.findEntry entryId = some entry) (queued : event = .runQueuedCall call)
    (continues : call.Continues entry) (failure : String) :
    Moves event session (session.failMonitoring entry failure) other := by
  apply publish_moves indexed
  intro same foundSame now
  have equal : same = entry := by
    rw [find_entry_id found] at foundSame
    exact Option.some.inj (foundSame.symm.trans found)
  subst equal
  exact .monitoringRefused failure now queued continues

/-- The entry that `startWait` leaves, and whether a task waits for it. -/
theorem find_start_wait (indexed : session.Indexed)
    (found : session.findEntry entryId = some entry) (task : ℕ → SessionTask) (failure : String) :
    (∃ now, (session.startWait entry task failure).findEntry entryId =
        some (Publication.entryChange.stamp now { entry with status := .waiting }) ∧
        (session.startWait entry task failure).tasks =
          session.tasks ++ [task (entry.revision + 1)]) ∨
      (∃ (publication : Publication) (now later : ℤ),
        (session.startWait entry task failure).findEntry entryId =
          some (publication.stamp later
            { Publication.entryChange.stamp now { entry with status := .waiting } with
              status := .monitoringFailed, error := failure }) ∧
        (session.startWait entry task failure).tasks = session.tasks) := by
  obtain rfl := find_entry_id found
  let waiting : Entry := { entry with status := .waiting }
  have published : (session.publish .entryChange waiting).findEntry entry.id =
      some (Publication.entryChange.stamp (session.clock 0) waiting) := by
    rw [indexed.find_publish, if_pos rfl, found]
    rfl
  unfold startWait
  dsimp only
  split_ifs with started
  · refine .inl ⟨session.clock 0, ?_, ?_⟩
    · rw [find_start_task]
      exact published
    · unfold startTask at started ⊢
      split_ifs at started ⊢
      rfl
  · have refused : (session.publish .entryChange waiting).startTask (task (entry.revision + 1)) =
        (false, session.publish .entryChange waiting) := by
      unfold startTask at started ⊢
      split_ifs at started ⊢
      · rfl
      · exact absurd rfl started
    refine .inr ⟨if entry.action = .cancelling ∨ entry.action = .cancellingAll then
      .entryActionChange else .entryChange, session.clock 0, session.clock 1, ?_, ?_⟩
    · rw [refused]
      simp only [failOrderWait]
      have current : (Publication.entryChange.stamp (session.clock 0) waiting
          ).isCurrentWaitingRevision (entry.revision + 1) = true := by
        simp [Entry.isCurrentWaitingRevision, Publication.stamp, waiting]
      rw [indexed.publish.find_updated (fail_order_wait_keeps_id _ failure) published]
      simp only [Reaction.run, current, if_true]
      rfl
    · rw [refused]
      exact update_entry_tasks

theorem find_beside_start_wait (indexed : session.Indexed) (apart : other ≠ entry.id)
    (task : ℕ → SessionTask) (failure : String) :
    (session.startWait entry task failure).findEntry other = session.findEntry other := by
  have published : (session.publish .entryChange { entry with status := .waiting }).findEntry other
      = session.findEntry other := by
    rw [indexed.find_publish]
    exact if_neg (Ne.symm apart)
  unfold startWait
  dsimp only
  split_ifs
  · rw [find_start_task]
    exact published
  · rw [failOrderWait, (start_task_indexed indexed.publish _).find_not_updated
      (fail_order_wait_keeps_id _ failure) apart, find_start_task]
    exact published

theorem start_wait_moves (indexed : session.Indexed) {call : QueuedCall}
    (found : session.findEntry entryId = some entry) (queued : event = .runQueuedCall call)
    (continues : call.Continues entry) (task : ℕ → SessionTask) (failure : String) :
    Moves event session (session.startWait entry task failure) other := by
  have sameId := find_entry_id found
  by_cases same : other = entryId
  · subst same
    intro known foundKnown
    have equal : entry = known := Option.some.inj (found.symm.trans foundKnown)
    subst equal
    rcases find_start_wait indexed found task failure with
      ⟨now, started, _⟩ | ⟨publication, now, later, refused, _⟩
    · exact ⟨_, started, .waitStarted now queued continues⟩
    · exact ⟨_, refused, .waitRefused failure publication now later queued continues⟩
  · exact moves_of_same_find (find_beside_start_wait indexed (sameId ▸ same) task failure)

/-- A queued call does nothing, or fills the entry, or gives its monitoring up, or starts to wait. -/
inductive QueuedOutcome (session : OrderSessionModel) (call : QueuedCall) :
    OrderSessionModel → Prop where
  | ignored (idle : ∀ entry, session.findEntry entry.id = some entry → ¬ call.Continues entry) :
      QueuedOutcome session call session
  | filled {entry : Entry} (found : session.findEntry entry.id = some entry)
      (addressed : call = .continueAfterBasicAcceptance entry.id)
      (accepted : entry.status = .accepted) (filled : isAcceptedBasicOrderFilled entry) :
      QueuedOutcome session call (session.publish .entryChange
        { entry with terminalOrder := entry.acceptedOrder, status := .filled })
  | refused {entry : Entry} (found : session.findEntry entry.id = some entry)
      (continues : call.Continues entry) (failure : String) :
      QueuedOutcome session call (session.failMonitoring entry failure)
  | waiting {entry : Entry} (found : session.findEntry entry.id = some entry)
      (continues : call.Continues entry) (task : ℕ → SessionTask)
      (waits : ∀ waitRevision, (task waitRevision).waited = some (entry.id, waitRevision))
      (actionless : ∀ waitRevision, (task waitRevision).requests = [])
      (fits : ∀ waitRevision, (task waitRevision).Fits entry) (failure : String) :
      QueuedOutcome session call (session.startWait entry task failure)

theorem continue_after_basic_acceptance_outcome (session : OrderSessionModel)
    (entryId : EntryId) :
    QueuedOutcome session (.continueAfterBasicAcceptance entryId)
      (session.continueAfterBasicAcceptance entryId) := by
  unfold continueAfterBasicAcceptance
  split
  next unknown =>
      apply QueuedOutcome.ignored
      rintro entry found ⟨rfl, _⟩
      rw [unknown] at found
      cases found
  next entry found =>
      obtain rfl := find_entry_id found
      split_ifs with refused filled
      · apply QueuedOutcome.ignored
        rintro same foundSame ⟨sameId, accepted, _, some_, _⟩
        rw [sameId, found] at foundSame
        obtain rfl := Option.some.inj foundSame
        rcases refused with status | absent
        · exact status accepted
        · rw [absent] at some_
          cases some_
      · exact .filled found rfl (not_not.1 (not_or.1 refused).1) filled
      · unfold startBasicOrderWait
        rw [found]
        dsimp only
        split
        next draft orderInfo accepted basic known =>
            have exchange : draft.exchangerType = entry.exchangerType := by
              rw [Entry.exchangerType, basic]
            have type : entry.type = .basicOrder := by
              rw [Entry.type, basic]
            have continues : QueuedCall.Continues entry (.continueAfterBasicAcceptance entry.id) := by
              refine ⟨rfl, accepted, type, ?_, filled⟩
              rw [known]
              rfl
            split_ifs
            · exact .refused found continues _
            · refine .waiting found continues _ (fun _ => rfl) (fun _ => rfl) (fun _ => ?_) _
              exact ⟨exchange, by rintro _ ⟨⟩; exact type⟩
        next mismatch =>
            apply QueuedOutcome.ignored
            rintro same foundSame ⟨sameId, accepted, type, some_, _⟩
            rw [sameId, found] at foundSame
            obtain rfl := Option.some.inj foundSame
            obtain ⟨orderInfo, known⟩ := Option.isSome_iff_exists.1 some_
            cases basic : entry.draft with
            | basic draft => exact mismatch draft orderInfo accepted basic known
            | oco draft =>
                rw [Entry.type, basic] at type
                cases type

theorem continue_after_oco_acceptance_outcome (session : OrderSessionModel) (entryId : EntryId) :
    QueuedOutcome session (.continueAfterOcoAcceptance entryId)
      (session.continueAfterOcoAcceptance entryId) := by
  unfold continueAfterOcoAcceptance
  split
  next unknown =>
      apply QueuedOutcome.ignored
      rintro entry found ⟨rfl, _⟩
      rw [unknown] at found
      cases found
  next entry found =>
      obtain rfl := find_entry_id found
      split_ifs with refused
      · apply QueuedOutcome.ignored
        rintro same foundSame ⟨sameId, accepted, _, some_⟩
        rw [sameId, found] at foundSame
        obtain rfl := Option.some.inj foundSame
        rcases refused with status | absent
        · exact status accepted
        · rw [absent] at some_
          cases some_
      · unfold startOcoWait
        rw [found]
        dsimp only
        split
        next draft ocoInfo accepted oco known =>
            have exchange : draft.exchangerType = entry.exchangerType := by
              rw [Entry.exchangerType, oco]
            have type : entry.type = .ocoGroup := by
              rw [Entry.type, oco]
            have continues : QueuedCall.Continues entry (.continueAfterOcoAcceptance entry.id) := by
              refine ⟨rfl, accepted, type, ?_⟩
              rw [known]
              rfl
            split_ifs
            · refine .waiting found continues _ (fun _ => rfl) (fun _ => rfl) (fun _ => ?_) _
              exact ⟨exchange, by rintro _ ⟨⟩; exact type⟩
            · exact .refused found continues _
        next mismatch =>
            apply QueuedOutcome.ignored
            rintro same foundSame ⟨sameId, accepted, type, some_⟩
            rw [sameId, found] at foundSame
            obtain rfl := Option.some.inj foundSame
            obtain ⟨ocoInfo, known⟩ := Option.isSome_iff_exists.1 some_
            cases oco : entry.draft with
            | basic draft =>
                rw [Entry.type, oco] at type
                cases type
            | oco draft => exact mismatch draft ocoInfo accepted oco known

theorem run_queued_call_outcome (session : OrderSessionModel) (call : QueuedCall) :
    QueuedOutcome session call (session.runQueuedCall call) := by
  cases call with
  | continueAfterBasicAcceptance entryId =>
      exact continue_after_basic_acceptance_outcome session entryId
  | continueAfterOcoAcceptance entryId =>
      exact continue_after_oco_acceptance_outcome session entryId

theorem QueuedOutcome.moves (indexed : session.Indexed) {call : QueuedCall}
    (outcome : QueuedOutcome session call after) (queued : event = .runQueuedCall call) :
    Moves event session after other := by
  cases outcome with
  | ignored idle => exact moves_of_same_find rfl
  | filled found addressed accepted filled =>
      apply publish_moves indexed
      intro same foundSame now
      obtain rfl := Option.some.inj (found.symm.trans foundSame)
      exact .filledAtAcceptance now queued accepted filled
  | refused found continues failure =>
      exact fail_monitoring_moves indexed found queued continues failure
  | waiting found continues task waits actionless fits failure =>
      exact start_wait_moves indexed found queued continues task failure

theorem finish_order_wait_keeps_id (waitRevision : ℕ) (orderInfo : OrderInfo) :
    Reaction.KeepsId fun entry =>
      if entry.isCurrentWaitingRevision waitRevision then
        some ({ entry with terminalOrder := some orderInfo, status := .filled, error := "" },
          .entryChange)
      else none := by
  intro entry written
  dsimp only
  split_ifs
  · rintro ⟨⟩
    rfl
  · exact nofun

theorem finish_order_wait_moves (indexed : session.Indexed) {waitRevision : ℕ}
    {exchangerType : ExchangerType} {symbol orderId : String} {history : History Effect Answer}
    {orderInfo : OrderInfo}
    (completed : event = .completeTask
      (.orderWait entryId waitRevision exchangerType symbol orderId) history (.ok orderInfo)) :
    Moves event session (session.finishOrderWait entryId waitRevision orderInfo) other := by
  apply update_entry_moves indexed (finish_order_wait_keeps_id waitRevision orderInfo)
  intro entry found written
  split_ifs with current
  · rintro ⟨⟩ now
    rw [← find_entry_id found] at completed
    exact .orderWaitFinished orderInfo now completed current
  · exact nofun

theorem updated_children_id {result : OcoWaitResult} {updated : Entry}
    (identified : entry.updateOcoChildrenAfterCompletion result = some updated) :
    updated.id = entry.id := by
  unfold Entry.updateOcoChildrenAfterCompletion at identified
  split at identified
  · cases identified
  · split_ifs at identified
    · cases identified
      rfl
    · cases identified
      rfl

theorem finish_oco_wait_keeps_id (waitRevision : ℕ) (result : OcoWaitResult) :
    Reaction.KeepsId fun entry =>
      if entry.isCurrentWaitingRevision waitRevision then
        match entry.updateOcoChildrenAfterCompletion result with
        | none =>
            some ({ entry with
                status := .monitoringFailed
                error := "The OCO completion did not identify both accepted child orders" },
              .entryChange)
        | some completed =>
            some ({ completed with
                terminalOrder := some result.filledOrder
                status := .filled
                error := "" },
              .entryChange)
      else none := by
  intro entry written
  dsimp only
  split_ifs
  · cases identified : entry.updateOcoChildrenAfterCompletion result with
    | none =>
        rintro ⟨⟩
        rfl
    | some updated =>
        rintro ⟨⟩
        have sameId : updated.id = entry.id := updated_children_id identified
        exact sameId
  · exact nofun

theorem finish_oco_wait_moves (indexed : session.Indexed) {waitRevision : ℕ}
    {exchangerType : ExchangerType} {ocoInfo : OcoInfo} {history : History Effect Answer}
    {result : OcoWaitResult}
    (completed : event = .completeTask
      (.ocoWait entryId waitRevision exchangerType ocoInfo) history (.ok result)) :
    Moves event session (session.finishOcoWait entryId waitRevision result) other := by
  apply update_entry_moves indexed (finish_oco_wait_keeps_id waitRevision result)
  intro entry found written
  rw [← find_entry_id found] at completed
  split_ifs with current
  · cases identified : entry.updateOcoChildrenAfterCompletion result with
    | none =>
        rintro ⟨⟩ now
        exact .ocoWaitUnidentified _ now completed current identified
    | some updated =>
        rintro ⟨⟩ now
        exact .ocoWaitFinished updated now completed current identified
  · exact nofun

/-! ## Actions -/

theorem show_action_moves (indexed : session.Indexed) (action : Action)
    (touches : ∀ entry, session.findEntry entryId = some entry → event.Touches entry) :
    Moves event session (session.updateEntry entryId (showAction action)) other := by
  apply update_entry_moves indexed (keeps_id_show_action action)
  rintro entry found written ⟨⟩ now
  exact .actionTouched action "" "" now (touches entry found)

theorem start_entry_action_moves (indexed : session.Indexed) (task : SessionTask)
    (touches : ∀ entry, session.findEntry entryId = some entry → event.Touches entry) :
    Moves event session (session.startEntryAction task entryId).2 other := by
  have same : ∀ wanted, (session.startTask task).2.findEntry wanted = session.findEntry wanted :=
    fun _ => find_start_task task
  unfold startEntryAction
  dsimp only
  split_ifs
  · intro entry found
    apply show_action_moves (start_task_indexed indexed task) task.action _ entry
    · exact (same other).trans found
    · intro known foundKnown
      exact touches known ((same entryId).symm.trans foundKnown)
  · exact moves_of_same_find (same other)

/-- The entry that an action of its own was allowed for is idle. -/
theorem touches_of_idle (found : session.findEntry entryId = some entry)
    (idle : entry.action = .none)
    (starts : ∀ entry : Entry, entry.action = .none → event.Touches entry) :
    ∀ known, session.findEntry entryId = some known → event.Touches known := by
  intro known foundKnown
  obtain rfl := Option.some.inj (found.symm.trans foundKnown)
  exact starts entry idle

theorem refresh_order_moves (indexed : session.Indexed) :
    Moves (.refreshOrder entryId : SessionEvent Effect Answer) session
      (session.refreshOrder entryId).2 other := by
  unfold refreshOrder
  split
  next => exact moves_of_same_find rfl
  next entry chosen =>
      obtain ⟨found, allowed⟩ := Option.filter_eq_some_iff.1 chosen
      have idle : entry.action = .none := by
        simp only [Entry.canRefreshOrder, Bool.and_eq_true, decide_eq_true_eq] at allowed
        exact allowed.1
      split
      · exact moves_of_same_find rfl
      · exact start_entry_action_moves indexed _ (touches_of_idle found idle fun _ => id)

theorem cancel_order_moves (indexed : session.Indexed) :
    Moves (.cancelOrder entryId : SessionEvent Effect Answer) session
      (session.cancelOrder entryId).2 other := by
  unfold cancelOrder
  split
  next => exact moves_of_same_find rfl
  next entry chosen =>
      obtain ⟨found, allowed⟩ := Option.filter_eq_some_iff.1 chosen
      have idle : entry.action = .none := by
        simp only [Entry.canCancelOrder, Bool.and_eq_true, decide_eq_true_eq] at allowed
        exact allowed.1.1
      split
      · exact moves_of_same_find rfl
      · split
        · exact start_entry_action_moves indexed _ (touches_of_idle found idle fun _ => id)
        · exact start_entry_action_moves indexed _ (touches_of_idle found idle fun _ => id)

theorem create_entry_refresh_request_frame {request : EntryRefreshRequest}
    (created : entry.createEntryRefreshRequest = some request) :
    request.entryId = entry.id ∧ request.revision = entry.revision := by
  unfold Entry.createEntryRefreshRequest at created
  split at created
  · split at created
    · cases created
    · split_ifs at created
      cases created
      exact ⟨rfl, rfl⟩
  · split at created
    · cases created
    · split_ifs at created
      cases created
      exact ⟨rfl, rfl⟩

/-- The request that Cancel All makes for an entry of its pair. -/
def pairRequest (entry : Entry) : EntryRefreshRequest :=
  entry.createEntryRefreshRequest.getD entry.emptyRequest

theorem pair_request_frame (entry : Entry) :
    (pairRequest entry).entryId = entry.id ∧ (pairRequest entry).revision = entry.revision := by
  unfold pairRequest
  cases created : entry.createEntryRefreshRequest with
  | none => exact ⟨rfl, rfl⟩
  | some request => exact create_entry_refresh_request_frame created

theorem pair_requests_distinct (indexed : session.Indexed) (exchangerType : ExchangerType)
    (symbol : String) :
    ((session.createPairRefreshRequests exchangerType symbol).map
      EntryRefreshRequest.entryId).Nodup := by
  have ids : (session.createPairRefreshRequests exchangerType symbol).map
      EntryRefreshRequest.entryId =
        (session.entries.filter (isOfPair exchangerType symbol)).map Entry.id := by
    rw [createPairRefreshRequests, List.map_map]
    apply List.map_congr_left
    intro entry _
    exact (pair_request_frame entry).1
  rw [ids]
  exact (List.filter_sublist.map Entry.id).nodup indexed.distinct

theorem update_entries_moves {Item : Type} {idOf : Item → EntryId} {reactionOf : Item → Reaction}
    (indexed : session.Indexed) (keeps : ∀ item, (reactionOf item).KeepsId) {items : List Item}
    (distinct : (items.map idOf).Nodup)
    (moves : ∀ item ∈ items, ∀ entry, session.findEntry (idOf item) = some entry →
      ∀ written ∈ reactionOf item entry, ∀ now,
      EntryChange event entry (written.2.stamp now written.1)) :
    Moves event session (session.updateEntries idOf reactionOf items) other := by
  intro entry found
  by_cases addressed : ∃ item ∈ items, idOf item = other
  · obtain ⟨item, member, rfl⟩ := addressed
    obtain ⟨now, changed⟩ := indexed.find_among_updates keeps distinct member found
    refine ⟨_, changed, ?_⟩
    cases reacted : reactionOf item entry with
    | none =>
        rw [Reaction.run_none reacted]
        exact .unchanged
    | some written =>
        rw [Reaction.run_some reacted]
        exact moves item member entry found written reacted now
  · refine ⟨entry, ?_, .unchanged⟩
    rw [indexed.find_beside_updates keeps items]
    · exact found
    · intro item member same
      exact addressed ⟨item, member, same⟩

theorem start_pair_reaction_keeps_id (request : EntryRefreshRequest) :
    Reaction.KeepsId fun entry =>
      if entry.revision ≠ request.revision then none else showAction .cancellingAll entry := by
  intro entry written
  dsimp only
  split_ifs
  · exact nofun
  · exact keeps_id_show_action .cancellingAll entry written

theorem start_pair_action_moves (indexed : session.Indexed) {requests : List EntryRefreshRequest}
    (distinct : (requests.map EntryRefreshRequest.entryId).Nodup)
    (touches : ∀ request ∈ requests, ∀ entry, session.findEntry request.entryId = some entry →
      event.Touches entry) :
    Moves event session (session.startPairAction requests) other := by
  apply update_entries_moves indexed start_pair_reaction_keeps_id distinct
  intro request member entry found written
  split_ifs
  · exact nofun
  · rintro ⟨⟩ now
    exact .actionTouched .cancellingAll "" "" now (touches request member entry found)

/-- Every entry of the pair is idle when Cancel All is allowed. -/
theorem pair_idle {context : Entry} (found : session.findEntry entryId = some context)
    (allowed : session.canCancelAllOpenOrders entryId) (present : entry ∈ session.entries)
    (ofPair : isOfPair context.exchangerType context.pair.symbol entry) :
    entry.status ≠ .submitting ∧ entry.action = .none ∧
      entry.exchangerType = context.exchangerType := by
  rw [canCancelAllOpenOrders, found] at allowed
  simp only [Bool.and_eq_true, List.all_eq_true] at allowed
  have free := allowed.2 entry present
  rw [ofPair] at free
  simp only [isOfPair, Bool.and_eq_true, decide_eq_true_eq] at ofPair
  have idle : entry.status ≠ .submitting ∧ entry.action = .none := by simpa using free
  exact ⟨idle.1, idle.2, ofPair.1⟩

theorem cancel_all_open_orders_moves (indexed : session.Indexed) :
    Moves (.cancelAllOpenOrders entryId : SessionEvent Effect Answer) session
      (session.cancelAllOpenOrders entryId).2 other := by
  unfold cancelAllOpenOrders
  split
  next => exact moves_of_same_find rfl
  next context chosen =>
      obtain ⟨found, allowed⟩ := Option.filter_eq_some_iff.1 chosen
      dsimp only
      split_ifs
      · intro entry foundEntry
        apply start_pair_action_moves (start_task_indexed indexed _)
          (pair_requests_distinct indexed _ _) _ entry
        · exact (find_start_task _).trans foundEntry
        · intro request member known foundKnown
          obtain ⟨paired, selected, rfl⟩ := List.mem_map.1 member
          obtain ⟨present, ofPair⟩ := List.mem_filter.1 selected
          have same := indexed.find_of_mem present
          rw [find_start_task] at foundKnown
          have sameId : paired.id = (pairRequest paired).entryId := (pair_request_frame paired).1.symm
          rw [sameId] at same
          obtain rfl := Option.some.inj (same.symm.trans foundKnown)
          exact (pair_idle found allowed present ofPair).2.1
      · exact moves_of_same_find (find_start_task _)

theorem end_action_change {actionRevision : ℕ} {action : Action} {message error : String}
    {written : Entry × Publication}
    (reacted : written ∈ endAction actionRevision action message error entry)
    (touches : event.Touches entry) (now : ℤ) :
    EntryChange event entry (written.2.stamp now written.1) := by
  unfold endAction at reacted
  split_ifs at reacted with other same
  · cases reacted
  · cases reacted
    have current : entry.isEntryActionCurrent actionRevision action = true := by
      simpa [Entry.isEntryActionCurrent] using ⟨same, not_not.1 other⟩
    rw [Entry.finishEntryAction, if_pos current]
    exact .actionTouched .none message error now touches
  · cases reacted
    exact .actionTouched .none entry.actionMessage entry.actionError now touches

theorem fail_entry_action_moves (indexed : session.Indexed) (actionRevision : ℕ) (action : Action)
    (failurePrefix failure : String)
    (touches : ∀ entry, session.findEntry entryId = some entry → event.Touches entry) :
    Moves event session
      (session.failEntryAction entryId actionRevision action failurePrefix failure) other := by
  apply update_entry_moves indexed keeps_id_end_action
  intro entry found written reacted now
  exact end_action_change reacted (touches entry found) now

theorem finish_pair_action_moves (indexed : session.Indexed)
    {requests : List EntryRefreshRequest}
    (distinct : (requests.map EntryRefreshRequest.entryId).Nodup) (message error : String)
    (touches : ∀ request ∈ requests, ∀ entry, session.findEntry request.entryId = some entry →
      event.Touches entry) :
    Moves event session (session.finishPairAction requests message error) other := by
  apply update_entries_moves indexed (fun _ => keeps_id_end_action) distinct
  intro request member entry found written reacted now
  exact end_action_change reacted (touches request member entry found) now

theorem drop_action_change {action : Action} {written : Entry × Publication}
    (reacted : written ∈ dropAction action entry) (touches : event.Touches entry) (now : ℤ) :
    EntryChange event entry (written.2.stamp now written.1) := by
  unfold dropAction at reacted
  split_ifs at reacted
  · cases reacted
    exact .actionTouched .none entry.actionMessage entry.actionError now touches
  · cases reacted

/-! ## Results -/

section Results

variable {result : EntryRefreshResult} {action : Action} {message : Entry → String}
  {error : String}

/-- The reaction of `finishEntryRefresh` and `finishOcoCancellation`. -/
def finishAction (result : EntryRefreshResult) (action : Action) (message : Entry → String)
    (error : String) : Reaction := fun entry =>
  if entry.isEntryActionCurrent result.request.revision action then
    concludeAction result action message error entry
  else dropAction action entry

theorem finish_action_keeps_id : (finishAction result action message error).KeepsId :=
  Reaction.keeps_id_ite keeps_id_conclude_action keeps_id_drop_action

theorem finish_action_moves (indexed : session.Indexed)
    (stale : ∀ entry, session.findEntry result.request.entryId = some entry →
      result.request.entryId = other →
      ¬ entry.isEntryActionCurrent result.request.revision action)
    (touches : ∀ entry, session.findEntry result.request.entryId = some entry →
      event.Touches entry) :
    Moves event session
      (session.updateEntry result.request.entryId (finishAction result action message error))
      other := by
  intro entry found
  by_cases same : result.request.entryId = other
  · apply update_entry_moves indexed finish_action_keeps_id _ entry found
    intro known foundKnown written reacted now
    rw [finishAction, if_neg (stale known foundKnown same)] at reacted
    exact drop_action_change reacted (touches known foundKnown) now
  · refine ⟨entry, ?_, .unchanged⟩
    rw [indexed.find_not_updated finish_action_keeps_id (Ne.symm same)]
    exact found

theorem find_finish_action (indexed : session.Indexed)
    (found : session.findEntry result.request.entryId = some entry)
    (current : entry.isEntryActionCurrent result.request.revision action) :
    (session.updateEntry result.request.entryId
        (finishAction result action message error)).findEntry result.request.entryId =
      some (concluded entry result (message (entry.applyEntryRefreshResult result).1) error
        (session.clock 0)) := by
  rw [indexed.find_updated finish_action_keeps_id found, ← run_conclude_action current]
  simp only [Reaction.run, finishAction, current, if_true]

/-- One result's reaction in `finishCancelAll`. -/
def finishCancelAllReaction (result : EntryRefreshResult) : Reaction := fun entry =>
  if entry.isEntryActionCurrent result.request.revision .cancellingAll then
    concludeAction result .cancellingAll (cancelAllMessage result)
      (prefixedError "Cancel All accepted; " result.getEntryRefreshError) entry
  else none

theorem finish_cancel_all_keeps_id (result : EntryRefreshResult) :
    (finishCancelAllReaction result).KeepsId :=
  Reaction.keeps_id_ite keeps_id_conclude_action Reaction.keeps_id_none

theorem finish_cancel_all_entries (session : OrderSessionModel)
    (results : List EntryRefreshResult) :
    results.foldl finishCancelAllEntry session =
      session.updateEntries (fun result => result.request.entryId) finishCancelAllReaction
        results := rfl

theorem finish_cancel_all_moves (indexed : session.Indexed) {requests : List EntryRefreshRequest}
    {results : List EntryRefreshResult}
    (answered : results.map (fun result => result.request.entryId) =
      requests.map EntryRefreshRequest.entryId)
    (distinct : (requests.map EntryRefreshRequest.entryId).Nodup)
    (stale : ∀ result ∈ results, ∀ entry, session.findEntry result.request.entryId = some entry →
      result.request.entryId = other →
      ¬ entry.isEntryActionCurrent result.request.revision .cancellingAll)
    (touches : ∀ request ∈ requests, ∀ entry : Entry, entry.id = request.entryId →
      event.Touches entry) :
    Moves event session (session.finishCancelAll requests results) other := by
  intro entry found
  have same : (results.foldl finishCancelAllEntry session).findEntry other = some entry := by
    rw [finish_cancel_all_entries]
    by_cases addressed : ∃ result ∈ results, result.request.entryId = other
    · obtain ⟨result, member, rfl⟩ := addressed
      obtain ⟨now, changed⟩ := indexed.find_among_updates finish_cancel_all_keeps_id
        (answered ▸ distinct) member found
      rw [changed]
      simp only [Reaction.run, finishCancelAllReaction, if_neg (stale result member entry found rfl)]
    · rw [indexed.find_beside_updates finish_cancel_all_keeps_id results]
      · exact found
      · intro result member addressedTo
        exact addressed ⟨result, member, addressedTo⟩
  have between : (results.foldl finishCancelAllEntry session).Indexed := by
    rw [finish_cancel_all_entries]
    exact indexed.update_entries results
  apply finish_pair_action_moves between distinct "Cancel All accepted" "" _ entry same
  intro request member known foundKnown
  exact touches request member known (find_entry_id foundKnown)

theorem end_action_of_other {actionRevision : ℕ} {text : String} (ended : entry.action ≠ action)
    (now : ℤ) : (endAction actionRevision action text error).run now entry = entry :=
  Reaction.run_none (if_pos ended)

theorem find_finish_cancel_all (indexed : session.Indexed) {requests : List EntryRefreshRequest}
    {results : List EntryRefreshResult}
    (answered : results.map (fun result => result.request.entryId) =
      requests.map EntryRefreshRequest.entryId)
    (distinct : (requests.map EntryRefreshRequest.entryId).Nodup) (member : result ∈ results)
    (found : session.findEntry result.request.entryId = some entry)
    (current : entry.isEntryActionCurrent result.request.revision .cancellingAll) :
    ∃ message error now,
      (session.finishCancelAll requests results).findEntry result.request.entryId =
        some (concluded entry result message error now) := by
  obtain ⟨now, changed⟩ := indexed.find_among_updates finish_cancel_all_keeps_id
    (answered ▸ distinct) member found
  let message := cancelAllMessage result (entry.applyEntryRefreshResult result).1
  let error := prefixedError "Cancel All accepted; " result.getEntryRefreshError
  have merged : (results.foldl finishCancelAllEntry session).findEntry result.request.entryId =
      some (concluded entry result message error now) := by
    rw [finish_cancel_all_entries, changed, ← run_conclude_action current]
    simp only [Reaction.run, finishCancelAllReaction, current, if_true]
    rfl
  have between : (results.foldl finishCancelAllEntry session).Indexed := by
    rw [finish_cancel_all_entries]
    exact indexed.update_entries results
  refine ⟨message, error, now, ?_⟩
  have known : result.request.entryId ∈ requests.map EntryRefreshRequest.entryId := by
    rw [← answered]
    exact List.mem_map.2 ⟨result, member, rfl⟩
  obtain ⟨request, requested, sameId⟩ := List.mem_map.1 known
  rw [← sameId] at merged ⊢
  -- the merged entry's action is over, so its turn in `finishPairAction` leaves it alone
  have ended : ∃ later, (session.finishCancelAll requests results).findEntry request.entryId =
      some ((endAction request.revision .cancellingAll "Cancel All accepted" "").run later
        (concluded entry result message error now)) :=
    between.find_among_updates (fun _ => keeps_id_end_action) distinct requested merged
  obtain ⟨later, ended⟩ := ended
  rw [ended, end_action_of_other]
  unfold concluded
  dsimp only
  split_ifs
  · intro shown
    cases shown
  · intro shown
    cases shown

end Results

/-! ## Events -/

def SessionTask.DistinctRequests (task : SessionTask) : Prop :=
  (task.requests.map EntryRefreshRequest.entryId).Nodup

theorem answered_ids {results : List EntryRefreshResult} {requests : List EntryRefreshRequest}
    (answers : List.Forall₂ EntryRefreshResult.AnswersTo results requests) :
    results.map (fun result => result.request.entryId) =
      requests.map EntryRefreshRequest.entryId := by
  induction answers with
  | nil => rfl
  | cons answer _ ih => rw [List.map_cons, List.map_cons, answer.1, ih]

theorem answered_request {results : List EntryRefreshResult}
    {requests : List EntryRefreshRequest}
    (answers : List.Forall₂ EntryRefreshResult.AnswersTo results requests)
    {result : EntryRefreshResult} (member : result ∈ results) :
    ∃ request ∈ requests, result.AnswersTo request := by
  induction answers with
  | nil => cases member
  | cons answer _ ih =>
      rcases List.mem_cons.1 member with rfl | later
      · exact ⟨_, List.mem_cons_self, answer⟩
      · obtain ⟨request, present, answers⟩ := ih later
        exact ⟨request, List.mem_cons_of_mem _ present, answers⟩

theorem answered_id {result : EntryRefreshResult} {request : EntryRefreshRequest}
    (answers : List.Forall₂ EntryRefreshResult.AnswersTo [result] [request]) :
    result.request.entryId = request.entryId := by
  cases answers with
  | cons answer _ => rw [answer.1]

theorem completion_touches {task : SessionTask} {history : History Effect Answer}
    {outcome : Except ServiceFailure task.Result}
    (completed : event = .completeTask task history outcome) {request : EntryRefreshRequest}
    (member : request ∈ task.requests) (own : entry.id = request.entryId) :
    event.Touches entry := by
  rw [completed]
  exact ⟨request, member, own.symm⟩

theorem deliver_success_moves (indexed : session.Indexed) {task : SessionTask}
    (distinct : task.DistinctRequests) {history : History Effect Answer} {result : task.Result}
    (answers : List.Forall₂ EntryRefreshResult.AnswersTo (task.refreshResults result)
      task.requests)
    (completed : event = .completeTask task history (.ok result))
    (stale : ∀ delivered ∈ task.refreshResults result, ∀ entry,
      session.findEntry delivered.request.entryId = some entry →
      delivered.request.entryId = other →
      ¬ entry.isEntryActionCurrent delivered.request.revision task.action) :
    Moves event session (session.deliverSuccess task result) other := by
  cases task with
  | submitBasic entryId draft => exact accept_basic_order_moves indexed result
  | submitOco entryId draft => exact accept_oco_moves indexed result
  | orderWait entryId waitRevision exchangerType symbol orderId =>
      exact finish_order_wait_moves indexed completed
  | ocoWait entryId waitRevision exchangerType ocoInfo =>
      exact finish_oco_wait_moves indexed completed
  | refresh exchangerType request =>
      apply finish_action_moves indexed (stale result (List.mem_singleton_self _))
      intro entry found
      exact completion_touches completed (List.mem_singleton_self _)
        ((find_entry_id found).trans (answered_id answers))
  | cancelBasic exchangerType request =>
      apply finish_action_moves indexed (stale result (List.mem_singleton_self _))
      intro entry found
      exact completion_touches completed (List.mem_singleton_self _)
        ((find_entry_id found).trans (answered_id answers))
  | cancelOco exchangerType request ocoInfo =>
      apply finish_action_moves indexed (stale result (List.mem_singleton_self _))
      intro entry found
      exact completion_touches completed (List.mem_singleton_self _)
        ((find_entry_id found).trans (answered_id answers))
  | cancelAll contextId exchangerType symbol requests =>
      apply finish_cancel_all_moves indexed (answered_ids answers) distinct stale
      intro request member entry own
      exact completion_touches completed member own

theorem deliver_failure_moves (indexed : session.Indexed) {task : SessionTask}
    (distinct : task.DistinctRequests) {history : History Effect Answer} {failure : ServiceFailure}
    (completed : event = .completeTask task history (.error failure)) :
    Moves event session (session.deliverFailure task (getFailureMessage failure)) other := by
  cases task with
  | submitBasic entryId draft => exact fail_submission_moves indexed _
  | submitOco entryId draft => exact fail_submission_moves indexed _
  | orderWait entryId waitRevision exchangerType symbol orderId =>
      exact fail_order_wait_moves indexed completed rfl
  | ocoWait entryId waitRevision exchangerType ocoInfo =>
      exact fail_order_wait_moves indexed completed rfl
  | refresh exchangerType request =>
      apply fail_entry_action_moves indexed
      intro entry found
      exact completion_touches completed (List.mem_singleton_self _) (find_entry_id found)
  | cancelBasic exchangerType request =>
      apply fail_entry_action_moves indexed
      intro entry found
      exact completion_touches completed (List.mem_singleton_self _) (find_entry_id found)
  | cancelOco exchangerType request ocoInfo =>
      apply fail_entry_action_moves indexed
      intro entry found
      exact completion_touches completed (List.mem_singleton_self _) (find_entry_id found)
  | cancelAll contextId exchangerType symbol requests =>
      apply finish_pair_action_moves indexed distinct
      intro request member entry found
      exact completion_touches completed member (find_entry_id found)

theorem complete_task_delivers (running : session.stopping = false) (task : SessionTask)
    (outcome : Except ServiceFailure task.Result) :
    session.completeTask task outcome = session.deliverTaskCompletion task outcome := by
  unfold OrderSessionModel.completeTask
  rw [running]
  rfl

variable {services : ExchangerType → DealServiceCalls Effect Answer}

theorem Occurs.entry_change (indexed : session.Indexed)
    (distinct : ∀ task ∈ session.tasks, task.DistinctRequests)
    (occurs : Occurs services session event after) (found : session.findEntry other = some entry)
    (stale : ∀ result, ¬ event.Concludes session entry result) :
    ∃ moved, after.findEntry other = some moved ∧ EntryChange event entry moved := by
  cases occurs with
  | placeOrder draft => exact place_order_moves indexed draft entry found
  | placeOco draft => exact place_oco_moves indexed draft entry found
  | refreshOrder entryId => exact refresh_order_moves indexed entry found
  | cancelOrder entryId => exact cancel_order_moves indexed entry found
  | cancelAllOpenOrders entryId => exact cancel_all_open_orders_moves indexed entry found
  | runQueuedCall queued =>
      have same : ∀ calls, ({ session with queuedCalls := calls } : OrderSessionModel).Indexed :=
        fun _ => ⟨indexed.distinct, indexed.issued, indexed.sorted⟩
      exact (run_queued_call_outcome _ _).moves (same _) rfl entry found
  | requestStop => exact ⟨entry, found, .unchanged⟩
  | @completeTask earlier later task stopRequested history outcome inFlight token ended =>
      have same : ({ session with tasks := earlier ++ later } : OrderSessionModel).Indexed :=
        ⟨indexed.distinct, indexed.issued, indexed.sorted⟩
      have ownDistinct : task.DistinctRequests := distinct task (by rw [inFlight]; simp)
      unfold OrderSessionModel.completeTask
      split_ifs with stopping
      · exact ⟨entry, found, .unchanged⟩
      · cases outcome with
        | error failure =>
            have marked : (({ session with tasks := earlier ++ later } : OrderSessionModel
                ).setTaskState task.slot
                { status := .failed, error := getFailureMessage failure }).Indexed :=
              ⟨indexed.distinct, indexed.issued, indexed.sorted⟩
            exact deliver_failure_moves marked ownDistinct rfl entry found
        | ok result =>
            apply deliver_success_moves same ownDistinct (SessionTask.work_answers ended) rfl _
              entry found
            intro delivered member known foundKnown addressed current
            have equal : known = entry := by
              rw [addressed] at foundKnown
              exact Option.some.inj (foundKnown.symm.trans found)
            subst equal
            apply stale delivered
            refine ⟨?_, addressed.trans (find_entry_id found).symm, current⟩
            rw [SessionEvent.results, if_neg stopping]
            exact member

theorem deliver_success_concludes (indexed : session.Indexed) {task : SessionTask}
    (distinct : task.DistinctRequests) {result : task.Result}
    (answers : List.Forall₂ EntryRefreshResult.AnswersTo (task.refreshResults result)
      task.requests)
    {delivered : EntryRefreshResult} (member : delivered ∈ task.refreshResults result)
    (found : session.findEntry delivered.request.entryId = some entry)
    (current : entry.isEntryActionCurrent delivered.request.revision task.action) :
    ∃ message error now,
      (session.deliverSuccess task result).findEntry delivered.request.entryId =
        some (concluded entry delivered message error now) := by
  cases task with
  | submitBasic entryId draft => cases member
  | submitOco entryId draft => cases member
  | orderWait entryId waitRevision exchangerType symbol orderId => cases member
  | ocoWait entryId waitRevision exchangerType ocoInfo => cases member
  | refresh exchangerType request =>
      obtain rfl := List.mem_singleton.1 member
      exact ⟨_, _, _, find_finish_action indexed found current⟩
  | cancelBasic exchangerType request =>
      obtain rfl := List.mem_singleton.1 member
      exact ⟨_, _, _, find_finish_action indexed found current⟩
  | cancelOco exchangerType request ocoInfo =>
      obtain rfl := List.mem_singleton.1 member
      exact ⟨_, _, _, find_finish_action indexed found current⟩
  | cancelAll contextId exchangerType symbol requests =>
      exact find_finish_cancel_all indexed (answered_ids answers) distinct member found current

/-- A current result is always merged. -/
theorem Occurs.entry_concluded (indexed : session.Indexed)
    (distinct : ∀ task ∈ session.tasks, task.DistinctRequests)
    (occurs : Occurs services session event after) (found : session.findEntry other = some entry)
    {result : EntryRefreshResult} (concludes : event.Concludes session entry result) :
    ∃ message error now, after.findEntry other = some (concluded entry result message error now) := by
  obtain ⟨delivered, addressed, current⟩ := concludes
  have sameId : result.request.entryId = other := addressed.trans (find_entry_id found)
  cases occurs with
  | placeOrder draft => cases delivered
  | placeOco draft => cases delivered
  | refreshOrder entryId => cases delivered
  | cancelOrder entryId => cases delivered
  | cancelAllOpenOrders entryId => cases delivered
  | runQueuedCall queued => cases delivered
  | requestStop => cases delivered
  | @completeTask earlier later task stopRequested history outcome inFlight token ended =>
      cases outcome with
      | error failure => cases delivered
      | ok outcome =>
          have same : ({ session with tasks := earlier ++ later } : OrderSessionModel).Indexed :=
            ⟨indexed.distinct, indexed.issued, indexed.sorted⟩
          have ownDistinct : task.DistinctRequests := distinct task (by rw [inFlight]; simp)
          rw [SessionEvent.results] at delivered
          split_ifs at delivered with stopping
          · cases delivered
          · rw [← sameId] at found ⊢
            unfold OrderSessionModel.completeTask
            rw [if_neg stopping]
            exact deliver_success_concludes same ownDistinct (SessionTask.work_answers ended)
              delivered found current

end CryptoDeal.OrderSession
