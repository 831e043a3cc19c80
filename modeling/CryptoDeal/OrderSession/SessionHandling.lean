import CryptoDeal.OrderSession.ActionMatching

/-!
# What a session announces

Each handler of the session is a few moves one after the other: it publishes an
entry, adds one, starts a task or queues a call. Read so, a handler tells which
lists of entries `entriesChanged` announced on the way, that none of them made
an entry active again, and which UI task states are loading when it is done.
-/

namespace CryptoDeal.OrderSession

open DealService OrderStatusUtil Interaction OrderSessionModel

/-! ## Announcements -/

/-- An entry that is written does not become active by it. -/
def KeepsInactive (entries : List Entry) (changed : Entry) : Prop :=
  ∀ entry ∈ entries, entry.id = changed.id →
    isActiveStatus changed.status = true → isActiveStatus entry.status = true

/-- The entries before and after one of a handler's publications. -/
inductive Publishes (entries : List Entry) : List Entry → Prop where
  | change (publication : Publication) (now : ℤ) (changed : Entry)
      (keeps : KeepsInactive entries changed) :
      Publishes entries
        (sortEntries (KeyedRows.write Entry.id (publication.stamp now changed) entries))
  | creation (publication : Publication) (now : ℤ) (created : Entry)
      (new : ∀ entry ∈ entries, entry.id ≠ created.id) :
      Publishes entries
        (sortEntries
          (KeyedRows.write Entry.id (publication.stamp now created) (entries ++ [created])))

/-- The lists of entries that a handler announces, and the one that it leaves. -/
inductive Announces (entries : List Entry) : List (List Entry) → List Entry → Prop where
  | nothing : Announces entries [] entries
  | publish {published : List (List Entry)} {before after : List Entry}
      (earlier : Announces entries published before) (publishes : Publishes before after) :
      Announces entries (published ++ [after]) after

/-! ## Handlers as moves -/

/-- What a handler publishes and starts. -/
inductive Handling (session : OrderSessionModel) :
    List (List Entry) → List SessionTask → OrderSessionModel → Prop where
  | nothing : Handling session [] [] session
  | publish {published : List (List Entry)} {started : List SessionTask}
      {before : OrderSessionModel} (earlier : Handling session published started before)
      (publication : Publication) (changed : Entry)
      (keeps : KeepsInactive before.entries changed) :
      Handling session (published ++ [(before.publish publication changed).entries]) started
        (before.publish publication changed)
  | create {published : List (List Entry)} {started : List SessionTask}
      {before : OrderSessionModel} (earlier : Handling session published started before)
      (draft : EntryDraft) (unissued : ∀ entry ∈ before.entries, entry.id ≠ before.nextEntryId) :
      Handling session (published ++ [(before.createEntry draft).entries]) started
        (before.createEntry draft)
  | start {published : List (List Entry)} {started : List SessionTask}
      {before : OrderSessionModel} (earlier : Handling session published started before)
      (task : SessionTask) (starts : (before.startTask task).1 = true) :
      Handling session published (started ++ [task]) (before.startTask task).2
  | queue {published : List (List Entry)} {started : List SessionTask}
      {before : OrderSessionModel} (earlier : Handling session published started before)
      (call : QueuedCall) : Handling session published started (before.queueCall call)

section Handlers

variable {session middle after : OrderSessionModel} {entryId : EntryId} {entry : Entry}

/-- A handler that is made of moves, whichever it publishes. -/
def Handles (started : List SessionTask) (session after : OrderSessionModel) : Prop :=
  ∃ published, Handling session published started after

namespace Handles

variable {started further : List SessionTask}

theorem refl (session : OrderSessionModel) : Handles [] session session := ⟨[], .nothing⟩

theorem trans (first : Handles started session middle) (second : Handles further middle after) :
    Handles (started ++ further) session after := by
  obtain ⟨published, first⟩ := first
  obtain ⟨others, second⟩ := second
  induction second with
  | nothing =>
      rw [List.append_nil]
      exact ⟨published, first⟩
  | publish earlier publication changed keeps ih =>
      obtain ⟨known, handling⟩ := ih
      exact ⟨_, handling.publish publication changed keeps⟩
  | create earlier draft unissued ih =>
      obtain ⟨known, handling⟩ := ih
      exact ⟨_, handling.create draft unissued⟩
  | start earlier task starts ih =>
      obtain ⟨known, handling⟩ := ih
      rw [← List.append_assoc]
      exact ⟨_, handling.start task starts⟩
  | queue earlier call ih =>
      obtain ⟨known, handling⟩ := ih
      exact ⟨_, handling.queue call⟩

theorem publish (publication : Publication) (changed : Entry)
    (keeps : KeepsInactive session.entries changed) :
    Handles [] session (session.publish publication changed) :=
  ⟨_, Handling.nothing.publish publication changed keeps⟩

theorem queue (handles : Handles started session after) (call : QueuedCall) :
    Handles started session (after.queueCall call) := by
  obtain ⟨published, handling⟩ := handles
  exact ⟨published, handling.queue call⟩

/-- A reaction that does not make the entry it meets active. -/
theorem update_entry (indexed : session.Indexed) {reaction : Reaction}
    (keepsId : reaction.KeepsId)
    (keeps : ∀ entry, session.findEntry entryId = some entry → ∀ written ∈ reaction entry,
      isActiveStatus written.1.status = true → isActiveStatus entry.status = true) :
    Handles [] session (session.updateEntry entryId reaction) := by
  unfold updateEntry
  cases found : session.findEntry entryId with
  | none => exact refl session
  | some entry =>
      cases reacted : reaction entry with
      | none =>
          simp only [Option.bind_some, reacted]
          exact refl session
      | some written =>
          simp only [Option.bind_some, reacted]
          apply publish
          intro known present same active
          have sameId : known.id = entry.id := same.trans (keepsId entry written reacted)
          have equal : known = entry := by
            have foundKnown := indexed.find_of_mem present
            rw [sameId, find_entry_id found, found] at foundKnown
            exact (Option.some.inj foundKnown).symm
          rw [equal]
          exact keeps entry found written reacted active

theorem start (session : OrderSessionModel) (task : SessionTask) :
    session.startTask task = (false, session) ∨
      ((session.startTask task).1 = true ∧
        Handles [task] session (session.startTask task).2) := by
  rcases Writes.start_task session task with refused | ⟨starts, _⟩
  · exact .inl refused
  · exact .inr ⟨starts, [], Handling.nothing.start task starts⟩

end Handles

/-! ## Reactions -/

/-- A reaction that makes no entry active. -/
def Reaction.KeepsInactive (reaction : Reaction) : Prop :=
  ∀ entry, ∀ written ∈ reaction entry,
    isActiveStatus written.1.status = true → isActiveStatus entry.status = true

theorem Handles.update_entries {Item : Type} {idOf : Item → EntryId}
    {reactionOf : Item → Reaction} (indexed : session.Indexed)
    (keepsId : ∀ item, (reactionOf item).KeepsId)
    (keeps : ∀ item, (reactionOf item).KeepsInactive) (items : List Item) :
    Handles [] session (session.updateEntries idOf reactionOf items) := by
  induction items generalizing session with
  | nil => exact .refl session
  | cons item items ih =>
      exact (Handles.update_entry indexed (keepsId item)
        fun entry _ => keeps item entry).trans (ih indexed.update_entry)

section Reactions

variable {result : EntryRefreshResult} {action : Action} {message : Entry → String}
  {error text : String} {actionRevision : ℕ}

theorem finish_entry_action_status :
    (entry.finishEntryAction actionRevision action text error).status = entry.status := by
  unfold Entry.finishEntryAction
  split_ifs <;> rfl

theorem apply_basic_order_refresh_inactive (entry : Entry) (orderInfo : OrderInfo)
    (active : isActiveStatus (entry.applyBasicOrderRefresh orderInfo).1.status = true) :
    isActiveStatus entry.status = true := by
  unfold Entry.applyBasicOrderRefresh at active
  split_ifs at active
  · exact active
  · split at active
    · cases active
    · cases active
    · cases active
    · exact active
    · exact active

theorem apply_oco_refresh_inactive (entry : Entry) (result : EntryRefreshResult)
    (active : isActiveStatus (entry.applyOcoRefresh result).1.status = true) :
    isActiveStatus entry.status = true := by
  unfold Entry.applyOcoRefresh at active
  split at active
  · exact active
  · dsimp only at active
    split_ifs at active
    · cases active
    · cases active
    · cases active
    · exact active

theorem apply_entry_refresh_result_inactive (entry : Entry) (result : EntryRefreshResult)
    (active : isActiveStatus (entry.applyEntryRefreshResult result).1.status = true) :
    isActiveStatus entry.status = true := by
  unfold Entry.applyEntryRefreshResult at active
  split at active
  · split at active
    · exact apply_basic_order_refresh_inactive entry _ active
    · exact active
  · exact apply_oco_refresh_inactive entry result active

theorem show_action_inactive (action : Action) : (showAction action).KeepsInactive := by
  rintro entry written ⟨⟩ active
  exact active

theorem conclude_action_inactive : (concludeAction result action message error).KeepsInactive := by
  rintro entry written ⟨⟩ active
  rw [finish_entry_action_status] at active
  exact apply_entry_refresh_result_inactive entry result active

theorem drop_action_inactive : (dropAction action).KeepsInactive := by
  intro entry written reacted active
  unfold dropAction at reacted
  split_ifs at reacted
  · cases reacted
    exact active
  · cases reacted

theorem finish_action_inactive : (finishAction result action message error).KeepsInactive := by
  intro entry written reacted
  unfold finishAction at reacted
  split_ifs at reacted
  · exact conclude_action_inactive entry written reacted
  · exact drop_action_inactive entry written reacted

theorem finish_cancel_all_inactive (result : EntryRefreshResult) :
    (finishCancelAllReaction result).KeepsInactive := by
  intro entry written reacted
  unfold finishCancelAllReaction at reacted
  split_ifs at reacted
  · exact conclude_action_inactive entry written reacted
  · cases reacted

theorem end_action_inactive : (endAction actionRevision action text error).KeepsInactive := by
  intro entry written reacted active
  unfold endAction at reacted
  split_ifs at reacted
  · cases reacted
  · cases reacted
    rw [finish_entry_action_status] at active
    exact active
  · cases reacted
    exact active

theorem start_pair_inactive (request : EntryRefreshRequest) :
    Reaction.KeepsInactive fun entry =>
      if entry.revision ≠ request.revision then none else showAction .cancellingAll entry := by
  intro entry written reacted
  dsimp only at reacted
  split_ifs at reacted
  · cases reacted
  · exact show_action_inactive .cancellingAll entry written reacted

theorem fail_submission_inactive (failure : String) :
    Reaction.KeepsInactive fun entry =>
      if entry.status ≠ .submitting then none
      else some ({ entry with status := .submissionFailed, error := failure }, .entryChange) := by
  intro entry written reacted active
  dsimp only at reacted
  split_ifs at reacted
  · cases reacted
  · cases reacted
    cases active

theorem fail_order_wait_inactive (waitRevision : ℕ) (failure : String) :
    Reaction.KeepsInactive fun entry =>
      if entry.isCurrentWaitingRevision waitRevision then
        some ({ entry with status := .monitoringFailed, error := failure },
          if entry.action = .cancelling ∨ entry.action = .cancellingAll then .entryActionChange
          else .entryChange)
      else none := by
  intro entry written reacted active
  dsimp only at reacted
  split_ifs at reacted with current
  · rw [(current_waiting current).1]
    rfl
  · rw [(current_waiting current).1]
    rfl
  · cases reacted

end Reactions

/-! ## The handlers of the session -/

theorem fail_submission_handles (indexed : session.Indexed) (failure : String) :
    Handles [] session (session.failSubmission entryId failure) :=
  .update_entry indexed (fail_submission_keeps_id failure)
    fun entry _ => fail_submission_inactive failure entry

/-- What `placeOrder` and `placeOco` share. -/
theorem submit_handles (indexed : session.Indexed) (draft : EntryDraft) (task : SessionTask)
    (failure : String) :
    ∃ started, Handles started session
      (if ((session.createEntry draft).startTask task).1 then
        ((session.createEntry draft).startTask task).2
      else
        ((session.createEntry draft).startTask task).2.failSubmission session.nextEntryId
          failure) := by
  have created : Handles [] session (session.createEntry draft) := by
    refine ⟨_, Handling.nothing.create draft ?_⟩
    exact fun entry present => Nat.ne_of_lt (indexed.issued entry present)
  rcases Handles.start (session.createEntry draft) task with refused | ⟨starts, start⟩
  · rw [refused]
    exact ⟨[], created.trans (fail_submission_handles indexed.create_entry failure)⟩
  · rw [if_pos starts]
    exact ⟨[task], created.trans start⟩

theorem place_order_handles (indexed : session.Indexed) (draft : BasicOrderDraft) :
    ∃ started, Handles started session (session.placeOrder draft).2 := by
  unfold placeOrder
  split_ifs
  · exact submit_handles indexed (.basic draft) (.submitBasic session.nextEntryId draft) _
  · exact ⟨[], .refl session⟩

theorem place_oco_handles (indexed : session.Indexed) (draft : OcoOrderDraft) :
    ∃ started, Handles started session (session.placeOco draft).2 :=
  submit_handles indexed (.oco draft) (.submitOco session.nextEntryId draft) _

theorem accept_basic_order_handles (indexed : session.Indexed) (orderInfo : OrderInfo) :
    Handles [] session (session.acceptBasicOrder entryId orderInfo) := by
  unfold acceptBasicOrder
  split_ifs with submitting
  · apply Handles.queue
    apply Handles.update_entry indexed
    · rintro entry written ⟨⟩
      rfl
    · rintro entry found written ⟨⟩ active
      rw [(is_submitting_found submitting found).1]
      rfl
  · exact .refl session

theorem accept_oco_handles (indexed : session.Indexed) (ocoInfo : OcoInfo) :
    Handles [] session (session.acceptOco entryId ocoInfo) := by
  unfold acceptOco
  split_ifs with submitting
  · apply Handles.queue
    apply Handles.update_entry indexed
    · rintro entry written ⟨⟩
      rfl
    · rintro entry found written ⟨⟩ active
      rw [(is_submitting_found submitting found).1]
      rfl
  · exact .refl session

theorem fail_order_wait_handles (indexed : session.Indexed) (waitRevision : ℕ) (failure : String) :
    Handles [] session (session.failOrderWait entryId waitRevision failure) :=
  .update_entry indexed (fail_order_wait_keeps_id waitRevision failure)
    fun entry _ => fail_order_wait_inactive waitRevision failure entry

theorem finish_order_wait_handles (indexed : session.Indexed) (waitRevision : ℕ)
    (orderInfo : OrderInfo) :
    Handles [] session (session.finishOrderWait entryId waitRevision orderInfo) := by
  apply Handles.update_entry indexed (finish_order_wait_keeps_id waitRevision orderInfo)
  intro entry found written reacted active
  split_ifs at reacted
  · cases reacted
    cases active
  · cases reacted

theorem finish_oco_wait_handles (indexed : session.Indexed) (waitRevision : ℕ)
    (result : OcoWaitResult) :
    Handles [] session (session.finishOcoWait entryId waitRevision result) := by
  apply Handles.update_entry indexed (finish_oco_wait_keeps_id waitRevision result)
  intro entry found written reacted active
  split_ifs at reacted with current
  · rw [(current_waiting current).1]
    rfl
  · cases reacted

/-- What is written to an entry that continues after its acceptance. -/
theorem keeps_inactive_of_active {changed : Entry} (indexed : session.Indexed)
    (found : session.findEntry entry.id = some entry) (same : changed.id = entry.id)
    (active : isActiveStatus entry.status = true) : KeepsInactive session.entries changed := by
  intro known present sameId _
  have foundKnown := indexed.find_of_mem present
  rw [sameId, same, found] at foundKnown
  rw [← Option.some.inj foundKnown]
  exact active

theorem QueuedCall.Continues.active {call : QueuedCall} (continues : call.Continues entry) :
    isActiveStatus entry.status = true := by
  cases call with
  | continueAfterBasicAcceptance entryId =>
      rw [continues.2.1]
      rfl
  | continueAfterOcoAcceptance entryId =>
      rw [continues.2.1]
      rfl

theorem start_wait_handles (indexed : session.Indexed)
    (found : session.findEntry entry.id = some entry)
    (active : isActiveStatus entry.status = true) (task : ℕ → SessionTask) (failure : String) :
    ∃ started, Handles started session (session.startWait entry task failure) := by
  have waiting : Handles [] session
      (session.publish .entryChange { entry with status := .waiting }) :=
    .publish _ _ (keeps_inactive_of_active indexed found rfl active)
  unfold startWait
  dsimp only
  rcases Handles.start (session.publish .entryChange { entry with status := .waiting })
    (task (entry.revision + 1)) with refused | ⟨starts, start⟩
  · rw [refused]
    exact ⟨[], waiting.trans (fail_order_wait_handles indexed.publish _ failure)⟩
  · rw [if_pos starts]
    exact ⟨_, waiting.trans start⟩

theorem queued_outcome_handles (indexed : session.Indexed) {call : QueuedCall}
    (outcome : QueuedOutcome session call after) : ∃ started, Handles started session after := by
  cases outcome with
  | ignored idle => exact ⟨[], .refl session⟩
  | @filled entry found addressed accepted filled =>
      have active : isActiveStatus entry.status = true := by
        rw [accepted]
        rfl
      exact ⟨[], .publish _ _ (keeps_inactive_of_active indexed found rfl active)⟩
  | refused found continues failure =>
      exact ⟨[], .publish _ _ (keeps_inactive_of_active indexed found rfl continues.active)⟩
  | waiting found continues task waits actionless fits failure =>
      exact start_wait_handles indexed found continues.active task failure

theorem start_entry_action_handles (indexed : session.Indexed) (task : SessionTask)
    (entryId : EntryId) :
    ∃ started, Handles started session (session.startEntryAction task entryId).2 := by
  unfold startEntryAction
  dsimp only
  rcases Handles.start session task with refused | ⟨starts, start⟩
  · rw [refused]
    exact ⟨[], .refl session⟩
  · rw [if_pos starts]
    have shown : Handles [] (session.startTask task).2
        ((session.startTask task).2.updateEntry entryId (showAction task.action)) :=
      .update_entry (start_task_indexed indexed task) (keeps_id_show_action _)
        fun entry _ => show_action_inactive task.action entry
    exact ⟨_, start.trans shown⟩

theorem refresh_order_handles (indexed : session.Indexed) (entryId : EntryId) :
    ∃ started, Handles started session (session.refreshOrder entryId).2 := by
  unfold refreshOrder
  split
  · exact ⟨[], .refl session⟩
  · split
    · exact ⟨[], .refl session⟩
    · exact start_entry_action_handles indexed _ entryId

theorem cancel_order_handles (indexed : session.Indexed) (entryId : EntryId) :
    ∃ started, Handles started session (session.cancelOrder entryId).2 := by
  unfold cancelOrder
  split
  · exact ⟨[], .refl session⟩
  · split
    · exact ⟨[], .refl session⟩
    · split
      · exact start_entry_action_handles indexed _ entryId
      · exact start_entry_action_handles indexed _ entryId

theorem cancel_all_open_orders_handles (indexed : session.Indexed) (entryId : EntryId) :
    ∃ started, Handles started session (session.cancelAllOpenOrders entryId).2 := by
  unfold cancelAllOpenOrders
  split
  · exact ⟨[], .refl session⟩
  next context chosen =>
      dsimp only
      rcases Handles.start session (.cancelAll entryId context.exchangerType
        context.pair.symbol (session.createPairRefreshRequests context.exchangerType
          context.pair.symbol)) with refused | ⟨starts, start⟩
      · rw [refused]
        exact ⟨[], .refl session⟩
      · rw [if_pos starts]
        exact ⟨_, start.trans (.update_entries (start_task_indexed indexed _)
          start_pair_reaction_keeps_id start_pair_inactive _)⟩

theorem finish_pair_action_handles (indexed : session.Indexed)
    (requests : List EntryRefreshRequest) (message error : String) :
    Handles [] session (session.finishPairAction requests message error) :=
  .update_entries indexed (fun _ => keeps_id_end_action) (fun _ => end_action_inactive) requests

theorem deliver_success_handles (indexed : session.Indexed) (task : SessionTask)
    (result : task.Result) : Handles [] session (session.deliverSuccess task result) := by
  cases task with
  | submitBasic entryId draft => exact accept_basic_order_handles indexed result
  | submitOco entryId draft => exact accept_oco_handles indexed result
  | orderWait entryId waitRevision exchangerType symbol orderId =>
      exact finish_order_wait_handles indexed waitRevision result
  | ocoWait entryId waitRevision exchangerType ocoInfo =>
      exact finish_oco_wait_handles indexed waitRevision result
  | refresh exchangerType request =>
      exact .update_entry indexed finish_action_keeps_id fun entry _ => finish_action_inactive entry
  | cancelBasic exchangerType request =>
      exact .update_entry indexed finish_action_keeps_id fun entry _ => finish_action_inactive entry
  | cancelOco exchangerType request ocoInfo =>
      exact .update_entry indexed finish_action_keeps_id fun entry _ => finish_action_inactive entry
  | cancelAll contextId exchangerType symbol requests =>
      have merged : Handles [] session (result.foldl finishCancelAllEntry session) := by
        rw [finish_cancel_all_entries]
        exact .update_entries indexed finish_cancel_all_keeps_id finish_cancel_all_inactive result
      have between : (result.foldl finishCancelAllEntry session).Indexed := by
        rw [finish_cancel_all_entries]
        exact indexed.update_entries result
      exact merged.trans (finish_pair_action_handles between requests "Cancel All accepted" "")

theorem deliver_failure_handles (indexed : session.Indexed) (task : SessionTask)
    (failure : String) : Handles [] session (session.deliverFailure task failure) := by
  cases task with
  | submitBasic entryId draft => exact fail_submission_handles indexed failure
  | submitOco entryId draft => exact fail_submission_handles indexed failure
  | orderWait entryId waitRevision exchangerType symbol orderId =>
      exact fail_order_wait_handles indexed waitRevision failure
  | ocoWait entryId waitRevision exchangerType ocoInfo =>
      exact fail_order_wait_handles indexed waitRevision failure
  | refresh exchangerType request =>
      exact .update_entry indexed keeps_id_end_action fun entry _ => end_action_inactive entry
  | cancelBasic exchangerType request =>
      exact .update_entry indexed keeps_id_end_action fun entry _ => end_action_inactive entry
  | cancelOco exchangerType request ocoInfo =>
      exact .update_entry indexed keeps_id_end_action fun entry _ => end_action_inactive entry
  | cancelAll contextId exchangerType symbol requests =>
      exact finish_pair_action_handles indexed requests "" _

/-! ## What moves add up to -/

theorem start_task_entries (task : SessionTask) :
    (session.startTask task).2.entries = session.entries := by
  unfold startTask
  split_ifs <;> rfl

theorem Handling.announces {published : List (List Entry)} {started : List SessionTask}
    (handling : Handling session published started after) :
    Announces session.entries published after.entries := by
  induction handling with
  | nothing => exact .nothing
  | @publish published started before earlier publication changed keeps ih =>
      exact ih.publish (.change publication (before.clock 0) changed keeps)
  | @create published started before earlier draft unissued ih =>
      let created : Entry := { before.createdEntry draft with
        updatedAtMs := before.clock 0, revision := 0 }
      exact ih.publish (.creation .entryChange (before.clock 1) created unissued)
  | start earlier task starts ih =>
      rw [start_task_entries]
      exact ih
  | queue earlier call ih => exact ih

/-- A UI task state is loading exactly while the task that was started on it is in flight. -/
structure SlotsMatch (session : OrderSessionModel) : Prop where
  loading : ∀ slot, (session.entryTaskStates slot).isLoading = true ↔
    ∃ task ∈ session.tasks, task.slot = slot
  apart : (session.tasks.map SessionTask.slot).Nodup

namespace SlotsMatch

theorem initially (clock : ℕ → ℤ) : SlotsMatch { clock } where
  loading := by
    intro slot
    constructor
    · intro loading
      cases loading
    · rintro ⟨task, inFlight, _⟩
      cases inFlight
  apart := List.nodup_nil

/-- Entries and queued calls may change. -/
theorem frame (slots : SlotsMatch session)
    (states : after.entryTaskStates = session.entryTaskStates)
    (tasks : after.tasks = session.tasks) : SlotsMatch after where
  loading := by
    rw [states, tasks]
    exact slots.loading
  apart := by
    rw [tasks]
    exact slots.apart

theorem start (slots : SlotsMatch session) {task : SessionTask}
    (starts : (session.startTask task).1 = true) : SlotsMatch (session.startTask task).2 := by
  unfold startTask at starts ⊢
  split_ifs at starts ⊢ with refused
  have free : (session.entryTaskStates task.slot).isLoading = false := by
    simp only [Bool.or_eq_true, not_or, Bool.not_eq_true] at refused
    exact refused.2
  have idle : ∀ other ∈ session.tasks, other.slot ≠ task.slot := by
    intro other inFlight same
    rw [(slots.loading task.slot).2 ⟨other, inFlight, same⟩] at free
    cases free
  constructor
  · intro slot
    show (Function.update session.entryTaskStates task.slot { status := .loading } slot).isLoading =
      true ↔ ∃ other ∈ session.tasks ++ [task], other.slot = slot
    by_cases own : slot = task.slot
    · subst own
      simp [UiTaskState.isLoading]
    · rw [Function.update_of_ne own, slots.loading]
      constructor
      · rintro ⟨other, inFlight, same⟩
        exact ⟨other, List.mem_append_left _ inFlight, same⟩
      · rintro ⟨other, inFlight, same⟩
        rcases List.mem_append.1 inFlight with old | new
        · exact ⟨other, old, same⟩
        · rw [List.mem_singleton.1 new] at same
          exact absurd same.symm own
  · show ((session.tasks ++ [task]).map SessionTask.slot).Nodup
    rw [List.map_append, List.nodup_append]
    refine ⟨slots.apart, List.nodup_singleton _, ?_⟩
    intro slot known new added
    obtain ⟨other, inFlight, rfl⟩ := List.mem_map.1 known
    rw [List.map_singleton, List.mem_singleton] at added
    rw [added]
    exact idle other inFlight

theorem handled (slots : SlotsMatch session) {started : List SessionTask}
    (handles : Handles started session after) : SlotsMatch after := by
  obtain ⟨published, handling⟩ := handles
  induction handling with
  | nothing => exact slots
  | publish earlier publication changed keeps ih => exact ih.frame rfl rfl
  | create earlier draft unissued ih => exact ih.frame rfl rfl
  | start earlier task starts ih => exact ih.start starts
  | queue earlier call ih => exact ih.frame rfl rfl

/-- A task leaves its place in the executor's list, and its state is settled. -/
theorem settle (slots : SlotsMatch session) {earlier later : List SessionTask}
    {task : SessionTask} (inFlight : session.tasks = earlier ++ task :: later)
    (state : UiTaskState) (settled : state.isLoading = false) :
    SlotsMatch (({ session with tasks := earlier ++ later } : OrderSessionModel).setTaskState
      task.slot state) := by
  have distinct := slots.apart
  rw [inFlight, List.map_append, List.map_cons, List.nodup_middle, List.nodup_cons,
    ← List.map_append] at distinct
  obtain ⟨alone, apart⟩ := distinct
  constructor
  · intro slot
    show (Function.update session.entryTaskStates task.slot state slot).isLoading = true ↔
      ∃ other ∈ earlier ++ later, other.slot = slot
    by_cases own : slot = task.slot
    · subst own
      rw [Function.update_self, settled]
      constructor
      · intro loading
        cases loading
      · rintro ⟨other, remains, same⟩
        exact absurd (List.mem_map.2 ⟨other, remains, same⟩) alone
    · rw [Function.update_of_ne own, slots.loading, inFlight]
      constructor
      · rintro ⟨other, known, same⟩
        rcases List.mem_append.1 known with before | behind
        · exact ⟨other, List.mem_append_left _ before, same⟩
        · rcases List.mem_cons.1 behind with rfl | after
          · exact absurd same.symm own
          · exact ⟨other, List.mem_append_right _ after, same⟩
      · rintro ⟨other, remains, same⟩
        refine ⟨other, ?_, same⟩
        rcases List.mem_append.1 remains with before | behind
        · exact List.mem_append_left _ before
        · exact List.mem_append_right _ (List.mem_cons_of_mem _ behind)
  · exact apart

end SlotsMatch

/-- A handler that starts nothing leaves the task states alone. -/
theorem Handles.keeps_states (handles : Handles [] session after) :
    after.entryTaskStates = session.entryTaskStates ∧ after.tasks = session.tasks := by
  obtain ⟨published, handling⟩ := handles
  generalize none_started : ([] : List SessionTask) = started at handling
  induction handling with
  | nothing => exact ⟨rfl, rfl⟩
  | publish earlier publication changed keeps ih => exact ih none_started
  | create earlier draft unissued ih => exact ih none_started
  | start earlier task starts ih => simp at none_started
  | queue earlier call ih => exact ih none_started

end Handlers

/-! ## Events -/

section Events

variable {Effect : Type} {Answer : Effect → Type}
  {services : ExchangerType → DealServiceCalls Effect Answer}
  {event : SessionEvent Effect Answer} {session after : OrderSessionModel}

/-- The session that an event's handler starts from, and the one that it leaves. -/
theorem Occurs.handles (occurs : Occurs services session event after) (sound : session.Sound) :
    ∃ started begun done, Handles started begun done ∧ begun.entries = session.entries ∧
      done.entries = after.entries := by
  cases occurs with
  | placeOrder draft =>
      obtain ⟨started, handles⟩ := place_order_handles sound.indexed draft
      exact ⟨started, _, _, handles, rfl, rfl⟩
  | placeOco draft =>
      obtain ⟨started, handles⟩ := place_oco_handles sound.indexed draft
      exact ⟨started, _, _, handles, rfl, rfl⟩
  | refreshOrder entryId =>
      obtain ⟨started, handles⟩ := refresh_order_handles sound.indexed entryId
      exact ⟨started, _, _, handles, rfl, rfl⟩
  | cancelOrder entryId =>
      obtain ⟨started, handles⟩ := cancel_order_handles sound.indexed entryId
      exact ⟨started, _, _, handles, rfl, rfl⟩
  | cancelAllOpenOrders entryId =>
      obtain ⟨started, handles⟩ := cancel_all_open_orders_handles sound.indexed entryId
      exact ⟨started, _, _, handles, rfl, rfl⟩
  | @runQueuedCall earlier later call queued =>
      let taken : OrderSessionModel := { session with queuedCalls := earlier ++ later }
      have indexed : taken.Indexed := ⟨sound.indexed.distinct, sound.indexed.issued,
        sound.indexed.sorted⟩
      obtain ⟨started, handles⟩ :=
        queued_outcome_handles indexed (run_queued_call_outcome taken call)
      exact ⟨started, _, _, handles, rfl, rfl⟩
  | requestStop => exact ⟨[], _, _, .refl session, rfl, rfl⟩
  | @completeTask earlier later task stopRequested history outcome inFlight token ended =>
      let taken : OrderSessionModel := { session with tasks := earlier ++ later }
      have indexed : taken.Indexed := sound.indexed.frame
      unfold OrderSessionModel.completeTask
      split_ifs
      · exact ⟨[], _, _, .refl session, rfl, rfl⟩
      · cases outcome with
        | ok result => exact ⟨[], _, _, deliver_success_handles indexed task result, rfl, rfl⟩
        | error failure =>
            have marked : (taken.setTaskState task.slot
                { status := .failed, error := getFailureMessage failure }).Indexed := indexed.frame
            exact ⟨[], _, _, deliver_failure_handles marked task (getFailureMessage failure), rfl,
              rfl⟩

/-- Every event announces lists of entries, the last of which is the one that it leaves. -/
theorem Occurs.announces (occurs : Occurs services session event after) (sound : session.Sound) :
    ∃ published, Announces session.entries published after.entries := by
  obtain ⟨started, begun, done, ⟨published, handling⟩, same, left⟩ := occurs.handles sound
  rw [← same, ← left]
  exact ⟨published, handling.announces⟩

theorem Occurs.slots_match (occurs : Occurs services session event after) (sound : session.Sound)
    (running : session.stopping = false) (slots : SlotsMatch session) : SlotsMatch after := by
  cases occurs with
  | placeOrder draft =>
      obtain ⟨started, handles⟩ := place_order_handles sound.indexed draft
      exact slots.handled handles
  | placeOco draft =>
      obtain ⟨started, handles⟩ := place_oco_handles sound.indexed draft
      exact slots.handled handles
  | refreshOrder entryId =>
      obtain ⟨started, handles⟩ := refresh_order_handles sound.indexed entryId
      exact slots.handled handles
  | cancelOrder entryId =>
      obtain ⟨started, handles⟩ := cancel_order_handles sound.indexed entryId
      exact slots.handled handles
  | cancelAllOpenOrders entryId =>
      obtain ⟨started, handles⟩ := cancel_all_open_orders_handles sound.indexed entryId
      exact slots.handled handles
  | @runQueuedCall earlier later call queued =>
      let taken : OrderSessionModel := { session with queuedCalls := earlier ++ later }
      have indexed : taken.Indexed := ⟨sound.indexed.distinct, sound.indexed.issued,
        sound.indexed.sorted⟩
      have before : SlotsMatch taken := slots.frame rfl rfl
      obtain ⟨started, handles⟩ :=
        queued_outcome_handles indexed (run_queued_call_outcome taken call)
      exact before.handled handles
  | requestStop => exact slots.frame rfl rfl
  | @completeTask earlier later task stopRequested history outcome inFlight token ended =>
      let taken : OrderSessionModel := { session with tasks := earlier ++ later }
      have indexed : taken.Indexed := sound.indexed.frame
      have takenRunning : taken.stopping = false := running
      have delivers : taken.completeTask task outcome = taken.deliverTaskCompletion task outcome :=
        complete_task_delivers takenRunning task outcome
      show SlotsMatch (taken.completeTask task outcome)
      rw [delivers]
      cases outcome with
      | error failure =>
          have settled := slots.settle inFlight
            { status := .failed, error := getFailureMessage failure } rfl
          exact settled.handled (deliver_failure_handles indexed.frame task _)
      | ok result =>
          obtain ⟨states, tasks⟩ := (deliver_success_handles indexed task result).keeps_states
          have settled := slots.settle inFlight { status := .succeeded } rfl
          refine settled.frame ?_ tasks
          show Function.update _ _ _ = Function.update _ _ _
          rw [states]

theorem SessionRun.slots_match {steps : List (SessionStep Effect Answer)}
    (run : SessionRun services steps session) (running : session.stopping = false) :
    SlotsMatch session := by
  induction run with
  | start clock => exact .initially clock
  | step run occurs ih =>
      have before := occurs.running_before run.sound running
      exact occurs.slots_match run.sound before (ih before)

end Events

end CryptoDeal.OrderSession
