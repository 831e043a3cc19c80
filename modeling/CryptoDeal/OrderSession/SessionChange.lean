import CryptoDeal.OrderSession.SessionEntries

/-!
# What an event does to an entry

Either the event delivers an action's result that is still current for the
entry, and the result is merged (`Concludes`, `entry_concluded`), or the entry
makes one of few moves (`EntryChange`, `entry_change`). Everything that is proved
about runs goes through these two.
-/

namespace CryptoDeal.OrderSession

open DealService OrderStatusUtil Interaction OrderSessionModel

/-! ## The merge of a result -/

namespace Entry

variable (entry : Entry)

/-- A merge leaves everything alone that is not about the order itself. -/
theorem apply_basic_order_refresh_frame (orderInfo : OrderInfo) :
    (entry.applyBasicOrderRefresh orderInfo).1.id = entry.id ∧
      (entry.applyBasicOrderRefresh orderInfo).1.draft = entry.draft ∧
      (entry.applyBasicOrderRefresh orderInfo).1.action = entry.action ∧
      (entry.applyBasicOrderRefresh orderInfo).1.revision = entry.revision := by
  unfold applyBasicOrderRefresh
  split_ifs
  · exact ⟨rfl, rfl, rfl, rfl⟩
  · split <;> exact ⟨rfl, rfl, rfl, rfl⟩

theorem apply_oco_refresh_frame (result : EntryRefreshResult) :
    (entry.applyOcoRefresh result).1.id = entry.id ∧
      (entry.applyOcoRefresh result).1.draft = entry.draft ∧
      (entry.applyOcoRefresh result).1.action = entry.action ∧
      (entry.applyOcoRefresh result).1.revision = entry.revision := by
  unfold applyOcoRefresh
  split
  · exact ⟨rfl, rfl, rfl, rfl⟩
  · dsimp only
    split_ifs <;> exact ⟨rfl, rfl, rfl, rfl⟩

theorem apply_entry_refresh_result_frame (result : EntryRefreshResult) :
    (entry.applyEntryRefreshResult result).1.id = entry.id ∧
      (entry.applyEntryRefreshResult result).1.draft = entry.draft ∧
      (entry.applyEntryRefreshResult result).1.action = entry.action ∧
      (entry.applyEntryRefreshResult result).1.revision = entry.revision := by
  unfold applyEntryRefreshResult
  split
  · split
    · exact apply_basic_order_refresh_frame entry _
    · exact ⟨rfl, rfl, rfl, rfl⟩
  · exact apply_oco_refresh_frame entry result

end Entry

/-- The entry with a current result merged and its action ended. -/
def concluded (entry : Entry) (result : EntryRefreshResult) (message error : String) (now : ℤ) :
    Entry :=
  let (applied, becameTerminal) := entry.applyEntryRefreshResult result
  (if becameTerminal then Publication.entryChange else .entryActionChange).stamp now
    { applied with action := .none, actionMessage := message, actionError := error }

section Reactions

variable {result : EntryRefreshResult} {action : Action} {message : Entry → String}
  {error : String} {entry : Entry} {now : ℤ}

theorem run_conclude_action (current : entry.isEntryActionCurrent result.request.revision action) :
    (concludeAction result action message error).run now entry =
      concluded entry result (message (entry.applyEntryRefreshResult result).1) error now := by
  obtain ⟨_, _, sameAction, sameRevision⟩ := entry.apply_entry_refresh_result_frame result
  have stillCurrent : (entry.applyEntryRefreshResult result).1.isEntryActionCurrent
      result.request.revision action = true := by
    rw [Entry.isEntryActionCurrent, sameAction, sameRevision]
    exact current
  simp only [Reaction.run, concludeAction, Entry.finishEntryAction, stillCurrent, if_true,
    concluded]

theorem keeps_id_show_action (action : Action) : (showAction action).KeepsId := by
  rintro entry written ⟨⟩
  rfl

theorem finish_entry_action_id {actionRevision : ℕ} {text : String} :
    (entry.finishEntryAction actionRevision action text error).id = entry.id := by
  unfold Entry.finishEntryAction
  split_ifs <;> rfl

theorem keeps_id_conclude_action : (concludeAction result action message error).KeepsId := by
  rintro entry written ⟨⟩
  exact finish_entry_action_id.trans (entry.apply_entry_refresh_result_frame result).1

theorem keeps_id_drop_action : (dropAction action).KeepsId := by
  intro entry written
  unfold dropAction
  split_ifs
  · rintro ⟨⟩
    rfl
  · exact nofun

theorem keeps_id_end_action {actionRevision : ℕ} {text : String} :
    (endAction actionRevision action text error).KeepsId := by
  intro entry written
  unfold endAction
  split_ifs
  · exact nofun
  · rintro ⟨⟩
    exact finish_entry_action_id
  · rintro ⟨⟩
    rfl

theorem Reaction.keeps_id_ite {condition : Entry → Bool} {first second : Reaction}
    (left : first.KeepsId) (right : second.KeepsId) :
    Reaction.KeepsId fun entry => if condition entry then first entry else second entry := by
  intro entry written
  dsimp only
  split_ifs
  · exact left entry written
  · exact right entry written

theorem Reaction.keeps_id_none : Reaction.KeepsId fun _ => none := by
  intro entry written
  exact nofun

end Reactions

/-! ## What an event delivers -/

namespace SessionEvent

variable {Effect : Type} {Answer : Effect → Type}

/-- The action results that the event hands to the session. -/
def results (session : OrderSessionModel) : SessionEvent Effect Answer → List EntryRefreshResult
  | .completeTask task _ (.ok result) =>
      if session.stopping then [] else task.refreshResults result
  | _ => []

def action : SessionEvent Effect Answer → Action
  | .completeTask task _ _ => task.action
  | _ => .none

/-- The event may write the entry's action: it starts one on an idle entry, or it completes a task
that has a request of the entry. -/
def Touches (entry : Entry) : SessionEvent Effect Answer → Prop
  | .refreshOrder _ | .cancelOrder _ | .cancelAllOpenOrders _ => entry.action = .none
  | .completeTask task _ _ => ∃ request ∈ task.requests, request.entryId = entry.id
  | .placeOrder _ | .placeOco _ | .runQueuedCall _ | .requestStop => False

/-- The event delivers a result that is current for the entry. -/
structure Concludes (session : OrderSessionModel) (event : SessionEvent Effect Answer)
    (entry : Entry) (result : EntryRefreshResult) : Prop where
  delivered : result ∈ event.results session
  addressed : result.request.entryId = entry.id
  current : entry.isEntryActionCurrent result.request.revision event.action

end SessionEvent

/-- The continuation moves the entry on to monitoring. -/
def QueuedCall.Continues (entry : Entry) : QueuedCall → Prop
  | .continueAfterBasicAcceptance entryId =>
      entry.id = entryId ∧ entry.status = .accepted ∧ entry.type = .basicOrder ∧
        entry.acceptedOrder.isSome ∧ ¬ isAcceptedBasicOrderFilled entry
  | .continueAfterOcoAcceptance entryId =>
      entry.id = entryId ∧ entry.status = .accepted ∧ entry.type = .ocoGroup ∧
        entry.acceptedOco.isSome

/-- How `failOrderWait` publishes. -/
def waitFailurePublication (entry : Entry) : Publication :=
  if entry.action = .cancelling ∨ entry.action = .cancellingAll then .entryActionChange
  else .entryChange

/-- The moves of an entry other than the merge of a result. -/
inductive EntryChange {Effect : Type} {Answer : Effect → Type}
    (event : SessionEvent Effect Answer) (entry : Entry) : Entry → Prop where
  | unchanged : EntryChange event entry entry
  | actionTouched (action : Action) (message error : String) (now : ℤ)
      (touches : event.Touches entry) :
      EntryChange event entry (Publication.entryActionChange.stamp now
        { entry with action, actionMessage := message, actionError := error })
  | submissionFailed (failure : String) (now : ℤ) (submitting : entry.status = .submitting) :
      EntryChange event entry (Publication.entryChange.stamp now
        { entry with status := .submissionFailed, error := failure })
  | basicAccepted (orderInfo : OrderInfo) (now : ℤ) (submitting : entry.status = .submitting)
      (basic : entry.type = .basicOrder) :
      EntryChange event entry (Publication.entryChange.stamp now
        { entry with acceptedOrder := some orderInfo, status := .accepted, error := "" })
  | ocoAccepted (ocoInfo : OcoInfo) (now : ℤ) (submitting : entry.status = .submitting)
      (oco : entry.type = .ocoGroup) :
      EntryChange event entry (Publication.entryChange.stamp now
        { entry with acceptedOco := some ocoInfo, status := .accepted, error := "" })
  | filledAtAcceptance {call : QueuedCall} (now : ℤ) (queued : event = .runQueuedCall call)
      (accepted : entry.status = .accepted) (filled : isAcceptedBasicOrderFilled entry) :
      EntryChange event entry (Publication.entryChange.stamp now
        { entry with terminalOrder := entry.acceptedOrder, status := .filled })
  | monitoringRefused {call : QueuedCall} (failure : String) (now : ℤ)
      (queued : event = .runQueuedCall call) (continues : call.Continues entry) :
      EntryChange event entry (Publication.entryChange.stamp now
        { entry with status := .monitoringFailed, error := failure })
  | waitStarted {call : QueuedCall} (now : ℤ)
      (queued : event = .runQueuedCall call) (continues : call.Continues entry) :
      EntryChange event entry
        (Publication.entryChange.stamp now { entry with status := .waiting })
  | waitRefused {call : QueuedCall} (failure : String) (publication : Publication)
      (now later : ℤ) (queued : event = .runQueuedCall call) (continues : call.Continues entry) :
      EntryChange event entry (publication.stamp later
        { Publication.entryChange.stamp now { entry with status := .waiting } with
          status := .monitoringFailed, error := failure })
  | waitFailed {task : SessionTask} {history : History Effect Answer} {failure : ServiceFailure}
      {waitRevision : ℕ} (now : ℤ) (completed : event = .completeTask task history (.error failure))
      (waited : task.waited = some (entry.id, waitRevision))
      (current : entry.isCurrentWaitingRevision waitRevision) :
      EntryChange event entry ((waitFailurePublication entry).stamp now
        { entry with status := .monitoringFailed, error := getFailureMessage failure })
  | orderWaitFinished {waitRevision : ℕ} {exchangerType : ExchangerType} {symbol orderId : String}
      {history : History Effect Answer} (orderInfo : OrderInfo) (now : ℤ)
      (completed : event = .completeTask
        (.orderWait entry.id waitRevision exchangerType symbol orderId) history (.ok orderInfo))
      (current : entry.isCurrentWaitingRevision waitRevision) :
      EntryChange event entry (Publication.entryChange.stamp now
        { entry with terminalOrder := some orderInfo, status := .filled, error := "" })
  | ocoWaitFinished {waitRevision : ℕ} {exchangerType : ExchangerType} {ocoInfo : OcoInfo}
      {history : History Effect Answer} {result : OcoWaitResult} (updated : Entry) (now : ℤ)
      (completed : event = .completeTask
        (.ocoWait entry.id waitRevision exchangerType ocoInfo) history (.ok result))
      (current : entry.isCurrentWaitingRevision waitRevision)
      (identified : entry.updateOcoChildrenAfterCompletion result = some updated) :
      EntryChange event entry (Publication.entryChange.stamp now
        { updated with
          terminalOrder := some result.filledOrder, status := .filled, error := "" })
  | ocoWaitUnidentified {waitRevision : ℕ} {exchangerType : ExchangerType} {ocoInfo : OcoInfo}
      {history : History Effect Answer} {result : OcoWaitResult} (failure : String) (now : ℤ)
      (completed : event = .completeTask
        (.ocoWait entry.id waitRevision exchangerType ocoInfo) history (.ok result))
      (current : entry.isCurrentWaitingRevision waitRevision)
      (unidentified : entry.updateOcoChildrenAfterCompletion result = none) :
      EntryChange event entry (Publication.entryChange.stamp now
        { entry with status := .monitoringFailed, error := failure })

/-! ## Events beside an entry's action -/

section Action

variable {Effect : Type} {Answer : Effect → Type} {event : SessionEvent Effect Answer}
  {entry before moved : Entry}

theorem updated_children_action {result : OcoWaitResult} {updated : Entry}
    (identified : entry.updateOcoChildrenAfterCompletion result = some updated) :
    updated.action = entry.action ∧ updated.revision = entry.revision := by
  unfold Entry.updateOcoChildrenAfterCompletion at identified
  split at identified
  · cases identified
  · split_ifs at identified
    · cases identified
      exact ⟨rfl, rfl⟩
    · cases identified
      exact ⟨rfl, rfl⟩

theorem EntryChange.keeps_action (change : EntryChange event before moved)
    (untouched : ¬ event.Touches before) : moved.action = before.action := by
  cases change with
  | unchanged => rfl
  | actionTouched action message error now touches => exact absurd touches untouched
  | submissionFailed failure now submitting => rfl
  | basicAccepted orderInfo now submitting basic => rfl
  | ocoAccepted ocoInfo now submitting oco => rfl
  | filledAtAcceptance now queued accepted filled => rfl
  | monitoringRefused failure now queued continues => rfl
  | waitStarted now queued continues => rfl
  | waitRefused failure publication now later queued continues => cases publication <;> rfl
  | waitFailed now completed waited current =>
      unfold waitFailurePublication
      split_ifs <;> rfl
  | orderWaitFinished orderInfo now completed current => rfl
  | ocoWaitFinished updated now completed current identified =>
      exact (updated_children_action identified).1
  | ocoWaitUnidentified failure now completed current unidentified => rfl

end Action

end CryptoDeal.OrderSession
