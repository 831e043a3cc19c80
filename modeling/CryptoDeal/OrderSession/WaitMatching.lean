import CryptoDeal.OrderSession.SessionTasks

/-!
# Waits and the entries they are for

A `WAITING` entry has exactly one wait in flight, started with the revision that
the entry still has: nothing but the wait's own completion raises it before the
entry leaves `WAITING`. So that completion always counts, and one that comes
later never does.
-/

namespace CryptoDeal.OrderSession

open DealService OrderStatusUtil Interaction OrderSessionModel

variable {Effect : Type} {Answer : Effect → Type} {event : SessionEvent Effect Answer}
  {services : ExchangerType → DealServiceCalls Effect Answer}
  {session after : OrderSessionModel} {entryId : EntryId} {entry before moved : Entry}

/-! ## The waits of an entry -/

/-- The revision that the task waits for the entry with, if it does. -/
def SessionTask.waitRevision (entryId : EntryId) (task : SessionTask) : Option ℕ :=
  (task.waited.filter fun wait => wait.1 = entryId).map Prod.snd

/-- The revisions of the entry's waits in flight. -/
def OrderSessionModel.waitRevisions (session : OrderSessionModel) (entryId : EntryId) : List ℕ :=
  session.tasks.filterMap (SessionTask.waitRevision entryId)

theorem wait_revision_of_none {task : SessionTask} (waited : task.waited = none) :
    task.waitRevision entryId = none := by
  rw [SessionTask.waitRevision, waited]
  rfl

theorem wait_revision_of_own {task : SessionTask} {waitRevision : ℕ}
    (waited : task.waited = some (entryId, waitRevision)) :
    task.waitRevision entryId = some waitRevision := by
  rw [SessionTask.waitRevision, waited]
  simp

theorem wait_revision_of_other {task : SessionTask} {other : EntryId} {waitRevision : ℕ}
    (waited : task.waited = some (other, waitRevision)) (apart : other ≠ entryId) :
    task.waitRevision entryId = none := by
  rw [SessionTask.waitRevision, waited]
  simp [apart]

theorem wait_revision_eq_some {task : SessionTask} {waitRevision : ℕ}
    (waits : task.waitRevision entryId = some waitRevision) :
    task.waited = some (entryId, waitRevision) := by
  cases waited : task.waited with
  | none =>
      rw [wait_revision_of_none waited] at waits
      cases waits
  | some wait =>
      by_cases same : wait.1 = entryId
      · subst same
        rw [wait_revision_of_own waited] at waits
        cases waits
        rfl
      · rw [wait_revision_of_other waited same] at waits
        cases waits

theorem wait_revisions_append {started : List SessionTask}
    (tasks : after.tasks = session.tasks ++ started) :
    after.waitRevisions entryId =
      session.waitRevisions entryId ++ started.filterMap (SessionTask.waitRevision entryId) := by
  rw [waitRevisions, waitRevisions, tasks, List.filterMap_append]

theorem wait_revisions_unchanged {started : List SessionTask}
    (tasks : after.tasks = session.tasks ++ started)
    (waitless : ∀ task ∈ started, task.waitRevision entryId = none) :
    after.waitRevisions entryId = session.waitRevisions entryId := by
  have nothing : started.filterMap (SessionTask.waitRevision entryId) = [] :=
    List.filterMap_eq_nil_iff.2 waitless
  rw [wait_revisions_append tasks, nothing, List.append_nil]

/-! ## Entries keep their wait -/

/-- An entry whose monitoring did not begin yet. -/
def Entry.Early (entry : Entry) : Prop := entry.status = .submitting ∨ entry.status = .accepted

/-- A move neither brings an entry to `WAITING` nor raises its revision there. -/
structure KeepsWait (before moved : Entry) : Prop where
  waiting : moved.status = .waiting → before.status = .waiting ∧ moved.revision = before.revision
  early : moved.Early → before.Early

theorem KeepsWait.refl (entry : Entry) : KeepsWait entry entry :=
  ⟨fun waiting => ⟨waiting, rfl⟩, id⟩

theorem KeepsWait.leaves (apart : moved.status ≠ .waiting) (late : ¬ moved.Early) :
    KeepsWait before moved :=
  ⟨fun waiting => absurd waiting apart, fun early => absurd early late⟩

/-- A merge moves the status only with a change of the entry that is published as such. -/
theorem Entry.apply_entry_refresh_result_status (entry : Entry) (result : EntryRefreshResult) :
    ((entry.applyEntryRefreshResult result).1.status = entry.status ∧
        (entry.applyEntryRefreshResult result).2 = false) ∨
      (entry.applyEntryRefreshResult result).1.status = .filled ∨
      (entry.applyEntryRefreshResult result).1.status = .terminal := by
  unfold applyEntryRefreshResult
  split
  · split
    · unfold applyBasicOrderRefresh
      split_ifs
      · exact .inl ⟨rfl, rfl⟩
      · dsimp only
        split
        · exact .inr (.inl rfl)
        · exact .inr (.inr rfl)
        · exact .inr (.inr rfl)
        · exact .inl ⟨rfl, rfl⟩
        · exact .inl ⟨rfl, rfl⟩
    · exact .inl ⟨rfl, rfl⟩
  · unfold applyOcoRefresh
    split
    · exact .inl ⟨rfl, rfl⟩
    · dsimp only
      split_ifs
      · exact .inr (.inl rfl)
      · exact .inr (.inl rfl)
      · exact .inr (.inr rfl)
      · exact .inl ⟨rfl, rfl⟩

theorem concluded_status (entry : Entry) (result : EntryRefreshResult) (message error : String)
    (now : ℤ) :
    (concluded entry result message error now).status =
      (entry.applyEntryRefreshResult result).1.status := by
  unfold concluded
  dsimp only
  split_ifs <;> rfl

theorem concluded_keeps_wait (entry : Entry) (result : EntryRefreshResult)
    (message error : String) (now : ℤ) :
    KeepsWait entry (concluded entry result message error now) := by
  rcases entry.apply_entry_refresh_result_status result with ⟨same, quiet⟩ | filled | terminal
  · have sameRevision : (concluded entry result message error now).revision = entry.revision := by
      unfold concluded
      dsimp only
      rw [quiet]
      exact (entry.apply_entry_refresh_result_frame result).2.2.2
    constructor
    · intro waiting
      rw [concluded_status, same] at waiting
      exact ⟨waiting, sameRevision⟩
    · intro early
      rw [Entry.Early, concluded_status, same] at early
      exact early
  · apply KeepsWait.leaves
    · rw [concluded_status, filled]
      nofun
    · rw [Entry.Early, concluded_status, filled]
      nofun
  · apply KeepsWait.leaves
    · rw [concluded_status, terminal]
      nofun
    · rw [Entry.Early, concluded_status, terminal]
      nofun

theorem EntryChange.keeps_wait (change : EntryChange event before moved)
    (unqueued : ∀ call, event ≠ .runQueuedCall call) : KeepsWait before moved := by
  cases change with
  | unchanged => exact .refl _
  | actionTouched action message error now touches => exact ⟨fun waiting => ⟨waiting, rfl⟩, id⟩
  | submissionFailed failure now submitting => exact .leaves nofun nofun
  | basicAccepted orderInfo now submitting basic => exact ⟨nofun, fun _ => .inl submitting⟩
  | ocoAccepted ocoInfo now submitting oco => exact ⟨nofun, fun _ => .inl submitting⟩
  | filledAtAcceptance now queued accepted filled => exact .leaves nofun nofun
  | monitoringRefused failure now queued continues => exact absurd queued (unqueued _)
  | waitStarted now queued continues => exact absurd queued (unqueued _)
  | waitRefused failure publication now later queued continues => exact absurd queued (unqueued _)
  | waitFailed now completed waited current =>
      unfold waitFailurePublication
      split_ifs <;> exact .leaves nofun nofun
  | orderWaitFinished orderInfo now completed current => exact .leaves nofun nofun
  | ocoWaitFinished updated now completed current identified => exact .leaves nofun nofun
  | ocoWaitUnidentified failure now completed current unidentified => exact .leaves nofun nofun

/-! ## The invariant -/

/-- How an entry and its waits in flight agree. -/
structure WaitMatches (session : OrderSessionModel) (entryId : EntryId) : Prop where
  unknown : session.findEntry entryId = none → session.waitRevisions entryId = []
  early : ∀ entry, session.findEntry entryId = some entry → entry.Early →
    session.waitRevisions entryId = []
  waiting : session.stopping = false → ∀ entry, session.findEntry entryId = some entry →
    entry.status = .waiting → session.waitRevisions entryId = [entry.revision]

theorem WaitMatches.carry (matched : WaitMatches session entryId)
    (sameWaits : after.waitRevisions entryId = session.waitRevisions entryId)
    (running : after.stopping = false → session.stopping = false)
    (kept : session.findEntry entryId ≠ none → after.findEntry entryId ≠ none)
    (origin : ∀ moved, after.findEntry entryId = some moved →
      (session.findEntry entryId = none ∧ moved.status ≠ .waiting) ∨
        ∃ before, session.findEntry entryId = some before ∧ KeepsWait before moved) :
    WaitMatches after entryId where
  unknown := by
    intro unknown
    rw [sameWaits]
    apply matched.unknown
    by_contra known
    exact kept known unknown
  early := by
    intro moved found early
    rw [sameWaits]
    rcases origin moved found with ⟨unknown, _⟩ | ⟨before, known, keeps⟩
    · exact matched.unknown unknown
    · exact matched.early before known (keeps.early early)
  waiting := by
    intro stillRunning moved found waiting
    rw [sameWaits]
    rcases origin moved found with ⟨_, apart⟩ | ⟨before, known, keeps⟩
    · exact absurd waiting apart
    · obtain ⟨waitingBefore, sameRevision⟩ := keeps.waiting waiting
      rw [sameRevision]
      exact matched.waiting (running stillRunning) before known waitingBefore

/-- For an entry that the event does not write. -/
theorem WaitMatches.frame (matched : WaitMatches session entryId)
    (sameWaits : after.waitRevisions entryId = session.waitRevisions entryId)
    (running : after.stopping = false → session.stopping = false)
    (same : after.findEntry entryId = session.findEntry entryId) : WaitMatches after entryId := by
  apply matched.carry sameWaits running
  · rw [same]
    exact id
  · intro moved found
    exact .inr ⟨moved, same ▸ found, .refl moved⟩

theorem WaitMatches.submitted (matched : WaitMatches session entryId)
    (submitted : Submitted session after) (unissued : session.findEntry session.nextEntryId = none) :
    WaitMatches after entryId := by
  obtain ⟨started, tasks, waitless⟩ := submitted.tasks
  have sameWaits : after.waitRevisions entryId = session.waitRevisions entryId :=
    wait_revisions_unchanged tasks fun task member => wait_revision_of_none (waitless task member).1
  have running : after.stopping = false → session.stopping = false := by
    rw [submitted.stopping]
    exact id
  by_cases own : entryId = session.nextEntryId
  · subst own
    obtain ⟨fresh, found, isFresh⟩ := submitted.fresh
    apply matched.carry sameWaits running
    · intro known
      exact absurd unissued known
    · intro moved foundMoved
      obtain rfl := Option.some.inj (found.symm.trans foundMoved)
      refine .inl ⟨unissued, ?_⟩
      rcases isFresh.status with status | status <;> rw [status] <;> nofun
  · exact matched.frame sameWaits running (submitted.beside entryId own)

theorem WaitMatches.action_started (matched : WaitMatches session entryId) {task : SessionTask}
    (started : ActionStarted session task after) : WaitMatches after entryId := by
  have sameWaits : after.waitRevisions entryId = session.waitRevisions entryId := by
    apply wait_revisions_unchanged started.writes.tasks
    intro only member
    rw [List.mem_singleton.1 member]
    exact wait_revision_of_none started.waited
  have running : after.stopping = false → session.stopping = false := by
    rw [started.writes.stopping]
    exact id
  by_cases addressed : ∃ request ∈ task.requests, request.entryId = entryId
  · obtain ⟨request, member, rfl⟩ := addressed
    obtain ⟨entry, now, known, _, _, _, _, shown⟩ := started.among request member
    apply matched.carry sameWaits running
    · intro _
      rw [shown]
      nofun
    · intro moved found
      obtain rfl := Option.some.inj (shown.symm.trans found)
      exact .inr ⟨entry, known, fun waiting => ⟨waiting, rfl⟩, id⟩
  · apply matched.frame sameWaits running (started.beside entryId _)
    intro request member same
    exact addressed ⟨request, member, same⟩

/-! ## Continuations -/

theorem WaitMatches.published (matched : WaitMatches session entryId) (indexed : session.Indexed)
    {changed : Entry} {publication : Publication} (found : session.findEntry changed.id = some entry)
    (apart : changed.status ≠ .waiting) (late : ¬ changed.Early) :
    WaitMatches (session.publish publication changed) entryId := by
  by_cases own : changed.id = entryId
  · subst own
    have written : (session.publish publication changed).findEntry changed.id =
        some (publication.stamp (session.clock 0) changed) := by
      rw [indexed.find_publish, if_pos rfl, found]
      rfl
    apply matched.carry
    · rfl
    · exact id
    · intro _
      rw [written]
      nofun
    · intro moved foundMoved
      obtain rfl := Option.some.inj (written.symm.trans foundMoved)
      refine .inr ⟨entry, found, ?_⟩
      cases publication with
      | entryChange => exact .leaves apart late
      | entryActionChange => exact .leaves apart late
  · apply matched.frame
    · rfl
    · exact id
    · rw [indexed.find_publish, if_neg own]

theorem WaitMatches.started (matched : WaitMatches session entryId) (indexed : session.Indexed)
    (found : session.findEntry entry.id = some entry) (accepted : entry.status = .accepted)
    {task : ℕ → SessionTask}
    (waits : ∀ waitRevision, (task waitRevision).waited = some (entry.id, waitRevision))
    (failure : String) : WaitMatches (session.startWait entry task failure) entryId := by
  by_cases own : entryId = entry.id
  · subst own
    rcases find_start_wait indexed found task failure with
      ⟨now, waiting, tasks⟩ | ⟨publication, now, later, refused, tasks⟩
    · constructor
      · intro unknown
        rw [waiting] at unknown
        cases unknown
      · intro moved foundMoved early
        obtain rfl := Option.some.inj (waiting.symm.trans foundMoved)
        rcases early with submitting | accepted
        · cases submitting
        · cases accepted
      · intro _ moved foundMoved _
        obtain rfl := Option.some.inj (waiting.symm.trans foundMoved)
        have before : session.waitRevisions entry.id = [] :=
          matched.early entry found (.inr accepted)
        have added : [task (entry.revision + 1)].filterMap (SessionTask.waitRevision entry.id) =
            [entry.revision + 1] := by
          rw [List.filterMap_cons, wait_revision_of_own (waits _)]
          rfl
        rw [wait_revisions_append tasks, before, added]
        rfl
    · obtain ⟨started, _, writes⟩ : ∃ started ∈ [[], [task (entry.revision + 1)]],
        Writes started session (session.startWait entry task failure) :=
        start_wait_writes task failure
      apply matched.carry
      · rw [waitRevisions, tasks]
        rfl
      · rw [writes.stopping]
        exact id
      · intro _
        rw [refused]
        nofun
      · intro moved foundMoved
        obtain rfl := Option.some.inj (refused.symm.trans foundMoved)
        refine .inr ⟨entry, found, ?_⟩
        cases publication with
        | entryChange => exact .leaves nofun nofun
        | entryActionChange => exact .leaves nofun nofun
  · obtain ⟨started, member, writes⟩ : ∃ started ∈ [[], [task (entry.revision + 1)]],
      Writes started session (session.startWait entry task failure) :=
      start_wait_writes task failure
    apply matched.frame
    · apply wait_revisions_unchanged writes.tasks
      intro wait inFlight
      rcases List.mem_cons.1 member with rfl | single
      · cases inFlight
      · rw [List.mem_singleton.1 single] at inFlight
        rw [List.mem_singleton.1 inFlight]
        exact wait_revision_of_other (waits _) (Ne.symm own)
    · rw [writes.stopping]
      exact id
    · exact find_beside_start_wait indexed own task failure

theorem QueuedCall.Continues.accepted {call : QueuedCall} (continues : call.Continues entry) :
    entry.status = .accepted := by
  cases call with
  | continueAfterBasicAcceptance entryId => exact continues.2.1
  | continueAfterOcoAcceptance entryId => exact continues.2.1

theorem WaitMatches.continued (matched : WaitMatches session entryId) (indexed : session.Indexed)
    {call : QueuedCall} (outcome : QueuedOutcome session call after) :
    WaitMatches after entryId := by
  cases outcome with
  | ignored idle => exact matched
  | filled found addressed accepted filled => exact matched.published indexed found nofun nofun
  | refused found continues failure => exact matched.published indexed found nofun nofun
  | waiting found continues task waits actionless fits failure =>
      exact matched.started indexed found continues.accepted waits failure

/-! ## Completions -/

/-- What a wait's completion does to its entry when it counts. -/
def WaitApplied (entry moved : Entry) :
    (task : SessionTask) → Except ServiceFailure task.Result → Prop
  | .orderWait _ _ _ _ _, .ok orderInfo =>
      moved.status = .filled ∧ moved.terminalOrder = some orderInfo
  | .ocoWait _ _ _ _, .ok result =>
      match entry.updateOcoChildrenAfterCompletion result with
      | some updated =>
          moved.status = .filled ∧ moved.terminalOrder = some result.filledOrder ∧
            moved.acceptedOco = updated.acceptedOco
      | none => moved.status = .monitoringFailed
  | _, .error failure =>
      moved.status = .monitoringFailed ∧ moved.error = getFailureMessage failure
  | _, .ok _ => False

theorem WaitApplied.leaves {task : SessionTask} {outcome : Except ServiceFailure task.Result}
    (applied : WaitApplied entry moved task outcome) : moved.status ≠ .waiting := by
  intro waiting
  cases outcome with
  | error failure => cases task <;> (rw [WaitApplied, waiting] at applied; cases applied.1)
  | ok result =>
      cases task with
      | orderWait entryId waitRevision exchangerType symbol orderId =>
          rw [WaitApplied, waiting] at applied
          cases applied.1
      | ocoWait entryId waitRevision exchangerType ocoInfo =>
          rw [WaitApplied, waiting] at applied
          split at applied
          · cases applied.1
          · cases applied
      | submitBasic entryId draft => exact applied
      | submitOco entryId draft => exact applied
      | refresh exchangerType request => exact applied
      | cancelBasic exchangerType request => exact applied
      | cancelOco exchangerType request ocoInfo => exact applied
      | cancelAll contextId exchangerType symbol requests => exact applied

section Completion

variable {waitRevision : ℕ}

theorem finish_order_wait_applied (indexed : session.Indexed)
    (found : session.findEntry entryId = some entry)
    (current : entry.isCurrentWaitingRevision waitRevision) (orderInfo : OrderInfo) :
    ∃ moved, (session.finishOrderWait entryId waitRevision orderInfo).findEntry entryId =
      some moved ∧ moved.status = .filled ∧ moved.terminalOrder = some orderInfo := by
  refine ⟨_, indexed.find_updated (finish_order_wait_keeps_id waitRevision orderInfo) found, ?_⟩
  simp only [Reaction.run, current, if_true]
  exact ⟨rfl, rfl⟩

theorem finish_oco_wait_applied (indexed : session.Indexed)
    (found : session.findEntry entryId = some entry)
    (current : entry.isCurrentWaitingRevision waitRevision) (result : OcoWaitResult) :
    ∃ moved, (session.finishOcoWait entryId waitRevision result).findEntry entryId = some moved ∧
      match entry.updateOcoChildrenAfterCompletion result with
      | some updated =>
          moved.status = .filled ∧ moved.terminalOrder = some result.filledOrder ∧
            moved.acceptedOco = updated.acceptedOco
      | none => moved.status = .monitoringFailed := by
  refine ⟨_, indexed.find_updated (finish_oco_wait_keeps_id waitRevision result) found, ?_⟩
  simp only [Reaction.run, current, if_true]
  cases entry.updateOcoChildrenAfterCompletion result with
  | none => rfl
  | some updated => exact ⟨rfl, rfl, rfl⟩

theorem fail_order_wait_applied (indexed : session.Indexed)
    (found : session.findEntry entryId = some entry)
    (current : entry.isCurrentWaitingRevision waitRevision) (failure : String) :
    ∃ moved, (session.failOrderWait entryId waitRevision failure).findEntry entryId = some moved ∧
      moved.status = .monitoringFailed ∧ moved.error = failure := by
  refine ⟨_, indexed.find_updated (fail_order_wait_keeps_id waitRevision failure) found, ?_⟩
  simp only [Reaction.run, current, if_true]
  split_ifs <;> exact ⟨rfl, rfl⟩

/-- The completion of a `WAITING` entry's wait is applied to it. -/
theorem complete_wait_applied (indexed : session.Indexed) (running : session.stopping = false)
    (found : session.findEntry entryId = some entry) (waiting : entry.status = .waiting)
    {task : SessionTask} (waited : task.waited = some (entryId, entry.revision))
    (outcome : Except ServiceFailure task.Result) :
    ∃ moved, (session.completeTask task outcome).findEntry entryId = some moved ∧
      WaitApplied entry moved task outcome := by
  have current : entry.isCurrentWaitingRevision entry.revision := by
    simp [Entry.isCurrentWaitingRevision, waiting]
  rw [complete_task_delivers running]
  cases task with
  | orderWait waitEntry waitRevision exchangerType symbol orderId =>
      cases waited
      cases outcome with
      | ok orderInfo => exact finish_order_wait_applied indexed found current orderInfo
      | error failure =>
          have marked : (session.setTaskState (entryId, .wait)
              { status := .failed, error := getFailureMessage failure }).Indexed := indexed.frame
          exact fail_order_wait_applied marked found current (getFailureMessage failure)
  | ocoWait waitEntry waitRevision exchangerType ocoInfo =>
      cases waited
      cases outcome with
      | ok result => exact finish_oco_wait_applied indexed found current result
      | error failure =>
          have marked : (session.setTaskState (entryId, .wait)
              { status := .failed, error := getFailureMessage failure }).Indexed := indexed.frame
          exact fail_order_wait_applied marked found current (getFailureMessage failure)
  | submitBasic entryId draft => cases waited
  | submitOco entryId draft => cases waited
  | refresh exchangerType request => cases waited
  | cancelBasic exchangerType request => cases waited
  | cancelOco exchangerType request ocoInfo => cases waited
  | cancelAll contextId exchangerType symbol requests => cases waited

/-- The completion of a wait whose entry left `WAITING` does nothing to it. -/
theorem complete_wait_dropped (indexed : session.Indexed)
    (found : session.findEntry entryId = some entry) (apart : entry.status ≠ .waiting)
    {task : SessionTask} (waited : task.waited = some (entryId, waitRevision))
    (outcome : Except ServiceFailure task.Result) :
    (session.completeTask task outcome).findEntry entryId = some entry := by
  have stale : ¬ entry.isCurrentWaitingRevision waitRevision = true :=
    fun current => apart (current_waiting current).1
  unfold OrderSessionModel.completeTask
  split_ifs
  · exact found
  · cases task with
    | orderWait waitEntry ownRevision exchangerType symbol orderId =>
        cases waited
        cases outcome with
        | ok orderInfo =>
            have kept := indexed.find_updated
              (finish_order_wait_keeps_id waitRevision orderInfo) found
            rw [Reaction.run_none (if_neg stale)] at kept
            exact kept
        | error failure =>
            have kept := (indexed.frame : (session.setTaskState (entryId, .wait)
              { status := .failed, error := getFailureMessage failure }).Indexed).find_updated
              (fail_order_wait_keeps_id waitRevision (getFailureMessage failure)) found
            rw [Reaction.run_none (if_neg stale)] at kept
            exact kept
    | ocoWait waitEntry ownRevision exchangerType ocoInfo =>
        cases waited
        cases outcome with
        | ok result =>
            have kept := indexed.find_updated
              (finish_oco_wait_keeps_id waitRevision result) found
            rw [Reaction.run_none (if_neg stale)] at kept
            exact kept
        | error failure =>
            have kept := (indexed.frame : (session.setTaskState (entryId, .wait)
              { status := .failed, error := getFailureMessage failure }).Indexed).find_updated
              (fail_order_wait_keeps_id waitRevision (getFailureMessage failure)) found
            rw [Reaction.run_none (if_neg stale)] at kept
            exact kept
    | submitBasic entryId draft => cases waited
    | submitOco entryId draft => cases waited
    | refresh exchangerType request => cases waited
    | cancelBasic exchangerType request => cases waited
    | cancelOco exchangerType request ocoInfo => cases waited
    | cancelAll contextId exchangerType symbol requests => cases waited

end Completion

theorem wait_revisions_around {earlier later : List SessionTask} {task : SessionTask}
    (inFlight : session.tasks = earlier ++ task :: later) :
    session.waitRevisions entryId = earlier.filterMap (SessionTask.waitRevision entryId) ++
      ((task.waitRevision entryId).toList ++
        later.filterMap (SessionTask.waitRevision entryId)) := by
  rw [waitRevisions, inFlight, List.filterMap_append, List.filterMap_cons]
  cases task.waitRevision entryId <;> rfl

/-- The only wait of a `WAITING` entry is the one that completes. -/
theorem WaitMatches.sole_wait (matched : WaitMatches session entryId)
    (running : session.stopping = false) (found : session.findEntry entryId = some entry)
    (waiting : entry.status = .waiting) {earlier later : List SessionTask} {task : SessionTask}
    {waitRevision : ℕ} (inFlight : session.tasks = earlier ++ task :: later)
    (waits : task.waitRevision entryId = some waitRevision) :
    waitRevision = entry.revision ∧
      (earlier ++ later).filterMap (SessionTask.waitRevision entryId) = [] := by
  have only := matched.waiting running entry found waiting
  rw [wait_revisions_around inFlight, waits] at only
  rcases List.append_eq_singleton_iff.1 only with ⟨before, rest⟩ | ⟨_, empty⟩
  · rw [Option.toList_some, List.singleton_append, List.cons.injEq] at rest
    refine ⟨rest.1, ?_⟩
    rw [List.filterMap_append, before, rest.2]
    rfl
  · cases empty

theorem WaitMatches.completed (matched : WaitMatches session entryId) (sound : session.Sound)
    (occurs : Occurs services session event after) {earlier later : List SessionTask}
    {task : SessionTask} {history : History Effect Answer}
    {outcome : Except ServiceFailure task.Result}
    (completed : event = .completeTask task history outcome)
    (inFlight : session.tasks = earlier ++ task :: later)
    (result : after =
      ({ session with tasks := earlier ++ later } : OrderSessionModel).completeTask task outcome) :
    WaitMatches after entryId := by
  have writes : Writes [] { session with tasks := earlier ++ later } after := by
    rw [result]
    exact complete_task_writes task outcome
  have afterWaits : after.waitRevisions entryId =
      (earlier ++ later).filterMap (SessionTask.waitRevision entryId) := by
    rw [waitRevisions, writes.tasks, List.append_nil]
  have running : after.stopping = false → session.stopping = false := by
    rw [writes.stopping]
    exact id
  have kept : session.findEntry entryId ≠ none → after.findEntry entryId ≠ none := by
    intro known
    obtain ⟨before, found⟩ := Option.ne_none_iff_exists'.1 known
    obtain ⟨moved, foundMoved⟩ := occurs.keeps_entry sound found
    rw [foundMoved]
    nofun
  have origin : ∀ moved, after.findEntry entryId = some moved →
      (session.findEntry entryId = none ∧ moved.status ≠ .waiting) ∨
        ∃ before, session.findEntry entryId = some before ∧ KeepsWait before moved := by
    intro moved found
    cases occurs.entry_origin sound found with
    | fresh unknown fresh =>
        refine .inl ⟨unknown, ?_⟩
        rcases fresh.status with status | status <;> rw [status] <;> nofun
    | concluded known concludes message error now merged =>
        rw [merged]
        exact .inr ⟨_, known, concluded_keeps_wait _ _ _ _ _⟩
    | changed known stale change =>
        refine .inr ⟨_, known, change.keeps_wait ?_⟩
        intro call
        rw [completed]
        nofun
  cases waits : task.waitRevision entryId with
  | none =>
      apply matched.carry _ running kept origin
      rw [afterWaits, wait_revisions_around inFlight, waits, List.filterMap_append]
      rfl
  | some waitRevision =>
      have known : session.waitRevisions entryId ≠ [] := by
        rw [wait_revisions_around inFlight, waits]
        simp
      constructor
      · intro unknown
        by_contra _
        apply kept _ unknown
        intro absent
        exact known (matched.unknown absent)
      · intro moved found early
        rcases origin moved found with ⟨unknown, _⟩ | ⟨before, foundBefore, keeps⟩
        · exact absurd (matched.unknown unknown) known
        · exact absurd (matched.early before foundBefore (keeps.early early)) known
      · intro stillRunning moved found waiting
        rcases origin moved found with ⟨unknown, _⟩ | ⟨before, foundBefore, keeps⟩
        · exact absurd (matched.unknown unknown) known
        · exfalso
          have waitingBefore := (keeps.waiting waiting).1
          have sole := matched.sole_wait (running stillRunning) foundBefore waitingBefore inFlight
            waits
          have waited : task.waited = some (entryId, before.revision) := by
            rw [← sole.1]
            exact wait_revision_eq_some waits
          have remaining : ({ session with tasks := earlier ++ later } : OrderSessionModel).Indexed :=
            sound.indexed.frame
          obtain ⟨applied, foundApplied, isApplied⟩ := complete_wait_applied remaining
            (running stillRunning) foundBefore waitingBefore waited outcome
          rw [← result] at foundApplied
          obtain rfl := Option.some.inj (found.symm.trans foundApplied)
          exact isApplied.leaves waiting

/-! ## Runs -/

theorem Occurs.wait_matches (occurs : Occurs services session event after) (sound : session.Sound)
    (matched : WaitMatches session entryId) : WaitMatches after entryId := by
  cases occurs.task_change sound.indexed with
  | unchanged same => exact same ▸ matched
  | stopped same =>
      subst same
      exact matched.frame rfl nofun rfl
  | submitted submitted => exact matched.submitted submitted sound.indexed.find_next
  | actionStarted task started => exact matched.action_started started
  | @continued calls call queued outcome =>
      have same : WaitMatches { session with queuedCalls := calls } entryId := by
        apply matched.frame
        · rfl
        · exact id
        · rfl
      exact same.continued sound.indexed.frame outcome
  | completed completed inFlight result =>
      exact matched.completed sound occurs completed inFlight result

theorem SessionRun.wait_matches {steps : List (SessionStep Effect Answer)}
    (run : SessionRun services steps session) (entryId : EntryId) :
    WaitMatches session entryId := by
  induction run with
  | start clock =>
      constructor
      · intro _
        rfl
      · intro entry found
        cases found
      · intro _ entry found
        cases found
  | step run occurs ih => exact occurs.wait_matches run.sound ih

/-- A `WAITING` entry has exactly one wait, with its revision; completing that wait is applied to
it, and completing a wait of an entry that is not `WAITING` leaves the entry as it is. -/
theorem wait_completions_matched {steps : List (SessionStep Effect Answer)}
    (run : SessionRun services steps session) (running : session.stopping = false)
    (known : entry ∈ session.entries) :
    (entry.status = .waiting → session.waitRevisions entry.id = [entry.revision]) ∧
      ∀ (task : SessionTask) (waitRevision : ℕ) (history : History Effect Answer)
        (outcome : Except ServiceFailure task.Result) (after : OrderSessionModel),
        task.waited = some (entry.id, waitRevision) →
        Occurs services session (.completeTask task history outcome) after →
        (entry.status = .waiting → ∃ moved, after.findEntry entry.id = some moved ∧
          WaitApplied entry moved task outcome) ∧
        (entry.status ≠ .waiting → after.findEntry entry.id = some entry) := by
  have sound := run.sound
  have found := sound.indexed.find_of_mem known
  have matched := run.wait_matches entry.id
  refine ⟨matched.waiting running entry found, ?_⟩
  intro task waitRevision history outcome after waited occurs
  obtain ⟨earlier, later, inFlight, rfl⟩ := occurs.completed
  have remaining : ({ session with tasks := earlier ++ later } : OrderSessionModel).Indexed :=
    sound.indexed.frame
  constructor
  · intro waiting
    have sole := matched.sole_wait running found waiting inFlight (wait_revision_of_own waited)
    rw [sole.1] at waited
    exact complete_wait_applied remaining running found waiting waited outcome
  · intro apart
    exact complete_wait_dropped remaining found apart waited outcome

/-! ## A monitored order -/

def sellDraft : BasicOrderDraft where
  operation := .placeOrder
  pair := { symbol := "BTCUSDT", baseAsset := "BTC", quoteAsset := "USDT" }
  side := .sell
  quantity := 1

def openOrder : OrderInfo where
  symbol := "BTCUSDT"
  orderId := "1"
  status := "NEW"

def submittedSession : OrderSessionModel :=
  (placeOrder { clock := fun _ => 0 } sellDraft).2

def acceptedSession : OrderSessionModel :=
  ({ submittedSession with tasks := [] } : OrderSessionModel).completeTask (.submitBasic 1 sellDraft)
    (.ok openOrder)

def monitoredSession : OrderSessionModel :=
  ({ acceptedSession with queuedCalls := [] } : OrderSessionModel).runQueuedCall
    (.continueAfterBasicAcceptance 1)

def acceptedEntry : Entry where
  id := 1
  draft := .basic sellDraft
  status := .accepted
  acceptedOrder := some openOrder
  createdAtMs := 0
  updatedAtMs := 0
  revision := 2

def monitoredEntry : Entry := { acceptedEntry with status := .waiting, revision := 3 }

theorem accepted_session_run (answers : PromptAnswers) (placed : answers.placed = openOrder) :
    ∃ steps, SessionRun (promptServices answers) steps acceptedSession := by
  have submitted : SessionRun (promptServices answers) _ submittedSession :=
    .step (.start fun _ => 0) (.placeOrder sellDraft)
  refine ⟨_, submitted.complete [] [] rfl (?_ : Ends _ [] (.ok openOrder))⟩
  rw [← placed]
  exact .start

theorem monitored_session_run (answers : PromptAnswers) (placed : answers.placed = openOrder) :
    ∃ steps, SessionRun (promptServices answers) steps monitoredSession := by
  obtain ⟨steps, accepted⟩ := accepted_session_run answers placed
  exact ⟨_, accepted.continue rfl⟩

theorem monitored_session_entries : monitoredSession.entries = [monitoredEntry] := by rfl

theorem monitored_wait_matched : monitoredSession.waitRevisions 1 = [3] := by
  obtain ⟨steps, run⟩ := monitored_session_run { placed := openOrder } rfl
  have known : monitoredEntry ∈ monitoredSession.entries := by
    rw [monitored_session_entries]
    exact List.mem_singleton_self _
  exact (wait_completions_matched run rfl known).1 rfl

end CryptoDeal.OrderSession
