import CryptoDeal.OrderSession.WaitMatching

/-!
# The life of an entry

What an entry carries in each of its statuses, that it never comes back from a
final one, and that the list of entries stays complete, duplicate-free and
sorted. Completed OCO waits are taken at their word: the filled order is filled
and its sibling is over.
-/

namespace CryptoDeal.OrderSession

open DealService OrderStatusUtil Interaction OrderSessionModel

variable {Effect : Type} {Answer : Effect → Type} {event : SessionEvent Effect Answer}
  {services : ExchangerType → DealServiceCalls Effect Answer}
  {session after : OrderSessionModel} {entryId : EntryId} {entry before moved : Entry}

/-! ## What an entry carries -/

namespace Entry

def IsAccepted (entry : Entry) : Prop :=
  match entry.type with
  | .basicOrder => entry.acceptedOrder.isSome
  | .ocoGroup => entry.acceptedOco.isSome

theorem accepted_of_basic (basic : entry.type = .basicOrder)
    (accepted : entry.acceptedOrder.isSome) : entry.IsAccepted := by
  rw [IsAccepted, basic]
  exact accepted

theorem accepted_of_oco (oco : entry.type = .ocoGroup) (accepted : entry.acceptedOco.isSome) :
    entry.IsAccepted := by
  rw [IsAccepted, oco]
  exact accepted

/-- Both orders of the OCO are over. -/
def ChildrenTerminal (entry : Entry) (ocoInfo : OcoInfo) : Prop :=
  isOrderTerminal entry.exchangerType ocoInfo.takeProfitOrder.status ∧
    isOrderTerminal entry.exchangerType ocoInfo.stopLossOrder.status

def IsOver (entry : Entry) : Prop := entry.status = .filled ∨ entry.status = .terminal

/-- What a `FILLED` OCO carries: its filled child, and no child that is still open. -/
def FilledOco (entry : Entry) : Prop :=
  ∃ ocoInfo orderInfo, entry.acceptedOco = some ocoInfo ∧ entry.terminalOrder = some orderInfo ∧
    (orderInfo.orderId = ocoInfo.takeProfitOrder.orderId ∨
      orderInfo.orderId = ocoInfo.stopLossOrder.orderId) ∧
    entry.ChildrenTerminal ocoInfo

def TerminalOco (entry : Entry) : Prop :=
  entry.terminalOrder = none ∧
    ∃ ocoInfo, entry.acceptedOco = some ocoInfo ∧ entry.ChildrenTerminal ocoInfo

def WellFormed (entry : Entry) : Prop :=
  match entry.status with
  | .submitting | .submissionFailed =>
      entry.acceptedOrder = none ∧ entry.acceptedOco = none ∧ entry.terminalOrder = none
  | .accepted | .waiting | .monitoringFailed => entry.IsAccepted ∧ entry.terminalOrder = none
  | .filled =>
      match entry.type with
      | .basicOrder => entry.terminalOrder.isSome
      | .ocoGroup => entry.FilledOco
  | .terminal =>
      match entry.type with
      | .basicOrder => entry.terminalOrder.isSome
      | .ocoGroup => entry.TerminalOco

theorem Fresh.well_formed (fresh : entry.Fresh) : entry.WellFormed := by
  have carries : entry.acceptedOrder = none ∧ entry.acceptedOco = none ∧
      entry.terminalOrder = none := ⟨fresh.acceptedOrder, fresh.acceptedOco, fresh.terminalOrder⟩
  rcases fresh.status with status | status
  · rw [WellFormed, status]
    exact carries
  · rw [WellFormed, status]
    exact carries

/-- An entry between acceptance and its end. -/
def IsOpen (entry : Entry) : Prop :=
  entry.status = .accepted ∨ entry.status = .waiting ∨ entry.status = .monitoringFailed

theorem WellFormed.of_open (wellFormed : entry.WellFormed) (isOpen : entry.IsOpen) :
    entry.IsAccepted ∧ entry.terminalOrder = none := by
  rcases isOpen with status | status | status <;>
    (rw [WellFormed, status] at wellFormed; exact wellFormed)

theorem well_formed_of_open (isOpen : entry.IsOpen) (accepted : entry.IsAccepted)
    (unfinished : entry.terminalOrder = none) : entry.WellFormed := by
  rcases isOpen with status | status | status <;>
    (rw [WellFormed, status]; exact ⟨accepted, unfinished⟩)

theorem well_formed_of_over_basic (isOver : entry.IsOver) (basic : entry.type = .basicOrder)
    (carried : entry.terminalOrder.isSome) : entry.WellFormed := by
  unfold WellFormed
  rcases isOver with status | status
  · rw [status]
    dsimp only
    rw [basic]
    exact carried
  · rw [status]
    dsimp only
    rw [basic]
    exact carried

theorem well_formed_of_filled_oco (status : entry.status = .filled)
    (oco : entry.type = .ocoGroup) (filled : entry.FilledOco) : entry.WellFormed := by
  unfold WellFormed
  rw [status]
  dsimp only
  rw [oco]
  exact filled

theorem well_formed_of_terminal_oco (status : entry.status = .terminal)
    (oco : entry.type = .ocoGroup) (terminal : entry.TerminalOco) : entry.WellFormed := by
  unfold WellFormed
  rw [status]
  dsimp only
  rw [oco]
  exact terminal

/-- The children of an OCO entry that is over are over too. -/
theorem WellFormed.children_terminal (wellFormed : entry.WellFormed) (isOver : entry.IsOver)
    (oco : entry.type = .ocoGroup) :
    ∃ ocoInfo, entry.acceptedOco = some ocoInfo ∧ entry.ChildrenTerminal ocoInfo := by
  unfold WellFormed at wellFormed
  rcases isOver with status | status
  · rw [status] at wellFormed
    dsimp only at wellFormed
    rw [oco] at wellFormed
    obtain ⟨ocoInfo, _, accepted, _, _, terminal⟩ := wellFormed
    exact ⟨ocoInfo, accepted, terminal⟩
  · rw [status] at wellFormed
    dsimp only at wellFormed
    rw [oco] at wellFormed
    exact wellFormed.2

theorem status_cases (entry : Entry) :
    (entry.status = .submitting ∨ entry.status = .submissionFailed) ∨ entry.IsOpen ∨
      entry.IsOver := by
  unfold IsOpen IsOver
  cases entry.status <;> simp

theorem WellFormed.of_unaccepted (wellFormed : entry.WellFormed)
    (unaccepted : entry.status = .submitting ∨ entry.status = .submissionFailed) :
    entry.acceptedOrder = none ∧ entry.acceptedOco = none ∧ entry.terminalOrder = none := by
  rcases unaccepted with status | status <;>
    (rw [WellFormed, status] at wellFormed; exact wellFormed)

/-- Publication and the texts and action of an entry are no part of its form. -/
theorem well_formed_stamp (publication : Publication) (now : ℤ)
    (wellFormed : entry.WellFormed) : (publication.stamp now entry).WellFormed := by
  cases publication <;> exact wellFormed

end Entry

/-! ## Moves -/

/-- What the services promise of a completed OCO wait. -/
def OcoWaitsSettle (services : ExchangerType → DealServiceCalls Effect Answer) : Prop :=
  ∀ exchangerType ocoInfo history result,
    Ends ((services exchangerType).waitUntilOcoOrderFilled ocoInfo) history (.ok result) →
    isOrderFilled exchangerType result.filledOrder.status ∧
      isOrderTerminal exchangerType result.siblingTerminalOrder.status ∧
      ¬ isOrderFilled exchangerType result.siblingTerminalOrder.status

/-- A completed wait of the event is of the entry's own kind and has settled. -/
structure SettledFor (event : SessionEvent Effect Answer) (entry : Entry) : Prop where
  basic : ∀ waitRevision exchangerType symbol orderId history (orderInfo : OrderInfo),
    event = .completeTask (.orderWait entry.id waitRevision exchangerType symbol orderId) history
      (.ok orderInfo) → entry.type = .basicOrder
  oco : ∀ waitRevision exchangerType ocoInfo history (result : OcoWaitResult),
    event = .completeTask (.ocoWait entry.id waitRevision exchangerType ocoInfo) history
      (.ok result) →
    entry.type = .ocoGroup ∧ isOrderTerminal entry.exchangerType result.filledOrder.status ∧
      isOrderTerminal entry.exchangerType result.siblingTerminalOrder.status

theorem updated_children_settled {result : OcoWaitResult} {updated : Entry}
    (identified : entry.updateOcoChildrenAfterCompletion result = some updated)
    (filled : isOrderTerminal entry.exchangerType result.filledOrder.status)
    (sibling : isOrderTerminal entry.exchangerType result.siblingTerminalOrder.status) :
    ∃ ocoInfo, updated.acceptedOco = some ocoInfo ∧
      (result.filledOrder.orderId = ocoInfo.takeProfitOrder.orderId ∨
        result.filledOrder.orderId = ocoInfo.stopLossOrder.orderId) ∧
      entry.ChildrenTerminal ocoInfo := by
  unfold Entry.updateOcoChildrenAfterCompletion at identified
  split at identified
  · cases identified
  · split_ifs at identified
    · cases identified
      exact ⟨_, rfl, .inl rfl, filled, sibling⟩
    · cases identified
      exact ⟨_, rfl, .inr rfl, sibling, filled⟩

theorem EntryChange.well_formed (change : EntryChange event before moved)
    (settled : SettledFor event before) (wellFormed : before.WellFormed) : moved.WellFormed := by
  cases change with
  | unchanged => exact wellFormed
  | actionTouched action message error now touches => exact wellFormed
  | submissionFailed failure now submitting => exact wellFormed.of_unaccepted (.inl submitting)
  | basicAccepted orderInfo now submitting basic =>
      have unfinished := (wellFormed.of_unaccepted (.inl submitting)).2.2
      exact Entry.well_formed_of_open (.inl rfl) (Entry.accepted_of_basic basic rfl) unfinished
  | ocoAccepted ocoInfo now submitting oco =>
      have unfinished := (wellFormed.of_unaccepted (.inl submitting)).2.2
      exact Entry.well_formed_of_open (.inl rfl) (Entry.accepted_of_oco oco rfl) unfinished
  | filledAtAcceptance now queued accepted filled =>
      unfold isAcceptedBasicOrderFilled at filled
      split at filled
      next draft orderInfo basic known =>
          have type : before.type = .basicOrder := by rw [Entry.type, basic]
          have carried : before.acceptedOrder.isSome := by
            rw [known]
            rfl
          exact Entry.well_formed_of_over_basic (.inl rfl) type carried
      next => cases filled
  | monitoringRefused failure now queued continues =>
      have carries := wellFormed.of_open (.inl continues.accepted)
      exact Entry.well_formed_of_open (.inr (.inr rfl)) carries.1 carries.2
  | waitStarted now queued continues =>
      have carries := wellFormed.of_open (.inl continues.accepted)
      exact Entry.well_formed_of_open (.inr (.inl rfl)) carries.1 carries.2
  | waitRefused failure publication now later queued continues =>
      have carries := wellFormed.of_open (.inl continues.accepted)
      apply Entry.well_formed_stamp
      exact Entry.well_formed_of_open (.inr (.inr rfl)) carries.1 carries.2
  | waitFailed now completed waited current =>
      have carries := wellFormed.of_open (.inr (.inl (current_waiting current).1))
      apply Entry.well_formed_stamp
      exact Entry.well_formed_of_open (.inr (.inr rfl)) carries.1 carries.2
  | orderWaitFinished orderInfo now completed current =>
      have type : before.type = .basicOrder := settled.basic _ _ _ _ _ _ completed
      exact Entry.well_formed_of_over_basic (.inl rfl) type rfl
  | @ocoWaitFinished _ _ _ _ result updated now completed current identified =>
      obtain ⟨oco, filled, sibling⟩ := settled.oco _ _ _ _ _ completed
      have draft : updated.draft = before.draft := updated_children_draft identified
      have type : updated.type = .ocoGroup := by
        rw [Entry.type, draft, ← Entry.type]
        exact oco
      obtain ⟨ocoInfo, accepted, child, terminal⟩ :=
        updated_children_settled identified filled sibling
      have exchange : updated.exchangerType = before.exchangerType := by
        rw [Entry.exchangerType, draft, ← Entry.exchangerType]
      have same : updated.ChildrenTerminal ocoInfo := by
        rw [Entry.ChildrenTerminal, exchange]
        exact terminal
      exact Entry.well_formed_of_filled_oco rfl type
        ⟨ocoInfo, result.filledOrder, accepted, rfl, child, same⟩
  | ocoWaitUnidentified failure now completed current unidentified =>
      have carries := wellFormed.of_open (.inr (.inl (current_waiting current).1))
      exact Entry.well_formed_of_open (.inr (.inr rfl)) carries.1 carries.2

/-! ## Merges -/

theorem updated_child_terminal {exchangerType : ExchangerType} {childOrder : OrderInfo}
    (terminal : isOrderTerminal exchangerType childOrder.status)
    (refreshedOrder : Option OrderInfo) :
    isOrderTerminal exchangerType
      (Entry.updateOcoChildAfterRefresh exchangerType childOrder refreshedOrder).status := by
  unfold Entry.updateOcoChildAfterRefresh
  split
  · exact terminal
  next refreshed =>
      split_ifs with other stale
      · exact terminal
      · exact terminal
      · by_contra open_
        exact stale ⟨terminal, open_⟩

theorem refreshed_children_terminal {ocoInfo : OcoInfo} (terminal : entry.ChildrenTerminal ocoInfo)
    (result : EntryRefreshResult) :
    entry.ChildrenTerminal (Entry.refreshOco entry.exchangerType ocoInfo result) :=
  ⟨updated_child_terminal terminal.1 _, updated_child_terminal terminal.2 _⟩

theorem apply_basic_order_refresh_well_formed (basic : entry.type = .basicOrder)
    (ordered : entry.IsOrdered) (wellFormed : entry.WellFormed) (orderInfo : OrderInfo) :
    (entry.applyBasicOrderRefresh orderInfo).1.WellFormed := by
  unfold Entry.applyBasicOrderRefresh
  split_ifs with stale
  · exact wellFormed
  · have opened : classifyOrderStatus entry.exchangerType orderInfo.status = .unavailable ∨
        classifyOrderStatus entry.exchangerType orderInfo.status = .active →
        Entry.WellFormed { entry with acceptedOrder := some orderInfo } := by
      intro notOver
      have notTerminal : ¬ isOrderTerminal entry.exchangerType orderInfo.status = true := by
        rcases notOver with state | state <;> simp [isOrderTerminal, state]
      rcases entry.status_cases with unaccepted | isOpen | isOver
      · have carries := wellFormed.of_unaccepted unaccepted
        have asked := ordered.2
        rw [carries.1, carries.2.2] at asked
        cases asked
      · exact Entry.well_formed_of_open isOpen (Entry.accepted_of_basic basic rfl)
          (wellFormed.of_open isOpen).2
      · exact absurd ⟨isOver, notTerminal⟩ stale
    dsimp only
    split
    next => exact Entry.well_formed_of_over_basic (.inl rfl) basic rfl
    next => exact Entry.well_formed_of_over_basic (.inr rfl) basic rfl
    next => exact Entry.well_formed_of_over_basic (.inr rfl) basic rfl
    next state => exact opened (.inl state)
    next state => exact opened (.inr state)

theorem apply_oco_refresh_well_formed (oco : entry.type = .ocoGroup)
    (wellFormed : entry.WellFormed) (result : EntryRefreshResult) :
    (entry.applyOcoRefresh result).1.WellFormed := by
  unfold Entry.applyOcoRefresh
  split
  next => exact wellFormed
  next accepted known =>
      dsimp only
      split_ifs with filled takeProfit terminal
      · simp only [Bool.and_eq_true] at filled
        exact Entry.well_formed_of_filled_oco rfl oco
          ⟨_, _, rfl, rfl, .inl rfl, filled.1.2, filled.2⟩
      · simp only [Bool.and_eq_true] at filled
        exact Entry.well_formed_of_filled_oco rfl oco
          ⟨_, _, rfl, rfl, .inr rfl, filled.1.2, filled.2⟩
      · simp only [Bool.and_eq_true] at terminal
        exact Entry.well_formed_of_terminal_oco rfl oco ⟨rfl, _, rfl, terminal⟩
      · rcases entry.status_cases with unaccepted | isOpen | isOver
        · have carries := wellFormed.of_unaccepted unaccepted
          rw [known] at carries
          cases carries.2.1
        · exact Entry.well_formed_of_open isOpen (Entry.accepted_of_oco oco rfl)
            (wellFormed.of_open isOpen).2
        · obtain ⟨ocoInfo, same, children⟩ := wellFormed.children_terminal isOver oco
          obtain rfl := Option.some.inj (known.symm.trans same)
          have still := refreshed_children_terminal children result
          simp only [Bool.and_eq_true] at terminal
          exact absurd still terminal

theorem apply_entry_refresh_result_well_formed (wellFormed : entry.WellFormed)
    {result : EntryRefreshResult} (asked : result.basicOrder.isSome → entry.IsOrdered) :
    (entry.applyEntryRefreshResult result).1.WellFormed := by
  unfold Entry.applyEntryRefreshResult
  split
  next draft basic =>
      split
      next orderInfo answered =>
          have ordered : entry.IsOrdered := by
            apply asked
            rw [answered]
            rfl
          exact apply_basic_order_refresh_well_formed ordered.1 ordered wellFormed orderInfo
      next => exact wellFormed
  next draft oco =>
      have type : entry.type = .ocoGroup := by rw [Entry.type, oco]
      exact apply_oco_refresh_well_formed type wellFormed result

theorem concluded_well_formed (wellFormed : entry.WellFormed) {result : EntryRefreshResult}
    (asked : result.basicOrder.isSome → entry.IsOrdered) (message error : String) (now : ℤ) :
    (concluded entry result message error now).WellFormed := by
  have merged := apply_entry_refresh_result_well_formed wellFormed asked
  unfold concluded
  apply Entry.well_formed_stamp
  exact merged

/-! ## Final statuses -/

theorem concluded_over (isOver : entry.IsOver) (result : EntryRefreshResult)
    (message error : String) (now : ℤ) : (concluded entry result message error now).IsOver := by
  rw [Entry.IsOver, concluded_status]
  rcases entry.apply_entry_refresh_result_status result with ⟨same, _⟩ | filled | terminal
  · rw [same]
    exact isOver
  · exact .inl filled
  · exact .inr terminal

theorem QueuedCall.Continues.open {call : QueuedCall} (continues : call.Continues entry) :
    ¬ entry.IsOver := by
  rw [Entry.IsOver, continues.accepted]
  nofun

theorem EntryChange.stays_over (change : EntryChange event before moved) (isOver : before.IsOver) :
    moved.IsOver := by
  have waiting : ∀ waitRevision, ¬ before.isCurrentWaitingRevision waitRevision = true := by
    intro waitRevision current
    rw [Entry.IsOver, (current_waiting current).1] at isOver
    rcases isOver with status | status <;> cases status
  cases change with
  | unchanged => exact isOver
  | actionTouched action message error now touches => exact isOver
  | submissionFailed failure now submitting =>
      rw [Entry.IsOver, submitting] at isOver
      rcases isOver with status | status <;> cases status
  | basicAccepted orderInfo now submitting basic =>
      rw [Entry.IsOver, submitting] at isOver
      rcases isOver with status | status <;> cases status
  | ocoAccepted ocoInfo now submitting oco =>
      rw [Entry.IsOver, submitting] at isOver
      rcases isOver with status | status <;> cases status
  | filledAtAcceptance now queued accepted filled => exact .inl rfl
  | monitoringRefused failure now queued continues => exact absurd isOver continues.open
  | waitStarted now queued continues => exact absurd isOver continues.open
  | waitRefused failure publication now later queued continues => exact absurd isOver continues.open
  | waitFailed now completed waited current => exact absurd current (waiting _)
  | orderWaitFinished orderInfo now completed current => exact .inl rfl
  | ocoWaitFinished updated now completed current identified => exact .inl rfl
  | ocoWaitUnidentified failure now completed current unidentified =>
      exact absurd current (waiting _)

/-- Every entry is still there, and is over if it was. -/
def EntriesKept (later earlier : OrderSessionModel) : Prop :=
  ∀ entry ∈ earlier.entries,
    ∃ moved ∈ later.entries, moved.id = entry.id ∧ (entry.IsOver → moved.IsOver)

theorem EntriesKept.trans {earlier middle later : OrderSessionModel}
    (second : EntriesKept later middle) (first : EntriesKept middle earlier) :
    EntriesKept later earlier := by
  intro entry present
  obtain ⟨between, presentBetween, sameId, stays⟩ := first entry present
  obtain ⟨moved, presentMoved, movedId, stillOver⟩ := second between presentBetween
  exact ⟨moved, presentMoved, movedId.trans sameId, fun wasOver => stillOver (stays wasOver)⟩

theorem Occurs.entries_kept (occurs : Occurs services session event after)
    (sound : session.Sound) : EntriesKept after session := by
  intro entry present
  have known := sound.indexed.find_of_mem present
  obtain ⟨moved, found, succeeds⟩ := occurs.succeeds sound known
  refine ⟨moved, find_entry_mem found, succeeds.id, ?_⟩
  intro isOver
  cases occurs.entry_origin sound found with
  | fresh unknown fresh =>
      rw [known] at unknown
      cases unknown
  | concluded before concludes message error now merged =>
      obtain rfl := Option.some.inj (known.symm.trans before)
      rw [merged]
      exact concluded_over isOver _ _ _ _
  | changed before stale change =>
      obtain rfl := Option.some.inj (known.symm.trans before)
      exact change.stays_over isOver

/-! ## Runs -/

theorem Occurs.settled (occurs : Occurs services session event after)
    (settles : OcoWaitsSettle services) (informed : session.Informed)
    (known : session.findEntry entry.id = some entry) : SettledFor event entry := by
  constructor
  · rintro waitRevision exchangerType symbol orderId history orderInfo rfl
    obtain ⟨earlier, later, inFlight, _⟩ := occurs.completed
    have present : SessionTask.orderWait entry.id waitRevision exchangerType symbol orderId ∈
        session.tasks := by
      rw [inFlight]
      exact List.mem_append_right _ List.mem_cons_self
    obtain ⟨same, found, knows⟩ := informed _ present entry.id (.inl ⟨waitRevision, rfl⟩)
    obtain rfl := Option.some.inj (known.symm.trans found)
    exact knows.fits.2 _ rfl
  · rintro waitRevision exchangerType ocoInfo history result rfl
    obtain ⟨earlier, later, inFlight, _⟩ := occurs.completed
    have present : SessionTask.ocoWait entry.id waitRevision exchangerType ocoInfo ∈
        session.tasks := by
      rw [inFlight]
      exact List.mem_append_right _ List.mem_cons_self
    obtain ⟨same, found, knows⟩ := informed _ present entry.id (.inl ⟨waitRevision, rfl⟩)
    obtain rfl := Option.some.inj (known.symm.trans found)
    have exchange : exchangerType = entry.exchangerType := knows.fits.1
    subst exchange
    obtain ⟨stopRequested, ended⟩ := occurs.ended
    obtain ⟨filled, sibling, _⟩ :=
      settles entry.exchangerType ocoInfo history result (SessionTask.oco_wait_ended ended)
    exact ⟨knows.fits.2 _ rfl, terminal_of_filled filled, sibling⟩

theorem Occurs.well_formed (occurs : Occurs services session event after)
    (settles : OcoWaitsSettle services) (sound : session.Sound) (informed : session.Informed)
    (wellFormed : ∀ entry ∈ session.entries, entry.WellFormed) :
    ∀ entry ∈ after.entries, entry.WellFormed := by
  intro entry present
  have found := (occurs.sound sound).indexed.find_of_mem present
  cases occurs.entry_origin sound found with
  | fresh unknown fresh => exact fresh.well_formed
  | @concluded before result known concludes message error now merged =>
      rw [merged]
      have same : before.id = entry.id := find_entry_id known
      have asked := occurs.knows informed concludes (same ▸ known)
      exact concluded_well_formed (wellFormed before (find_entry_mem known)) asked _ _ _
  | @changed before known stale change =>
      have same : before.id = entry.id := find_entry_id known
      have settled := occurs.settled settles informed (same ▸ known)
      exact change.well_formed settled (wellFormed before (find_entry_mem known))

theorem SessionRun.well_formed {steps : List (SessionStep Effect Answer)}
    (run : SessionRun services steps session) (settles : OcoWaitsSettle services) :
    ∀ entry ∈ session.entries, entry.WellFormed := by
  induction run with
  | start clock =>
      intro entry present
      cases present
  | step run occurs ih => exact occurs.well_formed settles run.sound run.informed ih

/-- A relation that every event establishes, and that composes, holds along the run. -/
theorem SessionRun.pairwise (Later : OrderSessionModel → OrderSessionModel → Prop)
    (compose : ∀ {earlier middle later}, Later later middle → Later middle earlier →
      Later later earlier)
    (established : ∀ {event : SessionEvent Effect Answer} {before after : OrderSessionModel},
      before.Sound →
      Occurs services before event after → Later after before)
    {steps : List (SessionStep Effect Answer)} (run : SessionRun services steps session) :
    (session :: steps.map Prod.fst).Pairwise Later := by
  induction run with
  | start clock => exact List.pairwise_singleton _ _
  | @step steps session after event run occurs ih =>
      have last : Later after session := established run.sound occurs
      apply List.Pairwise.cons _ ih
      intro earlier member
      rcases List.mem_cons.1 member with rfl | older
      · exact last
      · exact compose last (List.rel_of_pairwise_cons ih older)

theorem entries_well_formed {steps : List (SessionStep Effect Answer)}
    (settles : OcoWaitsSettle services) (run : SessionRun services steps session) :
    (∀ entry ∈ session.entries, entry.WellFormed) ∧
      (session.entries.map Entry.id).Nodup ∧
      (session.entries.Pairwise fun left right => right.updatedAtMs < left.updatedAtMs ∨
        (left.updatedAtMs = right.updatedAtMs ∧ right.id < left.id)) ∧
      (session :: steps.map Prod.fst).Pairwise EntriesKept := by
  have indexed := run.sound.indexed
  refine ⟨run.well_formed settles, indexed.distinct, ?_, ?_⟩
  · exact indexed.sorted.imp fun newer => newer_first_iff.1 newer
  · apply SessionRun.pairwise EntriesKept EntriesKept.trans _ run
    intro event before after sound occurs
    exact occurs.entries_kept sound

/-- A completed OCO as either exchange reports it. -/
def settledOco : ExchangerType → OcoWaitResult
  | .binance => {
      filledOrder := { orderId := "2", status := "FILLED" }
      siblingTerminalOrder := { orderId := "3", status := "EXPIRED" } }
  | .bybit => {
      filledOrder := { status := "Filled" }
      siblingTerminalOrder := { status := "Deactivated" } }

theorem prompt_oco_waits_settle {answers : PromptAnswers} (settled : answers.settled = settledOco) :
    OcoWaitsSettle (promptServices answers) := by
  intro exchangerType ocoInfo history result ended
  cases ends_returned ended
  rw [settled]
  cases exchangerType <;> decide

def sellOcoDraft : OcoOrderDraft where
  pair := { symbol := "BTCUSDT", baseAsset := "BTC", quoteAsset := "USDT" }
  side := .sell
  quantity := 1
  limitPrice := 30
  stopPrice := 10

def openOco : OcoInfo where
  orderListId := "5"
  takeProfitOrder := { symbol := "BTCUSDT", orderId := "2", status := "NEW" }
  stopLossOrder := { symbol := "BTCUSDT", orderId := "3", status := "NEW" }

def orderWait : SessionTask := .orderWait 1 3 .binance "BTCUSDT" "1"

/-- An OCO is placed beside the monitored order, and one of its legs fills. -/
def submittedOco : OrderSessionModel := (monitoredSession.placeOco sellOcoDraft).2

def acceptedOco : OrderSessionModel :=
  ({ submittedOco with tasks := [orderWait] } : OrderSessionModel).completeTask
    (.submitOco 2 sellOcoDraft) (.ok openOco)

def monitoredOco : OrderSessionModel :=
  ({ acceptedOco with queuedCalls := [] } : OrderSessionModel).runQueuedCall
    (.continueAfterOcoAcceptance 2)

def filledOco : OrderSessionModel :=
  ({ monitoredOco with tasks := [orderWait] } : OrderSessionModel).completeTask
    (.ocoWait 2 3 .binance openOco) (.ok (settledOco .binance))

theorem filled_oco_entries_well_formed :
    filledOco.entries.map (fun entry => (entry.id, entry.type, entry.status)) =
        [(2, .ocoGroup, .filled), (1, .basicOrder, .waiting)] ∧
      ∀ entry ∈ filledOco.entries, entry.WellFormed := by
  let answers : PromptAnswers :=
    { placed := openOrder, placedOco := openOco, settled := settledOco }
  obtain ⟨steps, monitored⟩ := monitored_session_run answers rfl
  have submitted : SessionRun (promptServices answers) _ submittedOco :=
    monitored.step (.placeOco sellOcoDraft)
  have accepted : SessionRun (promptServices answers) _ acceptedOco :=
    submitted.complete [orderWait] [] rfl (.start : Ends _ [] (.ok openOco))
  have waiting : SessionRun (promptServices answers) _ monitoredOco := accepted.continue rfl
  have filled : SessionRun (promptServices answers) _ filledOco :=
    waiting.complete [orderWait] [] rfl (.start : Ends _ [] (.ok (settledOco .binance)))
  exact ⟨rfl, (entries_well_formed (prompt_oco_waits_settle rfl) filled).1⟩

end CryptoDeal.OrderSession
