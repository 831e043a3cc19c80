import CryptoDeal.OrderSession.ResultDelivery

/-!
# Filled entries

The merges guard a final status against reports that are not terminal, but not a
fill against a terminal report of something else. So a fill is kept exactly as
long as no current result contradicts it.
-/

namespace CryptoDeal.OrderSession

open DealService OrderStatusUtil Interaction OrderSessionModel

variable {Effect : Type} {Answer : Effect → Type} {event : SessionEvent Effect Answer}
  {services : ExchangerType → DealServiceCalls Effect Answer}
  {session after : OrderSessionModel} {entryId : EntryId} {entry before moved : Entry}

/-! ## What contradicts a fill -/

/-- The order is over and was not filled. -/
def EndedUnfilled (exchangerType : ExchangerType) (orderInfo : OrderInfo) : Prop :=
  isOrderTerminal exchangerType orderInfo.status ∧ ¬ isOrderFilled exchangerType orderInfo.status

/-- The report is about the child and is final. -/
def IsFinalReport (exchangerType : ExchangerType) (childOrder : OrderInfo)
    (report : OrderInfo) : Bool :=
  report.orderId = childOrder.orderId && isOrderTerminal exchangerType report.status

/-- With the report the child is over and not filled. -/
def EndsUnfilled (exchangerType : ExchangerType) (childOrder : OrderInfo)
    (report : Option OrderInfo) : Prop :=
  EndedUnfilled exchangerType
    ((report.filter (IsFinalReport exchangerType childOrder)).getD childOrder)

inductive ContradictsFill (entry : Entry) (result : EntryRefreshResult) : Prop where
  | order {report : OrderInfo} (basic : entry.type = .basicOrder) (filled : entry.status = .filled)
      (answered : result.basicOrder = some report)
      (unfilled : EndedUnfilled entry.exchangerType report)
  | takeProfit {ocoInfo : OcoInfo} (oco : entry.type = .ocoGroup)
      (accepted : entry.acceptedOco = some ocoInfo)
      (filled : isOrderFilled entry.exchangerType ocoInfo.takeProfitOrder.status)
      (unfilled :
        EndsUnfilled entry.exchangerType ocoInfo.takeProfitOrder result.takeProfitOrder)
  | stopLoss {ocoInfo : OcoInfo} (oco : entry.type = .ocoGroup)
      (accepted : entry.acceptedOco = some ocoInfo)
      (filled : isOrderFilled entry.exchangerType ocoInfo.stopLossOrder.status)
      (unfilled : EndsUnfilled entry.exchangerType ocoInfo.stopLossOrder result.stopLossOrder)
  | children {ocoInfo : OcoInfo} (oco : entry.type = .ocoGroup) (filled : entry.status = .filled)
      (accepted : entry.acceptedOco = some ocoInfo)
      (takeProfit :
        EndsUnfilled entry.exchangerType ocoInfo.takeProfitOrder result.takeProfitOrder)
      (stopLoss : EndsUnfilled entry.exchangerType ocoInfo.stopLossOrder result.stopLossOrder)

/-! ## Merged children -/

section Child

variable {exchangerType : ExchangerType} {childOrder : OrderInfo} {report : Option OrderInfo}

/-- A final report replaces the child; any other leaves a terminal child alone. -/
theorem updated_child_of_terminal (terminal : isOrderTerminal exchangerType childOrder.status) :
    Entry.updateOcoChildAfterRefresh exchangerType childOrder report =
      (report.filter (IsFinalReport exchangerType childOrder)).getD childOrder := by
  unfold Entry.updateOcoChildAfterRefresh
  cases report with
  | none => rfl
  | some refreshed =>
      dsimp only
      split_ifs with other stale
      · simp [Option.filter, IsFinalReport, other]
      · simp [Option.filter, IsFinalReport, stale.2]
      · have final : isOrderTerminal exchangerType refreshed.status := by
          by_contra open_
          exact stale ⟨terminal, open_⟩
        simp [Option.filter, IsFinalReport, not_not.1 other, final]

theorem updated_child_ended_unfilled_iff :
    EndedUnfilled exchangerType
        (Entry.updateOcoChildAfterRefresh exchangerType childOrder report) ↔
      EndsUnfilled exchangerType childOrder report := by
  by_cases terminal : isOrderTerminal exchangerType childOrder.status
  · rw [EndsUnfilled, updated_child_of_terminal terminal]
  · unfold Entry.updateOcoChildAfterRefresh EndsUnfilled
    cases report with
    | none => rfl
    | some refreshed =>
        dsimp only
        split_ifs with other stale
        · simp [Option.filter, IsFinalReport, other]
        · exact absurd stale.1 terminal
        · by_cases final : isOrderTerminal exchangerType refreshed.status
          · simp [Option.filter, IsFinalReport, not_not.1 other, final]
          · simp [Option.filter, IsFinalReport, final, EndedUnfilled, terminal]

/-- A filled child stays filled unless the report contradicts it. -/
theorem updated_child_filled_iff (filled : isOrderFilled exchangerType childOrder.status) :
    isOrderFilled exchangerType
        (Entry.updateOcoChildAfterRefresh exchangerType childOrder report).status ↔
      ¬ EndsUnfilled exchangerType childOrder report := by
  rw [← updated_child_ended_unfilled_iff, EndedUnfilled, not_and_not_right]
  constructor
  · intro still _
    exact still
  · intro implied
    exact implied (updated_child_terminal (terminal_of_filled filled) report)

end Child

/-! ## Merges and fills -/

/-- A `FILLED` entry stays so, with a filled order if it had one. -/
structure FillKept (entry moved : Entry) : Prop where
  status : entry.status = .filled → moved.status = .filled
  terminalOrder : entry.status = .filled → ∀ orderInfo, entry.terminalOrder = some orderInfo →
    isOrderFilled entry.exchangerType orderInfo.status →
    ∃ kept, moved.terminalOrder = some kept ∧ isOrderFilled entry.exchangerType kept.status

structure ChildrenKept (entry moved : Entry) : Prop where
  takeProfit : ∀ ocoInfo, entry.acceptedOco = some ocoInfo →
    isOrderFilled entry.exchangerType ocoInfo.takeProfitOrder.status →
    ∃ kept, moved.acceptedOco = some kept ∧
      isOrderFilled entry.exchangerType kept.takeProfitOrder.status
  stopLoss : ∀ ocoInfo, entry.acceptedOco = some ocoInfo →
    isOrderFilled entry.exchangerType ocoInfo.stopLossOrder.status →
    ∃ kept, moved.acceptedOco = some kept ∧
      isOrderFilled entry.exchangerType kept.stopLossOrder.status

theorem FillKept.refl (entry : Entry) : FillKept entry entry :=
  ⟨id, fun _ orderInfo known filled => ⟨orderInfo, known, filled⟩⟩

theorem FillKept.of_unfilled (unfilled : entry.status ≠ .filled) (moved : Entry) :
    FillKept entry moved :=
  ⟨fun filled => absurd filled unfilled, fun filled => absurd filled unfilled⟩

theorem ChildrenKept.of_same (same : moved.acceptedOco = entry.acceptedOco) :
    ChildrenKept entry moved :=
  ⟨fun ocoInfo known filled => ⟨ocoInfo, same.trans known, filled⟩,
    fun ocoInfo known filled => ⟨ocoInfo, same.trans known, filled⟩⟩

theorem apply_basic_order_refresh_oco (orderInfo : OrderInfo) :
    (entry.applyBasicOrderRefresh orderInfo).1.acceptedOco = entry.acceptedOco := by
  unfold Entry.applyBasicOrderRefresh
  split_ifs
  · rfl
  · split <;> rfl

theorem apply_basic_order_refresh_keeps_iff (filled : entry.status = .filled)
    (report : OrderInfo) :
    FillKept entry (entry.applyBasicOrderRefresh report).1 ↔
      ¬ EndedUnfilled entry.exchangerType report := by
  unfold Entry.applyBasicOrderRefresh
  split_ifs with stale
  · exact iff_of_true (.refl entry) fun ended => stale.2 ended.1
  · have terminal : isOrderTerminal entry.exchangerType report.status := by
      by_contra open_
      exact stale ⟨.inl filled, open_⟩
    unfold EndedUnfilled isOrderFilled
    cases state : classifyOrderStatus entry.exchangerType report.status with
    | filled =>
        apply iff_of_true
        · exact ⟨fun _ => rfl, fun _ _ _ _ => ⟨report, rfl, by simp [isOrderFilled, state]⟩⟩
        · simp
    | cancelled =>
        apply iff_of_false
        · intro kept
          cases kept.status filled
        · simp [terminal]
    | otherTerminal =>
        apply iff_of_false
        · intro kept
          cases kept.status filled
        · simp [terminal]
    | unavailable => simp [isOrderTerminal, state] at terminal
    | active => simp [isOrderTerminal, state] at terminal

section Oco

variable {ocoInfo : OcoInfo} {result : EntryRefreshResult}

theorem apply_oco_refresh_oco (accepted : entry.acceptedOco = some ocoInfo) :
    (entry.applyOcoRefresh result).1.acceptedOco =
      some (Entry.refreshOco entry.exchangerType ocoInfo result) := by
  unfold Entry.applyOcoRefresh
  rw [accepted]
  dsimp only
  split_ifs <;> rfl

theorem apply_oco_refresh_unfilled (accepted : entry.acceptedOco = some ocoInfo)
    (takeProfit : EndsUnfilled entry.exchangerType ocoInfo.takeProfitOrder result.takeProfitOrder)
    (stopLoss : EndsUnfilled entry.exchangerType ocoInfo.stopLossOrder result.stopLossOrder) :
    (entry.applyOcoRefresh result).1.status = .terminal := by
  rw [← updated_child_ended_unfilled_iff] at takeProfit stopLoss
  have takeProfitOpen := Bool.eq_false_iff.2 takeProfit.2
  have stopLossOpen := Bool.eq_false_iff.2 stopLoss.2
  unfold Entry.applyOcoRefresh
  rw [accepted]
  simp only [Entry.refreshOco, takeProfitOpen, stopLossOpen, takeProfit.1, stopLoss.1]
  rfl

theorem apply_oco_refresh_fill_kept (accepted : entry.acceptedOco = some ocoInfo)
    (uncontradicted :
      ¬ (EndsUnfilled entry.exchangerType ocoInfo.takeProfitOrder result.takeProfitOrder ∧
        EndsUnfilled entry.exchangerType ocoInfo.stopLossOrder result.stopLossOrder)) :
    FillKept entry (entry.applyOcoRefresh result).1 := by
  rw [← updated_child_ended_unfilled_iff, ← updated_child_ended_unfilled_iff] at uncontradicted
  unfold Entry.applyOcoRefresh
  rw [accepted]
  dsimp only
  split_ifs with settled takeProfit ended
  · exact ⟨fun _ => rfl, fun _ _ _ _ => ⟨_, rfl, takeProfit⟩⟩
  · simp only [Bool.and_eq_true, Bool.or_eq_true, takeProfit, Bool.false_eq_true, false_or]
      at settled
    exact ⟨fun _ => rfl, fun _ _ _ _ => ⟨_, rfl, settled.1.1⟩⟩
  · exfalso
    simp only [Bool.and_eq_true, Bool.or_eq_true] at settled ended
    apply uncontradicted
    refine ⟨⟨ended.1, ?_⟩, ended.2, ?_⟩
    · intro filled
      exact settled ⟨⟨.inl filled, ended.1⟩, ended.2⟩
    · intro filled
      exact settled ⟨⟨.inr filled, ended.1⟩, ended.2⟩
  · exact ⟨id, fun _ orderInfo known filled => ⟨orderInfo, known, filled⟩⟩

end Oco

section Merge

variable {result : EntryRefreshResult}

theorem apply_to_basic {report : OrderInfo} (basic : entry.type = .basicOrder)
    (answered : result.basicOrder = some report) :
    entry.applyEntryRefreshResult result = entry.applyBasicOrderRefresh report := by
  unfold Entry.applyEntryRefreshResult
  split
  · rw [answered]
  next draft oco =>
      rw [Entry.type, oco] at basic
      cases basic

theorem apply_unanswered (basic : entry.type = .basicOrder)
    (unanswered : result.basicOrder = none) :
    entry.applyEntryRefreshResult result = (entry, false) := by
  unfold Entry.applyEntryRefreshResult
  split
  · rw [unanswered]
  next draft oco =>
      rw [Entry.type, oco] at basic
      cases basic

theorem apply_to_oco (oco : entry.type = .ocoGroup) :
    entry.applyEntryRefreshResult result = entry.applyOcoRefresh result := by
  unfold Entry.applyEntryRefreshResult
  split
  next draft basic =>
      rw [Entry.type, basic] at oco
      cases oco
  · rfl

theorem apply_keeps_uncontradicted (uncontradicted : ¬ ContradictsFill entry result) :
    FillKept entry (entry.applyEntryRefreshResult result).1 ∧
      ChildrenKept entry (entry.applyEntryRefreshResult result).1 := by
  cases type : entry.type with
  | basicOrder =>
      cases answered : result.basicOrder with
      | none =>
          rw [apply_unanswered type answered]
          exact ⟨.refl entry, .of_same rfl⟩
      | some report =>
          rw [apply_to_basic type answered]
          refine ⟨?_, .of_same (apply_basic_order_refresh_oco report)⟩
          by_cases filled : entry.status = .filled
          · rw [apply_basic_order_refresh_keeps_iff filled]
            intro unfilled
            exact uncontradicted (.order type filled answered unfilled)
          · exact .of_unfilled filled _
  | ocoGroup =>
      rw [apply_to_oco type]
      cases accepted : entry.acceptedOco with
      | none =>
          rw [Entry.applyOcoRefresh, accepted]
          exact ⟨.refl entry, .of_same rfl⟩
      | some ocoInfo =>
          constructor
          · by_cases filled : entry.status = .filled
            · apply apply_oco_refresh_fill_kept accepted
              rintro ⟨takeProfit, stopLoss⟩
              exact uncontradicted (.children type filled accepted takeProfit stopLoss)
            · exact .of_unfilled filled _
          · constructor
            · intro known same filled
              obtain rfl := Option.some.inj (accepted.symm.trans same)
              refine ⟨_, apply_oco_refresh_oco accepted, (updated_child_filled_iff filled).2 ?_⟩
              intro unfilled
              exact uncontradicted (.takeProfit type accepted filled unfilled)
            · intro known same filled
              obtain rfl := Option.some.inj (accepted.symm.trans same)
              refine ⟨_, apply_oco_refresh_oco accepted, (updated_child_filled_iff filled).2 ?_⟩
              intro unfilled
              exact uncontradicted (.stopLoss type accepted filled unfilled)

theorem apply_loses_contradicted (contradicts : ContradictsFill entry result)
    (fill : FillKept entry (entry.applyEntryRefreshResult result).1)
    (children : ChildrenKept entry (entry.applyEntryRefreshResult result).1) : False := by
  cases contradicts with
  | order basic filled answered unfilled =>
      rw [apply_to_basic basic answered, apply_basic_order_refresh_keeps_iff filled] at fill
      exact fill unfilled
  | takeProfit oco accepted filled unfilled =>
      obtain ⟨kept, known, still⟩ := children.takeProfit _ accepted filled
      rw [apply_to_oco oco, apply_oco_refresh_oco accepted] at known
      cases known
      exact (updated_child_filled_iff filled).1 still unfilled
  | stopLoss oco accepted filled unfilled =>
      obtain ⟨kept, known, still⟩ := children.stopLoss _ accepted filled
      rw [apply_to_oco oco, apply_oco_refresh_oco accepted] at known
      cases known
      exact (updated_child_filled_iff filled).1 still unfilled
  | children oco filled accepted takeProfit stopLoss =>
      have status := fill.status filled
      rw [apply_to_oco oco, apply_oco_refresh_unfilled accepted takeProfit stopLoss] at status
      cases status

end Merge

/-! ## Events -/

theorem concluded_fill_kept_iff (entry : Entry) (result : EntryRefreshResult)
    (message error : String) (now : ℤ) :
    FillKept entry (concluded entry result message error now) ∧
        ChildrenKept entry (concluded entry result message error now) ↔
      ¬ ContradictsFill entry result := by
  obtain ⟨status, _, oco, terminal⟩ := concluded_same_order entry result message error now
  constructor
  · rintro ⟨fill, children⟩ contradicts
    apply apply_loses_contradicted contradicts
    · exact ⟨status ▸ fill.status, terminal ▸ fill.terminalOrder⟩
    · exact ⟨oco ▸ children.takeProfit, oco ▸ children.stopLoss⟩
  · intro uncontradicted
    obtain ⟨fill, children⟩ := apply_keeps_uncontradicted uncontradicted
    constructor
    · exact ⟨status ▸ fill.status, terminal ▸ fill.terminalOrder⟩
    · exact ⟨oco ▸ children.takeProfit, oco ▸ children.stopLoss⟩

theorem EntryChange.fill_kept (change : EntryChange event before moved) :
    FillKept before moved := by
  have waiting : ∀ waitRevision, before.isCurrentWaitingRevision waitRevision = true →
      before.status ≠ .filled := by
    intro waitRevision current filled
    rw [(current_waiting current).1] at filled
    cases filled
  cases change with
  | unchanged => exact .refl before
  | actionTouched action message error now touches =>
      exact ⟨id, fun _ orderInfo known filled => ⟨orderInfo, known, filled⟩⟩
  | submissionFailed failure now submitting =>
      apply FillKept.of_unfilled
      rw [submitting]
      nofun
  | basicAccepted orderInfo now submitting basic =>
      apply FillKept.of_unfilled
      rw [submitting]
      nofun
  | ocoAccepted ocoInfo now submitting oco =>
      apply FillKept.of_unfilled
      rw [submitting]
      nofun
  | filledAtAcceptance now queued accepted filled =>
      apply FillKept.of_unfilled
      rw [accepted]
      nofun
  | monitoringRefused failure now queued continues =>
      apply FillKept.of_unfilled
      rw [continues.accepted]
      nofun
  | waitStarted now queued continues =>
      apply FillKept.of_unfilled
      rw [continues.accepted]
      nofun
  | waitRefused failure publication now later queued continues =>
      apply FillKept.of_unfilled
      rw [continues.accepted]
      nofun
  | waitFailed now completed waited current => exact .of_unfilled (waiting _ current) _
  | orderWaitFinished orderInfo now completed current => exact .of_unfilled (waiting _ current) _
  | ocoWaitFinished updated now completed current identified =>
      exact .of_unfilled (waiting _ current) _
  | ocoWaitUnidentified failure now completed current unidentified =>
      exact .of_unfilled (waiting _ current) _

/-- What an event does to fills: `FILLED` entries keep theirs, and a merge keeps filled children. -/
def FillsKept (session : OrderSessionModel) (event : SessionEvent Effect Answer)
    (after : OrderSessionModel) : Prop :=
  ∀ entryId entry, session.findEntry entryId = some entry →
    ∃ moved, after.findEntry entryId = some moved ∧ FillKept entry moved ∧
      ∀ result, event.Concludes session entry result → ChildrenKept entry moved

/-- The event delivers a current result that contradicts a fill. -/
def DeliversContradiction (session : OrderSessionModel) (event : SessionEvent Effect Answer) :
    Prop :=
  ∃ entryId entry result, session.findEntry entryId = some entry ∧
    event.Concludes session entry result ∧ ContradictsFill entry result

theorem Occurs.fills_kept_iff (occurs : Occurs services session event after)
    (sound : session.Sound) :
    FillsKept session event after ↔ ¬ DeliversContradiction session event := by
  constructor
  · rintro kept ⟨entryId, entry, result, found, concludes, contradicts⟩
    obtain ⟨moved, foundMoved, fill, children⟩ := kept entryId entry found
    obtain ⟨message, error, now, merged⟩ :=
      occurs.entry_concluded sound.indexed sound.distinct found concludes
    obtain rfl := Option.some.inj (merged.symm.trans foundMoved)
    exact (concluded_fill_kept_iff entry result message error now).1
      ⟨fill, children result concludes⟩ contradicts
  · intro undelivered entryId entry found
    by_cases concludes : ∃ result, event.Concludes session entry result
    · obtain ⟨result, concludes⟩ := concludes
      obtain ⟨message, error, now, merged⟩ :=
        occurs.entry_concluded sound.indexed sound.distinct found concludes
      have uncontradicted : ¬ ContradictsFill entry result := by
        intro contradicts
        exact undelivered ⟨entryId, entry, result, found, concludes, contradicts⟩
      obtain ⟨fill, children⟩ :=
        (concluded_fill_kept_iff entry result message error now).2 uncontradicted
      exact ⟨_, merged, fill, fun _ _ => children⟩
    · have stale := not_exists.1 concludes
      obtain ⟨moved, foundMoved, change⟩ :=
        occurs.entry_change sound.indexed sound.distinct found stale
      exact ⟨moved, foundMoved, change.fill_kept, fun result current => absurd current (stale result)⟩

/-! ## Runs -/

/-- Every step of the run up to here kept the fills. -/
def FillsKeptThroughout : List (SessionStep Effect Answer) → OrderSessionModel → Prop
  | [], _ => True
  | (before, event) :: steps, session =>
      FillsKept before event session ∧ FillsKeptThroughout steps before

/-- Fills are kept throughout a run exactly if no step delivers a contradiction. -/
theorem fills_kept_throughout_iff {steps : List (SessionStep Effect Answer)}
    (run : SessionRun services steps session) :
    FillsKeptThroughout steps session ↔
      ∀ step ∈ steps, ¬ DeliversContradiction step.1 step.2 := by
  induction run with
  | start clock =>
      apply iff_of_true trivial
      intro step member
      cases member
  | step run occurs ih =>
      rw [FillsKeptThroughout, occurs.fills_kept_iff run.sound, ih, List.forall_mem_cons]

/-! ## A fill rewritten by a stale report -/

def filledOrder : OrderInfo := { openOrder with status := "FILLED", executedQty := 1 }

/-- The wait reports the fill, and a later query still answers from before it. -/
def staleAnswers : PromptAnswers where
  placed := openOrder
  filled := filledOrder
  queried := cancelledOrder

def filledEntry : Entry :=
  { monitoredEntry with status := .filled, terminalOrder := some filledOrder, revision := 4 }

def filledSession : OrderSessionModel :=
  ({ monitoredSession with tasks := [] } : OrderSessionModel).completeTask
    (.orderWait 1 3 .binance "BTCUSDT" "1") (.ok filledOrder)

def refreshRequest : EntryRefreshRequest := { cancelRequest with revision := 4 }

def staleResult : EntryRefreshResult where
  request := refreshRequest
  basicOrder := some cancelledOrder

def refreshingSession : OrderSessionModel := (filledSession.refreshOrder 1).2

/-- Up to the refresh of the filled entry no step delivers an action's result. -/
theorem refreshing_session_run (answers : PromptAnswers) (placed : answers.placed = openOrder)
    (filled : answers.filled = filledOrder) :
    ∃ steps, SessionRun (promptServices answers) steps refreshingSession ∧
      ∀ step ∈ steps, step.2.results step.1 = [] := by
  have submits : Ends (SessionTask.work (promptServices answers) false
      (.submitBasic 1 sellDraft)) [] (.ok openOrder) := by
    rw [← placed]
    exact .start
  have waits : Ends (SessionTask.work (promptServices answers) false
      (.orderWait 1 3 .binance "BTCUSDT" "1")) [] (.ok filledOrder) := by
    rw [← filled]
    exact .start
  have inFlight : monitoredSession.tasks =
      [] ++ .orderWait 1 3 .binance "BTCUSDT" "1" :: [] := rfl
  have submitted : SessionRun (promptServices answers) _ submittedSession :=
    .step (.start fun _ => 0) (.placeOrder sellDraft)
  have accepted : SessionRun (promptServices answers) _ acceptedSession :=
    submitted.complete [] [] rfl submits
  have monitored : SessionRun (promptServices answers) _ monitoredSession :=
    accepted.continue rfl
  have filled : SessionRun (promptServices answers) _ filledSession :=
    monitored.complete [] [] inFlight waits
  refine ⟨_, filled.step (.refreshOrder 1), ?_⟩
  simp only [List.forall_mem_cons]
  exact ⟨rfl, rfl, rfl, rfl, rfl, List.forall_mem_nil _⟩

theorem stale_refresh_occurs :
    ∃ after moved, Occurs (promptServices staleAnswers) refreshingSession
        (.completeTask (.refresh .binance refreshRequest) [] (.ok staleResult)) after ∧
      after.findEntry 1 = some moved ∧ moved.status = .terminal := by
  have inFlight : refreshingSession.tasks = [] ++ .refresh .binance refreshRequest :: [] := rfl
  have ended : Ends (SessionTask.work (promptServices staleAnswers) false
      (.refresh .binance refreshRequest)) [] (.ok staleResult) := .start
  exact ⟨_, _, .complete [] [] inFlight ended, rfl, rfl⟩

/-- A `FILLED` order becomes `TERMINAL`. -/
theorem fill_rewritten :
    ∃ (steps : List (SessionStep Empty fun _ => Unit)) (after : OrderSessionModel),
      SessionRun (promptServices staleAnswers) steps after ∧ ¬ FillsKeptThroughout steps after := by
  obtain ⟨steps, run, _⟩ := refreshing_session_run staleAnswers rfl rfl
  obtain ⟨after, moved, occurs, found, terminal⟩ := stale_refresh_occurs
  refine ⟨_, after, run.step occurs, ?_⟩
  rintro ⟨kept, _⟩
  obtain ⟨reached, foundReached, fill, _⟩ :=
    kept 1 { filledEntry with action := .refreshing } rfl
  obtain rfl := Option.some.inj (found.symm.trans foundReached)
  have still := fill.status rfl
  rw [terminal] at still
  cases still

/-- The refresh of the filled entry answers from before the fill. -/
def lateAnswers : PromptAnswers where
  placed := openOrder
  filled := filledOrder
  queried := openOrder

def lateResult : EntryRefreshResult where
  request := refreshRequest
  basicOrder := some openOrder

def lateSession : OrderSessionModel :=
  ({ refreshingSession with tasks := [] } : OrderSessionModel).completeTask
    (.refresh .binance refreshRequest) (.ok lateResult)

theorem late_refresh_keeps_fill :
    ((lateSession.findEntry 1).map Entry.status) = some .filled ∧
      ∃ steps : List (SessionStep Empty fun _ => Unit),
        SessionRun (promptServices lateAnswers) steps lateSession ∧
          FillsKeptThroughout steps lateSession := by
  obtain ⟨steps, refreshing, silent⟩ := refreshing_session_run lateAnswers rfl rfl
  have inFlight : refreshingSession.tasks = [] ++ .refresh .binance refreshRequest :: [] := rfl
  have ended : Ends (SessionTask.work (promptServices lateAnswers) false
      (.refresh .binance refreshRequest)) [] (.ok lateResult) := .start
  have late : SessionRun (promptServices lateAnswers) _ lateSession :=
    refreshing.complete [] [] inFlight ended
  refine ⟨rfl, _, late, (fills_kept_throughout_iff late).2 ?_⟩
  rw [List.forall_mem_cons]
  constructor
  · rintro ⟨entryId, entry, result, found, ⟨delivered, addressed, _⟩, contradicts⟩
    obtain rfl : result = lateResult := List.mem_singleton.1 delivered
    obtain rfl : 1 = entryId := addressed.trans (find_entry_id found)
    obtain rfl : { filledEntry with action := .refreshing } = entry := Option.some.inj found
    cases contradicts with
    | order _ _ answered unfilled =>
        cases answered
        cases unfilled.1
    | takeProfit oco | stopLoss oco | children oco => cases oco
  · rintro step member ⟨_, _, _, _, ⟨delivered, _, _⟩, _⟩
    rw [silent step member] at delivered
    cases delivered

end CryptoDeal.OrderSession
