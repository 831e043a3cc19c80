import CryptoDeal.DealService.SingleOrders
import CryptoDeal.OrderSession.FilledEntries

/-!
# Orders declared dead

A basic entry becomes `TERMINAL` by merging an order that is over and not
filled. Every such order comes from an answer of the exchange that states the
status, except the one that a Bybit cancellation returns: its status is written
by the service when the exchange acknowledges the request.
-/

namespace CryptoDeal.OrderSession

open DealService OrderStatusUtil Interaction OrderSessionModel

variable {Other : Type} {OtherAnswer : Other → Type}

/-- The services with the code's own order queries and cancellations. The other calls, and all
that they send, are arbitrary. -/
def exchangeServices (fromChars : String → Option Decimal)
    (stoll : String → Except ServiceFailure ℤ)
    (rest : ExchangerType → DealServiceCalls (OrderEffect Other) (OrderEffect.Answer OtherAnswer)) :
    ExchangerType → DealServiceCalls (OrderEffect Other) (OrderEffect.Answer OtherAnswer)
  | .binance =>
      { rest .binance with
        getOrder := Binance.getOrder fromChars
        cancelOrder := Binance.cancelOrder fromChars }
  | .bybit =>
      { rest .bybit with
        getOrder := Bybit.getOrder fromChars stoll
        cancelOrder := Bybit.cancelOrder }

/-! ## What a task's result rests on -/

/-- The status of a refreshed order was stated for the order that was asked about. -/
def EntryRefreshResult.Stated (exchangerType : ExchangerType) (result : EntryRefreshResult)
    (history : History (OrderEffect Other) (OrderEffect.Answer OtherAnswer)) : Prop :=
  ∀ orderInfo, result.basicOrder = some orderInfo →
    ∃ query, result.request.basicOrder = some query ∧
      StatusStated exchangerType query orderInfo.status history

theorem EntryRefreshResult.Stated.grows {exchangerType : ExchangerType}
    {result : EntryRefreshResult}
    {earlier later : History (OrderEffect Other) (OrderEffect.Answer OtherAnswer)}
    (stated : result.Stated exchangerType earlier) (grown : earlier <:+ later) :
    result.Stated exchangerType later := by
  intro orderInfo answered
  obtain ⟨query, asked, states⟩ := stated orderInfo answered
  exact ⟨query, asked, states.grows grown⟩

section Work

variable {fromChars : String → Option Decimal} {stoll : String → Except ServiceFailure ℤ}
  {rest : ExchangerType → DealServiceCalls (OrderEffect Other) (OrderEffect.Answer OtherAnswer)}
  {exchangerType : ExchangerType} {request : EntryRefreshRequest}
  {history : History (OrderEffect Other) (OrderEffect.Answer OtherAnswer)}

theorem get_order_stated (query : OrderQuery) :
    Returns (fun later orderInfo => StatusStated exchangerType query orderInfo.status later)
      ((exchangeServices fromChars stoll rest exchangerType).getOrder query) history := by
  cases exchangerType with
  | binance => exact Binance.get_order_stated
  | bybit => exact Bybit.get_order_stated

theorem query_order_stated (query : OrderQuery) :
    Returns
      (fun later answered => ∀ orderInfo, answered.1 = some orderInfo →
        StatusStated exchangerType query orderInfo.status later)
      (queryOrder (exchangeServices fromChars stoll rest exchangerType) query) history := by
  apply (get_order_stated query).attempt.bind
  intro later outcome stated
  cases outcome with
  | ok orderInfo =>
      apply returns_returned
      rintro answered ⟨⟩
      exact stated orderInfo rfl
  | error failure =>
      apply returns_returned
      intro answered absent
      cases absent

theorem get_entry_refresh_result_stated (request : EntryRefreshRequest) :
    Returns (fun later result => result.Stated exchangerType later)
      (getEntryRefreshResult (exchangeServices fromChars stoll rest exchangerType) request)
      history := by
  unfold getEntryRefreshResult
  split
  next query asked =>
      apply (query_order_stated query).bind
      rintro later ⟨basicOrder, basicError⟩ stated
      apply returns_returned
      intro orderInfo answered
      exact ⟨query, asked, stated orderInfo answered⟩
  next =>
      apply (returns_growing _ history).bind
      intro later takeProfit _
      apply (returns_growing _ later).bind
      intro last stopLoss _
      apply returns_returned
      intro orderInfo absent
      cases absent

theorem get_entry_refresh_results_stated (requests : List EntryRefreshRequest) :
    Returns (fun later results => ∀ result ∈ results, result.Stated exchangerType later)
      (getEntryRefreshResults (exchangeServices fromChars stoll rest exchangerType) requests)
      history := by
  induction requests generalizing history with
  | nil =>
      apply returns_returned
      intro result member
      cases member
  | cons request requests ih =>
      apply (get_entry_refresh_result_stated request).bind
      intro later result stated
      apply (ih.and (returns_growing _ later)).bind
      rintro last results ⟨states, grown⟩
      apply returns_returned
      rw [List.forall_mem_cons]
      exact ⟨stated.grows grown, states⟩

theorem cancel_pair_orders_stated (symbol : String) (requests : List EntryRefreshRequest) :
    Returns (fun later results => ∀ result ∈ results, result.Stated exchangerType later)
      (cancelPairOrders (exchangeServices fromChars stoll rest exchangerType) symbol requests)
      history := by
  apply (returns_growing _ history).bind
  intro later _ _
  exact get_entry_refresh_results_stated requests

theorem cancel_oco_orders_stated (request : EntryRefreshRequest) (ocoInfo : OcoInfo) :
    Returns (fun later result => result.Stated exchangerType later)
      (cancelOcoOrders (exchangeServices fromChars stoll rest exchangerType) request ocoInfo)
      history := by
  apply (returns_growing _ history).bind
  intro later _ _
  exact get_entry_refresh_result_stated request

theorem cancel_binance_order_stated (request : EntryRefreshRequest) :
    Returns (fun later result => result.Stated .binance later)
      (cancelBasicOrder (exchangeServices fromChars stoll rest .binance) request) history := by
  cases asked : request.basicOrder with
  | none =>
      rw [cancel_basic_order_unasked asked]
      exact returns_threw _
  | some query =>
      rw [cancel_basic_order_asked asked]
      apply Binance.cancel_order_stated.bind
      intro later orderInfo stated
      apply returns_returned
      rintro answered ⟨⟩
      exact ⟨query, asked, stated⟩

theorem cancel_bybit_order_cancelled (request : EntryRefreshRequest) :
    Returns
      (fun _ result => ∃ orderInfo, result.basicOrder = some orderInfo ∧
        orderInfo.status = "Cancelled")
      (cancelBasicOrder (exchangeServices fromChars stoll rest .bybit) request) history := by
  cases asked : request.basicOrder with
  | none =>
      rw [cancel_basic_order_unasked asked]
      exact returns_threw _
  | some query =>
      rw [cancel_basic_order_asked asked]
      apply Bybit.cancel_order_status.bind
      intro later orderInfo cancelled
      exact returns_returned ⟨orderInfo, rfl, cancelled⟩

/-- Every refreshed order has its status from the exchange, but for a Bybit cancellation's. -/
theorem SessionTask.work_stated {task : SessionTask} {stopRequested : Bool}
    {result : task.Result} (acknowledges : ∀ request, task ≠ .cancelBasic .bybit request)
    (ended : Ends (task.work (exchangeServices fromChars stoll rest) stopRequested) history
      (.ok result)) :
    ∀ refreshed ∈ task.refreshResults result, refreshed.Stated task.exchangerType history := by
  cases task with
  | refresh exchangerType request =>
      intro refreshed member
      rw [List.mem_singleton.1 member]
      exact ended.returned (get_entry_refresh_result_stated request)
  | cancelBasic exchangerType request =>
      intro refreshed member
      rw [List.mem_singleton.1 member]
      cases exchangerType with
      | binance => exact ended.returned (cancel_binance_order_stated request)
      | bybit => exact absurd rfl (acknowledges request)
  | cancelOco exchangerType request ocoInfo =>
      intro refreshed member
      rw [List.mem_singleton.1 member]
      exact ended.returned (cancel_oco_orders_stated request ocoInfo)
  | cancelAll contextId exchangerType symbol requests =>
      exact ended.returned (cancel_pair_orders_stated symbol requests)
  | submitBasic entryId draft =>
      intro refreshed member
      cases member
  | submitOco entryId draft =>
      intro refreshed member
      cases member
  | orderWait entryId waitRevision exchangerType symbol orderId =>
      intro refreshed member
      cases member
  | ocoWait entryId waitRevision exchangerType ocoInfo =>
      intro refreshed member
      cases member

end Work

/-! ## Reports -/

/-- Over, and not by a fill. -/
def IsDead (exchangerType : ExchangerType) (status : String) : Prop :=
  isOrderTerminal exchangerType status ∧ ¬ isOrderFilled exchangerType status

/-- The event completes a task for the entry in which the exchange stated that its order is dead. -/
def AnsweredDead (entryId : EntryId) :
    SessionEvent (OrderEffect Other) (OrderEffect.Answer OtherAnswer) → Prop
  | .completeTask task history _ =>
      ∃ request ∈ task.requests, request.entryId = entryId ∧
        ∃ query, request.basicOrder = some query ∧
          ∃ status, IsDead task.exchangerType status ∧
            StatusStated task.exchangerType query status history
  | _ => False

/-- The steps of a run. -/
abbrev ExchangeSteps (Other : Type) (OtherAnswer : Other → Type) :=
  List (SessionStep (OrderEffect Other) (OrderEffect.Answer OtherAnswer))

section Reports

-- that a stream update or the answer to another request has stated an order's death by then
variable (heard : ExchangeSteps Other OtherAnswer → EntryId → Prop)

/-- Some report up to here stated that the entry's order is dead. -/
def ReportedDead (entryId : EntryId) : ExchangeSteps Other OtherAnswer → Prop
  | [] => False
  | (before, event) :: steps =>
      heard ((before, event) :: steps) entryId ∨ AnsweredDead entryId event ∨
        ReportedDead entryId steps

/-- The `TERMINAL` basic entries are those of orders reported dead. -/
def DeadAsReported (steps : ExchangeSteps Other OtherAnswer) (session : OrderSessionModel) : Prop :=
  ∀ entryId entry, session.findEntry entryId = some entry → entry.type = .basicOrder →
    entry.status = .terminal → ReportedDead heard entryId steps

def DeadAsReportedThroughout : ExchangeSteps Other OtherAnswer → OrderSessionModel → Prop
  | [], session => DeadAsReported heard [] session
  | (before, event) :: steps, session =>
      DeadAsReported heard ((before, event) :: steps) session ∧
        DeadAsReportedThroughout steps before

/-- The latest step hands the entry of an order that nothing reported dead the acknowledgement of
its Bybit cancellation. -/
inductive BareAcknowledgement : ExchangeSteps Other OtherAnswer → Prop where
  | acknowledged {steps : ExchangeSteps Other OtherAnswer} {before : OrderSessionModel}
      {request : EntryRefreshRequest} {result : EntryRefreshResult} {entry : Entry}
      {event : SessionEvent (OrderEffect Other) (OrderEffect.Answer OtherAnswer)}
      {history : History (OrderEffect Other) (OrderEffect.Answer OtherAnswer)}
      (cancelled : event = .completeTask (.cancelBasic .bybit request) history (.ok result))
      (found : before.findEntry entry.id = some entry)
      (concludes : event.Concludes before entry result)
      (unreported : ¬ ReportedDead heard entry.id ((before, event) :: steps)) :
      BareAcknowledgement ((before, event) :: steps)

def NeverBare : ExchangeSteps Other OtherAnswer → Prop
  | [] => True
  | step :: steps => ¬ BareAcknowledgement heard (step :: steps) ∧ NeverBare steps

end Reports

/-! ## Steps -/

section Steps

variable {event : SessionEvent (OrderEffect Other) (OrderEffect.Answer OtherAnswer)}
  {services : ExchangerType →
    DealServiceCalls (OrderEffect Other) (OrderEffect.Answer OtherAnswer)}
  {session after : OrderSessionModel} {entry before moved : Entry} {result : EntryRefreshResult}

/-- No move but a merge ends in `TERMINAL`. -/
theorem EntryChange.terminal (change : EntryChange event before moved)
    (terminal : moved.status = .terminal) : before.status = .terminal := by
  cases change with
  | unchanged => exact terminal
  | actionTouched action message error now touches => exact terminal
  | submissionFailed failure now submitting => cases terminal
  | basicAccepted orderInfo now submitting basic => cases terminal
  | ocoAccepted ocoInfo now submitting oco => cases terminal
  | filledAtAcceptance now queued accepted filled => cases terminal
  | monitoringRefused failure now queued continues => cases terminal
  | waitStarted now queued continues => cases terminal
  | waitRefused failure publication now later queued continues =>
      cases publication <;> cases terminal
  | waitFailed now completed waited current =>
      cases publication : waitFailurePublication before <;> rw [publication] at terminal <;>
        cases terminal
  | orderWaitFinished orderInfo now completed current => cases terminal
  | ocoWaitFinished updated now completed current identified => cases terminal
  | ocoWaitUnidentified failure now completed current unidentified => cases terminal

theorem apply_basic_order_refresh_terminal {orderInfo : OrderInfo}
    (terminal : (entry.applyBasicOrderRefresh orderInfo).1.status = .terminal) :
    entry.status = .terminal ∨ IsDead entry.exchangerType orderInfo.status := by
  unfold Entry.applyBasicOrderRefresh at terminal
  split_ifs at terminal with stale
  · exact .inl terminal
  · unfold IsDead isOrderTerminal isOrderFilled
    cases state : classifyOrderStatus entry.exchangerType orderInfo.status with
    | filled => simp [state] at terminal
    | cancelled => simp
    | otherTerminal => simp
    | unavailable =>
        left
        simpa [state] using terminal
    | active =>
        left
        simpa [state] using terminal

theorem apply_basic_order_refresh_dead {orderInfo : OrderInfo}
    (dead : IsDead entry.exchangerType orderInfo.status) :
    (entry.applyBasicOrderRefresh orderInfo).1.status = .terminal := by
  unfold Entry.applyBasicOrderRefresh
  rw [if_neg (fun stale => stale.2 dead.1)]
  unfold IsDead isOrderTerminal isOrderFilled at dead
  cases state : classifyOrderStatus entry.exchangerType orderInfo.status with
  | filled => simp [state] at dead
  | cancelled => rfl
  | otherTerminal => rfl
  | unavailable => simp [state] at dead
  | active => simp [state] at dead

theorem dead_of_cancelled {status : String} (cancelled : status = "Cancelled") :
    IsDead .bybit status := by
  subst cancelled
  exact ⟨rfl, nofun⟩

end Steps

section Steps

variable {fromChars : String → Option Decimal} {stoll : String → Except ServiceFailure ℤ}
  {rest : ExchangerType → DealServiceCalls (OrderEffect Other) (OrderEffect.Answer OtherAnswer)}
  {heard : ExchangeSteps Other OtherAnswer → EntryId → Prop}
  {steps : ExchangeSteps Other OtherAnswer} {session after : OrderSessionModel} {entry : Entry}
  {event : SessionEvent (OrderEffect Other) (OrderEffect.Answer OtherAnswer)}
  {result : EntryRefreshResult} {orderInfo : OrderInfo}

/-- A current result comes from a task of the entry's own exchange. -/
theorem Occurs.concluding_task
    (occurs : Occurs (exchangeServices fromChars stoll rest) session event after)
    (informed : session.Informed) (found : session.findEntry entry.id = some entry)
    (concludes : event.Concludes session entry result) :
    ∃ (task : SessionTask) (history : History _ _) (returned : task.Result) (stopRequested : Bool),
      event = .completeTask task history (.ok returned) ∧
        result ∈ task.refreshResults returned ∧ result.request ∈ task.requests ∧
        task.exchangerType = entry.exchangerType ∧
        Ends (task.work (exchangeServices fromChars stoll rest) stopRequested) history
          (.ok returned) := by
  obtain ⟨delivered, addressed, _⟩ := concludes
  obtain ⟨task, history, outcome, rfl, running, inFlight, member⟩ :=
    occurs.delivered_request delivered
  obtain ⟨known, foundKnown, knows⟩ :=
    informed task inFlight entry.id (.inr ⟨_, member, addressed⟩)
  obtain rfl := Option.some.inj (found.symm.trans foundKnown)
  obtain ⟨stopRequested, ended⟩ := occurs.ended
  cases outcome with
  | error failure => cases delivered
  | ok returned =>
      rw [SessionEvent.results, running] at delivered
      exact ⟨task, history, returned, stopRequested, rfl, delivered, member, knows.fits.1, ended⟩

/-- A merged order that is dead was stated dead, or is an acknowledged Bybit cancellation. -/
theorem Occurs.dead_order
    (occurs : Occurs (exchangeServices fromChars stoll rest) session event after)
    (informed : session.Informed) (found : session.findEntry entry.id = some entry)
    (concludes : event.Concludes session entry result) (answered : result.basicOrder = some orderInfo)
    (dead : IsDead entry.exchangerType orderInfo.status)
    (reported : ¬ BareAcknowledgement heard ((session, event) :: steps)) :
    ReportedDead heard entry.id ((session, event) :: steps) := by
  obtain ⟨task, history, returned, stopRequested, rfl, delivered, member, exchange, ended⟩ :=
    occurs.concluding_task informed found concludes
  by_cases acknowledges : ∃ request, task = .cancelBasic .bybit request
  · obtain ⟨request, rfl⟩ := acknowledges
    obtain rfl := List.mem_singleton.1 delivered
    by_contra unreported
    exact reported (.acknowledged rfl found concludes unreported)
  · have stated := SessionTask.work_stated (not_exists.1 acknowledges) ended result delivered
    obtain ⟨query, asked, states⟩ := stated orderInfo answered
    rw [← exchange] at dead
    exact .inr (.inl ⟨result.request, member, concludes.addressed, query, asked, _, dead, states⟩)

theorem Occurs.dead_as_reported
    (occurs : Occurs (exchangeServices fromChars stoll rest) session event after)
    (sound : session.Sound) (informed : session.Informed)
    (kept : DeadAsReported heard steps session)
    (reported : ¬ BareAcknowledgement heard ((session, event) :: steps)) :
    DeadAsReported heard ((session, event) :: steps) after := by
  intro entryId moved found basic terminal
  cases occurs.entry_origin sound found with
  | fresh unknown fresh =>
      rcases fresh.status with submitting | failed
      · cases terminal.symm.trans submitting
      · cases terminal.symm.trans failed
  | @changed before known stale change =>
      rw [change.succeeds.type] at basic
      exact .inr (.inr (kept entryId before known basic (change.terminal terminal)))
  | @concluded before result known concludes message error now merged =>
      obtain rfl := find_entry_id known
      subst merged
      rw [(concluded_succeeds before result message error now).type] at basic
      rw [(concluded_same_order before result message error now).1] at terminal
      cases answered : result.basicOrder with
      | none =>
          rw [apply_unanswered basic answered] at terminal
          exact .inr (.inr (kept _ before known basic terminal))
      | some orderInfo =>
          rw [apply_to_basic basic answered] at terminal
          rcases apply_basic_order_refresh_terminal terminal with already | dead
          · exact .inr (.inr (kept _ before known basic already))
          · exact occurs.dead_order informed known concludes answered dead reported

theorem Occurs.bare_acknowledgement
    (occurs : Occurs (exchangeServices fromChars stoll rest) session event after)
    (sound : session.Sound) (informed : session.Informed)
    (bare : BareAcknowledgement heard ((session, event) :: steps)) :
    ¬ DeadAsReported heard ((session, event) :: steps) after := by
  intro kept
  cases bare with
  | @acknowledged _ _ request result entry _ history cancelled found concludes unreported =>
      subst cancelled
      obtain ⟨_, ended⟩ := occurs.ended
      obtain ⟨orderInfo, answered, status⟩ :=
        ended.returned (cancel_bybit_order_cancelled request)
      obtain ⟨_, _, _, _, same, _, _, exchange, _⟩ :=
        occurs.concluding_task informed found concludes
      cases same
      have basic := (occurs.knows informed concludes found (by rw [answered]; rfl)).1
      have dead : IsDead entry.exchangerType orderInfo.status := by
        rw [← exchange]
        exact dead_of_cancelled status
      obtain ⟨message, error, now, merged⟩ :=
        occurs.entry_concluded sound.indexed sound.distinct found concludes
      apply unreported
      apply kept entry.id _ merged
      · rw [(concluded_succeeds entry result message error now).type]
        exact basic
      · rw [(concluded_same_order entry result message error now).1, apply_to_basic basic answered]
        exact apply_basic_order_refresh_dead dead

end Steps

/-! ## Runs -/

theorem DeadAsReportedThroughout.latest {heard : ExchangeSteps Other OtherAnswer → EntryId → Prop}
    {steps : ExchangeSteps Other OtherAnswer} {session : OrderSessionModel}
    (kept : DeadAsReportedThroughout heard steps session) : DeadAsReported heard steps session := by
  cases steps with
  | nil => exact kept
  | cons step steps => exact kept.1

/-- Basic entries are declared dead as reported throughout a run exactly if the run never takes an
acknowledged Bybit cancellation for a report. -/
theorem dead_as_reported_throughout_iff {fromChars : String → Option Decimal}
    {stoll : String → Except ServiceFailure ℤ}
    {rest : ExchangerType → DealServiceCalls (OrderEffect Other) (OrderEffect.Answer OtherAnswer)}
    (heard : ExchangeSteps Other OtherAnswer → EntryId → Prop)
    {steps : ExchangeSteps Other OtherAnswer} {session : OrderSessionModel}
    (run : SessionRun (exchangeServices fromChars stoll rest) steps session) :
    DeadAsReportedThroughout heard steps session ↔ NeverBare heard steps := by
  induction run with
  | start clock =>
      apply iff_of_true _ trivial
      intro entryId entry found
      cases found
  | step run occurs ih =>
      rw [DeadAsReportedThroughout, NeverBare]
      constructor
      · rintro ⟨kept, throughout⟩
        refine ⟨?_, ih.1 throughout⟩
        intro bare
        exact occurs.bare_acknowledgement run.sound run.informed bare kept
      · rintro ⟨reported, never⟩
        have throughout := ih.2 never
        refine ⟨?_, throughout⟩
        exact occurs.dead_as_reported run.sound run.informed throughout.latest reported

/-! ## An order filled after its cancellation was acknowledged -/

/-- Services whose other calls answer at once. -/
def readyServices (placed filled : OrderInfo) (_ : ExchangerType) :
    DealServiceCalls (OrderEffect Empty) (OrderEffect.Answer fun _ => Unit) where
  buyCrypto _ _ _ := .returned placed
  sellCrypto _ _ _ := .returned placed
  placeOrder _ := .returned placed
  placeOco _ := .returned {}
  getOrder _ := .returned {}
  cancelOrder _ := .returned {}
  cancelOco _ := .returned ()
  cancelAllOpenOrders _ _ := .returned ()
  waitUntilOrderFilled _ _ := .returned filled
  waitUntilOcoOrderFilled _ := .returned { filledOrder := {}, siblingTerminalOrder := {} }

def bybitOrder : OrderInfo := { openOrder with status := "New" }

def bybitFill : OrderInfo := { openOrder with status := "Filled", executedQty := 1 }

abbrev bybitServices :
    ExchangerType → DealServiceCalls (OrderEffect Empty) (OrderEffect.Answer fun _ => Unit) :=
  exchangeServices (fun _ => none) (fun _ => .ok 0) (readyServices bybitOrder bybitFill)

def bybitDraft : BasicOrderDraft := { sellDraft with exchangerType := .bybit }

def bybitSubmitted : OrderSessionModel := (placeOrder { clock := fun _ => 0 } bybitDraft).2

def bybitAccepted : OrderSessionModel :=
  ({ bybitSubmitted with tasks := [] } : OrderSessionModel).completeTask (.submitBasic 1 bybitDraft)
    (.ok bybitOrder)

def bybitMonitored : OrderSessionModel :=
  ({ bybitAccepted with queuedCalls := [] } : OrderSessionModel).runQueuedCall
    (.continueAfterBasicAcceptance 1)

def bybitCancelling : OrderSessionModel := (bybitMonitored.cancelOrder 1).2

def bybitRequest : EntryRefreshRequest := { cancelRequest with revision := 3 }

/-- What the service makes of an acknowledgement without ids. -/
def acknowledgedOrder : OrderInfo where
  symbol := "BTCUSDT"
  orderId := "1"
  status := "Cancelled"
  category := "spot"

def acknowledgedResult : EntryRefreshResult where
  request := bybitRequest
  basicOrder := some acknowledgedOrder

def bybitCancelled : OrderSessionModel :=
  ({ bybitCancelling with tasks := [.orderWait 1 3 .bybit "BTCUSDT" "1"] } :
    OrderSessionModel).completeTask (.cancelBasic .bybit bybitRequest) (.ok acknowledgedResult)

def deadEntry : Entry where
  id := 1
  draft := .basic bybitDraft
  status := .terminal
  acceptedOrder := some acknowledgedOrder
  terminalOrder := some acknowledgedOrder
  actionMessage := "Order cancellation confirmed"
  createdAtMs := 0
  updatedAtMs := 0
  revision := 4

def acknowledgement : History (OrderEffect Empty) (OrderEffect.Answer fun _ => Unit) :=
  [⟨.cancelBybitOrder { symbol := "BTCUSDT", orderId := some "1" }, .ok (some {})⟩,
    ⟨.getServerTimestamp, .ok 0⟩]

theorem acknowledged_cancellation_ends :
    Ends (SessionTask.work bybitServices false (.cancelBasic .bybit bybitRequest)) acknowledgement
      (.ok acknowledgedResult) := by
  have asks : Reaches (SessionTask.work bybitServices false (.cancelBasic .bybit bybitRequest)) []
      (.request .getServerTimestamp _) := .start
  have timed := asks.answer (.ok 0)
  exact timed.answer (.ok (some {}))

theorem bybit_monitored_run :
    ∃ steps, SessionRun bybitServices steps bybitMonitored ∧
      ¬ ReportedDead (fun _ _ => False) 1 steps ∧ ∀ heard, NeverBare heard steps := by
  have placed : Ends (SessionTask.work bybitServices false (.submitBasic 1 bybitDraft)) []
      (.ok bybitOrder) := .start
  have submitted : SessionRun bybitServices _ bybitSubmitted :=
    .step (.start fun _ => 0) (.placeOrder bybitDraft)
  have accepted : SessionRun bybitServices _ bybitAccepted := submitted.complete [] [] rfl placed
  refine ⟨_, accepted.continue rfl, ?_, fun heard => ⟨?_, ?_, ?_, trivial⟩⟩
  · rintro (⟨⟨⟩⟩ | ⟨⟨⟩⟩ | ⟨⟨⟩⟩ | ⟨request, member, _⟩ | ⟨⟨⟩⟩ | ⟨⟨⟩⟩ | ⟨⟨⟩⟩)
    cases member
  · rintro ⟨⟨⟩⟩
  · rintro ⟨⟨⟩⟩
  · rintro ⟨⟨⟩⟩

theorem bybit_cancelled_run {steps : ExchangeSteps Empty fun _ => Unit}
    (monitored : SessionRun bybitServices steps bybitMonitored) :
    SessionRun bybitServices
      ((bybitCancelling, .completeTask (.cancelBasic .bybit bybitRequest) acknowledgement
        (.ok acknowledgedResult)) :: (bybitMonitored, .cancelOrder 1) :: steps) bybitCancelled := by
  have cancelling : SessionRun bybitServices _ bybitCancelling := monitored.step (.cancelOrder 1)
  exact cancelling.complete [.orderWait 1 3 .bybit "BTCUSDT" "1"] [] rfl
    acknowledged_cancellation_ends

/-- The order is declared dead with nothing executed, and its fill is dropped. -/
theorem fill_after_acknowledgement_dropped :
    ∃ (steps : ExchangeSteps Empty fun _ => Unit) (after : OrderSessionModel),
      SessionRun bybitServices steps bybitCancelled ∧
        ¬ DeadAsReportedThroughout (fun _ _ => False) steps bybitCancelled ∧
        bybitCancelled.findEntry 1 = some deadEntry ∧
        Occurs bybitServices bybitCancelled
          (.completeTask (.orderWait 1 3 .bybit "BTCUSDT" "1") [] (.ok bybitFill)) after ∧
        after.findEntry 1 = some deadEntry := by
  obtain ⟨steps, monitored, unreported, _⟩ := bybit_monitored_run
  have cancelled := bybit_cancelled_run monitored
  have waits : bybitCancelled.tasks = [] ++ .orderWait 1 3 .bybit "BTCUSDT" "1" :: [] := rfl
  have filled : Ends (SessionTask.work bybitServices false (.orderWait 1 3 .bybit "BTCUSDT" "1")) []
      (.ok bybitFill) := .start
  refine ⟨_, _, cancelled, ?_, rfl, .complete [] [] waits filled, rfl⟩
  rintro ⟨kept, _⟩
  have reported := kept 1 deadEntry rfl rfl rfl
  rcases reported with ⟨⟨⟩⟩ | ⟨request, _, _, query, _, status, _, answer, member, states⟩ | reported
  · rcases List.mem_cons.1 member with rfl | member
    · cases states
    · obtain rfl := List.mem_singleton.1 member
      cases states
  · rcases reported with ⟨⟨⟩⟩ | ⟨⟨⟩⟩ | reported
    exact unreported reported

/-- The stream states each cancellation before the request for it is answered. -/
def heardFirst : ExchangeSteps Empty (fun _ => Unit) → EntryId → Prop
  | (_, .cancelOrder cancelled) :: _, entryId => cancelled = entryId
  | _, _ => False

theorem heard_cancellation_declared_dead :
    bybitCancelled.findEntry 1 = some deadEntry ∧ deadEntry.status = .terminal ∧
      ∃ steps, SessionRun bybitServices steps bybitCancelled ∧
        DeadAsReportedThroughout heardFirst steps bybitCancelled := by
  obtain ⟨steps, monitored, _, never⟩ := bybit_monitored_run
  have cancelled := bybit_cancelled_run monitored
  refine ⟨rfl, rfl, _, cancelled, (dead_as_reported_throughout_iff heardFirst cancelled).2 ?_⟩
  refine ⟨?_, ?_, never heardFirst⟩
  · rintro ⟨completed, found, concludes, unreported⟩
    cases completed
    exact unreported (.inr (.inr (.inl concludes.addressed)))
  · rintro ⟨⟨⟩⟩

end CryptoDeal.OrderSession
