import CryptoDeal.DealService.WaitSystem
import CryptoDeal.Library.ConditionVariable

/-!
# Waking the order waits

`orderUpdateCondition` with its waiters and its notifying calls. An update of the
map is made under `pendingOrderWaitsMutex`, which the waiters hold between their
test and their block; a change of the stream status is not, and its notification
can come too early.
-/

namespace CryptoDeal.DealService

open ConditionVariable

/-- What the predicates of the waits read. -/
structure WakeState where
  pendingOrderWaits : PendingOrderWaits
  streamStatus : StreamStatus
  streamLastError : String := ""

/-- The predicates: those of the order waits, and that of `ensureUserStreamConnected`. -/
inductive WaitNeed where
  | order (orderKey : OrderKey)
  | oco (need : OcoNeed) (takeProfitKey stopLossKey : OrderKey)
  | connected

inductive WakeChange where
  | publishOrderUpdate (orderInfo : OrderInfo)
  | publishOrderWaitError (orderInfo : OrderInfo) (error : String)
  | setStreamStatus (status : StreamStatus)
  | setStreamError (error : String)

section Service

variable (exchange : ExchangerType)

/-- `none` where `getPendingOrderWait` throws. -/
def testNeed (state : WakeState) : WaitNeed → Option Bool
  | .order orderKey => do
      let pendingWait ← state.pendingOrderWaits orderKey
      return orderWaitCompleted exchange state.streamStatus pendingWait
  | .oco need takeProfitKey stopLossKey => do
      let takeProfitWait ← state.pendingOrderWaits takeProfitKey
      let stopLossWait ← state.pendingOrderWaits stopLossKey
      return ocoWaitCompleted exchange need state.streamStatus takeProfitWait stopLossWait
  | .connected =>
      some (state.streamStatus == .connected || state.streamStatus == .error ||
        state.streamStatus == .stopped)

def updateNotifies (orderInfo : OrderInfo) (pendingOrderWaits : PendingOrderWaits) : Bool :=
  orderInfo.symbol != "" && orderInfo.orderId != "" &&
    (pendingOrderWaits orderInfo.key).any fun pendingOrder =>
      !keepsCurrentInfo exchange pendingOrder.orderInfo orderInfo

def errorNotifies (orderInfo : OrderInfo) (pendingOrderWaits : PendingOrderWaits) : Bool :=
  orderInfo.symbol != "" && orderInfo.orderId != "" && (pendingOrderWaits orderInfo.key).isSome

def makeChange : WakeChange → WakeState → Option WakeState
  | .publishOrderUpdate orderInfo, state =>
      if updateNotifies exchange orderInfo state.pendingOrderWaits then
        some { state with
          pendingOrderWaits := publishOrderUpdate exchange orderInfo state.pendingOrderWaits }
      else none
  | .publishOrderWaitError orderInfo error, state =>
      if errorNotifies orderInfo state.pendingOrderWaits then
        some { state with
          pendingOrderWaits := publishOrderWaitError orderInfo error state.pendingOrderWaits }
      else none
  | .setStreamStatus status, state =>
      some { state with
        streamStatus := status
        streamLastError := if status = .connecting then "" else state.streamLastError }
  | .setStreamError error, state =>
      some { state with streamStatus := .error, streamLastError := error }

/-- Made under `pendingOrderWaitsMutex`. -/
def WakeChange.holdsMutex : WakeChange → Bool
  | .publishOrderUpdate _ | .publishOrderWaitError _ _ => true
  | .setStreamStatus _ | .setStreamError _ => false

def orderWakeUps : WaitProtocol WakeState WaitNeed WakeChange where
  test := testNeed exchange
  change := makeChange exchange
  holdsMutex := WakeChange.holdsMutex

end Service

/-- A publication without a notification leaves the map as it is. -/
theorem silent_update_unchanged {exchange : ExchangerType} {orderInfo : OrderInfo}
    {waits : PendingOrderWaits} (silent : updateNotifies exchange orderInfo waits = false) :
    publishOrderUpdate exchange orderInfo waits = waits := by
  unfold publishOrderUpdate
  split_ifs with absent
  · rfl
  · cases found : waits orderInfo.key with
    | none => rfl
    | some pendingOrder =>
        simp only
        split_ifs with keeps
        · rfl
        · rw [not_or] at absent
          simp [updateNotifies, absent, found, keeps] at silent

theorem silent_error_unchanged {orderInfo : OrderInfo} {error : String}
    {waits : PendingOrderWaits} (silent : errorNotifies orderInfo waits = false) :
    publishOrderWaitError orderInfo error waits = waits := by
  unfold publishOrderWaitError
  split_ifs with absent
  · rfl
  · cases found : waits orderInfo.key with
    | none => rfl
    | some pendingOrder =>
        rw [not_or] at absent
        simp [errorNotifies, absent, found] at silent

def quietService (shared : WakeState) : State WakeState WaitNeed where
  shared := shared

theorem quiet_service_told {exchange : ExchangerType} {shared : WakeState} :
    (quietService shared).Told (orderWakeUps exchange) := by
  rintro waiter ⟨need, waits, _⟩
  rcases waits with same | same <;> cases same

theorem quiet_service_guarded {exchange : ExchangerType} {shared : WakeState} :
    (quietService shared).Guarded (orderWakeUps exchange) where
  owner := fun _ => nofun
  fresh := fun _ _ => nofun

/-- A wake-up is lost only where a notification comes between a waiter's test and its block; no
update of the map does that. -/
theorem wake_ups_in_time {exchange : ExchangerType} {shared : WakeState} :
    (∀ state, Run (orderWakeUps exchange) (State.InTime (orderWakeUps exchange))
        (quietService shared) state → ¬ state.LostWakeUp (orderWakeUps exchange)) ∧
      (∀ state call after, Run (orderWakeUps exchange) (fun _ _ => True) (quietService shared) state →
        ¬ state.InTime (orderWakeUps exchange) (.notify call) →
        state.step (orderWakeUps exchange) (.notify call) = some after →
        ∃ lost, Run (orderWakeUps exchange) (fun _ _ => True) (quietService shared) lost ∧
          lost.LostWakeUp (orderWakeUps exchange)) ∧
      ∀ state, Run (orderWakeUps exchange)
        (fun _ event => event.HoldsMutex (orderWakeUps exchange)) (quietService shared) state →
        ¬ state.LostWakeUp (orderWakeUps exchange) := by
  refine ⟨?_, ?_, ?_⟩
  · intro state run
    exact (run.told quiet_service_told).not_lost
  · intro state call after run late stepped
    obtain ⟨waiter, lost, blocks, isLost⟩ := late_notification_lost late stepped
    exact ⟨lost, (run.step trivial stepped).step trivial blocks, isLost⟩
  · intro state run
    exact ((run.in_time quiet_service_guarded).1.told quiet_service_told).not_lost

/-! ## A lost wake-up -/

/-- An order wait tests, the stream fails and notifies, and the wait blocks. -/
def missedFailure : List (Event WaitNeed WakeChange) := [
  .lock 0 (.order ("BTCUSDT", "1")),
  .test 0,
  .change 0 (.setStreamError "closed"),
  .notify 0,
  .block 0]

def connectedService : State WakeState WaitNeed :=
  quietService {
    pendingOrderWaits := registerPendingOrder ("BTCUSDT", "1") noPendingOrderWaits
    streamStatus := .connected }

theorem missed_failure_lost (exchange : ExchangerType) :
    ∃ state, Run (orderWakeUps exchange) (fun _ _ => True) connectedService state ∧
      state.LostWakeUp (orderWakeUps exchange) := by
  have ran : ∃ state,
      connectedService.runScript (orderWakeUps exchange) missedFailure = some state ∧
      state.waiters 0 = .blocked (.order ("BTCUSDT", "1")) ∧
      testNeed exchange state.shared (.order ("BTCUSDT", "1")) = some true ∧
      state.notifying = Function.update (Function.update (fun _ => false) 0 true) 0 false := by
    cases exchange <;> exact ⟨_, rfl, rfl, rfl, rfl⟩
  obtain ⟨state, ran, blocked, succeeds, notifying⟩ := ran
  refine ⟨state, Run.start.script ran, ⟨0, _, blocked, succeeds⟩, ?_⟩
  intro call
  rw [notifying, Function.update_idem, Function.update_eq_self]

theorem stream_failure_unnoticed :
    (∃ state, Run (orderWakeUps .bybit) (fun _ _ => True) connectedService state ∧
      state.LostWakeUp (orderWakeUps .bybit)) ∧
    ∃ state, Run (orderWakeUps .binance) (fun _ _ => True) connectedService state ∧
      state.LostWakeUp (orderWakeUps .binance) :=
  ⟨missed_failure_lost .bybit, missed_failure_lost .binance⟩

end CryptoDeal.DealService
