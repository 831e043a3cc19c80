import CryptoDeal.DealService.OcoWait
import CryptoDeal.Library.Threads

/-!
# Registrations of waiting calls

Any number of calls wait for orders, cancel them with confirmation and publish
what the stream says, all on one map of pending waits. Each call holds its
registrations from before its first look-up to its end, however it ends, so the
map's entries count exactly the registrations that are alive.
-/

namespace CryptoDeal.DealService

open Interaction WaitProgram

/-- What the answers are does not matter here. -/
def registrationContract : Contract WaitEffect WaitEffect.Answer where
  requires := waitRequires fun _ => True
  ensures := fun _ _ _ => True

/-- A part of a call that leaves the call's registrations at `held`. -/
abbrev Holding (held : OrderKey → ℕ) {Result : Type} (program : WaitProgram Result) : Prop :=
  Preserves registrationContract (registrations · = held) program

section Parts

variable {held : OrderKey → ℕ} {Result : Type} {exchange : ExchangerType} {ocoInfo : OcoInfo}
  {symbol orderId : String}

theorem holding_except (outcome : Except ServiceFailure Result) :
    Holding held (liftM outcome : WaitProgram Result) :=
  preserves_lift outcome

theorem holding_of_except (outcome : Except ServiceFailure Result) :
    Holding held (.ofExcept outcome : WaitProgram Result) :=
  preserves_lift outcome

theorem holding_request {effect : WaitEffect} {next : effect.Answer → WaitProgram Result}
    (required : ∀ history, registrations history = held → waitRequires (fun _ => True) history effect)
    (registersNothing : ∀ (history : WaitHistory) answer,
      registrations (⟨effect, answer⟩ :: history) = registrations history)
    (continues : ∀ answer, Holding held (next answer)) : Holding held (.request effect next) := by
  apply preserves_request required
  · intro history answer kept
    exact (registersNothing history answer).trans kept
  · exact continues

theorem holding_catch_exception {program : WaitProgram Result}
    {handler : String → WaitProgram Result} (body : Holding held program)
    (handled : ∀ what, Holding held (handler what)) :
    Holding held (program.catchException handler) := by
  apply Preserves.handle body
  intro failure
  cases failure.what with
  | some what => exact handled what
  | none => exact preserves_threw failure

theorem holding_stop_requested : Holding held stopRequested :=
  holding_request (fun _ _ => trivial) (fun _ _ => rfl) preserves_returned

theorem holding_throw_if_stop_requested (description : String) :
    Holding held (throwIfStopRequested description) :=
  holding_stop_requested.bind fun _ => holding_except _

theorem holding_ensure_user_stream_connected : Holding held ensureUserStreamConnected :=
  holding_request (fun _ _ => trivial) (fun _ _ => rfl) holding_of_except

theorem holding_get_user_stream_last_error : Holding held getUserStreamLastError :=
  holding_request (fun _ _ => trivial) (fun _ _ => rfl) preserves_returned

theorem holding_publish_order_update (orderInfo : OrderInfo) :
    Holding held (WaitProgram.publishOrderUpdate orderInfo) :=
  holding_request (fun _ _ => trivial) (fun _ _ => rfl) preserves_returned

theorem holding_get_order (query : OrderQuery) : Holding held (getOrder query) :=
  holding_request (fun _ _ => trivial) (fun _ _ => rfl) holding_of_except

theorem holding_cancel_order (query : OrderQuery) : Holding held (WaitProgram.cancelOrder query) :=
  holding_request (fun _ _ => trivial) (fun _ _ => rfl) holding_of_except

theorem holding_reconcile_order (orderInfo : OrderInfo) : Holding held (reconcileOrder orderInfo) :=
  (holding_get_order _).bind holding_publish_order_update

theorem holding_get_pending_order_wait (own : 0 < held (getOrderKey symbol orderId)) :
    Holding held (getPendingOrderWait symbol orderId) := by
  refine holding_request (fun history same => ?_) (fun _ _ => rfl) holding_of_except
  rwa [← same] at own

theorem holding_await_order {orderKey : OrderKey} (own : 0 < held orderKey) :
    Holding held (awaitOrder orderKey) := by
  refine holding_request (fun history same => ?_) (fun _ _ => rfl) holding_of_except
  rwa [← same] at own

/-- The scope of a registration. -/
theorem holding_with_registration {orderKey : OrderKey} {program : WaitProgram Result}
    (body : Holding (fun key => held key + if orderKey = key then 1 else 0) program) :
    Holding held (withPendingOrderRegistration orderKey program) := by
  intro history start
  apply (meets_monad_bind _ _).mpr
  refine ⟨trivial, ?_⟩
  intro answer _
  apply (meets_ensuring _ _).mpr
  apply (body _ (by funext key; rw [registrations, start])).weaken
  intro later outcome kept
  constructor
  · change 0 < registrations later orderKey
    simp [kept]
  · intro cleaned _
    funext key
    rw [registrations, kept, Nat.add_sub_cancel]

/-! ## One order -/

theorem holding_prepare_order_subscription : Holding held (prepareOrderSubscription symbol orderId) :=
  holding_ensure_user_stream_connected.bind fun _ => holding_reconcile_order _

theorem holding_stream_stopped (failure : String → ServiceFailure) :
    Holding held (getUserStreamLastError >>= fun streamError =>
      (.threw (failure streamError) : WaitProgram Result)) :=
  holding_get_user_stream_last_error.bind fun _ => preserves_threw _

theorem holding_wait_for_order_terminal_status (own : 0 < held (getOrderKey symbol orderId)) :
    Holding held (waitForOrderTerminalStatus exchange symbol orderId) :=
  (holding_await_order own).bind fun _ => holding_except _

theorem holding_process_order_update (pendingWait : PendingOrderWait) :
    Holding held (processOrderUpdate exchange symbol orderId pendingWait) := by
  unfold processOrderUpdate
  split
  · exact preserves_threw _
  · split
    · exact preserves_returned _
    · split
      · exact preserves_threw _
      · exact holding_stream_stopped _

theorem holding_process_order_cancellation_update (pendingWait : PendingOrderWait) :
    Holding held (processOrderCancellationUpdate exchange symbol orderId pendingWait) := by
  unfold processOrderCancellationUpdate
  split
  · exact preserves_threw _
  · split
    · exact preserves_returned _
    · exact holding_stream_stopped _

theorem holding_send_cancel_order (request : OrderQuery) :
    Holding held (sendCancelOrder exchange request) := by
  apply (holding_cancel_order request).bind
  intro cancellationInfo
  cases exchange with
  | bybit => exact preserves_returned _
  | binance =>
      dsimp only
      split
      · exact holding_publish_order_update cancellationInfo
      · exact preserves_returned _

theorem holding_recover_failed_cancel_order (own : 0 < held (getOrderKey symbol orderId))
    (cancellationFailure : ServiceFailure) :
    Holding held (recoverFailedCancelOrder exchange symbol orderId cancellationFailure) := by
  apply ((holding_reconcile_order _).handle fun _ => preserves_threw cancellationFailure).bind
  intro _
  apply (holding_get_pending_order_wait own).bind
  intro pendingWait
  split
  · exact preserves_returned _
  · exact preserves_threw cancellationFailure

theorem holding_reconcile_cancelled_order (own : 0 < held (getOrderKey symbol orderId)) :
    Holding held (reconcileCancelledOrder exchange symbol orderId) := by
  apply (holding_catch_exception (holding_reconcile_order _) fun what =>
    holding_stream_stopped _).bind
  intro _
  exact (holding_get_pending_order_wait own).bind holding_process_order_cancellation_update

theorem holding_confirm_cancelled_order (own : 0 < held (getOrderKey symbol orderId)) :
    Holding held (confirmCancelledOrder exchange symbol orderId) := by
  apply (holding_get_pending_order_wait own).bind
  intro pendingWait
  split
  · exact preserves_returned _
  · apply (holding_wait_for_order_terminal_status own).bind
    intro pendingWait
    split
    · exact holding_process_order_cancellation_update pendingWait
    · exact holding_reconcile_cancelled_order own

theorem holding_cancel_registered_order {request : OrderQuery}
    (own : 0 < held (getOrderKey request.symbol orderId)) :
    Holding held (cancelRegisteredOrder exchange request orderId) := by
  apply holding_prepare_order_subscription.bind
  intro _
  apply (holding_get_pending_order_wait own).bind
  intro pendingWait
  split
  · exact preserves_returned _
  · split
    · exact holding_process_order_cancellation_update pendingWait
    · apply (holding_throw_if_stop_requested _).bind
      intro _
      apply (holding_send_cancel_order request).attempt.bind
      intro cancelled
      cases cancelled with
      | error failure => exact holding_recover_failed_cancel_order own failure
      | ok _ => exact holding_confirm_cancelled_order own

theorem holding_wait_until_order_filled :
    Holding held (waitUntilOrderFilled exchange symbol orderId) := by
  apply (holding_except _).bind
  intro _
  apply (holding_throw_if_stop_requested _).bind
  intro _
  apply holding_with_registration
  apply holding_prepare_order_subscription.bind
  intro _
  exact (holding_wait_for_order_terminal_status (by simp)).bind holding_process_order_update

theorem holding_cancel_order_and_wait_until_terminal (request : OrderQuery) :
    Holding held (cancelOrderAndWaitUntilTerminal exchange request) := by
  apply (holding_except _).bind
  intro _
  apply (holding_throw_if_stop_requested _).bind
  intro _
  apply holding_with_registration
  exact holding_cancel_registered_order (by simp)

/-! ## An OCO -/

section Oco

variable (takeProfit : 0 < held ocoInfo.takeProfitKey) (stopLoss : 0 < held ocoInfo.stopLossKey)

theorem holding_cancel_oco (query : OrderListQuery) : Holding held (WaitProgram.cancelOco query) :=
  holding_request (fun _ _ => trivial) (fun _ _ => rfl) holding_of_except

theorem holding_throw_oco_wait_failure_after_cleanup (reason : String) :
    Holding held (throwOcoWaitFailureAfterCleanup exchange ocoInfo reason : WaitProgram Result) := by
  apply (holding_catch_exception _ fun what => preserves_returned (some what)).bind
  · exact fun _ => preserves_threw _
  · exact (holding_cancel_oco _).bind fun _ => preserves_returned none

theorem holding_throw_both_filled :
    Holding held (throwBothFilled exchange ocoInfo : WaitProgram Result) :=
  holding_throw_oco_wait_failure_after_cleanup _

theorem holding_reconcile_children :
    Holding held (do
      reconcileOrder ocoInfo.takeProfitOrder
      reconcileOrder ocoInfo.stopLossOrder) :=
  (holding_reconcile_order _).bind fun _ => holding_reconcile_order _

theorem holding_prepare_oco_subscription : Holding held (prepareOcoSubscription ocoInfo) :=
  holding_ensure_user_stream_connected.bind fun _ => holding_reconcile_children

theorem holding_process_oco_update (orderLinkId : String) :
    Holding held (WaitProgram.processOcoUpdate orderLinkId) :=
  holding_request (fun _ _ => trivial) (fun _ _ => rfl) holding_of_except

theorem holding_publish_oco_error (orderLinkId error : String) :
    Holding held (WaitProgram.publishOcoError orderLinkId error) :=
  holding_request (fun _ _ => trivial) (fun _ _ => rfl) preserves_returned

include takeProfit stopLoss

theorem holding_get_pending_oco_waits (reader : OcoReader) :
    Holding held (getPendingOcoWaits reader ocoInfo.takeProfitKey ocoInfo.stopLossKey) := by
  refine holding_request (fun history same => ?_) (fun _ _ => rfl) holding_of_except
  rw [← same] at takeProfit stopLoss
  exact ⟨takeProfit, stopLoss⟩

theorem holding_await_oco (need : OcoNeed) :
    Holding held (awaitOco need ocoInfo.takeProfitKey ocoInfo.stopLossKey) := by
  refine holding_request (fun history same => ?_) (fun _ _ => rfl) holding_of_except
  rw [← same] at takeProfit stopLoss
  exact ⟨takeProfit, stopLoss⟩

theorem holding_wait_for_oco_sibling_terminal_status (filledOrder : OrderInfo) :
    Holding held (waitForOcoSiblingTerminalStatus exchange ocoInfo filledOrder) := by
  have own : 0 < held (siblingKey ocoInfo filledOrder) := by
    unfold siblingKey
    split
    · exact stopLoss
    · exact takeProfit
  exact (holding_await_order own).bind fun _ => holding_except _

omit takeProfit stopLoss in
theorem holding_cancel_unfilled_child (filledOrder : OrderInfo) :
    Holding held (cancelUnfilledChild ocoInfo filledOrder) := by
  apply (holding_except _).bind
  intro _
  apply (holding_process_oco_update _).bind
  intro cancellationError
  cases cancellationError with
  | none => exact preserves_returned ()
  | some error =>
      exact (holding_publish_oco_error _ error).bind fun _ =>
        holding_throw_oco_wait_failure_after_cleanup _

omit takeProfit stopLoss in
theorem holding_sibling_result (filledOrder : OrderInfo) (siblingWait : PendingOrderWait) :
    Holding held (siblingResult exchange ocoInfo filledOrder siblingWait) := by
  unfold siblingResult
  split
  · exact preserves_threw _
  · split
    · split
      · exact holding_throw_both_filled
      · split
        · exact preserves_returned _
        · exact preserves_threw _
    · exact holding_stream_stopped _

theorem holding_complete_oco_wait (filledOrder : OrderInfo) :
    Holding held (completeOcoWait exchange ocoInfo filledOrder) := by
  have sibling : Holding held (do
      let siblingWait ← waitForOcoSiblingTerminalStatus exchange ocoInfo filledOrder
      siblingResult exchange ocoInfo filledOrder siblingWait) :=
    (holding_wait_for_oco_sibling_terminal_status takeProfit stopLoss filledOrder).bind
      (holding_sibling_result filledOrder)
  cases exchange with
  | binance => exact sibling
  | bybit => exact (holding_cancel_unfilled_child filledOrder).bind fun _ => sibling

theorem holding_get_filled_oco_order : Holding held (getFilledOcoOrder exchange ocoInfo) := by
  apply (holding_get_pending_oco_waits takeProfit stopLoss _).bind
  intro waits
  unfold filledOcoOrder
  split
  · exact holding_throw_both_filled
  · exact preserves_returned _
  · exact preserves_returned _

theorem holding_reconcile_oco_after_unfilled_terminal_child (isTakeProfitFailed : Bool) :
    Holding held (reconcileOcoAfterUnfilledTerminalChild exchange ocoInfo isTakeProfitFailed) := by
  apply (holding_catch_exception _ fun what => preserves_returned (some what)).bind
  · intro reconciliationError
    apply (holding_get_filled_oco_order takeProfit stopLoss).bind
    intro filledOrder
    cases filledOrder with
    | some filledOrder => exact holding_complete_oco_wait takeProfit stopLoss filledOrder
    | none => exact holding_throw_oco_wait_failure_after_cleanup _
  · exact (holding_reconcile_order _).bind fun _ => preserves_returned none

theorem holding_process_oco_orders_update (takeProfitWait stopLossWait : PendingOrderWait) :
    Holding held (processOcoOrdersUpdate exchange ocoInfo takeProfitWait stopLossWait) := by
  unfold processOcoOrdersUpdate
  split
  · exact holding_throw_both_filled
  · exact holding_complete_oco_wait takeProfit stopLoss _
  · exact holding_complete_oco_wait takeProfit stopLoss _
  · split
    · exact holding_throw_oco_wait_failure_after_cleanup _
    · split
      · exact holding_reconcile_oco_after_unfilled_terminal_child takeProfit stopLoss _
      · exact holding_get_user_stream_last_error.bind fun _ =>
          holding_throw_oco_wait_failure_after_cleanup _

theorem holding_get_terminal_oco_info : Holding held (getTerminalOcoInfo exchange ocoInfo) := by
  apply (holding_get_pending_oco_waits takeProfit stopLoss _).bind
  intro waits
  split
  · exact holding_except _
  · exact preserves_returned none

omit takeProfit stopLoss in
theorem holding_process_oco_cancellation_update (takeProfitWait stopLossWait : PendingOrderWait) :
    Holding held (processOcoCancellationUpdate exchange ocoInfo takeProfitWait stopLossWait) := by
  unfold processOcoCancellationUpdate
  split
  · exact preserves_threw _
  · split
    · exact holding_except _
    · exact holding_stream_stopped _

theorem holding_complete_cancelled_oco (filledOrder : OrderInfo) :
    Holding held (completeCancelledOco exchange ocoInfo filledOrder) :=
  (holding_complete_oco_wait takeProfit stopLoss filledOrder).bind fun _ => holding_except _

theorem holding_recover_failed_cancel_oco (cancellationFailure : ServiceFailure) :
    Holding held (recoverFailedCancelOco exchange ocoInfo cancellationFailure) := by
  apply (holding_reconcile_children.handle fun _ => preserves_threw cancellationFailure).bind
  intro _
  apply (holding_get_terminal_oco_info takeProfit stopLoss).bind
  intro terminalOcoInfo
  cases terminalOcoInfo with
  | some terminalOcoInfo => exact preserves_returned _
  | none =>
      apply (holding_get_filled_oco_order takeProfit stopLoss).bind
      intro filledOrder
      cases filledOrder with
      | some filledOrder => exact holding_complete_cancelled_oco takeProfit stopLoss filledOrder
      | none => exact preserves_threw cancellationFailure

theorem holding_read_children : Holding held (readChildren exchange ocoInfo) := by
  cases exchange with
  | binance => exact holding_get_pending_oco_waits takeProfit stopLoss _
  | bybit =>
      exact (holding_get_pending_order_wait takeProfit).bind fun _ =>
        (holding_get_pending_order_wait stopLoss).bind fun _ => preserves_returned _

theorem holding_reconcile_cancelled_oco : Holding held (reconcileCancelledOco exchange ocoInfo) := by
  apply (holding_catch_exception holding_reconcile_children fun what =>
    holding_stream_stopped _).bind
  intro _
  exact (holding_read_children takeProfit stopLoss).bind fun waits =>
    holding_process_oco_cancellation_update waits.1 waits.2

theorem holding_confirm_cancelled_oco : Holding held (confirmCancelledOco exchange ocoInfo) := by
  have awaited : Holding held (waitForOcoCancellationTerminalStatus exchange ocoInfo) :=
    (holding_await_oco takeProfit stopLoss .both).bind fun _ => holding_except _
  apply awaited.bind
  intro waits
  split
  · exact holding_process_oco_cancellation_update waits.1 waits.2
  · exact holding_reconcile_cancelled_oco takeProfit stopLoss

theorem holding_failed_oco_waits : Holding held (failedOcoWaits exchange ocoInfo) := by
  cases exchange with
  | binance => exact preserves_returned none
  | bybit =>
      exact (holding_read_children takeProfit stopLoss).bind fun _ => preserves_returned _

theorem holding_cancel_unsettled_oco : Holding held (cancelUnsettledOco exchange ocoInfo) := by
  apply (holding_get_filled_oco_order takeProfit stopLoss).bind
  intro filledOrder
  cases filledOrder with
  | some filledOrder => exact holding_complete_cancelled_oco takeProfit stopLoss filledOrder
  | none =>
      apply (holding_throw_if_stop_requested _).bind
      intro _
      apply (holding_cancel_oco _).attempt.bind
      intro cancelled
      cases cancelled with
      | error failure => exact holding_recover_failed_cancel_oco takeProfit stopLoss failure
      | ok _ => exact holding_confirm_cancelled_oco takeProfit stopLoss

theorem holding_cancel_registered_oco : Holding held (cancelRegisteredOco exchange ocoInfo) := by
  apply holding_prepare_oco_subscription.bind
  intro _
  apply (holding_get_terminal_oco_info takeProfit stopLoss).bind
  intro terminalOcoInfo
  cases terminalOcoInfo with
  | some terminalOcoInfo => exact preserves_returned _
  | none =>
      apply (holding_failed_oco_waits takeProfit stopLoss).bind
      intro failedWaits
      cases failedWaits with
      | some waits => exact holding_process_oco_cancellation_update waits.1 waits.2
      | none => exact holding_cancel_unsettled_oco takeProfit stopLoss

end Oco

theorem holding_wait_until_oco_order_filled :
    Holding held (waitUntilOcoOrderFilled exchange ocoInfo) := by
  apply (holding_except _).bind
  intro _
  apply (holding_throw_if_stop_requested _).bind
  intro _
  apply holding_with_registration
  apply holding_with_registration
  apply holding_prepare_oco_subscription.bind
  intro _
  apply Preserves.bind
  · exact (holding_await_oco (by simp) (by simp) .either).bind fun _ => holding_except _
  · exact fun waits => holding_process_oco_orders_update (by simp) (by simp) waits.1 waits.2

theorem holding_cancel_oco_and_wait_until_terminal :
    Holding held (cancelOcoAndWaitUntilTerminal exchange ocoInfo) := by
  apply (holding_except _).bind
  intro _
  apply (holding_except _).bind
  intro _
  apply (holding_throw_if_stop_requested _).bind
  intro _
  apply holding_with_registration
  apply holding_with_registration
  exact holding_cancel_registered_oco (by simp) (by simp)

end Parts

end CryptoDeal.DealService
