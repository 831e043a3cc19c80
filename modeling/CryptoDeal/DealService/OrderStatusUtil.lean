import CryptoDeal.DealService.Domain
import Mathlib.Order.BoundedOrder.Lattice
import Mathlib.Order.Fin.Basic

/-!
# Order statuses

`OrderStatusUtil`, and the coarser order of settlement that the pending-order
store climbs.
-/

namespace CryptoDeal.DealService

inductive OrderStatusState where
  | unavailable
  | active
  | filled
  | cancelled
  | otherTerminal
  deriving DecidableEq, Repr

namespace OrderStatusUtil

def binanceCancelledOrderStatuses : List String := ["CANCELED"]

def binanceOtherTerminalOrderStatuses : List String := ["REJECTED", "EXPIRED", "EXPIRED_IN_MATCH"]

def bybitCancelledOrderStatuses : List String := ["Cancelled", "PartiallyFilledCanceled"]

def bybitOtherTerminalOrderStatuses : List String := ["Rejected", "Deactivated"]

/-- The rest of `classifyOrderStatus`, with an exchange's own status sets. -/
def classifyNonEmpty (filled : String) (cancelled otherTerminal : List String) (status : String) :
    OrderStatusState :=
  if status = filled then .filled
  else if status ∈ cancelled then .cancelled
  else if status ∈ otherTerminal then .otherTerminal
  else .active

def classifyOrderStatus (exchangerType : ExchangerType) (status : String) : OrderStatusState :=
  if status = "" then .unavailable
  else
    match exchangerType with
    | .binance => classifyNonEmpty "FILLED" binanceCancelledOrderStatuses
        binanceOtherTerminalOrderStatuses status
    | .bybit => classifyNonEmpty "Filled" bybitCancelledOrderStatuses
        bybitOtherTerminalOrderStatuses status

def isOrderFilled (exchangerType : ExchangerType) (status : String) : Bool :=
  classifyOrderStatus exchangerType status = .filled

def isOrderTerminal (exchangerType : ExchangerType) (status : String) : Bool :=
  match classifyOrderStatus exchangerType status with
  | .filled | .cancelled | .otherTerminal => true
  | .unavailable | .active => false

theorem terminal_of_filled {exchangerType : ExchangerType} {status : String}
    (filled : isOrderFilled exchangerType status) : isOrderTerminal exchangerType status := by
  have state : classifyOrderStatus exchangerType status = .filled := by
    simpa [isOrderFilled] using filled
  simp [isOrderTerminal, state]

end OrderStatusUtil

/-- How far an order is from its final outcome. -/
inductive Settlement where
  | unsettled
  | unfilled
  | filled
  deriving DecidableEq, Repr

namespace Settlement

def rank : Settlement → Fin 3
  | unsettled => 0
  | unfilled => 1
  | filled => 2

theorem rank_injective : Function.Injective rank := by
  intro left right same
  cases left <;> cases right <;> first | rfl | cases same

instance : LinearOrder Settlement := LinearOrder.lift' rank rank_injective

instance : OrderBot Settlement where
  bot := unsettled
  bot_le settlement := Fin.zero_le settlement.rank

def ofStatus (exchangerType : ExchangerType) (status : String) : Settlement :=
  match OrderStatusUtil.classifyOrderStatus exchangerType status with
  | .filled => filled
  | .cancelled | .otherTerminal => unfilled
  | .unavailable | .active => unsettled

def ofOrder (exchangerType : ExchangerType) (orderInfo : OrderInfo) : Settlement :=
  ofStatus exchangerType orderInfo.status

theorem of_status_eq_filled_iff {exchangerType : ExchangerType} {status : String} :
    ofStatus exchangerType status = filled ↔
      OrderStatusUtil.isOrderFilled exchangerType status := by
  unfold ofStatus OrderStatusUtil.isOrderFilled
  cases OrderStatusUtil.classifyOrderStatus exchangerType status <;> decide

theorem of_status_ne_bot_iff {exchangerType : ExchangerType} {status : String} :
    ofStatus exchangerType status ≠ ⊥ ↔ OrderStatusUtil.isOrderTerminal exchangerType status := by
  unfold ofStatus OrderStatusUtil.isOrderTerminal
  cases OrderStatusUtil.classifyOrderStatus exchangerType status <;> decide

theorem of_order_ne_bot {exchangerType : ExchangerType} {orderInfo : OrderInfo}
    (terminal : OrderStatusUtil.isOrderTerminal exchangerType orderInfo.status) :
    ofOrder exchangerType orderInfo ≠ ⊥ :=
  of_status_ne_bot_iff.2 terminal

theorem le_filled (settlement : Settlement) : settlement ≤ filled := by
  cases settlement <;> decide

/-- The only step up from a settlement is to `filled`. -/
theorem eq_filled_of_lt {lower higher : Settlement} (settled : lower ≠ ⊥) (climbs : lower < higher) :
    higher = filled := by
  cases lower <;> cases higher <;> first | rfl | exact absurd climbs (by decide) |
    exact absurd rfl settled

end Settlement

end CryptoDeal.DealService
