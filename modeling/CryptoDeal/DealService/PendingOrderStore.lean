import CryptoDeal.DealService.DecimalConverter
import CryptoDeal.DealService.OrderStatusUtil
import CryptoDeal.Library.RankedCell
import Mathlib.Logic.Function.Basic

/-!
# Pending order waits

The map of orders that some call is waiting for. Both services keep it with
the same code up to their status sets; the error slot is Bybit's alone, and on
Binance nothing ever writes it. An entry's order info is a cell that climbs
from open to terminal to filled, whoever publishes and in whatever order.
-/

namespace CryptoDeal.DealService

open OrderStatusUtil RankedCell

abbrev OrderKey := String × String

def getOrderKey (symbol orderId : String) : OrderKey := (symbol, orderId)

def OrderInfo.key (orderInfo : OrderInfo) : OrderKey :=
  getOrderKey orderInfo.symbol orderInfo.orderId

structure PendingOrderWait where
  orderInfo : Option OrderInfo := none
  error : Option String := none
  registrationCount : ℕ := 0
  deriving DecidableEq

abbrev PendingOrderWaits := OrderKey → Option PendingOrderWait

def noPendingOrderWaits : PendingOrderWaits := fun _ => none

def registerPendingOrder (orderKey : OrderKey) (pendingOrderWaits : PendingOrderWaits) :
    PendingOrderWaits :=
  let pendingWait := (pendingOrderWaits orderKey).getD {}
  Function.update pendingOrderWaits orderKey
    (some { pendingWait with registrationCount := pendingWait.registrationCount + 1 })

def unregisterPendingOrder (orderKey : OrderKey) (pendingOrderWaits : PendingOrderWaits) :
    PendingOrderWaits :=
  match pendingOrderWaits orderKey with
  | none => pendingOrderWaits
  | some pendingWait =>
      if 1 < pendingWait.registrationCount then
        Function.update pendingOrderWaits orderKey
          (some { pendingWait with registrationCount := pendingWait.registrationCount - 1 })
      else Function.update pendingOrderWaits orderKey none

/-- The guard of `publishOrderUpdate` against going back. -/
def keepsCurrentInfo (exchange : ExchangerType) (currentInfo : Option OrderInfo)
    (orderInfo : OrderInfo) : Bool :=
  match currentInfo with
  | none => false
  | some currentInfo =>
      isOrderFilled exchange currentInfo.status ||
        (isOrderTerminal exchange currentInfo.status && !isOrderFilled exchange orderInfo.status)

def publishOrderUpdate (exchange : ExchangerType) (orderInfo : OrderInfo)
    (pendingOrderWaits : PendingOrderWaits) : PendingOrderWaits :=
  if orderInfo.symbol = "" ∨ orderInfo.orderId = "" then pendingOrderWaits
  else
    match pendingOrderWaits orderInfo.key with
    | none => pendingOrderWaits
    | some pendingOrder =>
        if keepsCurrentInfo exchange pendingOrder.orderInfo orderInfo then pendingOrderWaits
        else
          Function.update pendingOrderWaits orderInfo.key
            (some { pendingOrder with orderInfo := some orderInfo })

/-- Bybit only. -/
def publishOrderWaitError (orderInfo : OrderInfo) (error : String)
    (pendingOrderWaits : PendingOrderWaits) : PendingOrderWaits :=
  if orderInfo.symbol = "" ∨ orderInfo.orderId = "" then pendingOrderWaits
  else
    match pendingOrderWaits orderInfo.key with
    | none => pendingOrderWaits
    | some pendingOrder =>
        Function.update pendingOrderWaits orderInfo.key
          (some { pendingOrder with error := some error })

/-! ## Stream messages

The Binance handlers make `publishOrderUpdate` calls only.
-/

structure ExecutionReportEventDto where
  s : Option String := none
  i : Option ℤ := none
  X : Option String := none
  c : Option String := none
  S : Option String := none
  o : Option String := none
  f : Option String := none
  r : Option String := none
  p : Option String := none
  q : Option String := none
  z : Option String := none
  Z : Option String := none
  O : Option ℤ := none
  T : Option ℤ := none

structure ListStatusOrderDto where
  s : Option String := none
  i : Option ℤ := none
  c : Option String := none

structure ListStatusEventDto where
  L : Option String := none
  O : Option (List ListStatusOrderDto) := none
  r : Option String := none

section Handlers

variable (fromChars : String → Option Decimal)

/-- The order info of an execution report; `none` for an incomplete one. -/
def executionReportInfo (event : ExecutionReportEventDto) :
    Except ServiceFailure (Option OrderInfo) :=
  match event.s, event.i, event.X with
  | some symbol, some orderId, some status => do
      let price ← parseToDecimal fromChars event.p
      let origQty ← parseToDecimal fromChars event.q
      let executedQty ← parseToDecimal fromChars event.z
      let cumQuoteQty ← parseToDecimal fromChars event.Z
      return some {
        symbol
        orderId := toString orderId
        clientOrderId := event.c.getD ""
        side := event.S.getD ""
        type := event.o.getD ""
        timeInForce := event.f.getD ""
        status
        statusReason := event.r.getD ""
        price
        origQty
        executedQty
        cumQuoteQty
        leavesQty := origQty - executedQty
        createdTimeMs := event.O.getD 0
        updatedTimeMs := event.T.getD 0
        avgPrice := if 0 < executedQty then cumQuoteQty / executedQty else 0 }
  | _, _, _ => return none

def handleExecutionReport (event : ExecutionReportEventDto)
    (pendingOrderWaits : PendingOrderWaits) : Except ServiceFailure PendingOrderWaits := do
  match ← executionReportInfo fromChars event with
  | none => return pendingOrderWaits
  | some orderInfo => return publishOrderUpdate .binance orderInfo pendingOrderWaits

/-- The rejected children of an order list. -/
def listRejections (event : ListStatusEventDto) : List OrderInfo :=
  if event.L.getD "" ≠ "REJECT" then []
  else
    (event.O.getD []).filterMap fun order =>
      match order.s, order.i with
      | some symbol, some orderId => some {
          symbol
          orderId := toString orderId
          clientOrderId := order.c.getD ""
          status := "REJECTED"
          statusReason := event.r.getD "" }
      | _, _ => none

def handleListStatusUpdate (event : ListStatusEventDto) (pendingOrderWaits : PendingOrderWaits) :
    PendingOrderWaits :=
  (listRejections event).foldl
    (fun waits orderInfo => publishOrderUpdate .binance orderInfo waits) pendingOrderWaits

end Handlers

/-! ## Runs -/

/-- One critical section on the map. -/
inductive StoreCall where
  | register (orderKey : OrderKey)
  | unregister (orderKey : OrderKey)
  | publish (orderInfo : OrderInfo)
  | publishError (orderInfo : OrderInfo) (error : String)

def StoreCall.apply (exchange : ExchangerType) : StoreCall → PendingOrderWaits → PendingOrderWaits
  | .register orderKey => registerPendingOrder orderKey
  | .unregister orderKey => unregisterPendingOrder orderKey
  | .publish orderInfo => publishOrderUpdate exchange orderInfo
  | .publishError orderInfo error => publishOrderWaitError orderInfo error

def runCalls (exchange : ExchangerType) (calls : List StoreCall)
    (pendingOrderWaits : PendingOrderWaits) : PendingOrderWaits :=
  calls.foldl (fun waits call => call.apply exchange waits) pendingOrderWaits

theorem handle_list_status_update_runs (event : ListStatusEventDto) (waits : PendingOrderWaits) :
    handleListStatusUpdate event waits =
      runCalls .binance ((listRejections event).map .publish) waits := by
  rw [handleListStatusUpdate, runCalls, List.foldl_map]
  rfl

theorem handle_execution_report_runs {fromChars : String → Option Decimal}
    {event : ExecutionReportEventDto} {waits after : PendingOrderWaits}
    (handled : handleExecutionReport fromChars event waits = .ok after) :
    ∃ orderInfo : Option OrderInfo,
      after = runCalls .binance (orderInfo.toList.map .publish) waits := by
  obtain ⟨orderInfo, -, published⟩ := except_bind_ok.1 handled
  refine ⟨orderInfo, ?_⟩
  cases orderInfo with
  | none => exact (Except.ok.inj published).symm
  | some orderInfo => exact (Except.ok.inj published).symm

/-- The update that a call delivers to an entry, if it delivers one there. -/
def StoreCall.delivery (orderKey : OrderKey) : StoreCall → Option OrderInfo
  | .publish orderInfo =>
      if orderInfo.symbol ≠ "" ∧ orderInfo.orderId ≠ "" ∧ orderInfo.key = orderKey then
        some orderInfo
      else none
  | _ => none

def deliveries (orderKey : OrderKey) (calls : List StoreCall) : List OrderInfo :=
  calls.filterMap (StoreCall.delivery orderKey)

/-- The entry is there throughout the calls. -/
def StaysRegistered (exchange : ExchangerType) (orderKey : OrderKey) :
    List StoreCall → PendingOrderWaits → Prop
  | [], waits => (waits orderKey).isSome
  | call :: calls, waits =>
      (waits orderKey).isSome ∧ StaysRegistered exchange orderKey calls (call.apply exchange waits)

def storedInfo (orderKey : OrderKey) (pendingOrderWaits : PendingOrderWaits) : Option OrderInfo :=
  (pendingOrderWaits orderKey).bind (·.orderInfo)

def settlement (exchange : ExchangerType) : Option OrderInfo → Settlement :=
  cellRank (Settlement.ofOrder exchange)

/-! ## One call -/

/-- The guard is the rule of a climbing cell. -/
theorem offer_eq_guarded (exchange : ExchangerType) (currentInfo : Option OrderInfo)
    (orderInfo : OrderInfo) :
    offer (Settlement.ofOrder exchange) currentInfo orderInfo =
      if keepsCurrentInfo exchange currentInfo orderInfo then currentInfo else some orderInfo := by
  cases currentInfo with
  | none => simp [offer, keepsCurrentInfo]
  | some currentInfo =>
      simp only [offer, keepsCurrentInfo, Settlement.ofOrder, Settlement.of_status_ne_bot_iff]
      by_cases filled : isOrderFilled exchange currentInfo.status
      · have top := Settlement.of_status_eq_filled_iff.2 filled
        rw [if_pos ⟨terminal_of_filled filled, top ▸ Settlement.le_filled _⟩]
        simp [filled]
      · by_cases terminal : isOrderTerminal exchange currentInfo.status
        · have unfilled : Settlement.ofStatus exchange currentInfo.status ≠ .filled :=
            fun top => filled (Settlement.of_status_eq_filled_iff.1 top)
          have settled := Settlement.of_status_ne_bot_iff.2 terminal
          by_cases incoming : isOrderFilled exchange orderInfo.status
          · have top := Settlement.of_status_eq_filled_iff.2 incoming
            have climbs : ¬ Settlement.ofStatus exchange orderInfo.status ≤
                Settlement.ofStatus exchange currentInfo.status := by
              rw [top]
              exact fun le => unfilled (le_antisymm (Settlement.le_filled _) le)
            rw [if_neg fun keeps => climbs keeps.2]
            simp [filled, incoming]
          · have stays : Settlement.ofStatus exchange orderInfo.status ≤
                Settlement.ofStatus exchange currentInfo.status := by
              by_contra climbs
              have top := Settlement.eq_filled_of_lt settled (lt_of_not_ge climbs)
              exact incoming (Settlement.of_status_eq_filled_iff.1 top)
            rw [if_pos ⟨terminal, stays⟩]
            simp [terminal, incoming]
        · rw [if_neg fun keeps => terminal keeps.1]
          simp [filled, terminal]

theorem publish_order_update_other {exchange : ExchangerType} {orderInfo : OrderInfo}
    {orderKey : OrderKey} {waits : PendingOrderWaits} (other : orderInfo.key ≠ orderKey) :
    publishOrderUpdate exchange orderInfo waits orderKey = waits orderKey := by
  unfold publishOrderUpdate
  split_ifs
  · rfl
  · cases waits orderInfo.key with
    | none => rfl
    | some pendingOrder =>
        simp only
        split_ifs
        · rfl
        · exact Function.update_of_ne other.symm _ _

/-- At its own key a published update is offered to the entry's cell. -/
theorem publish_order_update_own {exchange : ExchangerType} {orderInfo : OrderInfo}
    {waits : PendingOrderWaits} {pendingWait : PendingOrderWait}
    (symbol : orderInfo.symbol ≠ "") (orderId : orderInfo.orderId ≠ "")
    (live : waits orderInfo.key = some pendingWait) :
    publishOrderUpdate exchange orderInfo waits orderInfo.key =
      some { pendingWait with
        orderInfo := offer (Settlement.ofOrder exchange) pendingWait.orderInfo orderInfo } := by
  unfold publishOrderUpdate
  rw [if_neg (by simp [symbol, orderId]), live, offer_eq_guarded]
  simp only
  split_ifs
  · exact live
  · exact Function.update_self _ _ _

/-- What one call leaves of an entry that is still there after it. -/
theorem apply_stored_info {exchange : ExchangerType} {call : StoreCall} {orderKey : OrderKey}
    {waits : PendingOrderWaits} (before : (waits orderKey).isSome)
    (after : (call.apply exchange waits orderKey).isSome) :
    storedInfo orderKey (call.apply exchange waits) =
      offerAll (Settlement.ofOrder exchange) (storedInfo orderKey waits)
        (call.delivery orderKey).toList := by
  obtain ⟨pendingWait, live⟩ := Option.isSome_iff_exists.1 before
  cases call with
  | register target =>
      simp only [StoreCall.apply, StoreCall.delivery, Option.toList_none, offerAll, List.foldl_nil,
        storedInfo, registerPendingOrder]
      by_cases own : orderKey = target
      · subst own
        simp [live]
      · rw [Function.update_of_ne own]
  | unregister target =>
      simp only [StoreCall.apply, StoreCall.delivery, Option.toList_none, offerAll, List.foldl_nil,
        storedInfo, unregisterPendingOrder] at after ⊢
      by_cases own : orderKey = target
      · subst own
        rw [live] at after ⊢
        simp only at after ⊢
        split_ifs at after ⊢
        · simp
        · simp at after
      · cases waits target with
        | none => rfl
        | some other =>
            simp only
            split_ifs
            · rw [Function.update_of_ne own]
            · rw [Function.update_of_ne own]
  | publish orderInfo =>
      simp only [StoreCall.apply, StoreCall.delivery, storedInfo]
      by_cases delivered :
          orderInfo.symbol ≠ "" ∧ orderInfo.orderId ≠ "" ∧ orderInfo.key = orderKey
      · obtain ⟨symbol, orderId, own⟩ := delivered
        rw [if_pos ⟨symbol, orderId, own⟩]
        subst own
        rw [publish_order_update_own symbol orderId live, live]
        rfl
      · rw [if_neg delivered]
        by_cases own : orderInfo.key = orderKey
        · have ignored : orderInfo.symbol = "" ∨ orderInfo.orderId = "" := by
            by_contra named
            rw [not_or] at named
            exact delivered ⟨named.1, named.2, own⟩
          rw [publishOrderUpdate, if_pos ignored]
          rfl
        · rw [publish_order_update_other own]
          rfl
  | publishError orderInfo error =>
      simp only [StoreCall.apply, StoreCall.delivery, Option.toList_none, offerAll, List.foldl_nil,
        storedInfo, publishOrderWaitError]
      split_ifs
      · rfl
      · by_cases own : orderInfo.key = orderKey
        · subst own
          rw [live]
          simp
        · cases waits orderInfo.key with
          | none => rfl
          | some other =>
              simp only
              rw [Function.update_of_ne fun same => own same.symm]

/-- Every stored order info satisfies a property of it and its key. -/
def Stores (property : OrderKey → OrderInfo → Prop) (waits : PendingOrderWaits) : Prop :=
  ∀ orderKey, ∀ orderInfo ∈ storedInfo orderKey waits, property orderKey orderInfo

section Stores

variable {property : OrderKey → OrderInfo → Prop} {waits : PendingOrderWaits}

theorem Stores.of_entry {orderKey : OrderKey} {pendingWait : PendingOrderWait}
    (stores : Stores property waits) (live : waits orderKey = some pendingWait) :
    ∀ orderInfo ∈ pendingWait.orderInfo, property orderKey orderInfo := by
  intro orderInfo member
  apply stores orderKey orderInfo
  rw [storedInfo, live]
  exact member

theorem Stores.update {target : OrderKey} {entry : Option PendingOrderWait}
    (stores : Stores property waits)
    (own : ∀ orderInfo ∈ entry.bind (·.orderInfo), property target orderInfo) :
    Stores property (Function.update waits target entry) := by
  intro orderKey orderInfo stored
  by_cases same : orderKey = target
  · subst same
    rw [storedInfo, Function.update_self] at stored
    exact own orderInfo stored
  · rw [storedInfo, Function.update_of_ne same] at stored
    exact stores orderKey orderInfo stored

theorem Stores.register (target : OrderKey) (stores : Stores property waits) :
    Stores property (registerPendingOrder target waits) := by
  apply stores.update
  intro orderInfo member
  cases live : waits target with
  | none =>
      rw [live] at member
      cases member
  | some pendingWait =>
      rw [live] at member
      exact stores.of_entry live orderInfo member

theorem Stores.unregister (target : OrderKey) (stores : Stores property waits) :
    Stores property (unregisterPendingOrder target waits) := by
  unfold unregisterPendingOrder
  cases live : waits target with
  | none => exact stores
  | some pendingWait =>
      simp only
      split_ifs
      · exact stores.update fun orderInfo member => stores.of_entry live orderInfo member
      · apply stores.update
        intro orderInfo absent
        cases absent

theorem Stores.publish {exchange : ExchangerType} {orderInfo : OrderInfo}
    (stores : Stores property waits) (own : property orderInfo.key orderInfo) :
    Stores property (publishOrderUpdate exchange orderInfo waits) := by
  unfold publishOrderUpdate
  split_ifs
  · exact stores
  · cases waits orderInfo.key with
    | none => exact stores
    | some pendingWait =>
        simp only
        split_ifs
        · exact stores
        · apply stores.update
          intro other member
          rw [← Option.mem_some_iff.1 member]
          exact own

theorem Stores.publish_error (orderInfo : OrderInfo) (error : String)
    (stores : Stores property waits) :
    Stores property (publishOrderWaitError orderInfo error waits) := by
  unfold publishOrderWaitError
  split_ifs
  · exact stores
  · cases live : waits orderInfo.key with
    | none => exact stores
    | some pendingWait =>
        exact stores.update fun other member => stores.of_entry live other member

end Stores

/-- Entries hold updates of their own order only. -/
def Keyed : PendingOrderWaits → Prop := Stores fun orderKey orderInfo => orderInfo.key = orderKey

theorem keyed_apply {exchange : ExchangerType} {waits : PendingOrderWaits} (call : StoreCall)
    (keyed : Keyed waits) : Keyed (call.apply exchange waits) := by
  cases call with
  | register target => exact Stores.register target keyed
  | unregister target => exact Stores.unregister target keyed
  | publish orderInfo => exact Stores.publish keyed rfl
  | publishError orderInfo error => exact Stores.publish_error orderInfo error keyed

/-- The entry stands for that many registrations. -/
def Counts (waits : PendingOrderWaits) (orderKey : OrderKey) (count : ℕ) : Prop :=
  (waits orderKey).map (·.registrationCount) = if count = 0 then none else some count

section Counts

variable {waits : PendingOrderWaits} {orderKey target : OrderKey} {count : ℕ}

theorem Counts.present (counts : Counts waits orderKey count) (positive : 0 < count) :
    ∃ pendingWait, waits orderKey = some pendingWait := by
  rw [Counts, if_neg positive.ne'] at counts
  cases live : waits orderKey with
  | none =>
      rw [live] at counts
      cases counts
  | some pendingWait => exact ⟨pendingWait, rfl⟩

theorem Counts.register_other (counts : Counts waits orderKey count) (other : orderKey ≠ target) :
    Counts (registerPendingOrder target waits) orderKey count := by
  rw [Counts, registerPendingOrder, Function.update_of_ne other]
  exact counts

theorem Counts.register (counts : Counts waits orderKey count) :
    Counts (registerPendingOrder orderKey waits) orderKey (count + 1) := by
  rw [Counts, registerPendingOrder, Function.update_self]
  cases live : waits orderKey with
  | none =>
      rw [Counts, live] at counts
      split_ifs at counts with zero
      · simp [zero]
      · cases counts
  | some pendingWait =>
      rw [Counts, live] at counts
      split_ifs at counts
      · cases counts
      · simpa using counts

theorem Counts.unregister_other (counts : Counts waits orderKey count)
    (other : orderKey ≠ target) : Counts (unregisterPendingOrder target waits) orderKey count := by
  unfold unregisterPendingOrder
  cases waits target with
  | none => exact counts
  | some pendingWait =>
      simp only
      split_ifs
      · rw [Counts, Function.update_of_ne other]
        exact counts
      · rw [Counts, Function.update_of_ne other]
        exact counts

theorem Counts.unregister (counts : Counts waits orderKey (count + 1)) :
    Counts (unregisterPendingOrder orderKey waits) orderKey count := by
  obtain ⟨pendingWait, live⟩ := counts.present (Nat.succ_pos count)
  rw [Counts, live, if_neg (Nat.succ_ne_zero count)] at counts
  have exactly : pendingWait.registrationCount = count + 1 := by simpa using counts
  rw [unregisterPendingOrder, live]
  simp only [exactly]
  split_ifs with several
  · have positive : count ≠ 0 := by omega
    simp [Counts, positive]
  · have zero : count = 0 := by omega
    simp [Counts, zero]

theorem Counts.publish {exchange : ExchangerType} {orderInfo : OrderInfo}
    (counts : Counts waits orderKey count) :
    Counts (publishOrderUpdate exchange orderInfo waits) orderKey count := by
  unfold publishOrderUpdate
  split_ifs
  · exact counts
  · cases live : waits orderInfo.key with
    | none => exact counts
    | some pendingWait =>
        simp only
        split_ifs
        · exact counts
        · by_cases own : orderKey = orderInfo.key
          · subst own
            rw [Counts, live] at counts
            rw [Counts, Function.update_self]
            exact counts
          · rw [Counts, Function.update_of_ne own]
            exact counts

theorem Counts.publish_error {orderInfo : OrderInfo} {error : String}
    (counts : Counts waits orderKey count) :
    Counts (publishOrderWaitError orderInfo error waits) orderKey count := by
  unfold publishOrderWaitError
  split_ifs
  · exact counts
  · cases live : waits orderInfo.key with
    | none => exact counts
    | some pendingWait =>
        simp only
        by_cases own : orderKey = orderInfo.key
        · subst own
          rw [Counts, live] at counts
          rw [Counts, Function.update_self]
          exact counts
        · rw [Counts, Function.update_of_ne own]
          exact counts

end Counts

/-! ## Whole runs -/

theorem keyed_run_calls {exchange : ExchangerType} {waits : PendingOrderWaits}
    (calls : List StoreCall) (keyed : Keyed waits) : Keyed (runCalls exchange calls waits) := by
  induction calls generalizing waits with
  | nil => exact keyed
  | cons call calls ih => exact ih (keyed_apply call keyed)

theorem keyed_none : Keyed noPendingOrderWaits := fun _ _ => nofun

theorem stays_registered_start {exchange : ExchangerType} {orderKey : OrderKey}
    {calls : List StoreCall} {waits : PendingOrderWaits}
    (stays : StaysRegistered exchange orderKey calls waits) : (waits orderKey).isSome := by
  cases calls with
  | nil => exact stays
  | cons call calls => exact stays.1

/-- While the entry is there, its order info is the cell of everything delivered to it. -/
theorem run_stored_info {exchange : ExchangerType} {orderKey : OrderKey} {calls : List StoreCall}
    {waits : PendingOrderWaits} (stays : StaysRegistered exchange orderKey calls waits) :
    storedInfo orderKey (runCalls exchange calls waits) =
      offerAll (Settlement.ofOrder exchange) (storedInfo orderKey waits)
        (deliveries orderKey calls) := by
  induction calls generalizing waits with
  | nil => rfl
  | cons call calls ih =>
      have first := apply_stored_info stays.1 (stays_registered_start stays.2)
      have rest := ih stays.2
      rw [first] at rest
      simp only [runCalls, List.foldl_cons] at rest ⊢
      rw [rest, offerAll, offerAll, offerAll, ← List.foldl_append]
      congr 1
      cases delivered : call.delivery orderKey <;> simp [deliveries, delivered]

/-- Whoever publishes and in whatever order, an entry of the store holds the
join of the updates delivered to it: its own order's, filled for good once
filled, and otherwise never back from terminal. -/
theorem pending_order_store_joins (exchange : ExchangerType) (earlier : List StoreCall)
    (orderKey : OrderKey) (pendingWait : PendingOrderWait)
    (live : runCalls exchange earlier noPendingOrderWaits orderKey = some pendingWait) :
    (∀ orderInfo ∈ pendingWait.orderInfo,
      orderInfo.symbol = orderKey.1 ∧ orderInfo.orderId = orderKey.2) ∧
    (∀ later, StaysRegistered exchange orderKey later
        (runCalls exchange earlier noPendingOrderWaits) →
      ∀ orderInfo ∈ pendingWait.orderInfo,
        (isOrderFilled exchange orderInfo.status →
          storedInfo orderKey (runCalls exchange (earlier ++ later) noPendingOrderWaits) =
            some orderInfo) ∧
        (isOrderTerminal exchange orderInfo.status →
          storedInfo orderKey (runCalls exchange (earlier ++ later) noPendingOrderWaits) =
            some orderInfo ∨
          ∃ filledInfo,
            storedInfo orderKey (runCalls exchange (earlier ++ later) noPendingOrderWaits) =
              some filledInfo ∧ isOrderFilled exchange filledInfo.status)) ∧
    (∀ first second,
      StaysRegistered exchange orderKey first (runCalls exchange earlier noPendingOrderWaits) →
      StaysRegistered exchange orderKey second (runCalls exchange earlier noPendingOrderWaits) →
      (deliveries orderKey first).Perm (deliveries orderKey second) →
      settlement exchange
          (storedInfo orderKey (runCalls exchange (earlier ++ first) noPendingOrderWaits)) =
        settlement exchange
          (storedInfo orderKey (runCalls exchange (earlier ++ second) noPendingOrderWaits))) := by
  have stored : storedInfo orderKey (runCalls exchange earlier noPendingOrderWaits) =
      pendingWait.orderInfo := by
    rw [storedInfo, live]
    rfl
  have continued : ∀ later, StaysRegistered exchange orderKey later
      (runCalls exchange earlier noPendingOrderWaits) →
      storedInfo orderKey (runCalls exchange (earlier ++ later) noPendingOrderWaits) =
        offerAll (Settlement.ofOrder exchange) pendingWait.orderInfo
          (deliveries orderKey later) := by
    intro later stays
    rw [runCalls, List.foldl_append, ← stored]
    exact run_stored_info stays
  refine ⟨?_, ?_, ?_⟩
  · intro orderInfo member
    have own := keyed_run_calls earlier keyed_none orderKey orderInfo (stored ▸ member)
    exact Prod.mk.inj own
  · intro later stays orderInfo member
    rw [continued later stays, Option.mem_def.1 member]
    have settles : isOrderTerminal exchange orderInfo.status →
        offerAll (Settlement.ofOrder exchange) (some orderInfo) (deliveries orderKey later) =
          some orderInfo ∨
        ∃ later', offerAll (Settlement.ofOrder exchange) (some orderInfo)
            (deliveries orderKey later) = some later' ∧
          Settlement.ofOrder exchange orderInfo < Settlement.ofOrder exchange later' :=
      fun terminal => offer_all_settled (Settlement.of_order_ne_bot terminal) _
    constructor
    · intro filled
      rcases settles (terminal_of_filled filled) with stays | ⟨later', -, higher⟩
      · exact stays
      · rw [Settlement.ofOrder, Settlement.of_status_eq_filled_iff.2 filled] at higher
        exact absurd (Settlement.le_filled _) (not_le_of_gt higher)
    · intro terminal
      rcases settles terminal with stays | ⟨later', found, higher⟩
      · exact .inl stays
      · have top := Settlement.eq_filled_of_lt (Settlement.of_order_ne_bot terminal) higher
        exact .inr ⟨later', found, Settlement.of_status_eq_filled_iff.1 top⟩
  · intro first second firstStays secondStays same
    rw [continued first firstStays, continued second secondStays]
    exact cell_rank_offer_all_perm _ same

def filledInfo : OrderInfo := { symbol := "BTCUSDT", orderId := "7", status := "FILLED" }

def lateCancellation : OrderInfo := { filledInfo with status := "CANCELED" }

theorem pending_order_store_joins_filled :
    storedInfo filledInfo.key (runCalls .binance
      ([.register filledInfo.key, .publish filledInfo] ++ [.publish lateCancellation])
      noPendingOrderWaits) = some filledInfo :=
  ((pending_order_store_joins .binance [.register filledInfo.key, .publish filledInfo]
    filledInfo.key { orderInfo := some filledInfo, registrationCount := 1 } (by decide)).2.1
      [.publish lateCancellation] ⟨by decide, rfl⟩ filledInfo rfl).1 (by decide)

end CryptoDeal.DealService
