import CryptoDeal.DealService.OcoWait

/-!
# Waiting across stream reconnects

The exchange's side of a waiting call: the true status of every order, the
messages on their way, and a connection that is up exactly while the stream is
CONNECTED. A change of an order is sent only over a connection that is up, and
messages on their way may be lost when it goes down.

A wait samples the stream status when it wakes. It therefore misses an order that
settles while the stream is down if somebody reconnects the stream before the
wait has looked. Up to that, and up to fills that Bybit's OCO handling drops, no
wait misses anything.
-/

namespace CryptoDeal.DealService

open OrderStatusUtil Interaction WaitProgram

structure LinkState where
  service : WaitState := {}
  exchangeStatus : OrderKey → String := fun _ => ""
  /-- Delivered to the stream and not processed yet. -/
  inFlight : List OrderInfo := []
  /-- Ghost: the orders that the call's own query has found open. -/
  openWhenQueried : List OrderKey := []

def OrderQuery.key (query : OrderQuery) : OrderKey :=
  getOrderKey query.symbol (query.orderId.getD "")

section System

variable (exchange : ExchangerType)

def EntrySettled (pendingWait : PendingOrderWait) : Prop :=
  (entryError exchange pendingWait).isSome ∨ isEntryTerminal exchange pendingWait

/-- A wait for this order is over as soon as it looks. -/
def Settled (pendingOrderWaits : PendingOrderWaits) (orderKey : OrderKey) : Prop :=
  ∃ pendingWait, pendingOrderWaits orderKey = some pendingWait ∧
    EntrySettled exchange pendingWait

/-- A step of the call: order queries return the true status, and
`ensureUserStreamConnected` returns once the stream is connected. -/
def LinkPerforms (state : LinkState) (effect : WaitEffect) (answer : effect.Answer)
    (after : LinkState) : Prop :=
  WaitPerforms exchange state.service effect answer after.service ∧
  after.exchangeStatus = state.exchangeStatus ∧ after.inFlight = state.inFlight ∧
  match effect, answer with
  | .ensureUserStreamConnected, answer =>
      after.service = state.service ∧ after.openWhenQueried = state.openWhenQueried ∧
        (answer = .ok () → state.service.streamStatus = .connected)
  | .getOrder query, .ok orderInfo =>
      orderInfo.key = query.key ∧ orderInfo.status = state.exchangeStatus query.key ∧
        after.openWhenQueried =
          if isOrderTerminal exchange orderInfo.status then state.openWhenQueried
          else query.key :: state.openWhenQueried
  | .unregisterPendingOrder _, _ => after.openWhenQueried = []
  | _, _ => after.openWhenQueried = state.openWhenQueried

/-- What happens next to the call. -/
inductive LinkEvent where
  /-- Another call or the owner of the stop token. -/
  | service (after : WaitState)
  /-- A new stream status, and the messages that are still on their way. -/
  | streamStatus (status : StreamStatus) (lastError : String) (remaining : List OrderInfo)
  /-- The exchange changes an order. -/
  | orderChanges (orderInfo : OrderInfo)
  /-- The stream publishes its next message. -/
  | processMessage (orderInfo : OrderInfo)
  /-- Bybit: the OCO handling of a fill fails, and its error is published in its
  place, to the orders of the group, if that is still there. -/
  | divertMessage (orderInfo : OrderInfo) (groupOrders : List OrderInfo) (error : String)

inductive LinkStep (state : LinkState) : LinkEvent → LinkState → Prop where
  | service {after : WaitState} (interfered : WaitInterferes exchange state.service after)
      (sameStream : after.streamStatus = state.service.streamStatus) :
      LinkStep state (.service after) { state with service := after }
  | streamStatus {status : StreamStatus} {lastError : String} {remaining : List OrderInfo}
      (lost : remaining = state.inFlight ∨
        status ≠ .connected ∧ remaining.Sublist state.inFlight) :
      LinkStep state (.streamStatus status lastError remaining)
        { state with
          service := { state.service with streamStatus := status, streamLastError := lastError }
          inFlight := remaining }
  | orderChanges {orderInfo : OrderInfo}
      (live : ¬ isOrderTerminal exchange (state.exchangeStatus orderInfo.key)) :
      LinkStep state (.orderChanges orderInfo)
        { state with
          exchangeStatus :=
            Function.update state.exchangeStatus orderInfo.key orderInfo.status
          inFlight :=
            if state.service.streamStatus = .connected then state.inFlight ++ [orderInfo]
            else state.inFlight }
  | processMessage {orderInfo : OrderInfo} {rest : List OrderInfo}
      (next : state.inFlight = orderInfo :: rest) :
      LinkStep state (.processMessage orderInfo)
        { state with
          service := state.service.updateWaits (publishOrderUpdate exchange orderInfo)
          inFlight := rest }
  | divertMessage {orderInfo : OrderInfo} {rest groupOrders : List OrderInfo} {error : String}
      (bybit : exchange = .bybit) (next : state.inFlight = orderInfo :: rest)
      (filled : isOrderFilled exchange orderInfo.status)
      (linked : orderInfo.clientOrderId ≠ "") :
      LinkStep state (.divertMessage orderInfo groupOrders error)
        { state with
          service := state.service.updateWaits fun waits =>
            groupOrders.foldl (fun waits order => publishOrderWaitError order error waits) waits
          inFlight := rest }

/-- The call and what happens around it, as far as it is allowed to. -/
def linkSystem (allowed : LinkState → LinkEvent → Prop) :
    SharedSystem WaitEffect WaitEffect.Answer LinkState where
  performs := LinkPerforms exchange
  interferes := fun state after => ∃ event, LinkStep exchange state event after ∧
    allowed state event

/-- The stream is not connected again while an order that the call has found
open has settled unseen, and no fill of such an order is dropped. -/
def NoUnseenGap (state : LinkState) : LinkEvent → Prop
  | .streamStatus .connected _ _ =>
      state.service.streamStatus ≠ .connected →
        ∀ orderKey ∈ state.openWhenQueried,
          isOrderTerminal exchange (state.exchangeStatus orderKey) →
            Settled exchange state.service.pendingOrderWaits orderKey
  | .divertMessage orderInfo groupOrders _ =>
      orderInfo.key ∈ state.openWhenQueried →
        ∃ order ∈ groupOrders, order.key = orderInfo.key
  | _ => True

end System

/-! ## Settled entries stay settled -/

section Settled

variable {exchange : ExchangerType} {waits : PendingOrderWaits} {orderKey target : OrderKey}

theorem entry_terminal_iff {pendingWait : PendingOrderWait} :
    isEntryTerminal exchange pendingWait ↔ settlement exchange pendingWait.orderInfo ≠ ⊥ := by
  unfold isEntryTerminal settlement
  cases pendingWait.orderInfo with
  | none => simp [RankedCell.cellRank]
  | some orderInfo => exact Settlement.of_status_ne_bot_iff.symm

/-- An offer to the cell of an entry cannot unsettle it, and a terminal one settles it. -/
theorem EntrySettled.offer {pendingWait : PendingOrderWait} {orderInfo : OrderInfo}
    (settles : EntrySettled exchange pendingWait ∨ isOrderTerminal exchange orderInfo.status) :
    EntrySettled exchange { pendingWait with
      orderInfo := RankedCell.offer (Settlement.ofOrder exchange) pendingWait.orderInfo
        orderInfo } := by
  have joined : settlement exchange
      (RankedCell.offer (Settlement.ofOrder exchange) pendingWait.orderInfo orderInfo) =
        settlement exchange pendingWait.orderInfo ⊔ Settlement.ofOrder exchange orderInfo :=
    RankedCell.cell_rank_offer _ _
  have climbed : ∀ lower : Settlement, lower ≠ ⊥ →
      lower ≤ settlement exchange pendingWait.orderInfo ⊔ Settlement.ofOrder exchange orderInfo →
      isEntryTerminal exchange { pendingWait with
        orderInfo := RankedCell.offer (Settlement.ofOrder exchange) pendingWait.orderInfo
          orderInfo } := by
    intro lower settled below
    rw [entry_terminal_iff, joined]
    exact (lt_of_lt_of_le (bot_lt_iff_ne_bot.mpr settled) below).ne'
  rcases settles with (error | terminal) | terminal
  · left
    cases exchange with
    | binance => cases error
    | bybit => exact error
  · right
    exact climbed _ (entry_terminal_iff.mp terminal) le_sup_left
  · right
    exact climbed _ (Settlement.of_order_ne_bot terminal) le_sup_right

theorem Settled.register (settled : Settled exchange waits orderKey) :
    Settled exchange (registerPendingOrder target waits) orderKey := by
  obtain ⟨pendingWait, live, settles⟩ := settled
  by_cases own : orderKey = target
  · subst own
    refine ⟨{ pendingWait with registrationCount := pendingWait.registrationCount + 1 }, ?_,
      settles⟩
    rw [registerPendingOrder, Function.update_self, live, Option.getD_some]
  · refine ⟨pendingWait, ?_, settles⟩
    rw [registerPendingOrder, Function.update_of_ne own, live]

/-- While somebody stays registered. -/
theorem Settled.unregister {count : ℕ} (settled : Settled exchange waits orderKey)
    (counts : Counts (unregisterPendingOrder target waits) orderKey count)
    (positive : 0 < count) :
    Settled exchange (unregisterPendingOrder target waits) orderKey := by
  obtain ⟨pendingWait, live, settles⟩ := settled
  obtain ⟨left, there⟩ := counts.present positive
  refine ⟨left, there, ?_⟩
  unfold unregisterPendingOrder at there
  by_cases own : orderKey = target
  · subst own
    rw [live] at there
    simp only at there
    split_ifs at there
    · rw [Function.update_self] at there
      cases there
      exact settles
    · rw [Function.update_self] at there
      cases there
  · cases found : waits target with
    | none =>
        rw [found] at there
        cases live.symm.trans there
        exact settles
    | some other =>
        rw [found] at there
        simp only at there
        split_ifs at there <;> rw [Function.update_of_ne own, live] at there <;> cases there <;>
          exact settles

/-- A terminal update settles its own entry. -/
theorem settled_of_publish {orderInfo : OrderInfo} {pendingWait : PendingOrderWait}
    (symbol : orderInfo.symbol ≠ "") (orderId : orderInfo.orderId ≠ "")
    (live : waits orderInfo.key = some pendingWait)
    (settles : EntrySettled exchange pendingWait ∨ isOrderTerminal exchange orderInfo.status) :
    Settled exchange (publishOrderUpdate exchange orderInfo waits) orderInfo.key :=
  ⟨_, publish_order_update_own symbol orderId live, EntrySettled.offer settles⟩

theorem Settled.publish {orderInfo : OrderInfo} (settled : Settled exchange waits orderKey) :
    Settled exchange (publishOrderUpdate exchange orderInfo waits) orderKey := by
  obtain ⟨pendingWait, live, settles⟩ := settled
  by_cases own : orderInfo.key = orderKey
  · subst own
    by_cases named : orderInfo.symbol = "" ∨ orderInfo.orderId = ""
    · rw [publishOrderUpdate, if_pos named]
      exact ⟨pendingWait, live, settles⟩
    · rw [not_or] at named
      exact settled_of_publish named.1 named.2 live (.inl settles)
  · exact ⟨pendingWait, (publish_order_update_other own).trans live, settles⟩

theorem Settled.publish_error {orderInfo : OrderInfo} {error : String}
    (settled : Settled exchange waits orderKey) :
    Settled exchange (publishOrderWaitError orderInfo error waits) orderKey := by
  obtain ⟨pendingWait, live, settles⟩ := settled
  unfold publishOrderWaitError
  split_ifs
  · exact ⟨pendingWait, live, settles⟩
  · cases found : waits orderInfo.key with
    | none => exact ⟨pendingWait, live, settles⟩
    | some other =>
        by_cases own : orderKey = orderInfo.key
        · subst own
          cases found.symm.trans live
          refine ⟨_, Function.update_self _ _ _, ?_⟩
          cases exchange with
          | binance => exact settles
          | bybit => exact .inl rfl
        · exact ⟨pendingWait, (Function.update_of_ne own _ _).trans live, settles⟩

theorem Settled.publish_errors {orders : List OrderInfo} {error : String}
    (settled : Settled exchange waits orderKey) :
    Settled exchange
      (orders.foldl (fun waits order => publishOrderWaitError order error waits) waits)
      orderKey := by
  induction orders generalizing waits with
  | nil => exact settled
  | cons order orders ih => exact ih settled.publish_error

theorem publish_order_wait_error_live {orderInfo : OrderInfo} {error : String} :
    (publishOrderWaitError orderInfo error waits orderKey).isSome = (waits orderKey).isSome := by
  unfold publishOrderWaitError
  split_ifs
  · rfl
  · cases found : waits orderInfo.key with
    | none => rfl
    | some pendingWait =>
        by_cases own : orderKey = orderInfo.key
        · subst own
          simp [found]
        · simp [Function.update_of_ne own]

/-- Bybit: an error published to an order settles its entry. -/
theorem settled_of_publish_errors {orders : List OrderInfo} {error : String} {order : OrderInfo}
    (member : order ∈ orders) (symbol : order.symbol ≠ "") (orderId : order.orderId ≠ "")
    (live : (waits order.key).isSome) :
    Settled .bybit
      (orders.foldl (fun waits order => publishOrderWaitError order error waits) waits)
      order.key := by
  induction orders generalizing waits with
  | nil => cases member
  | cons first orders ih =>
      rcases List.mem_cons.mp member with rfl | later
      · rw [List.foldl_cons]
        apply Settled.publish_errors
        obtain ⟨pendingWait, found⟩ := Option.isSome_iff_exists.mp live
        have published : publishOrderWaitError order error waits order.key =
            some { pendingWait with error := some error } := by
          simp [publishOrderWaitError, symbol, orderId, found]
        exact ⟨_, published, .inl rfl⟩
      · apply ih later
        rw [publish_order_wait_error_live]
        exact live

end Settled

/-! ## What a waiting call has seen -/

/-- The orders that the call has queried under its registrations. -/
def queriedKeys : WaitHistory → List OrderKey
  | [] => []
  | ⟨.getOrder query, .ok _⟩ :: history => query.key :: queriedKeys history
  | ⟨.unregisterPendingOrder _, _⟩ :: _ => []
  | _ :: history => queriedKeys history

/-- The call has just been told of this order and publishes that next. -/
def Owes (history : WaitHistory) (orderInfo : OrderInfo) : Prop :=
  ∃ query earlier, history = ⟨.getOrder query, .ok orderInfo⟩ :: earlier

/-- A call registers before it queries and queries before it waits. -/
def inOrder (history : WaitHistory) : WaitEffect → Prop
  | .getOrder query =>
      0 < registrations history query.key ∧ query.key.1 ≠ "" ∧ query.key.2 ≠ ""
  | .awaitOrder orderKey => orderKey ∈ queriedKeys history
  | .awaitOco need takeProfitKey stopLossKey =>
      need = .either ∧ takeProfitKey ∈ queriedKeys history ∧ stopLossKey ∈ queriedKeys history
  | _ => True

/-- What a waiting call keeps to; what it has queried it publishes at once. -/
def linkRequires (history : WaitHistory) (effect : WaitEffect) : Prop :=
  waitRequires (fun _ => True) history effect ∧
  (∀ orderInfo, Owes history orderInfo → effect = .publishOrderUpdate orderInfo) ∧
  inOrder history effect

def linkContract : Contract WaitEffect WaitEffect.Answer where
  requires := linkRequires
  ensures := fun _ _ _ => True

section Invariant

variable (exchange : ExchangerType)

/-- The entry is settled, or the call is about to settle it. -/
def KnownSettled (history : WaitHistory) (state : LinkState) (orderKey : OrderKey) : Prop :=
  Settled exchange state.service.pendingOrderWaits orderKey ∨
    ∃ orderInfo, Owes history orderInfo ∧ orderInfo.key = orderKey ∧
      isOrderTerminal exchange orderInfo.status

def TerminalInFlight (state : LinkState) (orderKey : OrderKey) : Prop :=
  ∃ orderInfo ∈ state.inFlight, orderInfo.key = orderKey ∧
    isOrderTerminal exchange orderInfo.status

/-- While the stream is connected, what has become of a queried order is known
or on its way. -/
structure LinkInvariant (history : WaitHistory) (state : LinkState) : Prop where
  service : WaitInvariant (fun _ => True) history state.service
  queried : ∀ orderKey ∈ queriedKeys history,
    0 < registrations history orderKey ∧ orderKey.1 ≠ "" ∧ orderKey.2 ≠ ""
  foundSettled : ∀ orderKey ∈ queriedKeys history, orderKey ∉ state.openWhenQueried →
    KnownSettled exchange history state orderKey
  seen : state.service.streamStatus = .connected → ∀ orderKey ∈ queriedKeys history,
    isOrderTerminal exchange (state.exchangeStatus orderKey) →
      KnownSettled exchange history state orderKey ∨ TerminalInFlight exchange state orderKey

end Invariant

section Steps

variable {exchange : ExchangerType} {history : WaitHistory} {state after : LinkState}

theorem link_invariant_start : LinkInvariant exchange [] {} where
  service := wait_invariant_start
  queried := nofun
  foundSettled := nofun
  seen := nofun

theorem LinkInvariant.live {orderKey : OrderKey} (invariant : LinkInvariant exchange history state)
    (queried : orderKey ∈ queriedKeys history) :
    ∃ pendingWait, state.service.pendingOrderWaits orderKey = some pendingWait := by
  have registered := (invariant.queried orderKey queried).1
  exact (invariant.service.counted orderKey).present (by omega)

/-- What others do to the waits leaves settled entries settled. -/
theorem settled_of_interference {service : WaitState} {orderKey : OrderKey} {count : ℕ}
    (interfered : WaitInterferes exchange state.service service)
    (settled : Settled exchange state.service.pendingOrderWaits orderKey)
    (counts : Counts service.pendingOrderWaits orderKey count) (positive : 0 < count) :
    Settled exchange service.pendingOrderWaits orderKey := by
  cases interfered with
  | report | stream | requestStop => exact settled
  | publish orderInfo reported => exact settled.publish
  | publishError orderInfo error bybit => exact settled.publish_error
  | register target => exact settled.register
  | unregister target held => exact settled.unregister counts positive

theorem LinkInvariant.interfered {service : WaitState}
    (invariant : LinkInvariant exchange history state)
    (interfered : WaitInterferes exchange state.service service)
    (sameStream : service.streamStatus = state.service.streamStatus) :
    LinkInvariant exchange history { state with service } := by
  have kept := wait_interfere invariant.service interfered fun _ _ => trivial
  have known : ∀ orderKey ∈ queriedKeys history, KnownSettled exchange history state orderKey →
      KnownSettled exchange history { state with service } orderKey := by
    intro orderKey queried known
    have registered := (invariant.queried orderKey queried).1
    exact known.imp_left fun settled =>
      settled_of_interference interfered settled (kept.counted orderKey) (by omega)
  constructor
  · exact kept
  · exact invariant.queried
  · intro orderKey queried closed
    exact known orderKey queried (invariant.foundSettled orderKey queried closed)
  · intro connected orderKey queried terminal
    exact (invariant.seen (sameStream.symm.trans connected) orderKey queried terminal).imp_left
      (known orderKey queried)

theorem LinkInvariant.stream_status {status : StreamStatus} {lastError : String}
    {remaining : List OrderInfo} (invariant : LinkInvariant exchange history state)
    (lost : remaining = state.inFlight ∨ status ≠ .connected ∧ remaining.Sublist state.inFlight)
    (allowed : NoUnseenGap exchange state (.streamStatus status lastError remaining)) :
    LinkInvariant exchange history
      { state with
        service := { state.service with streamStatus := status, streamLastError := lastError }
        inFlight := remaining } := by
  constructor
  · exact ⟨invariant.service.counted, invariant.service.stores⟩
  · exact invariant.queried
  · exact invariant.foundSettled
  · intro connected orderKey queried terminal
    change status = .connected at connected
    subst connected
    rcases lost with rfl | ⟨gone, -⟩
    · by_cases before : state.service.streamStatus = .connected
      · exact invariant.seen before orderKey queried terminal
      · left
        by_cases wasOpen : orderKey ∈ state.openWhenQueried
        · exact .inl (allowed before orderKey wasOpen terminal)
        · exact invariant.foundSettled orderKey queried wasOpen
    · exact absurd rfl gone

theorem LinkInvariant.order_changes {orderInfo : OrderInfo}
    (invariant : LinkInvariant exchange history state) :
    LinkInvariant exchange history
      { state with
        exchangeStatus := Function.update state.exchangeStatus orderInfo.key orderInfo.status
        inFlight :=
          if state.service.streamStatus = .connected then state.inFlight ++ [orderInfo]
          else state.inFlight } := by
  constructor
  · exact invariant.service
  · exact invariant.queried
  · exact invariant.foundSettled
  · intro connected orderKey queried terminal
    change isOrderTerminal exchange
      (Function.update state.exchangeStatus orderInfo.key orderInfo.status orderKey) at terminal
    have sent : ∀ earlier ∈ state.inFlight ++ [orderInfo],
        earlier ∈ if state.service.streamStatus = .connected then state.inFlight ++ [orderInfo]
          else state.inFlight := by
      intro earlier member
      rw [if_pos connected]
      exact member
    by_cases own : orderKey = orderInfo.key
    · subst own
      rw [Function.update_self] at terminal
      exact .inr ⟨orderInfo, sent _ (List.mem_append_right _ List.mem_cons_self), rfl, terminal⟩
    · rw [Function.update_of_ne own] at terminal
      rcases invariant.seen connected orderKey queried terminal with
        known | ⟨earlier, member, key, settles⟩
      · exact .inl known
      · exact .inr ⟨earlier, sent _ (List.mem_append_left _ member), key, settles⟩

/-- The next message leaves the queue, and its entry is settled if it is terminal. -/
theorem LinkInvariant.message {orderInfo : OrderInfo} {rest : List OrderInfo} {service : WaitState}
    (invariant : LinkInvariant exchange history state)
    (next : state.inFlight = orderInfo :: rest)
    (kept : WaitInvariant (fun _ => True) history service)
    (sameStream : service.streamStatus = state.service.streamStatus)
    (settled : ∀ orderKey, Settled exchange state.service.pendingOrderWaits orderKey →
      Settled exchange service.pendingOrderWaits orderKey)
    (settles : ∀ orderKey ∈ queriedKeys history, orderInfo.key = orderKey →
      isOrderTerminal exchange orderInfo.status →
      KnownSettled exchange history { state with service, inFlight := rest } orderKey) :
    LinkInvariant exchange history { state with service, inFlight := rest } := by
  have known : ∀ orderKey, KnownSettled exchange history state orderKey →
      KnownSettled exchange history { state with service, inFlight := rest } orderKey :=
    fun orderKey known => known.imp_left (settled orderKey)
  constructor
  · exact kept
  · exact invariant.queried
  · intro orderKey queried closed
    exact known orderKey (invariant.foundSettled orderKey queried closed)
  · intro connected orderKey queried terminal
    rcases invariant.seen (sameStream.symm.trans connected) orderKey queried terminal with
      before | ⟨earlier, member, key, terminalThere⟩
    · exact .inl (known orderKey before)
    · rw [next] at member
      rcases List.mem_cons.mp member with rfl | later
      · exact .inl (settles orderKey queried key terminalThere)
      · exact .inr ⟨earlier, later, key, terminalThere⟩

theorem link_interfere {event : LinkEvent} (invariant : LinkInvariant exchange history state)
    (step : LinkStep exchange state event after) (allowed : NoUnseenGap exchange state event) :
    LinkInvariant exchange history after := by
  cases step with
  | service interfered sameStream => exact invariant.interfered interfered sameStream
  | streamStatus lost => exact invariant.stream_status lost allowed
  | orderChanges live => exact invariant.order_changes
  | @processMessage orderInfo rest next =>
      apply invariant.message next
      · exact invariant.service.publish trivial rfl
      · rfl
      · exact fun _ settled => settled.publish
      · intro orderKey queried key terminal
        subst key
        obtain ⟨pendingWait, live⟩ := invariant.live queried
        have named := (invariant.queried _ queried).2
        exact .inl (settled_of_publish named.1 named.2 live (.inr terminal))
  | @divertMessage orderInfo rest groupOrders error bybit next filled linked =>
      apply invariant.message next
      · have kept := invariant.service.publish_errors groupOrders error
        exact ⟨kept.counted, kept.stores⟩
      · rfl
      · exact fun _ settled => settled.publish_errors
      · intro orderKey queried key terminal
        subst key
        by_cases wasOpen : orderInfo.key ∈ state.openWhenQueried
        · obtain ⟨order, member, same⟩ := allowed wasOpen
          obtain ⟨pendingWait, live⟩ := invariant.live queried
          have named := (invariant.queried _ queried).2
          rw [← same] at live named ⊢
          subst bybit
          exact .inl (settled_of_publish_errors member named.1 named.2 (by simp [live]))
        · exact (invariant.foundSettled _ queried wasOpen).imp_left fun settled =>
            settled.publish_errors

/-- A step of the call that only adds settled entries. -/
theorem LinkInvariant.quiet_act {effect : WaitEffect} {answer : effect.Answer}
    (invariant : LinkInvariant exchange history state)
    (kept : WaitInvariant (fun _ => True) (⟨effect, answer⟩ :: history) after.service)
    (unowed : ∀ orderInfo, ¬ Owes history orderInfo)
    (queriesNothing : queriedKeys (⟨effect, answer⟩ :: history) = queriedKeys history)
    (registered : ∀ orderKey, registrations history orderKey ≤
      registrations (⟨effect, answer⟩ :: history) orderKey)
    (sameStream : after.service.streamStatus = state.service.streamStatus)
    (sameExchange : after.exchangeStatus = state.exchangeStatus)
    (sameQueue : after.inFlight = state.inFlight)
    (sameOpen : after.openWhenQueried = state.openWhenQueried)
    (settled : ∀ orderKey, Settled exchange state.service.pendingOrderWaits orderKey →
      Settled exchange after.service.pendingOrderWaits orderKey) :
    LinkInvariant exchange (⟨effect, answer⟩ :: history) after := by
  have known : ∀ orderKey, KnownSettled exchange history state orderKey →
      KnownSettled exchange (⟨effect, answer⟩ :: history) after orderKey := by
    intro orderKey known
    rcases known with before | ⟨orderInfo, owed, -⟩
    · exact .inl (settled orderKey before)
    · exact absurd owed (unowed orderInfo)
  constructor
  · exact kept
  · intro orderKey queried
    rw [queriesNothing] at queried
    have before := invariant.queried orderKey queried
    exact ⟨lt_of_lt_of_le before.1 (registered orderKey), before.2⟩
  · intro orderKey queried closed
    rw [queriesNothing] at queried
    rw [sameOpen] at closed
    exact known orderKey (invariant.foundSettled orderKey queried closed)
  · intro connected orderKey queried terminal
    rw [queriesNothing] at queried
    rw [sameStream] at connected
    rw [sameExchange] at terminal
    rcases invariant.seen connected orderKey queried terminal with before | ⟨orderInfo, sent⟩
    · exact .inl (known orderKey before)
    · exact .inr ⟨orderInfo, sameQueue ▸ sent⟩

theorem LinkInvariant.get_order {query : OrderQuery} {orderInfo : OrderInfo}
    (invariant : LinkInvariant exchange history state)
    (kept : WaitInvariant (fun _ => True) (⟨.getOrder query, .ok orderInfo⟩ :: history)
      after.service)
    (required : linkRequires history (.getOrder query))
    (performed : LinkPerforms exchange state (.getOrder query) (.ok orderInfo) after) :
    LinkInvariant exchange (⟨.getOrder query, .ok orderInfo⟩ :: history) after := by
  obtain ⟨reported, sameExchange, sameQueue, answered, status, found⟩ := performed
  change after.service = state.service.report _ at reported
  have known : ∀ orderKey, KnownSettled exchange history state orderKey →
      KnownSettled exchange (⟨.getOrder query, .ok orderInfo⟩ :: history) after orderKey := by
    intro orderKey known
    rcases known with before | ⟨owedInfo, owed, -⟩
    · left
      rw [reported]
      exact before
    · cases required.2.1 owedInfo owed
  have owes : isOrderTerminal exchange orderInfo.status →
      KnownSettled exchange (⟨.getOrder query, .ok orderInfo⟩ :: history) after query.key :=
    fun terminal => .inr ⟨orderInfo, ⟨query, history, rfl⟩, answered, terminal⟩
  constructor
  · exact kept
  · intro orderKey queried
    rcases List.mem_cons.mp queried with rfl | earlier
    · exact required.2.2
    · exact invariant.queried orderKey earlier
  · intro orderKey queried closed
    rw [found] at closed
    split_ifs at closed with terminal
    · rcases List.mem_cons.mp queried with rfl | earlier
      · exact owes terminal
      · exact known orderKey (invariant.foundSettled orderKey earlier closed)
    · rw [List.mem_cons, not_or] at closed
      rcases List.mem_cons.mp queried with same | earlier
      · exact absurd same closed.1
      · exact known orderKey (invariant.foundSettled orderKey earlier closed.2)
  · intro connected orderKey queried terminal
    rw [reported] at connected
    rw [sameExchange] at terminal
    rcases List.mem_cons.mp queried with rfl | earlier
    · rw [← status] at terminal
      exact .inl (owes terminal)
    · rcases invariant.seen connected orderKey earlier terminal with before | ⟨sentInfo, sent⟩
      · exact .inl (known orderKey before)
      · exact .inr ⟨sentInfo, sameQueue ▸ sent⟩

/-- Publishing settles what the call owes. -/
theorem LinkInvariant.publish_owed {orderInfo : OrderInfo} {answer : Unit}
    (invariant : LinkInvariant exchange history state)
    (kept : WaitInvariant (fun _ => True) (⟨.publishOrderUpdate orderInfo, answer⟩ :: history)
      after.service)
    (required : linkRequires history (.publishOrderUpdate orderInfo))
    (performed : LinkPerforms exchange state (.publishOrderUpdate orderInfo) answer after) :
    LinkInvariant exchange (⟨.publishOrderUpdate orderInfo, answer⟩ :: history) after := by
  obtain ⟨published, sameExchange, sameQueue, sameOpen⟩ := performed
  change after.service = state.service.updateWaits _ at published
  have known : ∀ orderKey ∈ queriedKeys history, KnownSettled exchange history state orderKey →
      KnownSettled exchange (⟨.publishOrderUpdate orderInfo, answer⟩ :: history) after
        orderKey := by
    intro orderKey queried known
    left
    rw [published]
    rcases known with before | ⟨owedInfo, owed, rfl, terminal⟩
    · exact before.publish
    · cases required.2.1 owedInfo owed
      obtain ⟨pendingWait, live⟩ := invariant.live queried
      have named := (invariant.queried _ queried).2
      exact settled_of_publish named.1 named.2 live (.inr terminal)
  constructor
  · exact kept
  · exact invariant.queried
  · intro orderKey queried closed
    rw [sameOpen] at closed
    exact known orderKey queried (invariant.foundSettled orderKey queried closed)
  · intro connected orderKey queried terminal
    rw [published] at connected
    rw [sameExchange] at terminal
    rcases invariant.seen connected orderKey queried terminal with before | ⟨sentInfo, sent⟩
    · exact .inl (known orderKey queried before)
    · exact .inr ⟨sentInfo, sameQueue ▸ sent⟩

/-- A step of the call that touches neither the waits nor the stream. -/
theorem LinkInvariant.idle_act {effect : WaitEffect} {answer : effect.Answer}
    (invariant : LinkInvariant exchange history state)
    (kept : WaitInvariant (fun _ => True) (⟨effect, answer⟩ :: history) after.service)
    (unowed : ∀ orderInfo, ¬ Owes history orderInfo)
    (queriesNothing : queriedKeys (⟨effect, answer⟩ :: history) = queriedKeys history)
    (registersNothing : registrations (⟨effect, answer⟩ :: history) = registrations history)
    (sameWaits : after.service.pendingOrderWaits = state.service.pendingOrderWaits)
    (sameStream : after.service.streamStatus = state.service.streamStatus)
    (sameExchange : after.exchangeStatus = state.exchangeStatus)
    (sameQueue : after.inFlight = state.inFlight)
    (sameOpen : after.openWhenQueried = state.openWhenQueried) :
    LinkInvariant exchange (⟨effect, answer⟩ :: history) after := by
  apply invariant.quiet_act kept unowed queriesNothing _ sameStream sameExchange sameQueue sameOpen
  · intro orderKey settled
    rw [sameWaits]
    exact settled
  · intro orderKey
    rw [registersNothing]

theorem link_act {effect : WaitEffect} {answer : effect.Answer}
    (invariant : LinkInvariant exchange history state) (required : linkRequires history effect)
    (performed : LinkPerforms exchange state effect answer after) :
    LinkInvariant exchange (⟨effect, answer⟩ :: history) after := by
  have kept := (wait_act invariant.service required.1 performed.1 fun _ _ => trivial).2
  have unowed : (∀ orderInfo, effect = .publishOrderUpdate orderInfo → False) →
      ∀ orderInfo, ¬ Owes history orderInfo :=
    fun other orderInfo owed => other orderInfo (required.2.1 orderInfo owed)
  cases effect with
  | getOrder query =>
      cases answer with
      | ok orderInfo => exact invariant.get_order kept required performed
      | error failure =>
          obtain ⟨same, sameExchange, sameQueue, sameOpen⟩ := performed
          change after.service = state.service at same
          exact invariant.idle_act kept (unowed fun _ => WaitEffect.noConfusion) rfl rfl
            (by rw [same]) (by rw [same]) sameExchange sameQueue sameOpen
  | publishOrderUpdate orderInfo => exact invariant.publish_owed kept required performed
  | unregisterPendingOrder orderKey =>
      constructor
      · exact kept
      · exact fun _ queried => absurd queried List.not_mem_nil
      · exact fun _ queried => absurd queried List.not_mem_nil
      · exact fun _ _ queried => absurd queried List.not_mem_nil
  | registerPendingOrder target =>
      obtain ⟨same, sameExchange, sameQueue, sameOpen⟩ := performed
      change after.service = state.service.updateWaits _ at same
      apply invariant.quiet_act kept (unowed fun _ => WaitEffect.noConfusion) rfl
        (fun _ => Nat.le_add_right _ _) (by rw [same]; rfl) sameExchange sameQueue sameOpen
      rw [same]
      exact fun _ settled => settled.register
  | publishOcoError orderLinkId error =>
      obtain ⟨⟨orders, same⟩, sameExchange, sameQueue, sameOpen⟩ := performed
      apply invariant.quiet_act kept (unowed fun _ => WaitEffect.noConfusion) rfl
        (fun _ => le_rfl) (by rw [same]; rfl) sameExchange sameQueue sameOpen
      rw [same]
      exact fun _ settled => settled.publish_errors
  | ensureUserStreamConnected =>
      obtain ⟨-, sameExchange, sameQueue, same, sameOpen, -⟩ := performed
      exact invariant.idle_act kept (unowed fun _ => WaitEffect.noConfusion) rfl rfl
        (by rw [same]) (by rw [same]) sameExchange sameQueue sameOpen
  | cancelOrder query =>
      obtain ⟨answered, sameExchange, sameQueue, sameOpen⟩ := performed
      cases answer with
      | ok orderInfo =>
          change after.service = state.service.report _ at answered
          exact invariant.idle_act kept (unowed fun _ => WaitEffect.noConfusion) rfl rfl
            (by rw [answered]; rfl) (by rw [answered]; rfl) sameExchange sameQueue sameOpen
      | error failure =>
          change after.service = state.service at answered
          exact invariant.idle_act kept (unowed fun _ => WaitEffect.noConfusion) rfl rfl
            (by rw [answered]) (by rw [answered]) sameExchange sameQueue sameOpen
  | cancelOco | processOcoUpdate =>
      obtain ⟨same, sameExchange, sameQueue, sameOpen⟩ := performed
      change after.service = state.service at same
      exact invariant.idle_act kept (unowed fun _ => WaitEffect.noConfusion) rfl rfl
        (by rw [same]) (by rw [same]) sameExchange sameQueue sameOpen
  | stopRequested | getPendingOrderWait | getPendingOcoWaits | awaitOrder | awaitOco
    | getUserStreamLastError =>
      obtain ⟨⟨-, same⟩, sameExchange, sameQueue, sameOpen⟩ := performed
      exact invariant.idle_act kept (unowed fun _ => WaitEffect.noConfusion) rfl rfl
        (by rw [same]) (by rw [same]) sameExchange sameQueue sameOpen

theorem link_guarantees :
    Guarantees (linkSystem exchange (NoUnseenGap exchange)) linkContract (fun _ => True)
      (LinkInvariant exchange) where
  covers_before_act := fun _ _ => trivial
  covers_before_interference := fun _ _ => trivial
  act := fun invariant required performed _ => ⟨trivial, link_act invariant required performed⟩
  interfere := by
    intro history state after invariant interfered _
    obtain ⟨event, step, allowed⟩ := interfered
    exact link_interfere invariant step allowed

end Steps

/-! ## What the calls keep to -/

/-- Between two requests of a call: its registrations, what it has queried, and nothing owed. -/
structure Ready (registered : OrderKey → ℕ) (queried : List OrderKey) (history : WaitHistory) :
    Prop where
  registered : registrations history = registered
  queried : ∀ orderKey ∈ queried, orderKey ∈ queriedKeys history
  unowed : ∀ orderInfo, ¬ Owes history orderInfo

section Calls

variable {exchange : ExchangerType} {registered : OrderKey → ℕ} {queried : List OrderKey}
  {Result : Type} {history : WaitHistory}

theorem Ready.forget {earlier : List OrderKey} (ready : Ready registered queried history)
    (within : ∀ orderKey ∈ earlier, orderKey ∈ queried) : Ready registered earlier history :=
  ⟨ready.registered, fun orderKey member => ready.queried orderKey (within orderKey member),
    ready.unowed⟩

theorem Ready.requires {effect : WaitEffect} (ready : Ready registered queried history)
    (needed : waitRequires (fun _ => True) history effect) (ordered : inOrder history effect) :
    linkRequires history effect :=
  ⟨needed, fun orderInfo owed => absurd owed (ready.unowed orderInfo), ordered⟩

def isOrderQuery : WaitEffect → Bool
  | .getOrder _ => true
  | _ => false

theorem Ready.after {effect : WaitEffect} {answer : effect.Answer}
    (ready : Ready registered queried history)
    (registersNothing : registrations (⟨effect, answer⟩ :: history) = registrations history)
    (queriesNothing : queriedKeys (⟨effect, answer⟩ :: history) = queriedKeys history)
    (noQuery : isOrderQuery effect = false) :
    Ready registered queried (⟨effect, answer⟩ :: history) := by
  constructor
  · exact registersNothing.trans ready.registered
  · rw [queriesNothing]
    exact ready.queried
  · intro orderInfo owed
    obtain ⟨query, earlier, same⟩ := owed
    cases same
    cases noQuery

/-- Requests other than queries and registrations keep a call ready. -/
theorem ready_request {effect : WaitEffect} {next : effect.Answer → WaitProgram Result}
    (noQuery : isOrderQuery effect = false)
    (registersNothing : ∀ (history : WaitHistory) answer,
      registrations (⟨effect, answer⟩ :: history) = registrations history)
    (queriesNothing : ∀ (history : WaitHistory) answer,
      queriedKeys (⟨effect, answer⟩ :: history) = queriedKeys history)
    (needed : ∀ history, Ready registered queried history →
      waitRequires (fun _ => True) history effect ∧ inOrder history effect)
    (continues : ∀ answer, Preserves linkContract (Ready registered queried) (next answer)) :
    Preserves linkContract (Ready registered queried) (.request effect next) := by
  apply preserves_request
  · intro history ready
    exact ready.requires (needed history ready).1 (needed history ready).2
  · intro history answer ready
    exact ready.after (registersNothing history answer) (queriesNothing history answer) noQuery
  · exact continues

theorem ready_stop_check {description : String} :
    Preserves linkContract (Ready registered queried) (throwIfStopRequested description) :=
  ready_request rfl (fun _ _ => rfl) (fun _ _ => rfl) (fun _ _ => ⟨trivial, trivial⟩) fun _ =>
    preserves_lift _

theorem ready_ensure_user_stream_connected :
    Preserves linkContract (Ready registered queried) ensureUserStreamConnected :=
  ready_request rfl (fun _ _ => rfl) (fun _ _ => rfl) (fun _ _ => ⟨trivial, trivial⟩) fun _ =>
    preserves_lift _

theorem ready_stream_stopped (failure : String → ServiceFailure) :
    Preserves linkContract (Ready registered queried)
      (getUserStreamLastError >>= fun streamError =>
        (.threw (failure streamError) : WaitProgram Result)) :=
  ready_request rfl (fun _ _ => rfl) (fun _ _ => rfl) (fun _ _ => ⟨trivial, trivial⟩) fun _ =>
    preserves_threw _

/-- A successful reconciliation leaves its order among the queried ones. -/
theorem meets_reconcile_ready {orderInfo : OrderInfo} (own : 0 < registered orderInfo.key)
    (symbol : orderInfo.symbol ≠ "") (orderId : orderInfo.orderId ≠ "")
    (ready : Ready registered queried history) :
    Meets linkContract
      (fun later outcome => Ready registered queried later ∧
        (outcome = .ok () → Ready registered (orderInfo.key :: queried) later))
      (reconcileOrder orderInfo) history := by
  refine ⟨ready.requires trivial ⟨ready.registered ▸ own, symbol, orderId⟩, ?_⟩
  intro answer _
  cases answer with
  | error failure =>
      have queriedMore : Ready registered queried
          (⟨.getOrder (reconciliationQuery orderInfo), .error failure⟩ :: history) := by
        refine ⟨ready.registered, ready.queried, ?_⟩
        intro owedInfo owed
        obtain ⟨query, earlier, same⟩ := owed
        cases same
      exact ⟨queriedMore, nofun⟩
  | ok current =>
      refine ⟨⟨trivial, ?_, trivial⟩, ?_⟩
      · intro owedInfo owed
        obtain ⟨query, earlier, same⟩ := owed
        cases same
        rfl
      · intro published _
        have queriedMore : Ready registered (orderInfo.key :: queried)
            (⟨.publishOrderUpdate current, published⟩ ::
              ⟨.getOrder (reconciliationQuery orderInfo), .ok current⟩ :: history) := by
          refine ⟨ready.registered, ?_, ?_⟩
          · intro orderKey member
            rcases List.mem_cons.mp member with rfl | earlier
            · exact List.mem_cons_self
            · exact List.mem_cons_of_mem _ (ready.queried orderKey earlier)
          · intro owedInfo owed
            obtain ⟨query, earlier, same⟩ := owed
            cases same
        exact ⟨queriedMore.forget fun _ => List.mem_cons_of_mem _, fun _ => queriedMore⟩

theorem ready_reconcile_order {orderInfo : OrderInfo} (own : 0 < registered orderInfo.key)
    (symbol : orderInfo.symbol ≠ "") (orderId : orderInfo.orderId ≠ "") :
    Preserves linkContract (Ready registered queried) (reconcileOrder orderInfo) := by
  intro history ready
  apply (meets_reconcile_ready own symbol orderId ready).weaken
  exact fun _ _ known => known.1

theorem ready_await_order {orderKey : OrderKey} (own : 0 < registered orderKey)
    (known : orderKey ∈ queried) :
    Preserves linkContract (Ready registered queried) (awaitOrder orderKey) :=
  ready_request rfl (fun _ _ => rfl) (fun _ _ => rfl)
    (fun _ ready => ⟨by rw [waitRequires, ready.registered]; exact own, ready.queried _ known⟩)
    fun _ => preserves_lift _

theorem ready_process_order_update {symbol orderId : String} {pendingWait : PendingOrderWait} :
    Preserves linkContract (Ready registered queried)
      (processOrderUpdate exchange symbol orderId pendingWait) := by
  unfold processOrderUpdate
  split
  · exact preserves_threw _
  · split
    · exact preserves_returned _
    · split
      · exact preserves_threw _
      · exact ready_stream_stopped _

/-- One more registration of an order. -/
def addRegistration (registered : OrderKey → ℕ) (target orderKey : OrderKey) : ℕ :=
  registered orderKey + if target = orderKey then 1 else 0

/-- A body under one more registration. -/
theorem meets_register_ready {orderKey : OrderKey} {program : WaitProgram Result}
    (ready : Ready registered queried history)
    (body : ∀ later, Ready (addRegistration registered orderKey) queried later →
      Meets linkContract (fun last _ => Ready (addRegistration registered orderKey) [] last)
        program later) :
    Meets linkContract (fun last _ => Ready registered [] last)
      (withPendingOrderRegistration orderKey program) history := by
  refine ⟨ready.requires trivial trivial, ?_⟩
  intro answer _
  apply (meets_ensuring _ _).mpr
  have inside : Ready (addRegistration registered orderKey) queried
      (⟨.registerPendingOrder orderKey, answer⟩ :: history) := by
    refine ⟨?_, ready.queried, ?_⟩
    · funext other
      rw [registrations, ready.registered]
      rfl
    · intro orderInfo owed
      obtain ⟨query, earlier, same⟩ := owed
      cases same
  apply (body _ inside).weaken
  · intro last outcome kept
    refine ⟨kept.requires ?_ trivial, ?_⟩
    · simp [waitRequires, kept.registered, addRegistration]
    · intro cleaned _
      have left : registrations (⟨.unregisterPendingOrder orderKey, cleaned⟩ :: last) =
          registered := by
        funext other
        simp [registrations, kept.registered, addRegistration]
      refine ⟨left, ?_, ?_⟩
      · intro query asked
        cases asked
      · intro orderInfo owed
        obtain ⟨query, earlier, same⟩ := owed
        cases same

theorem ready_start : Ready (fun _ => 0) [] [] := by
  refine ⟨rfl, nofun, ?_⟩
  intro orderInfo owed
  obtain ⟨query, earlier, same⟩ := owed
  cases same

/-- A preparation that leaves these orders queried, and the body after it. -/
theorem meets_prepared {preparation : WaitProgram Unit} {body : WaitProgram Result}
    (prepares : ∀ later, Ready registered [] later → Meets linkContract
      (fun last outcome => Ready registered [] last ∧
        (outcome = .ok () → Ready registered queried last)) preparation later)
    (keeps : Preserves linkContract (Ready registered queried) body)
    (ready : Ready registered [] history) :
    Meets linkContract (fun last _ => Ready registered [] last)
      (preparation >>= fun _ => body) history := by
  apply (prepares history ready).bind
  · intro later _ prepared
    apply (keeps later (prepared.2 rfl)).weaken
    exact fun _ _ kept => kept.forget nofun
  · exact fun _ _ failed => failed.1

theorem meets_prepare_order_subscription {symbol orderId : String}
    (own : 0 < registered (getOrderKey symbol orderId)) (symbolGiven : symbol ≠ "")
    (orderIdGiven : orderId ≠ "") (ready : Ready registered [] history) :
    Meets linkContract
      (fun last outcome => Ready registered [] last ∧
        (outcome = .ok () → Ready registered [getOrderKey symbol orderId] last))
      (prepareOrderSubscription symbol orderId) history := by
  apply (ready_ensure_user_stream_connected history ready).bind
  · intro later _ connected
    exact meets_reconcile_ready own symbolGiven orderIdGiven connected
  · exact fun _ _ failed => ⟨failed, nofun⟩

/-- The waiting calls start with checks that refuse or change nothing. -/
theorem meets_after_checks {check : Except ServiceFailure Unit} {description : String}
    {rest : WaitProgram Result}
    (goesOn : check = .ok () → ∀ later, Ready (fun _ => 0) [] later →
      Meets linkContract (fun last _ => Ready (fun _ => 0) [] last) rest later) :
    Meets linkContract (fun _ _ => True)
      (do
        liftM check
        throwIfStopRequested description
        rest) [] := by
  apply (meets_monad_bind _ _).mpr
  apply (meets_lift _).mpr
  cases check with
  | error failure => trivial
  | ok _ =>
      apply (ready_stop_check [] ready_start).bind
      · intro later _ ready
        exact (goesOn rfl later ready).weaken fun _ _ _ => trivial
      · exact fun _ _ _ => trivial

theorem wait_until_order_filled_keeps_order (symbol orderId : String) :
    Meets linkContract (fun _ _ => True) (waitUntilOrderFilled exchange symbol orderId) [] := by
  apply meets_after_checks
  intro passed later ready
  rw [throw_if_ok, not_or] at passed
  apply meets_register_ready ready
  intro registered ready
  have own : 0 < addRegistration (fun _ => 0) (getOrderKey symbol orderId)
      (getOrderKey symbol orderId) := by
    simp [addRegistration]
  have waits : Preserves linkContract
      (Ready (addRegistration (fun _ => 0) (getOrderKey symbol orderId))
        [getOrderKey symbol orderId])
      (do
        let pendingWait ← waitForOrderTerminalStatus exchange symbol orderId
        processOrderUpdate exchange symbol orderId pendingWait) := by
    apply Preserves.bind
    · exact (ready_await_order own List.mem_cons_self).bind fun _ => preserves_lift _
    · exact fun _ => ready_process_order_update
  exact meets_prepared
    (fun _ ready => meets_prepare_order_subscription own passed.1 passed.2 ready) waits ready

end Calls

/-! ### The calls on an OCO -/

section OcoCalls

variable {exchange : ExchangerType} {ocoInfo : OcoInfo} {registered : OrderKey → ℕ}
  {Result : Type}

/-- Both children registered and queried. -/
abbrev ChildrenReady (ocoInfo : OcoInfo) (registered : OrderKey → ℕ) : WaitHistory → Prop :=
  Ready registered [ocoInfo.stopLossKey, ocoInfo.takeProfitKey]

theorem ready_cancel_oco_after_failure :
    Preserves linkContract (ChildrenReady ocoInfo registered) (cancelOcoAfterFailure ocoInfo) := by
  apply Preserves.handle
  · apply Preserves.bind
    · exact ready_request rfl (fun _ _ => rfl) (fun _ _ => rfl) (fun _ _ => ⟨trivial, trivial⟩)
        fun _ => preserves_lift _
    · exact fun _ => preserves_returned _
  · intro failure
    cases failure with
    | runtime what => exact preserves_returned _
    | interrupted what => exact preserves_returned _
    | nonStandard => exact preserves_threw _

theorem ready_throw_after_cleanup {named : ExchangerType} {reason : String} :
    Preserves linkContract (ChildrenReady ocoInfo registered)
      (throwOcoWaitFailureAfterCleanup named ocoInfo reason : WaitProgram Result) :=
  ready_cancel_oco_after_failure.bind fun _ => preserves_threw _

theorem ready_cancel_unfilled_child {filledOrder : OrderInfo} :
    Preserves linkContract (ChildrenReady ocoInfo registered)
      (cancelUnfilledChild ocoInfo filledOrder) := by
  apply (preserves_lift _).bind
  intro _
  apply Preserves.bind
  · exact ready_request rfl (fun _ _ => rfl) (fun _ _ => rfl) (fun _ _ => ⟨trivial, trivial⟩)
      fun _ => preserves_lift _
  · intro cancellationError
    cases cancellationError with
    | none => exact preserves_returned _
    | some error =>
        apply Preserves.bind
        · exact ready_request rfl (fun _ _ => rfl) (fun _ _ => rfl)
            (fun _ _ => ⟨trivial, trivial⟩) fun _ => preserves_returned _
        · exact fun _ => ready_throw_after_cleanup

theorem ready_sibling_result {filledOrder : OrderInfo} {siblingWait : PendingOrderWait} :
    Preserves linkContract (ChildrenReady ocoInfo registered)
      (siblingResult exchange ocoInfo filledOrder siblingWait) := by
  unfold siblingResult
  split
  · exact preserves_threw _
  · split
    next =>
      split_ifs
      · exact ready_throw_after_cleanup
      · exact preserves_returned _
      · exact preserves_threw _
    next => exact ready_stream_stopped _

theorem ready_complete_oco_wait {filledOrder : OrderInfo}
    (takeProfit : 0 < registered ocoInfo.takeProfitKey)
    (stopLoss : 0 < registered ocoInfo.stopLossKey) :
    Preserves linkContract (ChildrenReady ocoInfo registered)
      (completeOcoWait exchange ocoInfo filledOrder) := by
  have waits : Preserves linkContract (ChildrenReady ocoInfo registered)
      (do
        let siblingWait ← waitForOcoSiblingTerminalStatus exchange ocoInfo filledOrder
        siblingResult exchange ocoInfo filledOrder siblingWait) := by
    apply Preserves.bind
    · apply Preserves.bind
      · unfold siblingKey
        split_ifs
        · exact ready_await_order stopLoss (by simp)
        · exact ready_await_order takeProfit (by simp)
      · exact fun _ => preserves_lift _
    · exact fun _ => ready_sibling_result
  cases exchange with
  | binance => exact waits
  | bybit => exact ready_cancel_unfilled_child.bind fun _ => waits

theorem ready_get_filled_oco_order
    (takeProfit : 0 < registered ocoInfo.takeProfitKey)
    (stopLoss : 0 < registered ocoInfo.stopLossKey) :
    Preserves linkContract (ChildrenReady ocoInfo registered)
      (getFilledOcoOrder exchange ocoInfo) := by
  apply Preserves.bind
  · apply ready_request rfl (fun _ _ => rfl) (fun _ _ => rfl)
    · intro history ready
      rw [waitRequires, ready.registered]
      exact ⟨⟨takeProfit, stopLoss⟩, trivial⟩
    · exact fun _ => preserves_lift _
  · intro waits
    unfold filledOcoOrder
    split
    · exact ready_throw_after_cleanup
    · exact preserves_returned _
    · exact preserves_returned _

/-- Both children under their registrations, with the ids they need. -/
structure ChildrenRegistered (ocoInfo : OcoInfo) (registered : OrderKey → ℕ) : Prop where
  takeProfit : 0 < registered ocoInfo.takeProfitKey
  stopLoss : 0 < registered ocoInfo.stopLossKey
  named : ¬ ocoInfo.MissesChildId

theorem ChildrenRegistered.child {child : OrderInfo}
    (children : ChildrenRegistered ocoInfo registered)
    (among : child = ocoInfo.takeProfitOrder ∨ child = ocoInfo.stopLossOrder) :
    0 < registered child.key ∧ child.symbol ≠ "" ∧ child.orderId ≠ "" := by
  have named := children.named
  simp only [OcoInfo.MissesChildId, not_or] at named
  rcases among with rfl | rfl
  · exact ⟨children.takeProfit, named.1, named.2.1⟩
  · exact ⟨children.stopLoss, named.2.2.1, named.2.2.2⟩

theorem ready_reconcile_oco_sibling_order {isTakeProfitFailed : Bool}
    (children : ChildrenRegistered ocoInfo registered) :
    Preserves linkContract (ChildrenReady ocoInfo registered)
      (reconcileOcoSiblingOrder ocoInfo isTakeProfitFailed) := by
  apply Preserves.handle
  · apply Preserves.bind
    · cases isTakeProfitFailed with
      | true =>
          have child := children.child (.inr rfl)
          exact ready_reconcile_order child.1 child.2.1 child.2.2
      | false =>
          have child := children.child (.inl rfl)
          exact ready_reconcile_order child.1 child.2.1 child.2.2
    · exact fun _ => preserves_returned _
  · intro failure
    cases failure with
    | runtime what => exact preserves_returned _
    | interrupted what => exact preserves_returned _
    | nonStandard => exact preserves_threw _

theorem ready_reconcile_oco_after_unfilled_terminal_child {isTakeProfitFailed : Bool}
    (children : ChildrenRegistered ocoInfo registered) :
    Preserves linkContract (ChildrenReady ocoInfo registered)
      (reconcileOcoAfterUnfilledTerminalChild exchange ocoInfo isTakeProfitFailed) := by
  apply (ready_reconcile_oco_sibling_order children).bind
  intro reconciliationError
  apply (ready_get_filled_oco_order children.takeProfit children.stopLoss).bind
  intro filledOrder
  cases filledOrder with
  | none => exact ready_throw_after_cleanup
  | some filledOrder => exact ready_complete_oco_wait children.takeProfit children.stopLoss

theorem ready_process_oco_orders_update {takeProfitWait stopLossWait : PendingOrderWait}
    (children : ChildrenRegistered ocoInfo registered) :
    Preserves linkContract (ChildrenReady ocoInfo registered)
      (processOcoOrdersUpdate exchange ocoInfo takeProfitWait stopLossWait) := by
  unfold processOcoOrdersUpdate
  split
  · exact ready_throw_after_cleanup
  · exact ready_complete_oco_wait children.takeProfit children.stopLoss
  · exact ready_complete_oco_wait children.takeProfit children.stopLoss
  · split
    · exact ready_throw_after_cleanup
    · split_ifs
      · exact ready_reconcile_oco_after_unfilled_terminal_child children
      · apply Preserves.bind
        · exact ready_request rfl (fun _ _ => rfl) (fun _ _ => rfl)
            (fun _ _ => ⟨trivial, trivial⟩) fun _ => preserves_returned _
        · exact fun _ => ready_throw_after_cleanup

theorem meets_prepare_oco_subscription {history : WaitHistory}
    (children : ChildrenRegistered ocoInfo registered) (ready : Ready registered [] history) :
    Meets linkContract
      (fun last outcome => Ready registered [] last ∧
        (outcome = .ok () → ChildrenReady ocoInfo registered last))
      (prepareOcoSubscription ocoInfo) history := by
  have takeProfit := children.child (.inl rfl)
  have stopLoss := children.child (.inr rfl)
  apply (ready_ensure_user_stream_connected history ready).bind
  · intro connected _ ready
    apply (meets_reconcile_ready takeProfit.1 takeProfit.2.1 takeProfit.2.2 ready).bind
    · intro later _ known
      apply (meets_reconcile_ready stopLoss.1 stopLoss.2.1 stopLoss.2.2 (known.2 rfl)).weaken
      exact fun _ _ known => ⟨known.1.forget nofun, known.2⟩
    · exact fun _ _ known => ⟨known.1, nofun⟩
  · exact fun _ _ failed => ⟨failed, nofun⟩

theorem wait_until_oco_order_filled_keeps_order :
    Meets linkContract (fun _ _ => True) (waitUntilOcoOrderFilled exchange ocoInfo) [] := by
  apply meets_after_checks
  intro passed later ready
  rw [throw_if_ok] at passed
  apply meets_register_ready ready
  intro later ready
  apply meets_register_ready ready
  intro later ready
  have children : ChildrenRegistered ocoInfo
      (addRegistration (addRegistration (fun _ => 0) ocoInfo.takeProfitKey)
        ocoInfo.stopLossKey) := by
    refine ⟨?_, ?_, passed⟩
    · simp [addRegistration]
    · simp [addRegistration]
  have waits : Preserves linkContract
      (ChildrenReady ocoInfo (addRegistration (addRegistration (fun _ => 0) ocoInfo.takeProfitKey)
        ocoInfo.stopLossKey))
      (do
        let waits ← waitForOcoTerminalStatus exchange ocoInfo
        processOcoOrdersUpdate exchange ocoInfo waits.1 waits.2) := by
    apply Preserves.bind
    · apply Preserves.bind
      · apply ready_request rfl (fun _ _ => rfl) (fun _ _ => rfl)
        · intro history ready
          rw [waitRequires, ready.registered]
          exact ⟨⟨children.takeProfit, children.stopLoss⟩, rfl,
            ready.queried _ (by simp), ready.queried _ (by simp)⟩
        · exact fun _ => preserves_lift _
      · exact fun _ => preserves_lift _
    · exact fun _ => ready_process_oco_orders_update children
  exact meets_prepared (fun _ ready => meets_prepare_oco_subscription children ready) waits ready

end OcoCalls

/-! ## Missing a terminal update -/

/-- The orders that a blocked call waits for. -/
def awaitedKeys : WaitEffect → List OrderKey
  | .awaitOrder orderKey => [orderKey]
  | .awaitOco _ takeProfitKey stopLossKey => [takeProfitKey, stopLossKey]
  | _ => []

/-- The call is in a wait that goes on if it looks now. -/
def BlockedOn (exchange : ExchangerType) (state : WaitState) : WaitEffect → Prop
  | .awaitOrder orderKey =>
      ∃ pendingWait, state.entryAt orderKey = .ok pendingWait ∧
        orderWaitCompleted exchange state.streamStatus pendingWait = false
  | .awaitOco need takeProfitKey stopLossKey =>
      ∃ waits, state.entriesAt takeProfitKey stopLossKey = .ok waits ∧
        ocoWaitCompleted exchange need state.streamStatus waits.1 waits.2 = false
  | _ => False

/-- The call goes on waiting under a connected stream that has nothing more to
process, although an awaited order is terminal at the exchange. -/
structure MissesTerminal (exchange : ExchangerType) (state : LinkState) (effect : WaitEffect) :
    Prop where
  blocked : BlockedOn exchange state.service effect
  connected : state.service.streamStatus = .connected
  processed : state.inFlight = []
  terminal : ∃ orderKey ∈ awaitedKeys effect,
    isOrderTerminal exchange (state.exchangeStatus orderKey)

section Misses

variable {exchange : ExchangerType} {state : LinkState} {history : WaitHistory}
  {effect : WaitEffect}

theorem entry_at_ok {service : WaitState} {orderKey : OrderKey} {pendingWait : PendingOrderWait} :
    service.entryAt orderKey = .ok pendingWait ↔
      service.pendingOrderWaits orderKey = some pendingWait := by
  unfold WaitState.entryAt
  cases service.pendingOrderWaits orderKey <;> simp

theorem not_settled_of_entry {service : WaitState} {orderKey : OrderKey}
    {pendingWait : PendingOrderWait} (found : service.entryAt orderKey = .ok pendingWait)
    (unsettled : ¬ EntrySettled exchange pendingWait) :
    ¬ Settled exchange service.pendingOrderWaits orderKey := by
  intro settled
  obtain ⟨entry, live, settles⟩ := settled
  cases (entry_at_ok.mp found).symm.trans live
  exact unsettled settles

/-- A wait that goes on has settled nothing. -/
theorem blocked_unsettled (ordered : inOrder history effect)
    (blocked : BlockedOn exchange state.service effect) :
    ∀ orderKey ∈ awaitedKeys effect,
      ¬ Settled exchange state.service.pendingOrderWaits orderKey := by
  intro orderKey awaited
  cases effect with
  | awaitOrder target =>
      cases List.mem_singleton.mp awaited
      obtain ⟨pendingWait, found, goesOn⟩ := blocked
      apply not_settled_of_entry found
      simp only [orderWaitCompleted, Bool.or_eq_false_iff] at goesOn
      simp [EntrySettled, goesOn.1.1, goesOn.1.2]
  | awaitOco need takeProfitKey stopLossKey =>
      cases ordered.1
      obtain ⟨waits, found, goesOn⟩ := blocked
      obtain ⟨takeProfitWait, takeProfitFound, found⟩ := except_bind_ok.mp found
      obtain ⟨stopLossWait, stopLossFound, found⟩ := except_bind_ok.mp found
      cases found
      simp only [ocoWaitCompleted, Bool.or_eq_false_iff] at goesOn
      obtain ⟨⟨⟨takeProfitError, stopLossError⟩, takeProfitOpen, stopLossOpen⟩, -⟩ := goesOn
      rcases List.mem_cons.mp awaited with rfl | other
      · apply not_settled_of_entry takeProfitFound
        simp [EntrySettled, takeProfitError, takeProfitOpen]
      · cases List.mem_singleton.mp other
        apply not_settled_of_entry stopLossFound
        simp [EntrySettled, stopLossError, stopLossOpen]
  | _ => cases awaited

theorem awaited_queried (ordered : inOrder history effect) :
    ∀ orderKey ∈ awaitedKeys effect, orderKey ∈ queriedKeys history := by
  intro orderKey awaited
  cases effect with
  | awaitOrder target =>
      cases List.mem_singleton.mp awaited
      exact ordered
  | awaitOco need takeProfitKey stopLossKey =>
      rcases List.mem_cons.mp awaited with rfl | other
      · exact ordered.2.1
      · cases List.mem_singleton.mp other
        exact ordered.2.2
  | _ => cases awaited

theorem LinkInvariant.misses_nothing (invariant : LinkInvariant exchange history state)
    (required : linkRequires history effect) : ¬ MissesTerminal exchange state effect := by
  intro misses
  obtain ⟨orderKey, awaited, terminal⟩ := misses.terminal
  have queried := awaited_queried required.2.2 orderKey awaited
  rcases invariant.seen misses.connected orderKey queried terminal with
    (settled | ⟨orderInfo, owed, -⟩) | ⟨orderInfo, sent, -⟩
  · exact blocked_unsettled required.2.2 misses.blocked orderKey awaited settled
  · cases required.2.1 orderInfo owed
    cases awaited
  · rw [misses.processed] at sent
    cases sent

/-- As long as nobody reconnects the stream over a change that the call has not
seen, and no fill is dropped, neither wait misses the end of its orders. -/
theorem waits_miss_nothing_without_unseen_gap (exchange : ExchangerType) :
    (∀ symbol orderId history state effect next,
      SharedRun (linkSystem exchange (NoUnseenGap exchange)) {}
        (waitUntilOrderFilled exchange symbol orderId) history state (.request effect next) →
      ¬ MissesTerminal exchange state effect) ∧
    (∀ ocoInfo history state effect next,
      SharedRun (linkSystem exchange (NoUnseenGap exchange)) {}
        (waitUntilOcoOrderFilled exchange ocoInfo) history state (.request effect next) →
      ¬ MissesTerminal exchange state effect) := by
  constructor
  · intro symbol orderId history state effect next run
    have reached := run.meets link_guarantees link_invariant_start
      (wait_until_order_filled_keeps_order symbol orderId) trivial
    exact reached.2.misses_nothing reached.1.1
  · intro ocoInfo history state effect next run
    have reached := run.meets link_guarantees link_invariant_start
      wait_until_oco_order_filled_keeps_order trivial
    exact reached.2.misses_nothing reached.1.1

end Misses

/-! ## A gap that is closed before the wait looks -/

section Gap

variable {allowed : LinkState → LinkEvent → Prop}

def gapKey : OrderKey := getOrderKey "BTCUSDT" "7"

def gapOrder (status : String) : OrderInfo := { symbol := "BTCUSDT", orderId := "7", status }

/-- The order has been placed, and the stream is connected. -/
def gapConnected : LinkState where
  service := { streamStatus := .connected }
  exchangeStatus := Function.update (fun _ => "") gapKey "NEW"

def gapRegistered : LinkState :=
  { gapConnected with service := gapConnected.service.updateWaits (registerPendingOrder gapKey) }

def gapQueried : LinkState :=
  { gapRegistered with
    service := gapRegistered.service.report (.orderQuery (gapOrder "NEW"))
    openWhenQueried := [gapKey] }

/-- The call has reconciled its order and is about to wait for it. -/
def gapWaiting : LinkState :=
  { gapQueried with
    service := gapQueried.service.updateWaits (publishOrderUpdate .binance (gapOrder "NEW")) }

def gapHistory : WaitHistory :=
  [⟨.publishOrderUpdate (gapOrder "NEW"), ()⟩,
    ⟨.getOrder (reconciliationQuery { symbol := "BTCUSDT", orderId := "7" }), .ok (gapOrder "NEW")⟩,
    ⟨.ensureUserStreamConnected, .ok ()⟩, ⟨.registerPendingOrder gapKey, ()⟩,
    ⟨.stopRequested, false⟩]

abbrev GapRun (allowed : LinkState → LinkEvent → Prop) :
    WaitHistory → LinkState → WaitProgram OrderInfo → Prop :=
  SharedRun (linkSystem .binance allowed) {} (waitUntilOrderFilled .binance "BTCUSDT" "7")

/-- The way to the wait only needs the order placed and the stream connected once. -/
theorem gap_reaches_wait
    (placing : allowed {} (.orderChanges (gapOrder "NEW")))
    (connecting : allowed { exchangeStatus := Function.update (fun _ => "") gapKey "NEW" }
      (.streamStatus .connected "" [])) :
    ∃ next, GapRun allowed gapHistory gapWaiting (.request (.awaitOrder gapKey) next) := by
  have placed : GapRun allowed []
      { exchangeStatus := Function.update (fun _ => "") gapKey "NEW" } _ :=
    .interfere .start ⟨_, .orderChanges (by decide), placing⟩
  have connected : GapRun allowed [] gapConnected _ :=
    .interfere placed ⟨_, .streamStatus (.inl rfl), connecting⟩
  have unstopped : GapRun allowed [⟨.stopRequested, false⟩] gapConnected _ :=
    .act connected false ⟨⟨rfl, rfl⟩, rfl, rfl, rfl⟩
  have registered : GapRun allowed
      [⟨.registerPendingOrder gapKey, ()⟩, ⟨.stopRequested, false⟩] gapRegistered _ :=
    .act unstopped () ⟨rfl, rfl, rfl, rfl⟩
  have ensured : GapRun allowed
      [⟨.ensureUserStreamConnected, .ok ()⟩, ⟨.registerPendingOrder gapKey, ()⟩,
        ⟨.stopRequested, false⟩] gapRegistered _ :=
    .act registered (.ok ()) ⟨⟨_, _, rfl⟩, rfl, rfl, rfl, rfl, fun _ => rfl⟩
  have queried : GapRun allowed
      [⟨.getOrder (reconciliationQuery { symbol := "BTCUSDT", orderId := "7" }),
          .ok (gapOrder "NEW")⟩,
        ⟨.ensureUserStreamConnected, .ok ()⟩, ⟨.registerPendingOrder gapKey, ()⟩,
        ⟨.stopRequested, false⟩] gapQueried _ :=
    .act ensured (.ok (gapOrder "NEW")) ⟨rfl, rfl, rfl, rfl, by decide, rfl⟩
  have published : GapRun allowed gapHistory gapWaiting _ :=
    .act queried () ⟨rfl, rfl, rfl, rfl⟩
  exact ⟨_, published⟩

theorem waits_miss_nothing_without_unseen_gap_there :
    ¬ MissesTerminal .binance gapWaiting (.awaitOrder gapKey) := by
  have reaches : ∃ next, GapRun (NoUnseenGap .binance) gapHistory gapWaiting
      (.request (.awaitOrder gapKey) next) := by
    apply gap_reaches_wait
    · trivial
    · intro _ orderKey member
      cases member
  obtain ⟨next, run⟩ := reaches
  exact (waits_miss_nothing_without_unseen_gap .binance).1 "BTCUSDT" "7" _ _ _ next run

/-- The connection breaks, the order fills, and somebody reconnects the stream;
the wait wakes to a connected stream. -/
theorem wait_misses_fill_across_reconnect :
    ∃ history state effect next,
      SharedRun (linkSystem .binance fun _ _ => True) {}
        (waitUntilOrderFilled .binance "BTCUSDT" "7") history state (.request effect next) ∧
      MissesTerminal .binance state effect := by
  have reaches : ∃ next, GapRun (fun _ _ => True) gapHistory gapWaiting
      (.request (.awaitOrder gapKey) next) :=
    gap_reaches_wait trivial trivial
  obtain ⟨next, waiting⟩ := reaches
  have broken := waiting.interfere
    ⟨.streamStatus .error "connection reset" [], .streamStatus (.inl rfl), trivial⟩
  have filled := broken.interfere
    ⟨.orderChanges (gapOrder "FILLED"), .orderChanges (by decide), trivial⟩
  have connecting := filled.interfere
    ⟨.streamStatus .connecting "" [], .streamStatus (.inl rfl), trivial⟩
  have reconnected := connecting.interfere
    ⟨.streamStatus .connected "" [], .streamStatus (.inl rfl), trivial⟩
  refine ⟨_, _, _, next, reconnected, ?_⟩
  constructor
  · exact ⟨{ orderInfo := some (gapOrder "NEW"), registrationCount := 1 }, rfl, by decide⟩
  · rfl
  · rfl
  · exact ⟨gapKey, List.mem_singleton_self _, by decide⟩

end Gap

end CryptoDeal.DealService
