import CryptoDeal.DealService.PendingOrderStore
import CryptoDeal.Library.SharedRun

/-!
# Waiting calls and what they share

The state that all calls of one service share: the pending order waits, the
status of the user stream and, as a ghost, everything an exchange has reported.
One call performs its critical sections and REST calls on it; between them
the stream, the other calls and the holder of the stop token interfere.

A call relies on little: an entry that it has registered is there, and what
the entry holds belongs to its key and was reported.
-/

namespace CryptoDeal.DealService

open OrderStatusUtil Interaction

/-- Which function's critical section reads both children of an OCO. -/
inductive OcoReader where
  | getFilledOcoOrder
  | getTerminalOcoInfo
  | cancelOcoAndWaitUntilTerminal
  deriving DecidableEq, Repr

inductive OcoNeed where
  | either
  | both
  deriving DecidableEq, Repr

inductive WaitEffect where
  | stopRequested
  | registerPendingOrder (orderKey : OrderKey)
  | unregisterPendingOrder (orderKey : OrderKey)
  | ensureUserStreamConnected
  | getOrder (query : OrderQuery)
  | publishOrderUpdate (orderInfo : OrderInfo)
  | getPendingOrderWait (orderKey : OrderKey)
  | getPendingOcoWaits (reader : OcoReader) (takeProfitKey stopLossKey : OrderKey)
  | awaitOrder (orderKey : OrderKey)
  | awaitOco (need : OcoNeed) (takeProfitKey stopLossKey : OrderKey)
  | getUserStreamLastError
  | cancelOrder (query : OrderQuery)
  | cancelOco (query : OrderListQuery)
  | processOcoUpdate (orderLinkId : String)
  | publishOcoError (orderLinkId error : String)

namespace WaitEffect

/-- An `await` answers `none` when the wait was interrupted. -/
@[reducible] def Answer : WaitEffect → Type
  | stopRequested => Bool
  | registerPendingOrder _ => Unit
  | unregisterPendingOrder _ => Unit
  | ensureUserStreamConnected => Except ServiceFailure Unit
  | getOrder _ => Except ServiceFailure OrderInfo
  | publishOrderUpdate _ => Unit
  | getPendingOrderWait _ => Except ServiceFailure PendingOrderWait
  | getPendingOcoWaits _ _ _ => Except ServiceFailure (PendingOrderWait × PendingOrderWait)
  | awaitOrder _ => Except ServiceFailure (Option PendingOrderWait)
  | awaitOco _ _ _ => Except ServiceFailure (Option (PendingOrderWait × PendingOrderWait))
  | getUserStreamLastError => String
  | cancelOrder _ => Except ServiceFailure OrderInfo
  | cancelOco _ => Except ServiceFailure Unit
  | processOcoUpdate _ => Except ServiceFailure (Option String)
  | publishOcoError _ _ => Unit

end WaitEffect

abbrev WaitProgram (Result : Type) :=
  Interaction WaitEffect WaitEffect.Answer ServiceFailure Result

abbrev WaitHistory := History WaitEffect WaitEffect.Answer

/-! ## Wait conditions -/

section Conditions

variable (exchange : ExchangerType)

/-- The error slot of an entry; Binance entries have none. -/
def entryError (pendingWait : PendingOrderWait) : Option String :=
  match exchange with
  | .binance => none
  | .bybit => pendingWait.error

def isEntryTerminal (pendingWait : PendingOrderWait) : Bool :=
  pendingWait.orderInfo.any fun orderInfo => isOrderTerminal exchange orderInfo.status

def isEntryFilled (pendingWait : PendingOrderWait) : Bool :=
  pendingWait.orderInfo.any fun orderInfo => isOrderFilled exchange orderInfo.status

/-- The predicate of `waitForOrderTerminalStatus` and of the sibling wait. -/
def orderWaitCompleted (status : StreamStatus) (pendingWait : PendingOrderWait) : Bool :=
  (entryError exchange pendingWait).isSome || isEntryTerminal exchange pendingWait ||
    status != .connected

/-- The predicates of `waitForOcoTerminalStatus` and `waitForOcoCancellationTerminalStatus`. -/
def ocoWaitCompleted (need : OcoNeed) (status : StreamStatus)
    (takeProfitWait stopLossWait : PendingOrderWait) : Bool :=
  let takeProfitTerminal := isEntryTerminal exchange takeProfitWait
  let stopLossTerminal := isEntryTerminal exchange stopLossWait
  (entryError exchange takeProfitWait).isSome || (entryError exchange stopLossWait).isSome ||
    (match need with
      | .either => takeProfitTerminal || stopLossTerminal
      | .both => takeProfitTerminal && stopLossTerminal) ||
    status != .connected

end Conditions

/-! ## The shared state -/

/-- How an exchange told a service about an order. -/
inductive Report where
  | stream (orderInfo : OrderInfo)
  | orderQuery (orderInfo : OrderInfo)
  | cancelResponse (orderInfo : OrderInfo)

/-- What counts as a report of the order's status: a Bybit cancel response is
an acknowledgement only. -/
def Reported (exchange : ExchangerType) (reports : List Report) (orderInfo : OrderInfo) : Prop :=
  .stream orderInfo ∈ reports ∨ .orderQuery orderInfo ∈ reports ∨
    (exchange = .binance ∧ .cancelResponse orderInfo ∈ reports)

theorem Reported.more {exchange : ExchangerType} {reports : List Report} {orderInfo : OrderInfo}
    (report : Report) (reported : Reported exchange reports orderInfo) :
    Reported exchange (report :: reports) orderInfo := by
  rcases reported with stream | query | ⟨binance, response⟩
  · exact .inl (List.mem_cons_of_mem _ stream)
  · exact .inr (.inl (List.mem_cons_of_mem _ query))
  · exact .inr (.inr ⟨binance, List.mem_cons_of_mem _ response⟩)

structure WaitState where
  pendingOrderWaits : PendingOrderWaits := noPendingOrderWaits
  streamStatus : StreamStatus := .stopped
  streamLastError : String := ""
  stopRequested : Bool := false
  /-- Ghost: the reports so far. -/
  reports : List Report := []
  /-- Ghost: the registrations that other calls hold. -/
  otherRegistrations : OrderKey → ℕ := fun _ => 0

namespace WaitState

def report (state : WaitState) (report : Report) : WaitState :=
  { state with reports := report :: state.reports }

def updateWaits (state : WaitState) (update : PendingOrderWaits → PendingOrderWaits) : WaitState :=
  { state with pendingOrderWaits := update state.pendingOrderWaits }

/-- `pendingOrderWaits.at(orderKey)`. -/
def entryAt (state : WaitState) (orderKey : OrderKey) : Except ServiceFailure PendingOrderWait :=
  match state.pendingOrderWaits orderKey with
  | some pendingWait => .ok pendingWait
  | none => .error (.runtime "map::at")

def entriesAt (state : WaitState) (takeProfitKey stopLossKey : OrderKey) :
    Except ServiceFailure (PendingOrderWait × PendingOrderWait) := do
  let takeProfitWait ← state.entryAt takeProfitKey
  let stopLossWait ← state.entryAt stopLossKey
  return (takeProfitWait, stopLossWait)

/-- What a wait on the condition variable returns with: what was read, once it
completes the wait, or nothing, if it does not and a stop is requested. -/
def AwaitAnswers {Read : Type} (state : WaitState) (read : Except ServiceFailure Read)
    (completed : Read → Bool) (answer : Except ServiceFailure (Option Read)) : Prop :=
  match read with
  | .error failure => answer = .error failure
  | .ok value =>
      completed value ∧ answer = .ok (some value) ∨
        completed value = false ∧ state.stopRequested ∧ answer = .ok none

end WaitState

/-- One atomic step of the call. REST answers are free. -/
def WaitPerforms (exchange : ExchangerType) (state : WaitState) :
    (effect : WaitEffect) → effect.Answer → WaitState → Prop
  | .stopRequested, answer, after => answer = state.stopRequested ∧ after = state
  | .registerPendingOrder orderKey, _, after =>
      after = state.updateWaits (registerPendingOrder orderKey)
  | .unregisterPendingOrder orderKey, _, after =>
      after = state.updateWaits (unregisterPendingOrder orderKey)
  | .ensureUserStreamConnected, _, after =>
      ∃ streamStatus streamLastError, after = { state with streamStatus, streamLastError }
  | .getOrder _, answer, after =>
      match answer with
      | .ok orderInfo => after = state.report (.orderQuery orderInfo)
      | .error _ => after = state
  | .publishOrderUpdate orderInfo, _, after =>
      after = state.updateWaits (publishOrderUpdate exchange orderInfo)
  | .getPendingOrderWait orderKey, answer, after =>
      answer = state.entryAt orderKey ∧ after = state
  | .getPendingOcoWaits _ takeProfitKey stopLossKey, answer, after =>
      answer = state.entriesAt takeProfitKey stopLossKey ∧ after = state
  | .awaitOrder orderKey, answer, after =>
      state.AwaitAnswers (state.entryAt orderKey)
        (orderWaitCompleted exchange state.streamStatus) answer ∧ after = state
  | .awaitOco need takeProfitKey stopLossKey, answer, after =>
      state.AwaitAnswers (state.entriesAt takeProfitKey stopLossKey)
        (fun waits => ocoWaitCompleted exchange need state.streamStatus waits.1 waits.2) answer ∧
      after = state
  | .getUserStreamLastError, answer, after => answer = state.streamLastError ∧ after = state
  | .cancelOrder _, answer, after =>
      match answer with
      | .ok orderInfo => after = state.report (.cancelResponse orderInfo)
      | .error _ => after = state
  | .cancelOco _, _, after => after = state
  | .processOcoUpdate _, _, after => after = state
  -- the OCO group names the orders, if it is still there
  | .publishOcoError _ error, _, after =>
      ∃ orders : List OrderInfo, after = state.updateWaits fun waits =>
        orders.foldl (fun waits orderInfo => publishOrderWaitError orderInfo error waits) waits

/-- What the stream, the other calls and the owner of the stop token do meanwhile. -/
inductive WaitInterferes (exchange : ExchangerType) (state : WaitState) : WaitState → Prop where
  | report (report : Report) : WaitInterferes exchange state (state.report report)
  | publish (orderInfo : OrderInfo) (reported : Reported exchange state.reports orderInfo) :
      WaitInterferes exchange state (state.updateWaits (publishOrderUpdate exchange orderInfo))
  | publishError (orderInfo : OrderInfo) (error : String) (bybit : exchange = .bybit) :
      WaitInterferes exchange state (state.updateWaits (publishOrderWaitError orderInfo error))
  | stream (streamStatus : StreamStatus) (streamLastError : String) :
      WaitInterferes exchange state { state with streamStatus, streamLastError }
  | requestStop : WaitInterferes exchange state { state with stopRequested := true }
  | register (orderKey : OrderKey) :
      WaitInterferes exchange state
        { state.updateWaits (registerPendingOrder orderKey) with
          otherRegistrations := Function.update state.otherRegistrations orderKey
            (state.otherRegistrations orderKey + 1) }
  | unregister (orderKey : OrderKey) (held : 0 < state.otherRegistrations orderKey) :
      WaitInterferes exchange state
        { state.updateWaits (unregisterPendingOrder orderKey) with
          otherRegistrations := Function.update state.otherRegistrations orderKey
            (state.otherRegistrations orderKey - 1) }

def waitSystem (exchange : ExchangerType) :
    SharedSystem WaitEffect WaitEffect.Answer WaitState where
  performs := WaitPerforms exchange
  interferes := WaitInterferes exchange

/-- A run of one call from the start of its service. -/
abbrev WaitRun {Result : Type} (exchange : ExchangerType) (program : WaitProgram Result) :
    WaitHistory → WaitState → WaitProgram Result → Prop :=
  SharedRun (waitSystem exchange) {} program

/-- What a wait on the condition variable does now; `none` while it blocks. -/
def WaitState.await {Read : Type} (state : WaitState) (read : Except ServiceFailure Read)
    (completed : Read → Bool) : Option (Except ServiceFailure (Option Read)) :=
  match read with
  | .error failure => some (.error failure)
  | .ok value =>
      if completed value then some (.ok (some value))
      else if state.stopRequested then some (.ok none)
      else none

theorem WaitState.await_answers {Read : Type} {state : WaitState}
    {read : Except ServiceFailure Read} {completed : Read → Bool}
    {answer : Except ServiceFailure (Option Read)}
    (given : state.await read completed = some answer) :
    state.AwaitAnswers read completed answer := by
  unfold WaitState.await at given
  cases read with
  | error failure =>
      cases given
      rfl
  | ok value =>
      simp only at given
      split_ifs at given with done stopped
      · cases given
        exact .inl ⟨done, rfl⟩
      · cases given
        exact .inr ⟨by simpa using done, stopped, rfl⟩

/-- The steps of a call with a connected stream and an exchange that answers
by these functions, order queries by what it has reported. -/
def performSteadily (exchange : ExchangerType)
    (orders : List Report → OrderQuery → Except ServiceFailure OrderInfo)
    (cancels : OrderQuery → Except ServiceFailure OrderInfo) (state : WaitState) :
    (effect : WaitEffect) → Option (effect.Answer × WaitState)
  | .stopRequested => some (state.stopRequested, state)
  | .registerPendingOrder orderKey =>
      some ((), state.updateWaits (registerPendingOrder orderKey))
  | .unregisterPendingOrder orderKey =>
      some ((), state.updateWaits (unregisterPendingOrder orderKey))
  | .ensureUserStreamConnected =>
      some (.ok (), { state with streamStatus := .connected, streamLastError := "" })
  | .getOrder query =>
      match orders state.reports query with
      | .ok orderInfo => some (.ok orderInfo, state.report (.orderQuery orderInfo))
      | .error failure => some (.error failure, state)
  | .publishOrderUpdate orderInfo =>
      some ((), state.updateWaits (publishOrderUpdate exchange orderInfo))
  | .getPendingOrderWait orderKey => some (state.entryAt orderKey, state)
  | .getPendingOcoWaits _ takeProfitKey stopLossKey =>
      some (state.entriesAt takeProfitKey stopLossKey, state)
  | .awaitOrder orderKey =>
      (state.await (state.entryAt orderKey)
        (orderWaitCompleted exchange state.streamStatus)).map (·, state)
  | .awaitOco need takeProfitKey stopLossKey =>
      (state.await (state.entriesAt takeProfitKey stopLossKey) fun waits =>
        ocoWaitCompleted exchange need state.streamStatus waits.1 waits.2).map (·, state)
  | .getUserStreamLastError => some (state.streamLastError, state)
  | .cancelOrder query =>
      match cancels query with
      | .ok orderInfo => some (.ok orderInfo, state.report (.cancelResponse orderInfo))
      | .error failure => some (.error failure, state)
  | .cancelOco _ => some (.ok (), state)
  | .processOcoUpdate _ => some (.ok none, state)
  | .publishOcoError _ _ => some ((), state)

theorem perform_steadily_performs {exchange : ExchangerType}
    {orders : List Report → OrderQuery → Except ServiceFailure OrderInfo}
    {cancels : OrderQuery → Except ServiceFailure OrderInfo} {state after : WaitState}
    {effect : WaitEffect} {answer : effect.Answer}
    (performed : performSteadily exchange orders cancels state effect = some (answer, after)) :
    WaitPerforms exchange state effect answer after := by
  cases effect with
  | getOrder query =>
      unfold performSteadily at performed
      cases answered : orders state.reports query with
      | ok orderInfo =>
          simp only [answered] at performed
          cases performed
          rfl
      | error failure =>
          simp only [answered] at performed
          cases performed
          rfl
  | cancelOrder query =>
      unfold performSteadily at performed
      cases answered : cancels query with
      | ok orderInfo =>
          simp only [answered] at performed
          cases performed
          rfl
      | error failure =>
          simp only [answered] at performed
          cases performed
          rfl
  | awaitOrder orderKey =>
      obtain ⟨given, awaited, same⟩ := Option.map_eq_some_iff.mp performed
      cases same
      exact ⟨WaitState.await_answers awaited, rfl⟩
  | awaitOco need takeProfitKey stopLossKey =>
      obtain ⟨given, awaited, same⟩ := Option.map_eq_some_iff.mp performed
      cases same
      exact ⟨WaitState.await_answers awaited, rfl⟩
  | ensureUserStreamConnected =>
      cases performed
      exact ⟨.connected, "", rfl⟩
  | publishOcoError orderLinkId error =>
      cases performed
      exact ⟨[], rfl⟩
  | stopRequested | getPendingOrderWait | getPendingOcoWaits | getUserStreamLastError =>
      cases performed
      exact ⟨rfl, rfl⟩
  | registerPendingOrder | unregisterPendingOrder | publishOrderUpdate | cancelOco
    | processOcoUpdate =>
      cases performed
      rfl

/-! ## What a call may rely on -/

/-- The registrations that the call holds itself. -/
def registrations : WaitHistory → OrderKey → ℕ
  | [], _ => 0
  | ⟨.registerPendingOrder registered, _⟩ :: history, orderKey =>
      registrations history orderKey + if registered = orderKey then 1 else 0
  | ⟨.unregisterPendingOrder unregistered, _⟩ :: history, orderKey =>
      registrations history orderKey - if unregistered = orderKey then 1 else 0
  | _ :: history, orderKey => registrations history orderKey

section Contract

variable (exchange : ExchangerType) (genuine : OrderInfo → Prop)

/-- What an entry under a key holds. -/
def EntryOf (orderKey : OrderKey) (pendingWait : PendingOrderWait) : Prop :=
  ∀ orderInfo ∈ pendingWait.orderInfo, orderInfo.key = orderKey ∧ genuine orderInfo

def waitRequires (history : WaitHistory) : WaitEffect → Prop
  | .unregisterPendingOrder orderKey => 0 < registrations history orderKey
  | .publishOrderUpdate orderInfo => genuine orderInfo
  | .getPendingOrderWait orderKey => 0 < registrations history orderKey
  | .getPendingOcoWaits _ takeProfitKey stopLossKey =>
      0 < registrations history takeProfitKey ∧ 0 < registrations history stopLossKey
  | .awaitOrder orderKey => 0 < registrations history orderKey
  | .awaitOco _ takeProfitKey stopLossKey =>
      0 < registrations history takeProfitKey ∧ 0 < registrations history stopLossKey
  | _ => True

def waitEnsures : (effect : WaitEffect) → effect.Answer → Prop
  | .getOrder _, answer => ∀ orderInfo, answer = .ok orderInfo → genuine orderInfo
  | .cancelOrder _, answer =>
      ∀ orderInfo, answer = .ok orderInfo → exchange = .binance → genuine orderInfo
  | .getPendingOrderWait orderKey, answer =>
      ∃ pendingWait, answer = .ok pendingWait ∧ EntryOf genuine orderKey pendingWait
  | .getPendingOcoWaits _ takeProfitKey stopLossKey, answer =>
      ∃ waits, answer = .ok waits ∧ EntryOf genuine takeProfitKey waits.1 ∧
        EntryOf genuine stopLossKey waits.2
  | .awaitOrder orderKey, answer =>
      ∃ result, answer = .ok result ∧ ∀ pendingWait ∈ result, EntryOf genuine orderKey pendingWait
  | .awaitOco _ takeProfitKey stopLossKey, answer =>
      ∃ result, answer = .ok result ∧ ∀ waits ∈ result,
        EntryOf genuine takeProfitKey waits.1 ∧ EntryOf genuine stopLossKey waits.2
  | _, _ => True

def waitContract : Contract WaitEffect WaitEffect.Answer where
  requires := waitRequires genuine
  ensures := fun _ => waitEnsures exchange genuine

/-- An entry exists exactly while somebody is registered, and counts them. -/
structure WaitInvariant (history : WaitHistory) (state : WaitState) : Prop where
  counted : ∀ orderKey, Counts state.pendingOrderWaits orderKey
    (registrations history orderKey + state.otherRegistrations orderKey)
  stores : Stores (fun orderKey orderInfo => orderInfo.key = orderKey ∧ genuine orderInfo)
    state.pendingOrderWaits

end Contract

section Guarantees

variable {exchange : ExchangerType} {genuine : OrderInfo → Prop} {history : WaitHistory}
  {state after : WaitState}

theorem WaitInvariant.entry_at {orderKey : OrderKey}
    (invariant : WaitInvariant genuine history state)
    (own : 0 < registrations history orderKey) :
    ∃ pendingWait, state.entryAt orderKey = .ok pendingWait ∧
      EntryOf genuine orderKey pendingWait := by
  obtain ⟨pendingWait, live⟩ := (invariant.counted orderKey).present (by omega)
  refine ⟨pendingWait, ?_, invariant.stores.of_entry live⟩
  rw [WaitState.entryAt, live]

theorem WaitInvariant.entries_at {takeProfitKey stopLossKey : OrderKey}
    (invariant : WaitInvariant genuine history state)
    (takeProfit : 0 < registrations history takeProfitKey)
    (stopLoss : 0 < registrations history stopLossKey) :
    ∃ waits, state.entriesAt takeProfitKey stopLossKey = .ok waits ∧
      EntryOf genuine takeProfitKey waits.1 ∧ EntryOf genuine stopLossKey waits.2 := by
  obtain ⟨takeProfitWait, found, takeProfitHolds⟩ := invariant.entry_at takeProfit
  obtain ⟨stopLossWait, foundToo, stopLossHolds⟩ := invariant.entry_at stopLoss
  refine ⟨(takeProfitWait, stopLossWait), ?_, takeProfitHolds, stopLossHolds⟩
  rw [WaitState.entriesAt, found, foundToo]
  rfl

theorem await_answers_ok {Read : Type} {read : Except ServiceFailure Read}
    {completed : Read → Bool} {answer : Except ServiceFailure (Option Read)} {value : Read}
    (found : read = .ok value) (answers : state.AwaitAnswers read completed answer) :
    ∃ result, answer = .ok result ∧ ∀ seen ∈ result, seen = value := by
  subst found
  rcases answers with ⟨-, same⟩ | ⟨-, -, same⟩
  · exact ⟨some value, same, by simp⟩
  · exact ⟨none, same, by simp⟩

theorem WaitInvariant.publish (invariant : WaitInvariant genuine history state)
    {orderInfo : OrderInfo} (reported : genuine orderInfo) {later : WaitHistory}
    (own : registrations later = registrations history) :
    WaitInvariant genuine later (state.updateWaits (publishOrderUpdate exchange orderInfo)) where
  counted := by
    intro orderKey
    rw [own]
    exact (invariant.counted orderKey).publish
  stores := invariant.stores.publish ⟨rfl, reported⟩

theorem WaitInvariant.publish_error (invariant : WaitInvariant genuine history state)
    (orderInfo : OrderInfo) (error : String) :
    WaitInvariant genuine history
      (state.updateWaits (publishOrderWaitError orderInfo error)) where
  counted := fun orderKey => (invariant.counted orderKey).publish_error
  stores := invariant.stores.publish_error orderInfo error

theorem WaitInvariant.publish_errors (invariant : WaitInvariant genuine history state)
    (orders : List OrderInfo) (error : String) :
    WaitInvariant genuine history (state.updateWaits fun waits =>
      orders.foldl (fun waits orderInfo => publishOrderWaitError orderInfo error waits) waits) := by
  induction orders generalizing state with
  | nil => exact invariant
  | cons orderInfo orders ih => exact ih (invariant.publish_error orderInfo error)

/-- Somebody registers at one key. -/
theorem WaitInvariant.register (invariant : WaitInvariant genuine history state)
    (target : OrderKey) {later : WaitHistory}
    (waits : after.pendingOrderWaits = registerPendingOrder target state.pendingOrderWaits)
    (counts : ∀ orderKey, registrations later orderKey + after.otherRegistrations orderKey =
      registrations history orderKey + state.otherRegistrations orderKey +
        if target = orderKey then 1 else 0) :
    WaitInvariant genuine later after where
  counted := by
    intro orderKey
    rw [waits, counts]
    by_cases own : target = orderKey
    · subst own
      rw [if_pos rfl]
      exact (invariant.counted target).register
    · rw [if_neg own]
      exact (invariant.counted orderKey).register_other (Ne.symm own)
  stores := by
    rw [waits]
    exact invariant.stores.register target

/-- Somebody who is registered at one key gives that up. -/
theorem WaitInvariant.unregister (invariant : WaitInvariant genuine history state)
    (target : OrderKey) {later : WaitHistory}
    (waits : after.pendingOrderWaits = unregisterPendingOrder target state.pendingOrderWaits)
    (counts : ∀ orderKey, registrations history orderKey + state.otherRegistrations orderKey =
      registrations later orderKey + after.otherRegistrations orderKey +
        if target = orderKey then 1 else 0) :
    WaitInvariant genuine later after where
  counted := by
    intro orderKey
    have before := invariant.counted orderKey
    rw [counts] at before
    rw [waits]
    by_cases own : target = orderKey
    · subst own
      rw [if_pos rfl] at before
      exact before.unregister
    · rw [if_neg own] at before
      exact before.unregister_other (Ne.symm own)
  stores := by
    rw [waits]
    exact invariant.stores.unregister target

theorem wait_invariant_start : WaitInvariant genuine [] {} where
  counted := fun _ => rfl
  stores := fun _ _ => nofun

/-- Everything reported so far is genuine. -/
def CoversReports (exchange : ExchangerType) (genuine : OrderInfo → Prop)
    (state : WaitState) : Prop :=
  ∀ orderInfo, Reported exchange state.reports orderInfo → genuine orderInfo

theorem CoversReports.before_report {report : Report}
    (covers : CoversReports exchange genuine (state.report report)) :
    CoversReports exchange genuine state :=
  fun orderInfo reported => covers orderInfo (reported.more report)

theorem covers_before_act {effect : WaitEffect} {answer : effect.Answer}
    (performed : WaitPerforms exchange state effect answer after)
    (covers : CoversReports exchange genuine after) : CoversReports exchange genuine state := by
  cases effect with
  | getOrder query =>
      cases answer with
      | ok orderInfo =>
          cases performed
          exact covers.before_report
      | error failure =>
          cases performed
          exact covers
  | cancelOrder query =>
      cases answer with
      | ok orderInfo =>
          cases performed
          exact covers.before_report
      | error failure =>
          cases performed
          exact covers
  | ensureUserStreamConnected =>
      obtain ⟨streamStatus, streamLastError, rfl⟩ := performed
      exact covers
  | publishOcoError orderLinkId error =>
      obtain ⟨orders, rfl⟩ := performed
      exact covers
  | registerPendingOrder | unregisterPendingOrder | publishOrderUpdate | cancelOco
    | processOcoUpdate =>
      cases performed
      exact covers
  | stopRequested | getPendingOrderWait | getPendingOcoWaits | awaitOrder | awaitOco
    | getUserStreamLastError =>
      cases performed.2
      exact covers

theorem covers_before_interference (interfered : WaitInterferes exchange state after)
    (covers : CoversReports exchange genuine after) : CoversReports exchange genuine state := by
  cases interfered with
  | report report => exact covers.before_report
  | publish | publishError | stream | requestStop | register | unregister => exact covers

theorem wait_interfere (invariant : WaitInvariant genuine history state)
    (interfered : WaitInterferes exchange state after)
    (covers : CoversReports exchange genuine after) : WaitInvariant genuine history after := by
  cases interfered with
  | report report => exact ⟨invariant.counted, invariant.stores⟩
  | publish orderInfo reported => exact invariant.publish (covers orderInfo reported) rfl
  | publishError orderInfo error => exact invariant.publish_error orderInfo error
  | stream streamStatus streamLastError => exact ⟨invariant.counted, invariant.stores⟩
  | requestStop => exact ⟨invariant.counted, invariant.stores⟩
  | register target =>
      apply invariant.register target rfl
      intro orderKey
      rcases eq_or_ne target orderKey with rfl | other
      · simp [Nat.add_assoc]
      · simp [other, other.symm]
  | unregister target held =>
      apply invariant.unregister target rfl
      intro orderKey
      rcases eq_or_ne target orderKey with rfl | other
      · simp only [Function.update_self, if_true]
        omega
      · simp [other, other.symm]

theorem wait_act {effect : WaitEffect} {answer : effect.Answer}
    (invariant : WaitInvariant genuine history state)
    (required : waitRequires genuine history effect)
    (performed : WaitPerforms exchange state effect answer after)
    (covers : CoversReports exchange genuine after) :
    waitEnsures exchange genuine effect answer ∧
      WaitInvariant genuine (⟨effect, answer⟩ :: history) after := by
  cases effect with
  | stopRequested =>
      obtain ⟨-, rfl⟩ := performed
      exact ⟨trivial, invariant.counted, invariant.stores⟩
  | getUserStreamLastError =>
      obtain ⟨-, rfl⟩ := performed
      exact ⟨trivial, invariant.counted, invariant.stores⟩
  | cancelOco query =>
      cases performed
      exact ⟨trivial, invariant.counted, invariant.stores⟩
  | processOcoUpdate orderLinkId =>
      cases performed
      exact ⟨trivial, invariant.counted, invariant.stores⟩
  | ensureUserStreamConnected =>
      obtain ⟨streamStatus, streamLastError, rfl⟩ := performed
      exact ⟨trivial, invariant.counted, invariant.stores⟩
  | registerPendingOrder target =>
      cases performed
      constructor
      · trivial
      · apply invariant.register target rfl
        intro orderKey
        simp only [registrations, WaitState.updateWaits]
        omega
  | unregisterPendingOrder target =>
      cases performed
      constructor
      · trivial
      · apply invariant.unregister target rfl
        intro orderKey
        rcases eq_or_ne target orderKey with rfl | other
        · simp only [registrations, WaitState.updateWaits, if_true]
          simp only [waitRequires] at required
          omega
        · simp [registrations, WaitState.updateWaits, other]
  | getOrder query =>
      cases answer with
      | ok orderInfo =>
          cases performed
          constructor
          · intro answered same
            cases same
            exact covers orderInfo (.inr (.inl List.mem_cons_self))
          · exact ⟨invariant.counted, invariant.stores⟩
      | error failure =>
          cases performed
          constructor
          · intro answered same
            cases same
          · exact ⟨invariant.counted, invariant.stores⟩
  | cancelOrder query =>
      cases answer with
      | ok orderInfo =>
          cases performed
          constructor
          · intro answered same binance
            cases same
            exact covers orderInfo (.inr (.inr ⟨binance, List.mem_cons_self⟩))
          · exact ⟨invariant.counted, invariant.stores⟩
      | error failure =>
          cases performed
          constructor
          · intro answered same
            cases same
          · exact ⟨invariant.counted, invariant.stores⟩
  | publishOrderUpdate orderInfo =>
      cases performed
      exact ⟨trivial, invariant.publish required rfl⟩
  | publishOcoError orderLinkId error =>
      obtain ⟨orders, rfl⟩ := performed
      have kept := invariant.publish_errors orders error
      exact ⟨trivial, kept.counted, kept.stores⟩
  | getPendingOrderWait orderKey =>
      obtain ⟨rfl, rfl⟩ := performed
      exact ⟨invariant.entry_at required, invariant.counted, invariant.stores⟩
  | getPendingOcoWaits reader takeProfitKey stopLossKey =>
      obtain ⟨rfl, rfl⟩ := performed
      exact ⟨invariant.entries_at required.1 required.2, invariant.counted, invariant.stores⟩
  | awaitOrder orderKey =>
      obtain ⟨answers, rfl⟩ := performed
      obtain ⟨pendingWait, found, holds⟩ := invariant.entry_at required
      obtain ⟨result, same, seen⟩ := await_answers_ok found answers
      constructor
      · exact ⟨result, same, fun waited member => seen waited member ▸ holds⟩
      · exact ⟨invariant.counted, invariant.stores⟩
  | awaitOco need takeProfitKey stopLossKey =>
      obtain ⟨answers, rfl⟩ := performed
      obtain ⟨waits, found, holds⟩ := invariant.entries_at required.1 required.2
      obtain ⟨result, same, seen⟩ := await_answers_ok found answers
      constructor
      · exact ⟨result, same, fun waited member => seen waited member ▸ holds⟩
      · exact ⟨invariant.counted, invariant.stores⟩

/-- The shared state keeps its side of the contract at every moment. -/
theorem wait_guarantees :
    Guarantees (waitSystem exchange) (waitContract exchange genuine)
      (CoversReports exchange genuine) (WaitInvariant genuine) where
  covers_before_act := covers_before_act
  covers_before_interference := covers_before_interference
  act := wait_act
  interfere := wait_interfere

end Guarantees

end CryptoDeal.DealService
