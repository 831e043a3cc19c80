import CryptoDeal.DealService.Registrations
import Mathlib.Algebra.BigOperators.Group.Finset.Basic
import Mathlib.Algebra.Order.BigOperators.Group.Finset

/-!
# The map counts its registrations

All waiting calls of one service at once, with the stream's updates as calls of
their own. An entry is there exactly while some call holds a registration for its
key, and counts them.
-/

namespace CryptoDeal.DealService

open Interaction WaitProgram

inductive WaitCall where
  | waitUntilOrderFilled (symbol orderId : String)
  | cancelOrderAndWaitUntilTerminal (query : OrderQuery)
  | waitUntilOcoOrderFilled (ocoInfo : OcoInfo)
  | cancelOcoAndWaitUntilTerminal (ocoInfo : OcoInfo)
  /-- The stream's thread. -/
  | publishOrderUpdate (orderInfo : OrderInfo)
  /-- The stream's thread of Bybit. -/
  | publishOcoError (orderLinkId error : String)
  | ensureUserStreamConnected

namespace WaitCall

@[reducible] def Result : WaitCall → Type
  | waitUntilOrderFilled _ _ | cancelOrderAndWaitUntilTerminal _ => OrderInfo
  | waitUntilOcoOrderFilled _ => OcoWaitResult
  | cancelOcoAndWaitUntilTerminal _ => OcoInfo
  | publishOrderUpdate _ | publishOcoError _ _ | ensureUserStreamConnected => Unit

def program (exchange : ExchangerType) : (call : WaitCall) → WaitProgram call.Result
  | waitUntilOrderFilled symbol orderId => DealService.waitUntilOrderFilled exchange symbol orderId
  | cancelOrderAndWaitUntilTerminal query =>
      DealService.cancelOrderAndWaitUntilTerminal exchange query
  | waitUntilOcoOrderFilled ocoInfo => DealService.waitUntilOcoOrderFilled exchange ocoInfo
  | cancelOcoAndWaitUntilTerminal ocoInfo =>
      DealService.cancelOcoAndWaitUntilTerminal exchange ocoInfo
  | publishOrderUpdate orderInfo => WaitProgram.publishOrderUpdate orderInfo
  | publishOcoError orderLinkId error => WaitProgram.publishOcoError orderLinkId error
  | ensureUserStreamConnected => WaitProgram.ensureUserStreamConnected

end WaitCall

/-- Every call has a stop token of its own, which may say anything at any time. -/
def waitThreads (exchange : ExchangerType) :
    ThreadSystem WaitCall WaitState WaitEffect WaitEffect.Answer ServiceFailure where
  Result := WaitCall.Result
  program := WaitCall.program exchange
  performs := fun state effect answer after =>
    ∃ stopRequested, WaitPerforms exchange { state with stopRequested } effect answer after

/-- A run of any number of calls from the start of their service. -/
abbrev WaitThreadRun (exchange : ExchangerType) : List (ThreadStep (waitThreads exchange)) →
    Threads (waitThreads exchange) → Prop :=
  ThreadRun (waitThreads exchange) {}

/-- The entries that an effect looks up, a wait's predicate at every evaluation. -/
def WaitEffect.lookUps : WaitEffect → List OrderKey
  | .getPendingOrderWait orderKey | .awaitOrder orderKey => [orderKey]
  | .getPendingOcoWaits _ takeProfitKey stopLossKey | .awaitOco _ takeProfitKey stopLossKey =>
      [takeProfitKey, stopLossKey]
  | _ => []

section

variable {exchange : ExchangerType}

theorem holding_call (call : WaitCall) : Holding (fun _ => 0) (call.program exchange) := by
  cases call with
  | waitUntilOrderFilled symbol orderId => exact holding_wait_until_order_filled
  | cancelOrderAndWaitUntilTerminal query =>
      exact holding_cancel_order_and_wait_until_terminal query
  | waitUntilOcoOrderFilled ocoInfo => exact holding_wait_until_oco_order_filled
  | cancelOcoAndWaitUntilTerminal ocoInfo => exact holding_cancel_oco_and_wait_until_terminal
  | publishOrderUpdate orderInfo => exact holding_publish_order_update orderInfo
  | publishOcoError orderLinkId error => exact holding_publish_oco_error orderLinkId error
  | ensureUserStreamConnected => exact holding_ensure_user_stream_connected

variable {steps : List (ThreadStep (waitThreads exchange))}
  {state after : Threads (waitThreads exchange)} {threadId : ThreadId} {orderKey : OrderKey}
  {thread : Thread (waitThreads exchange)} {effect : WaitEffect} {answer : effect.Answer}

theorem WaitThreadRun.holds (run : WaitThreadRun exchange steps state)
    (found : state.threads threadId = some thread) :
    Meets registrationContract (fun later _ => registrations later = fun _ => 0) thread.current
      thread.history :=
  run.meets (fun _ _ _ _ _ _ => trivial) (fun call => holding_call call [] rfl) found

theorem WaitThreadRun.required (run : WaitThreadRun exchange steps state)
    (moves : state.Moves (.performed threadId effect answer) after) :
    waitRequires (fun _ => True) (state.historyOf threadId) effect :=
  run.allows (fun _ _ _ _ _ _ => trivial) (fun call => holding_call call [] rfl) moves

/-! ## What a step does to the map -/

theorem counts_publish_errors {waits : PendingOrderWaits} {count : ℕ}
    (counts : Counts waits orderKey count) (orders : List OrderInfo) (error : String) :
    Counts (orders.foldl (fun waits orderInfo => publishOrderWaitError orderInfo error waits) waits)
      orderKey count := by
  induction orders generalizing waits with
  | nil => exact counts
  | cons orderInfo orders ih => exact ih counts.publish_error

/-- One call acts while others hold `others` registrations. -/
theorem WaitPerforms.counts {shared last : WaitState} {history : WaitHistory} {others : ℕ}
    (performed : WaitPerforms exchange shared effect answer last)
    (required : waitRequires (fun _ => True) history effect)
    (counts : Counts shared.pendingOrderWaits orderKey
      (registrations history orderKey + others)) :
    Counts last.pendingOrderWaits orderKey
      (registrations (⟨effect, answer⟩ :: history) orderKey + others) := by
  cases effect with
  | registerPendingOrder target =>
      cases performed
      simp only [registrations, WaitState.updateWaits]
      by_cases own : target = orderKey
      · subst own
        rw [if_pos rfl, Nat.add_right_comm]
        exact counts.register
      · rw [if_neg own]
        exact counts.register_other (Ne.symm own)
  | unregisterPendingOrder target =>
      cases performed
      simp only [registrations, WaitState.updateWaits]
      by_cases own : target = orderKey
      · subst own
        change 0 < registrations history target at required
        have more : registrations history target + others =
            registrations history target - 1 + others + 1 := by omega
        rw [more] at counts
        rw [if_pos rfl]
        exact counts.unregister
      · rw [if_neg own]
        exact counts.unregister_other (Ne.symm own)
  | publishOrderUpdate orderInfo =>
      cases performed
      exact counts.publish
  | publishOcoError orderLinkId error =>
      obtain ⟨orders, rfl⟩ := performed
      exact counts_publish_errors counts orders error
  | getOrder query =>
      cases answer with
      | ok orderInfo =>
          cases performed
          exact counts
      | error failure =>
          cases performed
          exact counts
  | cancelOrder query =>
      cases answer with
      | ok orderInfo =>
          cases performed
          exact counts
      | error failure =>
          cases performed
          exact counts
  | ensureUserStreamConnected =>
      obtain ⟨streamStatus, streamLastError, rfl⟩ := performed
      exact counts
  | cancelOco query =>
      cases performed
      exact counts
  | processOcoUpdate orderLinkId =>
      cases performed
      exact counts
  | stopRequested | getPendingOrderWait orderKey | getPendingOcoWaits reader first second
    | awaitOrder orderKey | awaitOco need first second | getUserStreamLastError =>
      cases performed.2
      exact counts

/-! ## Whole runs -/

def startedThreads : List (ThreadStep (waitThreads exchange)) → Finset ThreadId
  | [] => ∅
  | (_, .started threadId _) :: steps => insert threadId (startedThreads steps)
  | (_, .performed _ _ _) :: steps => startedThreads steps

/-- The registrations for a key that are alive. -/
def liveRegistrations (steps : List (ThreadStep (waitThreads exchange)))
    (state : Threads (waitThreads exchange)) (orderKey : OrderKey) : ℕ :=
  ∑ threadId ∈ startedThreads steps, registrations (state.historyOf threadId) orderKey

theorem WaitThreadRun.started (run : WaitThreadRun exchange steps state)
    (found : state.threads threadId = some thread) : threadId ∈ startedThreads steps := by
  induction run generalizing thread with
  | start => cases found
  | step run moves ih =>
      cases moves with
      | start started call fresh =>
          refine Finset.mem_insert.mpr ?_
          by_cases own : threadId = started
          · exact .inl own
          · exact .inr (ih ((Threads.start_other own).symm.trans found))
      | @perform actor actorThread effect next answer shared known asks performed =>
          by_cases own : threadId = actor
          · subst own
            exact ih known
          · exact ih ((Threads.resume_other own).symm.trans found)

theorem live_registrations_split (started : threadId ∈ startedThreads steps) :
    liveRegistrations steps state orderKey = registrations (state.historyOf threadId) orderKey +
      ∑ other ∈ (startedThreads steps).erase threadId,
        registrations (state.historyOf other) orderKey :=
  (Finset.add_sum_erase _ _ started).symm

/-- The entries count the registrations of all calls together. -/
theorem WaitThreadRun.counted (run : WaitThreadRun exchange steps state)
    (orderKey : OrderKey) :
    Counts state.shared.pendingOrderWaits orderKey (liveRegistrations steps state orderKey) := by
  induction run with
  | start => rfl
  | @step steps before after event run moves ih =>
      cases event with
      | started threadId call =>
          obtain ⟨shared, -⟩ := moves.history_of_started threadId
          have same (other : ThreadId) : after.historyOf other = before.historyOf other :=
            (moves.history_of_started other).2
          rw [shared]
          unfold liveRegistrations startedThreads
          simp only [same]
          by_cases again : threadId ∈ startedThreads steps
          · rw [Finset.insert_eq_of_mem again]
            exact ih
          · rw [Finset.sum_insert again]
            cases moves with
            | start _ _ fresh =>
                rw [Threads.history_of_fresh fresh]
                simpa [registrations, liveRegistrations] using ih
      | performed actor effect answer =>
          have required := WaitThreadRun.required run moves
          have acted := moves.history_of_actor
          have others : ∑ other ∈ (startedThreads steps).erase actor,
              registrations (after.historyOf other) orderKey =
              ∑ other ∈ (startedThreads steps).erase actor,
                registrations (before.historyOf other) orderKey :=
            Finset.sum_congr rfl fun other among => by
              rw [moves.history_of_other (Finset.ne_of_mem_erase among)]
          obtain ⟨stopRequested, performed⟩ := moves.performs
          cases moves with
          | perform found asks given =>
              have started := WaitThreadRun.started run found
              rw [live_registrations_split started] at ih
              change Counts _ orderKey (liveRegistrations steps _ orderKey)
              rw [live_registrations_split started, acted, others]
              exact performed.counts required ih

/-! ## What holds in every run -/

theorem counts_iff {waits : PendingOrderWaits} {count : ℕ} (counts : Counts waits orderKey count) :
    (waits orderKey).isSome ↔ 0 < count := by
  unfold Counts at counts
  cases live : waits orderKey with
  | none =>
      rw [live] at counts
      split_ifs at counts with zero
      · simp [zero]
      · cases counts
  | some pendingWait =>
      rw [live] at counts
      split_ifs at counts with zero
      · cases counts
      · simpa using Nat.pos_of_ne_zero zero

theorem counts_entry {waits : PendingOrderWaits} {count : ℕ} {pendingWait : PendingOrderWait}
    (counts : Counts waits orderKey count) (live : waits orderKey = some pendingWait) :
    pendingWait.registrationCount = count := by
  unfold Counts at counts
  rw [live] at counts
  split_ifs at counts
  · cases counts
  · exact Option.some.inj counts

theorem WaitThreadRun.alive_iff (run : WaitThreadRun exchange steps state) :
    0 < liveRegistrations steps state orderKey ↔
      ∃ threadId, 0 < registrations (state.historyOf threadId) orderKey := by
  unfold liveRegistrations
  rw [Finset.sum_pos_iff]
  constructor
  · rintro ⟨threadId, -, alive⟩
    exact ⟨threadId, alive⟩
  · rintro ⟨threadId, alive⟩
    cases found : state.threads threadId with
    | none =>
        rw [Threads.history_of_fresh found] at alive
        exact absurd alive (Nat.lt_irrefl 0)
    | some thread => exact ⟨threadId, run.started found, alive⟩

/-- A look-up that a call is about to make finds its entry. -/
theorem WaitThreadRun.finds
    {next : effect.Answer → WaitProgram ((waitThreads exchange).Result thread.call)}
    (run : WaitThreadRun exchange steps state)
    (found : state.threads threadId = some thread) (asks : thread.current = .request effect next)
    (looked : orderKey ∈ effect.lookUps) : (state.shared.pendingOrderWaits orderKey).isSome := by
  have required := run.holds found
  rw [asks] at required
  have own : 0 < registrations thread.history orderKey := by
    cases effect with
    | getPendingOrderWait target | awaitOrder target =>
        rw [List.mem_singleton.mp looked]
        exact required.1
    | getPendingOcoWaits reader takeProfitKey stopLossKey
      | awaitOco need takeProfitKey stopLossKey =>
        obtain rfl | second := List.mem_cons.mp looked
        · exact required.1.1
        · rw [List.mem_singleton.mp second]
          exact required.1.2
    | _ => cases looked
  rw [counts_iff (run.counted orderKey), run.alive_iff]
  exact ⟨threadId, by rwa [Threads.history_of_found found]⟩

/-- An ended call has given up all its registrations. -/
theorem WaitThreadRun.released
    {outcome : Except ServiceFailure ((waitThreads exchange).Result thread.call)}
    (run : WaitThreadRun exchange steps state)
    (found : state.threads threadId = some thread) (ended : thread.current = .ofExcept outcome) :
    registrations (state.historyOf threadId) orderKey = 0 := by
  have holds := run.holds found
  rw [ended, meets_of_except] at holds
  rw [Threads.history_of_found found, holds]

theorem register_fresh {waits : PendingOrderWaits} (absent : waits orderKey = none) :
    registerPendingOrder orderKey waits orderKey = some { registrationCount := 1 } := by
  rw [registerPendingOrder, Function.update_self, absent]
  rfl

theorem unregister_shared {waits : PendingOrderWaits} {pendingWait : PendingOrderWait}
    (live : waits orderKey = some pendingWait) (several : 1 < pendingWait.registrationCount) :
    unregisterPendingOrder orderKey waits orderKey =
      some { pendingWait with registrationCount := pendingWait.registrationCount - 1 } := by
  rw [unregisterPendingOrder, live]
  simp only [if_pos several]
  exact Function.update_self _ _ _

/-- The registrations are exact reference counts of the entries. -/
structure RegistrationsCounted (steps : List (ThreadStep (waitThreads exchange)))
    (state : Threads (waitThreads exchange)) : Prop where
  entry_iff (orderKey : OrderKey) : (state.shared.pendingOrderWaits orderKey).isSome ↔
    ∃ threadId, 0 < registrations (state.historyOf threadId) orderKey
  count {orderKey : OrderKey} {pendingWait : PendingOrderWait} :
    state.shared.pendingOrderWaits orderKey = some pendingWait →
      pendingWait.registrationCount = liveRegistrations steps state orderKey
  finds {threadId : ThreadId} {thread : Thread (waitThreads exchange)} {effect : WaitEffect}
    {next : effect.Answer → WaitProgram ((waitThreads exchange).Result thread.call)}
    {orderKey : OrderKey} :
    state.threads threadId = some thread → thread.current = .request effect next →
      orderKey ∈ effect.lookUps → (state.shared.pendingOrderWaits orderKey).isSome
  released {threadId : ThreadId} {thread : Thread (waitThreads exchange)}
    {outcome : Except ServiceFailure ((waitThreads exchange).Result thread.call)}
    (orderKey : OrderKey) :
    state.threads threadId = some thread → thread.current = .ofExcept outcome →
      registrations (state.historyOf threadId) orderKey = 0
  starts_empty {threadId : ThreadId} {orderKey : OrderKey} {answer : Unit}
    {after : Threads (waitThreads exchange)} :
    state.Moves (.performed threadId (.registerPendingOrder orderKey) answer) after →
      liveRegistrations steps state orderKey = 0 →
      after.shared.pendingOrderWaits orderKey = some { registrationCount := 1 }
  survives {threadId : ThreadId} {orderKey : OrderKey} {answer : Unit}
    {after : Threads (waitThreads exchange)} :
    state.Moves (.performed threadId (.unregisterPendingOrder orderKey) answer) after →
      1 < liveRegistrations steps state orderKey →
      ∃ pendingWait left, state.shared.pendingOrderWaits orderKey = some pendingWait ∧
        after.shared.pendingOrderWaits orderKey = some left ∧
        left.orderInfo = pendingWait.orderInfo ∧ left.error = pendingWait.error

/-- Whatever calls wait, cancel and publish at once, and however each of them ends. -/
theorem registrations_counted (run : WaitThreadRun exchange steps state) :
    RegistrationsCounted steps state where
  entry_iff orderKey := (counts_iff (run.counted orderKey)).trans run.alive_iff
  count := fun live => counts_entry (run.counted _) live
  finds := run.finds
  released _ := run.released
  starts_empty {threadId orderKey answer after} := by
    intro moves none
    have counted := run.counted orderKey
    rw [none] at counted
    obtain ⟨stopRequested, performed⟩ := moves.performs
    have absent : state.shared.pendingOrderWaits orderKey = Option.none :=
      Option.not_isSome_iff_eq_none.mp fun alive =>
        Nat.lt_irrefl 0 ((counts_iff counted).mp alive)
    rw [performed]
    exact register_fresh absent
  survives {threadId orderKey answer after} := by
    intro moves several
    have counted := run.counted orderKey
    obtain ⟨stopRequested, performed⟩ := moves.performs
    obtain ⟨pendingWait, live⟩ := counted.present (Nat.zero_lt_of_lt several)
    have held : 1 < pendingWait.registrationCount := by
      rw [counts_entry counted live]
      exact several
    have left := unregister_shared live held
    rw [performed]
    exact ⟨pendingWait, _, live, left, rfl, rfl⟩

/-- An exchange that knows no order answers the calls. -/
def respondWithoutOrders (exchange : ExchangerType) :
    WaitState → (effect : WaitEffect) → Option (effect.Answer × WaitState) :=
  performSteadily exchange (fun _ _ => .error .nonStandard) fun _ => .error .nonStandard

theorem respond_without_orders_performs (exchange : ExchangerType) (shared : WaitState)
    (effect : WaitEffect)
    (answer : effect.Answer) (last : WaitState)
    (responded : respondWithoutOrders exchange shared effect = some (answer, last)) :
    (waitThreads exchange).performs shared effect answer last :=
  ⟨shared.stopRequested, perform_steadily_performs responded⟩

/-- Two waits for one order have registered. -/
theorem two_waits_counted :
    ∃ (steps : List (ThreadStep (waitThreads .bybit))) (state : Threads (waitThreads .bybit)),
      RegistrationsCounted steps state ∧
      state.shared.pendingOrderWaits ("BTCUSDT", "7") = some { registrationCount := 2 } := by
  obtain ⟨steps, run⟩ := ThreadRun.obeys (respond_without_orders_performs .bybit)
    .start [.start 0 (.waitUntilOrderFilled "BTCUSDT" "7"),
      .start 1 (.waitUntilOrderFilled "BTCUSDT" "7"), .act 0 2, .act 1 2]
  exact ⟨_, _, registrations_counted run, rfl⟩

end

end CryptoDeal.DealService
