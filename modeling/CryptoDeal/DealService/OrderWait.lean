import CryptoDeal.DealService.WaitProgram

/-!
# Waiting for one order

`waitUntilOrderFilled` and `cancelOrderAndWaitUntilTerminal` of both services.
A call returns what its own entry held at some moment: an update of its order
that was reported. Once its cancel call has failed, nothing it learns later can
turn that failure into another one or into an unconfirmed success.
-/

namespace CryptoDeal.DealService

open OrderStatusUtil Interaction WaitProgram

section Programs

variable (exchange : ExchangerType)

def orderWaitFailure (orderInfo : OrderInfo) : ServiceFailure :=
  .runtime (exchangerName exchange ++ " order " ++ orderInfo.symbol ++ "/" ++ orderInfo.orderId ++
    " reached terminal status " ++ orderInfo.status ++ " before being filled" ++
    errorSuffix orderInfo.statusReason)

def prepareOrderSubscription (symbol orderId : String) : WaitProgram Unit := do
  ensureUserStreamConnected
  reconcileOrder { symbol, orderId }

def waitForOrderTerminalStatus (symbol orderId : String) : WaitProgram PendingOrderWait := do
  let read ← awaitOrder (getOrderKey symbol orderId)
  completedRead (exchangerName exchange ++ " order wait " ++ symbol ++ "/" ++ orderId) read

def processOrderUpdate (symbol orderId : String) (pendingWait : PendingOrderWait) :
    WaitProgram OrderInfo := do
  if let some error := entryError exchange pendingWait then
    .threw (.runtime (exchangerName exchange ++ " order wait failed for " ++ symbol ++ "/" ++
      orderId ++ ": " ++ error))
  else if let some orderInfo := pendingWait.filledInfo exchange then
    return orderInfo
  else if let some orderInfo := pendingWait.terminalInfo exchange then
    .threw (orderWaitFailure exchange orderInfo)
  else
    let streamError ← getUserStreamLastError
    .threw (.runtime (exchangerName exchange ++ " user stream stopped while waiting for order " ++
      symbol ++ "/" ++ orderId ++ errorSuffix streamError))

/-- An empty stop token is one that is never stopped. -/
def waitUntilOrderFilled (symbol orderId : String) : WaitProgram OrderInfo := do
  throwIf (symbol = "" ∨ orderId = "")
    ("Symbol and orderId are required while waiting for a " ++ exchangerName exchange ++ " order")
  throwIfStopRequested (exchangerName exchange ++ " order wait " ++ symbol ++ "/" ++ orderId)
  withPendingOrderRegistration (getOrderKey symbol orderId) do
    prepareOrderSubscription symbol orderId
    let pendingWait ← waitForOrderTerminalStatus exchange symbol orderId
    processOrderUpdate exchange symbol orderId pendingWait

def processOrderCancellationUpdate (symbol orderId : String) (pendingWait : PendingOrderWait) :
    WaitProgram OrderInfo := do
  if let some error := entryError exchange pendingWait then
    .threw (.runtime (exchangerName exchange ++ " order cancellation failed for " ++ symbol ++
      "/" ++ orderId ++ ": " ++ error))
  else if let some orderInfo := pendingWait.terminalInfo exchange then
    return orderInfo
  else
    let streamError ← getUserStreamLastError
    .threw (.runtime (exchangerName exchange ++
      " user stream stopped while confirming cancellation of order " ++ symbol ++ "/" ++ orderId ++
      errorSuffix streamError))

/-- The `try` block around the cancel call: Binance publishes a terminal
response, Bybit's is an acknowledgement that is dropped. -/
def sendCancelOrder (request : OrderQuery) : WaitProgram Unit := do
  let cancellationInfo ← cancelOrder request
  match exchange with
  | .binance =>
      if isOrderTerminal .binance cancellationInfo.status then
        WaitProgram.publishOrderUpdate cancellationInfo
      else return ()
  | .bybit => return ()

/-- The `catch (...)` block of the cancel call. -/
def recoverFailedCancelOrder (symbol orderId : String) (cancellationFailure : ServiceFailure) :
    WaitProgram OrderInfo := do
  (reconcileOrder { symbol, orderId }).handle fun _ => .threw cancellationFailure
  let pendingWait ← getPendingOrderWait symbol orderId
  if let some orderInfo := pendingWait.terminalInfo exchange then
    return orderInfo
  else .threw cancellationFailure

/-- The last look once the stream is gone. -/
def reconcileCancelledOrder (symbol orderId : String) : WaitProgram OrderInfo := do
  (reconcileOrder { symbol, orderId }).catchException fun what => do
    let streamError ← getUserStreamLastError
    .threw (.runtime (exchangerName exchange ++
      " user stream stopped while confirming cancellation of order " ++ symbol ++ "/" ++ orderId ++
      errorSuffix streamError ++ "; reconciliation failed: " ++ what))
  let pendingWait ← getPendingOrderWait symbol orderId
  processOrderCancellationUpdate exchange symbol orderId pendingWait

/-- What follows an acknowledged cancel call. -/
def confirmCancelledOrder (symbol orderId : String) : WaitProgram OrderInfo := do
  let pendingWait ← getPendingOrderWait symbol orderId
  if let some orderInfo := pendingWait.terminalInfo exchange then
    return orderInfo
  else
    let pendingWait ← waitForOrderTerminalStatus exchange symbol orderId
    -- on Binance, where no entry has an error, this returns the terminal update as it is
    if (entryError exchange pendingWait).isSome ∨ isEntryTerminal exchange pendingWait then
      processOrderCancellationUpdate exchange symbol orderId pendingWait
    else reconcileCancelledOrder exchange symbol orderId

def cancelUnsettledOrder (request : OrderQuery) (orderId : String) : WaitProgram OrderInfo := do
  throwIfStopRequested (exchangerName exchange ++ " order cancellation " ++ request.symbol ++
    "/" ++ orderId)
  let cancelled ← (sendCancelOrder exchange request).attempt
  match cancelled with
  | .error cancellationFailure =>
      recoverFailedCancelOrder exchange request.symbol orderId cancellationFailure
  | .ok () => confirmCancelledOrder exchange request.symbol orderId

/-- `cancelOrderAndWaitUntilTerminal` under its registration. -/
def cancelRegisteredOrder (request : OrderQuery) (orderId : String) : WaitProgram OrderInfo := do
  prepareOrderSubscription request.symbol orderId
  let pendingWait ← getPendingOrderWait request.symbol orderId
  if let some orderInfo := pendingWait.terminalInfo exchange then
    return orderInfo
  else if (entryError exchange pendingWait).isSome then
    processOrderCancellationUpdate exchange request.symbol orderId pendingWait
  else
    cancelUnsettledOrder exchange request orderId

def cancelOrderAndWaitUntilTerminal (request : OrderQuery) : WaitProgram OrderInfo := do
  throwIf (request.symbol = "" ∨ request.orderId.getD "" = "")
    ("Symbol and orderId are required while cancelling and confirming a " ++
      exchangerName exchange ++ " order")
  let orderId := request.orderId.getD ""
  throwIfStopRequested (exchangerName exchange ++ " order cancellation " ++ request.symbol ++
    "/" ++ orderId)
  withPendingOrderRegistration (getOrderKey request.symbol orderId) do
    cancelRegisteredOrder exchange request orderId

end Programs

/-! ## What the parts return -/

section Parts

variable {exchange : ExchangerType} {genuine : OrderInfo → Prop} {noted : WaitEffect → Bool}
  {keys : List OrderKey} {symbol orderId : String} {pendingWait : PendingOrderWait}

/-- A genuine update of this order that is filled. -/
structure FilledUpdate (exchange : ExchangerType) (genuine : OrderInfo → Prop)
    (orderKey : OrderKey) (orderInfo : OrderInfo) : Prop where
  key : orderInfo.key = orderKey
  reported : genuine orderInfo
  filled : isOrderFilled exchange orderInfo.status

/-- A genuine update of this order that is terminal. -/
structure TerminalUpdate (exchange : ExchangerType) (genuine : OrderInfo → Prop)
    (orderKey : OrderKey) (orderInfo : OrderInfo) : Prop where
  key : orderInfo.key = orderKey
  reported : genuine orderInfo
  terminal : isOrderTerminal exchange orderInfo.status

theorem EntryOf.filled_update {orderKey : OrderKey} {orderInfo : OrderInfo}
    (entry : EntryOf genuine orderKey pendingWait)
    (found : pendingWait.filledInfo exchange = some orderInfo) :
    FilledUpdate exchange genuine orderKey orderInfo := by
  rw [PendingOrderWait.filled_info_eq_some] at found
  exact ⟨(entry _ found.1).1, (entry _ found.1).2, found.2⟩

theorem EntryOf.terminal_update {orderKey : OrderKey} {orderInfo : OrderInfo}
    (entry : EntryOf genuine orderKey pendingWait)
    (found : pendingWait.terminalInfo exchange = some orderInfo) :
    TerminalUpdate exchange genuine orderKey orderInfo := by
  rw [PendingOrderWait.terminal_info_eq_some] at found
  exact ⟨(entry _ found.1).1, (entry _ found.1).2, found.2⟩

def isCancelOrder : WaitEffect → Bool
  | .cancelOrder _ => true
  | _ => false

theorem quietly_stream_stopped {Result : Type} {holds : Result → Prop}
    (unnoted : noted .getUserStreamLastError = false) (failure : String → ServiceFailure) :
    Quietly exchange genuine noted keys holds
      (getUserStreamLastError >>= fun streamError => .threw (failure streamError)) :=
  (quietly_get_user_stream_last_error unnoted).bind fun _ _ => quietly_threw _

theorem quietly_prepare_order_subscription :
    Quietly exchange genuine isCancelOrder keys (fun _ => True)
      (prepareOrderSubscription symbol orderId) :=
  (quietly_ensure_user_stream_connected rfl).bind fun _ _ =>
    quietly_reconcile_order (fun _ => rfl) fun _ => rfl

theorem quietly_wait_for_order_terminal_status
    (registered : getOrderKey symbol orderId ∈ keys) :
    Quietly exchange genuine isCancelOrder keys (EntryOf genuine (getOrderKey symbol orderId))
      (waitForOrderTerminalStatus exchange symbol orderId) := by
  apply (quietly_await_order rfl registered).bind
  intro read entries
  apply quietly_completed_read.weaken
  intro pendingWait same
  exact entries pendingWait same

theorem quietly_process_order_update
    (entry : EntryOf genuine (getOrderKey symbol orderId) pendingWait) :
    Quietly exchange genuine isCancelOrder keys
      (FilledUpdate exchange genuine (getOrderKey symbol orderId))
      (processOrderUpdate exchange symbol orderId pendingWait) := by
  unfold processOrderUpdate
  split
  · exact quietly_threw _
  · split
    next orderInfo found => exact quietly_returned (entry.filled_update found)
    split
    · exact quietly_threw _
    · exact quietly_stream_stopped rfl _

theorem quietly_process_order_cancellation_update
    (entry : EntryOf genuine (getOrderKey symbol orderId) pendingWait) :
    Quietly exchange genuine isCancelOrder keys
      (TerminalUpdate exchange genuine (getOrderKey symbol orderId))
      (processOrderCancellationUpdate exchange symbol orderId pendingWait) := by
  unfold processOrderCancellationUpdate
  split
  · exact quietly_threw _
  · split
    next orderInfo found => exact quietly_returned (entry.terminal_update found)
    exact quietly_stream_stopped rfl _

theorem quietly_reconcile_cancelled_order
    (registered : getOrderKey symbol orderId ∈ keys) :
    Quietly exchange genuine isCancelOrder keys
      (TerminalUpdate exchange genuine (getOrderKey symbol orderId))
      (reconcileCancelledOrder exchange symbol orderId) := by
  have reconciled : Quietly exchange genuine isCancelOrder keys (fun _ => True)
      (reconcileOrder { symbol, orderId }) :=
    quietly_reconcile_order (fun _ => rfl) fun _ => rfl
  apply (reconciled.catch_exception fun what => quietly_stream_stopped rfl _).bind
  intro _ _
  apply (quietly_get_pending_order_wait rfl registered).bind
  intro pendingWait entry
  exact quietly_process_order_cancellation_update entry

theorem quietly_confirm_cancelled_order
    (registered : getOrderKey symbol orderId ∈ keys) :
    Quietly exchange genuine isCancelOrder keys
      (TerminalUpdate exchange genuine (getOrderKey symbol orderId))
      (confirmCancelledOrder exchange symbol orderId) := by
  apply (quietly_get_pending_order_wait rfl registered).bind
  intro pendingWait entry
  split
  next orderInfo found => exact quietly_returned (entry.terminal_update found)
  apply (quietly_wait_for_order_terminal_status registered).bind
  intro pendingWait entry
  split_ifs
  · exact quietly_process_order_cancellation_update entry
  · exact quietly_reconcile_cancelled_order registered

end Parts

/-! ## Whole calls -/

section Calls

variable {exchange : ExchangerType} {genuine : OrderInfo → Prop} {orderKey : OrderKey}
  {request : OrderQuery} {orderId : String}

theorem meets_with_pending_order_registration {Result : Type} {program : WaitProgram Result}
    {post : WaitHistory → Except ServiceFailure Result → Prop} {history : WaitHistory}
    (body : Meets (waitContract exchange genuine)
      (fun later outcome => 0 < registrations later orderKey ∧
        post (⟨.unregisterPendingOrder orderKey, ()⟩ :: later) outcome)
      program (⟨.registerPendingOrder orderKey, ()⟩ :: history)) :
    Meets (waitContract exchange genuine) post
      (withPendingOrderRegistration orderKey program) history := by
  apply (meets_monad_bind _ _).mpr
  refine ⟨trivial, ?_⟩
  intro answer _
  apply (meets_ensuring _ _).mpr
  apply body.weaken
  intro later outcome known
  refine ⟨known.1, ?_⟩
  intro cleaned _
  exact known.2

theorem registered_after (history : WaitHistory) (answer : Unit) :
    Registered [orderKey] (⟨.registerPendingOrder orderKey, answer⟩ :: history) := by
  intro registered member
  rw [List.mem_singleton] at member
  subst member
  simp [registrations]

/-- A quiet body in the scope of its registration. -/
theorem Quietly.with_registration {Result : Type} {noted : WaitEffect → Bool}
    {holds : Result → Prop} {program : WaitProgram Result}
    (body : Quietly exchange genuine noted [orderKey] holds program) (history : WaitHistory) :
    Meets (waitContract exchange genuine)
      (fun _ outcome => ∀ result, outcome = .ok result → holds result)
      (withPendingOrderRegistration orderKey program) history := by
  apply meets_with_pending_order_registration
  apply (body _ (registered_after history ())).weaken
  intro later outcome known
  refine ⟨?_, known.2.2⟩
  rw [known.1]
  exact registered_after history () orderKey (List.mem_singleton_self orderKey)

/-- A check before the registration. -/
theorem meets_after_stop_check {Result : Type} {rest : WaitProgram Result} {description : String}
    {post : WaitHistory → Except ServiceFailure Result → Prop} {history : WaitHistory}
    (stopped : ∀ later failure, later.filter (isCancelOrder ·.1) =
      history.filter (isCancelOrder ·.1) → post later (.error failure))
    (goesOn : ∀ later, later.filter (isCancelOrder ·.1) = history.filter (isCancelOrder ·.1) →
      Meets (waitContract exchange genuine) post rest later) :
    Meets (waitContract exchange genuine) post
      (throwIfStopRequested description >>= fun _ => rest) history := by
  have checked : Quietly exchange genuine isCancelOrder [] (fun _ => True)
      (throwIfStopRequested description) :=
    quietly_throw_if_stop_requested rfl
  apply (checked history nofun).bind
  · intro later _ known
    exact goesOn later known.2.1
  · intro later failure known
    exact stopped later failure known.2.1

theorem wait_until_order_filled_meets (symbol orderId : String) :
    Meets (waitContract exchange genuine)
      (fun _ outcome => ∀ orderInfo, outcome = .ok orderInfo →
        FilledUpdate exchange genuine (getOrderKey symbol orderId) orderInfo)
      (waitUntilOrderFilled exchange symbol orderId) [] := by
  have registered : getOrderKey symbol orderId ∈ [getOrderKey symbol orderId] :=
    List.mem_singleton_self _
  have body : Quietly exchange genuine isCancelOrder [getOrderKey symbol orderId]
      (FilledUpdate exchange genuine (getOrderKey symbol orderId))
      (do
        prepareOrderSubscription symbol orderId
        let pendingWait ← waitForOrderTerminalStatus exchange symbol orderId
        processOrderUpdate exchange symbol orderId pendingWait) :=
    quietly_prepare_order_subscription.bind fun _ _ =>
      (quietly_wait_for_order_terminal_status registered).bind fun _ entry =>
        quietly_process_order_update entry
  have refused : ∀ (later : WaitHistory) (failure : ServiceFailure) (orderInfo : OrderInfo),
      Except.error failure = Except.ok orderInfo →
        FilledUpdate exchange genuine (getOrderKey symbol orderId) orderInfo := by
    intro later failure orderInfo same
    cases same
  unfold waitUntilOrderFilled
  apply (meets_monad_bind _ _).mpr
  apply (meets_lift _).mpr
  split
  · apply meets_after_stop_check
    · intro later failure _
      exact refused later failure
    · intro later _
      exact body.with_registration later
  · exact refused [] _

/-- Found by the query that follows a failed cancel call: the call has read its
entry after the answer to that query. -/
def FoundByReconciliation (request : OrderQuery) (orderKey : OrderKey)
    (cancellationFailure : ServiceFailure) (history : WaitHistory) (orderInfo : OrderInfo) : Prop :=
  ∃ query current pendingWait, query.symbol = orderKey.1 ∧ query.orderId = some orderKey.2 ∧
    pendingWait.orderInfo = some orderInfo ∧
    List.Sublist
      [⟨.getPendingOrderWait orderKey, .ok pendingWait⟩, ⟨.getOrder query, .ok current⟩,
        ⟨.cancelOrder request, .error cancellationFailure⟩] history

/-- What a confirmed cancellation guarantees at its end. -/
structure CancellationConfirmed (exchange : ExchangerType) (genuine : OrderInfo → Prop)
    (request : OrderQuery) (orderKey : OrderKey) (history : WaitHistory)
    (outcome : Except ServiceFailure OrderInfo) : Prop where
  returns : ∀ orderInfo, outcome = .ok orderInfo →
    TerminalUpdate exchange genuine orderKey orderInfo
  keepsFailure : ∀ query cancellationFailure,
    ⟨.cancelOrder query, .error cancellationFailure⟩ ∈ history →
      outcome = .error cancellationFailure ∨
      ∃ orderInfo, outcome = .ok orderInfo ∧
        FoundByReconciliation request orderKey cancellationFailure history orderInfo

theorem mem_cancel_calls {history : WaitHistory} {query : OrderQuery}
    {answer : Except ServiceFailure OrderInfo} (member : ⟨.cancelOrder query, answer⟩ ∈ history) :
    ⟨.cancelOrder query, answer⟩ ∈ history.filter (isCancelOrder ·.1) :=
  List.mem_filter.mpr ⟨member, rfl⟩

/-- Without a failed cancel call only the result matters. -/
theorem CancellationConfirmed.of_not_failed {history : WaitHistory}
    {outcome : Except ServiceFailure OrderInfo}
    (returns : ∀ orderInfo, outcome = .ok orderInfo →
      TerminalUpdate exchange genuine orderKey orderInfo)
    (notFailed : ∀ query failure,
      ⟨.cancelOrder query, .error failure⟩ ∉ history.filter (isCancelOrder ·.1)) :
    CancellationConfirmed exchange genuine request orderKey history outcome where
  returns := returns
  keepsFailure := by
    intro query failure member
    exact absurd (mem_cancel_calls member) (notFailed query failure)

theorem CancellationConfirmed.of_no_cancel {history : WaitHistory}
    {outcome : Except ServiceFailure OrderInfo}
    (returns : ∀ orderInfo, outcome = .ok orderInfo →
      TerminalUpdate exchange genuine orderKey orderInfo)
    (none : history.filter (isCancelOrder ·.1) = []) :
    CancellationConfirmed exchange genuine request orderKey history outcome := by
  apply CancellationConfirmed.of_not_failed returns
  intro query failure
  rw [none]
  exact List.not_mem_nil

/-- Later steps that cancel nothing do not touch the guarantee. -/
theorem CancellationConfirmed.unregister {history : WaitHistory}
    {outcome : Except ServiceFailure OrderInfo}
    (confirmed : CancellationConfirmed exchange genuine request orderKey history outcome) :
    CancellationConfirmed exchange genuine request orderKey
      (⟨.unregisterPendingOrder orderKey, ()⟩ :: history) outcome where
  returns := confirmed.returns
  keepsFailure := by
    intro query failure member
    have earlier : ⟨.cancelOrder query, .error failure⟩ ∈ history := by simpa using member
    rcases confirmed.keepsFailure query failure earlier with same | ⟨orderInfo, same, found⟩
    · exact .inl same
    · obtain ⟨asked, current, pendingWait, symbol, orderId, held, order⟩ := found
      exact .inr ⟨orderInfo, same, asked, current, pendingWait, symbol, orderId, held,
        order.cons _⟩

theorem meets_get_pending_order_wait {Result : Type} {symbol : String} {history : WaitHistory}
    {post : WaitHistory → Except ServiceFailure Result → Prop}
    {rest : PendingOrderWait → WaitProgram Result}
    (own : 0 < registrations history (getOrderKey symbol orderId))
    (goesOn : ∀ pendingWait, EntryOf genuine (getOrderKey symbol orderId) pendingWait →
      Meets (waitContract exchange genuine) post (rest pendingWait)
        (⟨.getPendingOrderWait (getOrderKey symbol orderId), .ok pendingWait⟩ :: history)) :
    Meets (waitContract exchange genuine) post (getPendingOrderWait symbol orderId >>= rest)
      history := by
  refine ⟨own, ?_⟩
  intro read kept
  obtain ⟨pendingWait, rfl, entry⟩ := kept
  exact goesOn pendingWait entry

/-- Everything a reconciliation can do. -/
theorem meets_reconcile_order (orderInfo : OrderInfo) (history : WaitHistory) :
    Meets (waitContract exchange genuine)
      (fun later outcome =>
        (∃ current, outcome = .ok () ∧ later = ⟨.publishOrderUpdate current, ()⟩ ::
          ⟨.getOrder (reconciliationQuery orderInfo), .ok current⟩ :: history) ∨
        ∃ failure, outcome = .error failure ∧
          later = ⟨.getOrder (reconciliationQuery orderInfo), .error failure⟩ :: history)
      (reconcileOrder orderInfo) history := by
  refine ⟨trivial, ?_⟩
  intro answer reported
  cases answer with
  | error failure => exact .inr ⟨failure, rfl, rfl⟩
  | ok current =>
      refine ⟨reported current rfl, ?_⟩
      intro published _
      exact .inl ⟨current, rfl, rfl⟩

theorem recover_failed_cancel_order_meets {symbol : String} {failure : ServiceFailure}
    {history : WaitHistory} (none : history.filter (isCancelOrder ·.1) = [])
    (own : 0 < registrations history (getOrderKey symbol orderId)) :
    Meets (waitContract exchange genuine)
      (fun later outcome =>
        0 < registrations later (getOrderKey symbol orderId) ∧
        CancellationConfirmed exchange genuine request (getOrderKey symbol orderId) later outcome)
      (recoverFailedCancelOrder exchange symbol orderId failure)
      (⟨.cancelOrder request, .error failure⟩ :: history) := by
  have rethrown : ∀ later : WaitHistory,
      later.filter (isCancelOrder ·.1) = [⟨.cancelOrder request, .error failure⟩] →
      CancellationConfirmed exchange genuine request (getOrderKey symbol orderId) later
        (.error failure) := by
    intro later only
    constructor
    · intro orderInfo same
      cases same
    · intro query thrown member
      have found := mem_cancel_calls member
      rw [only, List.mem_singleton] at found
      cases found
      exact .inl rfl
  have cancelled : List.filter (isCancelOrder ·.1)
      ((⟨.cancelOrder request, .error failure⟩ : Sigma WaitEffect.Answer) :: history) =
        [⟨.cancelOrder request, .error failure⟩] := by
    rw [List.filter_cons_of_pos rfl, none]
  have queried : Meets (waitContract exchange genuine)
      (fun later outcome =>
        outcome = .error failure ∧ registrations later = registrations history ∧
          later.filter (isCancelOrder ·.1) = [⟨.cancelOrder request, .error failure⟩] ∨
        outcome = .ok () ∧ ∃ query current, query.symbol = symbol ∧ query.orderId = some orderId ∧
          later = ⟨.publishOrderUpdate current, ()⟩ :: ⟨.getOrder query, .ok current⟩ ::
            ⟨.cancelOrder request, .error failure⟩ :: history)
      ((reconcileOrder { symbol, orderId }).handle fun _ => .threw failure)
      (⟨.cancelOrder request, .error failure⟩ :: history) := by
    rw [meets_handle]
    apply (meets_reconcile_order _ _).weaken
    intro later outcome known
    rcases known with ⟨current, rfl, rfl⟩ | ⟨queryFailure, rfl, rfl⟩
    · exact .inr ⟨rfl, _, current, rfl, rfl, rfl⟩
    · exact .inl ⟨rfl, rfl, cancelled⟩
  apply queried.bind
  · intro later _ known
    rcases known with ⟨wrong, -⟩ | ⟨-, query, current, sameSymbol, sameId, rfl⟩
    · cases wrong
    · apply meets_get_pending_order_wait
      case own => exact own
      intro pendingWait entry
      split
      next orderInfo found =>
        refine ⟨own, ?_, ?_⟩
        · intro returned same
          cases same
          exact entry.terminal_update found
        · intro query thrown member
          have only : ⟨.cancelOrder query, .error thrown⟩ ∈
              [(⟨.cancelOrder request, .error failure⟩ : Sigma WaitEffect.Answer)] := by
            rw [← cancelled]
            apply mem_cancel_calls
            simpa using member
          cases List.mem_singleton.mp only
          rw [PendingOrderWait.terminal_info_eq_some] at found
          have order := List.nil_sublist history
          exact .inr ⟨orderInfo, rfl, _, current, pendingWait, sameSymbol, sameId, found.1,
            .cons_cons _ (.cons _ (.cons_cons _ (.cons_cons _ order)))⟩
      exact ⟨own, rethrown _ cancelled⟩
  · intro later thrown known
    rcases known with ⟨same, registered, only⟩ | ⟨wrong, -⟩
    · cases same
      rw [registered]
      exact ⟨own, rethrown later only⟩
    · cases wrong

theorem send_cancel_order_meets {history : WaitHistory}
    {post : WaitHistory → Except ServiceFailure Unit → Prop}
    (refused : ∀ failure, post (⟨.cancelOrder request, .error failure⟩ :: history)
      (.error failure))
    (sent : ∀ (later : WaitHistory) response, registrations later = registrations history →
      later.filter (isCancelOrder ·.1) =
        ⟨.cancelOrder request, .ok response⟩ :: history.filter (isCancelOrder ·.1) →
      post later (.ok ())) :
    Meets (waitContract exchange genuine) post (sendCancelOrder exchange request) history := by
  apply (meets_monad_bind _ _).mpr
  refine ⟨trivial, ?_⟩
  intro answer reported
  cases answer with
  | error failure => exact refused failure
  | ok response =>
      cases exchange with
      | bybit => exact sent _ response rfl rfl
      | binance =>
          apply (meets_of_except _).mpr
          cases terminal : isOrderTerminal .binance response.status with
          | false =>
              simp only [terminal]
              exact sent _ response rfl rfl
          | true =>
              simp only [terminal]
              refine ⟨reported response rfl rfl, ?_⟩
              intro published _
              exact sent _ response rfl rfl

/-- A quiet rest of a call that has cancelled nothing. -/
theorem confirmed_of_quiet {history : WaitHistory} (calm : history.filter (isCancelOrder ·.1) = [])
    (own : 0 < registrations history orderKey) (later : WaitHistory)
    (outcome : Except ServiceFailure OrderInfo)
    (known : registrations later = registrations history ∧
      later.filter (isCancelOrder ·.1) = history.filter (isCancelOrder ·.1) ∧
      ∀ orderInfo, outcome = .ok orderInfo →
        TerminalUpdate exchange genuine orderKey orderInfo) :
    0 < registrations later orderKey ∧
      CancellationConfirmed exchange genuine request orderKey later outcome := by
  rw [known.1]
  exact ⟨own, .of_no_cancel known.2.2 (known.2.1.trans calm)⟩

theorem cancel_unsettled_order_meets {history : WaitHistory}
    (calm : history.filter (isCancelOrder ·.1) = [])
    (own : 0 < registrations history (getOrderKey request.symbol orderId)) :
    Meets (waitContract exchange genuine)
      (fun later outcome =>
        0 < registrations later (getOrderKey request.symbol orderId) ∧
        CancellationConfirmed exchange genuine request (getOrderKey request.symbol orderId) later
          outcome)
      (cancelUnsettledOrder exchange request orderId) history := by
  have checked : Quietly exchange genuine isCancelOrder [] (fun _ => True)
      (throwIfStopRequested (exchangerName exchange ++ " order cancellation " ++ request.symbol ++
        "/" ++ orderId)) :=
    quietly_throw_if_stop_requested rfl
  apply (checked history nofun).bind
  · intro unstopped _ known
    have stillOwn : 0 < registrations unstopped (getOrderKey request.symbol orderId) := by
      rw [known.1]
      exact own
    apply (meets_monad_bind _ _).mpr
    apply (meets_attempt _).mpr
    apply send_cancel_order_meets
    · intro failure
      exact recover_failed_cancel_order_meets (known.2.1.trans calm) stillOwn
    · intro later response registered cancelled
      have ownLater : 0 < registrations later (getOrderKey request.symbol orderId) := by
        rw [registered]
        exact stillOwn
      have holds : Registered [getOrderKey request.symbol orderId] later := by
        intro orderKey among
        rw [List.mem_singleton] at among
        subst among
        exact ownLater
      apply (quietly_confirm_cancelled_order (List.mem_singleton_self _) later holds).weaken
      intro last outcome after
      rw [after.1]
      refine ⟨ownLater, .of_not_failed after.2.2 ?_⟩
      intro query failure
      rw [after.2.1, cancelled, known.2.1, calm]
      simp
  · intro unstopped failure known
    apply confirmed_of_quiet calm own unstopped
    refine ⟨known.1, known.2.1, ?_⟩
    intro orderInfo same
    cases same

theorem cancel_registered_order_meets {history : WaitHistory}
    (calm : history.filter (isCancelOrder ·.1) = [])
    (own : Registered [getOrderKey request.symbol orderId] history) :
    Meets (waitContract exchange genuine)
      (fun later outcome =>
        0 < registrations later (getOrderKey request.symbol orderId) ∧
        CancellationConfirmed exchange genuine request (getOrderKey request.symbol orderId) later
          outcome)
      (cancelRegisteredOrder exchange request orderId) history := by
  have ownKey := own _ (List.mem_singleton_self _)
  apply (quietly_prepare_order_subscription history own).bind
  · intro prepared _ known
    apply meets_get_pending_order_wait
    case own =>
      rw [known.1]
      exact ownKey
    intro pendingWait entry
    have read : registrations (⟨.getPendingOrderWait (getOrderKey request.symbol orderId),
        .ok pendingWait⟩ :: prepared) = registrations history := known.1
    have calmRead : List.filter (isCancelOrder ·.1) (⟨.getPendingOrderWait
        (getOrderKey request.symbol orderId), .ok pendingWait⟩ :: prepared) = [] :=
      known.2.1.trans calm
    split
    next orderInfo found =>
      apply confirmed_of_quiet calm ownKey
      refine ⟨read, known.2.1, ?_⟩
      intro returned same
      cases same
      exact entry.terminal_update found
    have registered : Registered [getOrderKey request.symbol orderId]
        (⟨.getPendingOrderWait (getOrderKey request.symbol orderId), .ok pendingWait⟩ ::
          prepared) := by
      rw [Registered, read]
      exact own
    have ownRead := registered _ (List.mem_singleton_self _)
    split_ifs
    · exact (quietly_process_order_cancellation_update entry _ registered).weaken
        (confirmed_of_quiet calmRead ownRead)
    · exact cancel_unsettled_order_meets calmRead ownRead
  · intro prepared failure known
    apply confirmed_of_quiet calm ownKey
    refine ⟨known.1, known.2.1, ?_⟩
    intro orderInfo same
    cases same

theorem cancel_order_and_wait_until_terminal_meets :
    Meets (waitContract exchange genuine)
      (CancellationConfirmed exchange genuine request
        (getOrderKey request.symbol (request.orderId.getD "")))
      (cancelOrderAndWaitUntilTerminal exchange request) [] := by
  have refused : ∀ (later : WaitHistory) (failure : ServiceFailure),
      later.filter (isCancelOrder ·.1) = [] →
      CancellationConfirmed exchange genuine request
        (getOrderKey request.symbol (request.orderId.getD "")) later (.error failure) := by
    intro later failure none
    apply CancellationConfirmed.of_no_cancel _ none
    intro orderInfo same
    cases same
  unfold cancelOrderAndWaitUntilTerminal
  apply (meets_monad_bind _ _).mpr
  apply (meets_lift _).mpr
  split
  · apply meets_after_stop_check
    · exact refused
    · intro later none
      apply meets_with_pending_order_registration
      apply Meets.weaken
      · apply cancel_registered_order_meets
        · exact none
        · exact registered_after later ()
      · intro last outcome known
        exact ⟨known.1, known.2.unregister⟩
  · exact refused [] _ rfl

/-- A call without an order id is refused. -/
theorem cancel_without_order_id_meets (empty : request.orderId.getD "" = "") :
    Meets (waitContract exchange genuine) (fun _ outcome => ∀ orderInfo, outcome ≠ .ok orderInfo)
      (cancelOrderAndWaitUntilTerminal exchange request) [] := by
  unfold cancelOrderAndWaitUntilTerminal
  rw [throwIf, if_pos (.inr empty)]
  intro orderInfo same
  cases same

end Calls

/-! ## Whole runs -/

section Runs

variable {exchange : ExchangerType} {history : WaitHistory} {state : WaitState}

/-- What a call meets, whatever is genuine, its runs do. -/
theorem WaitRun.exit {Result : Type} {program : WaitProgram Result}
    {post : WaitHistory → Except ServiceFailure Result → Prop}
    {outcome : Except ServiceFailure Result}
    (met : Meets (waitContract exchange (Reported exchange state.reports)) post program [])
    (run : WaitRun exchange program history state (.ofExcept outcome)) : post history outcome := by
  have covered : CoversReports exchange (Reported exchange state.reports) state :=
    fun _ reported => reported
  have reached := (run.meets wait_guarantees wait_invariant_start met covered).1
  rwa [meets_of_except] at reached

theorem WaitRun.returned {Result : Type} {program : WaitProgram Result}
    {post : WaitHistory → Except ServiceFailure Result → Prop} {result : Result}
    (met : Meets (waitContract exchange (Reported exchange state.reports)) post program [])
    (run : WaitRun exchange program history state (.returned result)) :
    post history (.ok result) :=
  WaitRun.exit met run

/-- Whatever the stream, the other calls and the exchange do meanwhile: a
fill wait returns only its order, filled; a confirmed cancellation returns only
its order, terminal as reported; and a failed cancel call is either confirmed
by the query after it or thrown as it is. -/
theorem order_wait_postconditions (exchange : ExchangerType) :
    (∀ symbol orderId history state orderInfo,
      WaitRun exchange (waitUntilOrderFilled exchange symbol orderId) history state
        (.returned orderInfo) →
      orderInfo.symbol = symbol ∧ orderInfo.orderId = orderId ∧
        isOrderFilled exchange orderInfo.status) ∧
    (∀ request history state orderInfo,
      WaitRun exchange (cancelOrderAndWaitUntilTerminal exchange request) history state
        (.returned orderInfo) →
      orderInfo.symbol = request.symbol ∧ some orderInfo.orderId = request.orderId ∧
        isOrderTerminal exchange orderInfo.status ∧
        Reported exchange state.reports orderInfo) ∧
    (∀ request history state outcome query cancellationFailure,
      WaitRun exchange (cancelOrderAndWaitUntilTerminal exchange request) history state
        (.ofExcept outcome) →
      ⟨.cancelOrder query, .error cancellationFailure⟩ ∈ history →
      outcome = .error cancellationFailure ∨
      ∃ orderInfo, outcome = .ok orderInfo ∧
        FoundByReconciliation request (getOrderKey request.symbol (request.orderId.getD ""))
          cancellationFailure history orderInfo) := by
  refine ⟨?_, ?_, ?_⟩
  · intro symbol orderId history state orderInfo run
    have filled := WaitRun.returned (wait_until_order_filled_meets symbol orderId) run orderInfo rfl
    exact ⟨congrArg Prod.fst filled.key, congrArg Prod.snd filled.key, filled.filled⟩
  · intro request history state orderInfo run
    have confirmed := WaitRun.returned cancel_order_and_wait_until_terminal_meets run
    have update := confirmed.returns orderInfo rfl
    have orderId : orderInfo.orderId = request.orderId.getD "" := congrArg Prod.snd update.key
    refine ⟨congrArg Prod.fst update.key, ?_, update.terminal, update.reported⟩
    cases given : request.orderId with
    | some requested => rw [orderId, given, Option.getD_some]
    | none =>
        have empty : request.orderId.getD "" = "" := by rw [given, Option.getD_none]
        have refused := WaitRun.returned (cancel_without_order_id_meets empty) run
        exact absurd rfl (refused orderInfo)
  · intro request history state outcome query cancellationFailure run failed
    have confirmed := WaitRun.exit cancel_order_and_wait_until_terminal_meets run
    exact confirmed.keepsFailure query cancellationFailure failed

/-- An order is cancelled although its cancel call times out. -/
def timedOutCancellation :
    WaitHistory × WaitState × WaitProgram OrderInfo :=
  runAlone
    (performSteadily .bybit
      (fun reports _ => .ok {
        symbol := "BTCUSDT", orderId := "7"
        status := if reports.length = 0 then "New" else "Cancelled" })
      fun _ => .error (.runtime "timeout"))
    (cancelOrderAndWaitUntilTerminal .bybit { symbol := "BTCUSDT", orderId := some "7" }) [] {}

theorem order_wait_postconditions_timed_out :
    FoundByReconciliation { symbol := "BTCUSDT", orderId := some "7" } ("BTCUSDT", "7")
      (.runtime "timeout") timedOutCancellation.1
      { symbol := "BTCUSDT", orderId := "7", status := "Cancelled" } := by
  have run : WaitRun .bybit
      (cancelOrderAndWaitUntilTerminal .bybit { symbol := "BTCUSDT", orderId := some "7" })
      timedOutCancellation.1 timedOutCancellation.2.1 timedOutCancellation.2.2 :=
    SharedRun.run_alone perform_steadily_performs .start
  have ended : timedOutCancellation.2.2 =
      .ofExcept (.ok { symbol := "BTCUSDT", orderId := "7", status := "Cancelled" }) := rfl
  rw [ended] at run
  have failed : ⟨.cancelOrder { symbol := "BTCUSDT", orderId := some "7" },
      .error (.runtime "timeout")⟩ ∈ timedOutCancellation.1 :=
    .tail _ (.tail _ (.tail _ (.tail _ (.head _))))
  rcases (order_wait_postconditions .bybit).2.2 _ _ _ _ _ _ run failed with
    wrong | ⟨orderInfo, same, found⟩
  · cases wrong
  · cases same
    exact found

end Runs

end CryptoDeal.DealService
