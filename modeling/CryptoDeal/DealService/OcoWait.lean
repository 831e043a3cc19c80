import CryptoDeal.DealService.OrderWait

/-!
# Waiting for an OCO

`waitUntilOcoOrderFilled` and `cancelOcoAndWaitUntilTerminal` of both services.
A result pairs updates of the two children that were read at different times;
what keeps them apart is that every entry holds updates of its own order only.
-/

namespace CryptoDeal.DealService

open OrderStatusUtil Interaction WaitProgram

namespace OcoInfo

def groupId (ocoInfo : OcoInfo) : String :=
  if ocoInfo.listClientOrderId ≠ "" then ocoInfo.listClientOrderId else ocoInfo.orderListId

def takeProfitKey (ocoInfo : OcoInfo) : OrderKey :=
  getOrderKey ocoInfo.takeProfitOrder.symbol ocoInfo.takeProfitOrder.orderId

def stopLossKey (ocoInfo : OcoInfo) : OrderKey :=
  getOrderKey ocoInfo.stopLossOrder.symbol ocoInfo.stopLossOrder.orderId

def listQuery (ocoInfo : OcoInfo) : OrderListQuery where
  symbol := ocoInfo.takeProfitOrder.symbol
  orderListId := if ocoInfo.orderListId ≠ "" then some ocoInfo.orderListId else none
  listClientOrderId :=
    if ocoInfo.listClientOrderId ≠ "" then some ocoInfo.listClientOrderId else none

/-- A child without symbol or order id. -/
def MissesChildId (ocoInfo : OcoInfo) : Prop :=
  ocoInfo.takeProfitOrder.symbol = "" ∨ ocoInfo.takeProfitOrder.orderId = "" ∨
    ocoInfo.stopLossOrder.symbol = "" ∨ ocoInfo.stopLossOrder.orderId = ""

instance (ocoInfo : OcoInfo) : Decidable ocoInfo.MissesChildId :=
  inferInstanceAs (Decidable (_ ∨ _))

end OcoInfo

section Programs

variable (exchange : ExchangerType) (ocoInfo : OcoInfo)

/-! ## Failures -/

def cancelOcoAfterFailure : WaitProgram (Option String) :=
  catchException (do
    cancelOco ocoInfo.listQuery
    return none) fun what => return some what

/-- `throwOcoWaitFailure`. -/
def ocoWaitFailure (reason : String) (cleanupError : Option String) : ServiceFailure :=
  .runtime (exchangerName exchange ++ " OCO " ++ ocoInfo.groupId ++ " failed: " ++ reason ++
    match cleanupError with
    | some error => "; cleanup failed: " ++ error
    | none => "")

def throwOcoWaitFailureAfterCleanup {Result : Type} (reason : String) : WaitProgram Result := do
  let cleanupError ← cancelOcoAfterFailure ocoInfo
  .threw (ocoWaitFailure exchange ocoInfo reason cleanupError)

def throwBothFilled {Result : Type} : WaitProgram Result :=
  throwOcoWaitFailureAfterCleanup exchange ocoInfo "both child orders were filled"

/-! ## Waits -/

def prepareOcoSubscription : WaitProgram Unit := do
  ensureUserStreamConnected
  reconcileOrder ocoInfo.takeProfitOrder
  reconcileOrder ocoInfo.stopLossOrder

def waitForOcoTerminalStatus : WaitProgram (PendingOrderWait × PendingOrderWait) := do
  let read ← awaitOco .either ocoInfo.takeProfitKey ocoInfo.stopLossKey
  completedRead (exchangerName exchange ++ " OCO wait " ++ ocoInfo.orderListId) read

def waitForOcoCancellationTerminalStatus : WaitProgram (PendingOrderWait × PendingOrderWait) := do
  let read ← awaitOco .both ocoInfo.takeProfitKey ocoInfo.stopLossKey
  completedRead (exchangerName exchange ++ " OCO cancellation " ++ ocoInfo.orderListId) read

def siblingKey (filledOrder : OrderInfo) : OrderKey :=
  if filledOrder.orderId = ocoInfo.takeProfitOrder.orderId then ocoInfo.stopLossKey
  else ocoInfo.takeProfitKey

def waitForOcoSiblingTerminalStatus (filledOrder : OrderInfo) : WaitProgram PendingOrderWait := do
  let read ← awaitOrder (siblingKey ocoInfo filledOrder)
  completedRead (exchangerName exchange ++ " OCO sibling wait " ++ ocoInfo.orderListId) read

/-! ## Completing -/

/-- The first half of Bybit's `completeOcoWait`: no exchange cancels the other child there. -/
def cancelUnfilledChild (filledOrder : OrderInfo) : WaitProgram Unit := do
  throwIf (filledOrder.clientOrderId = "")
    ("Bybit OCO filled order " ++ filledOrder.orderId ++ " is missing its client order id")
  let cancellationError ← processOcoUpdate filledOrder.clientOrderId
  if let some error := cancellationError then
    publishOcoError filledOrder.clientOrderId error
    throwOcoWaitFailureAfterCleanup .bybit ocoInfo
      ("failed to cancel the unfilled child: " ++ error)

def siblingResult (filledOrder : OrderInfo) (siblingWait : PendingOrderWait) :
    WaitProgram OcoWaitResult := do
  if let some error := entryError exchange siblingWait then
    .threw (ocoWaitFailure exchange ocoInfo
      ("failed while waiting for the sibling child to reach a terminal status: " ++ error) none)
  else if let some siblingOrder := siblingWait.orderInfo then
    if isOrderFilled exchange siblingOrder.status then
      throwBothFilled exchange ocoInfo
    else if isOrderTerminal exchange siblingOrder.status then
      return { filledOrder, siblingTerminalOrder := siblingOrder }
    else
      .threw (ocoWaitFailure exchange ocoInfo
        "the sibling child did not reach a terminal status" none)
  else
    let streamError ← getUserStreamLastError
    .threw (ocoWaitFailure exchange ocoInfo
      ("user stream stopped before the sibling child reached a terminal status" ++
        errorSuffix streamError) none)

def completeOcoWait (filledOrder : OrderInfo) : WaitProgram OcoWaitResult := do
  match exchange with
  | .binance => pure ()
  | .bybit => cancelUnfilledChild ocoInfo filledOrder
  let siblingWait ← waitForOcoSiblingTerminalStatus exchange ocoInfo filledOrder
  siblingResult exchange ocoInfo filledOrder siblingWait

def filledOcoOrder (takeProfitWait stopLossWait : PendingOrderWait) :
    WaitProgram (Option OrderInfo) :=
  match takeProfitWait.filledInfo exchange, stopLossWait.filledInfo exchange with
  | some _, some _ => throwBothFilled exchange ocoInfo
  | some takeProfitOrder, none => return some takeProfitOrder
  | none, stopLossOrder => return stopLossOrder

def getFilledOcoOrder : WaitProgram (Option OrderInfo) := do
  let waits ← getPendingOcoWaits .getFilledOcoOrder ocoInfo.takeProfitKey ocoInfo.stopLossKey
  filledOcoOrder exchange ocoInfo waits.1 waits.2

def reconcileOcoSiblingOrder (isTakeProfitFailed : Bool) : WaitProgram (Option String) :=
  catchException (do
    reconcileOrder (if isTakeProfitFailed then ocoInfo.stopLossOrder else ocoInfo.takeProfitOrder)
    return none) fun what => return some what

def reconcileOcoAfterUnfilledTerminalChild (isTakeProfitFailed : Bool) :
    WaitProgram OcoWaitResult := do
  let reconciliationError ← reconcileOcoSiblingOrder ocoInfo isTakeProfitFailed
  let filledOrder ← getFilledOcoOrder exchange ocoInfo
  match filledOrder with
  | some filledOrder => completeOcoWait exchange ocoInfo filledOrder
  | none =>
      throwOcoWaitFailureAfterCleanup exchange ocoInfo
        ("a child reached a terminal status before either child was filled" ++
          match reconciliationError with
          | some error => "; sibling reconciliation failed: " ++ error
          | none => "")

def processOcoOrdersUpdate (takeProfitWait stopLossWait : PendingOrderWait) :
    WaitProgram OcoWaitResult := do
  match takeProfitWait.filledInfo exchange, stopLossWait.filledInfo exchange with
  | some _, some _ => throwBothFilled exchange ocoInfo
  | some takeProfitOrder, none => completeOcoWait exchange ocoInfo takeProfitOrder
  | none, some stopLossOrder => completeOcoWait exchange ocoInfo stopLossOrder
  | none, none =>
      if let some error := (entryError exchange takeProfitWait).or
          (entryError exchange stopLossWait) then
        throwOcoWaitFailureAfterCleanup exchange ocoInfo error
      else if isEntryTerminal exchange takeProfitWait ∨ isEntryTerminal exchange stopLossWait then
        -- neither is filled here
        reconcileOcoAfterUnfilledTerminalChild exchange ocoInfo
          (isEntryTerminal exchange takeProfitWait)
      else
        let streamError ← getUserStreamLastError
        throwOcoWaitFailureAfterCleanup exchange ocoInfo
          ("user stream stopped before either child was filled" ++ errorSuffix streamError)

def waitUntilOcoOrderFilled : WaitProgram OcoWaitResult := do
  throwIf ocoInfo.MissesChildId
    ("Both " ++ exchangerName exchange ++ " OCO orders must contain symbol and orderId")
  throwIfStopRequested (exchangerName exchange ++ " OCO wait " ++ ocoInfo.orderListId)
  withPendingOrderRegistration ocoInfo.takeProfitKey do
    withPendingOrderRegistration ocoInfo.stopLossKey do
      prepareOcoSubscription ocoInfo
      let waits ← waitForOcoTerminalStatus exchange ocoInfo
      processOcoOrdersUpdate exchange ocoInfo waits.1 waits.2

/-! ## Cancelling -/

def createTerminalOcoInfo (firstOrder secondOrder : OrderInfo) : Except ServiceFailure OcoInfo := do
  throwIf (firstOrder.orderId ≠ ocoInfo.takeProfitOrder.orderId ∧
      secondOrder.orderId ≠ ocoInfo.takeProfitOrder.orderId)
    (exchangerName exchange ++ " OCO terminal result is missing the take-profit order")
  throwIf (firstOrder.orderId ≠ ocoInfo.stopLossOrder.orderId ∧
      secondOrder.orderId ≠ ocoInfo.stopLossOrder.orderId)
    (exchangerName exchange ++ " OCO terminal result is missing the stop-loss order")
  return {
    ocoInfo with
    takeProfitOrder :=
      if firstOrder.orderId = ocoInfo.takeProfitOrder.orderId then firstOrder else secondOrder
    stopLossOrder :=
      if firstOrder.orderId = ocoInfo.stopLossOrder.orderId then firstOrder else secondOrder }

def getTerminalOcoInfo : WaitProgram (Option OcoInfo) := do
  let waits ← getPendingOcoWaits .getTerminalOcoInfo ocoInfo.takeProfitKey ocoInfo.stopLossKey
  match waits.1.terminalInfo exchange, waits.2.terminalInfo exchange with
  | some takeProfitOrder, some stopLossOrder =>
      (createTerminalOcoInfo exchange ocoInfo takeProfitOrder stopLossOrder).map some
  | _, _ => return none

def processOcoCancellationUpdate (takeProfitWait stopLossWait : PendingOrderWait) :
    WaitProgram OcoInfo := do
  if let some error := (entryError exchange takeProfitWait).or
      (entryError exchange stopLossWait) then
    .threw (.runtime (exchangerName exchange ++ " OCO cancellation " ++ ocoInfo.groupId ++
      " failed: " ++ error))
  else
    match takeProfitWait.terminalInfo exchange, stopLossWait.terminalInfo exchange with
    | some takeProfitOrder, some stopLossOrder =>
        createTerminalOcoInfo exchange ocoInfo takeProfitOrder stopLossOrder
    | _, _ =>
        let streamError ← getUserStreamLastError
        .threw (.runtime (exchangerName exchange ++
          " user stream stopped while confirming cancellation of OCO " ++ ocoInfo.groupId ++
          errorSuffix streamError))

/-- The two children of a filled one, in their slots. -/
def completeCancelledOco (filledOrder : OrderInfo) : WaitProgram OcoInfo := do
  let waitResult ← completeOcoWait exchange ocoInfo filledOrder
  createTerminalOcoInfo exchange ocoInfo waitResult.filledOrder waitResult.siblingTerminalOrder

/-- The `catch (...)` block of the cancel call. -/
def recoverFailedCancelOco (cancellationFailure : ServiceFailure) : WaitProgram OcoInfo := do
  handle (do
    reconcileOrder ocoInfo.takeProfitOrder
    reconcileOrder ocoInfo.stopLossOrder) fun _ => .threw cancellationFailure
  let terminalOcoInfo ← getTerminalOcoInfo exchange ocoInfo
  match terminalOcoInfo with
  | some terminalOcoInfo => return terminalOcoInfo
  | none =>
      let filledOrder ← getFilledOcoOrder exchange ocoInfo
      match filledOrder with
      | some filledOrder => completeCancelledOco exchange ocoInfo filledOrder
      | none => .threw cancellationFailure

/-- The last look: under one lock on Binance, one entry after the other on Bybit. -/
def readChildren : WaitProgram (PendingOrderWait × PendingOrderWait) :=
  match exchange with
  | .binance =>
      getPendingOcoWaits .cancelOcoAndWaitUntilTerminal ocoInfo.takeProfitKey ocoInfo.stopLossKey
  | .bybit => do
      let takeProfitWait ← getPendingOrderWait ocoInfo.takeProfitOrder.symbol
        ocoInfo.takeProfitOrder.orderId
      let stopLossWait ← getPendingOrderWait ocoInfo.stopLossOrder.symbol
        ocoInfo.stopLossOrder.orderId
      return (takeProfitWait, stopLossWait)

def reconcileCancelledOco : WaitProgram OcoInfo := do
  catchException (do
    reconcileOrder ocoInfo.takeProfitOrder
    reconcileOrder ocoInfo.stopLossOrder) fun what => do
      let streamError ← getUserStreamLastError
      .threw (.runtime (exchangerName exchange ++
        " user stream stopped while confirming cancellation of OCO " ++ ocoInfo.groupId ++
        errorSuffix streamError ++ "; reconciliation failed: " ++ what))
  let waits ← readChildren exchange ocoInfo
  processOcoCancellationUpdate exchange ocoInfo waits.1 waits.2

def confirmCancelledOco : WaitProgram OcoInfo := do
  let waits ← waitForOcoCancellationTerminalStatus exchange ocoInfo
  if (entryError exchange waits.1).isSome ∨ (entryError exchange waits.2).isSome ∨
      (isEntryTerminal exchange waits.1 ∧ isEntryTerminal exchange waits.2) then
    processOcoCancellationUpdate exchange ocoInfo waits.1 waits.2
  else reconcileCancelledOco exchange ocoInfo

/-- Bybit looks for wait errors before it goes on. -/
def failedOcoWaits : WaitProgram (Option (PendingOrderWait × PendingOrderWait)) :=
  match exchange with
  | .binance => return none
  | .bybit => do
      let waits ← readChildren .bybit ocoInfo
      return if waits.1.error.isSome ∨ waits.2.error.isSome then some waits else none

def cancelUnsettledOco : WaitProgram OcoInfo := do
  let initiallyFilledOrder ← getFilledOcoOrder exchange ocoInfo
  match initiallyFilledOrder with
  | some filledOrder => completeCancelledOco exchange ocoInfo filledOrder
  | none =>
      throwIfStopRequested (exchangerName exchange ++ " OCO cancellation " ++ ocoInfo.groupId)
      let cancelled ← (cancelOco ocoInfo.listQuery).attempt
      match cancelled with
      | .error cancellationFailure => recoverFailedCancelOco exchange ocoInfo cancellationFailure
      | .ok () => confirmCancelledOco exchange ocoInfo

/-- `cancelOcoAndWaitUntilTerminal` under its registrations. -/
def cancelRegisteredOco : WaitProgram OcoInfo := do
  prepareOcoSubscription ocoInfo
  let terminalOcoInfo ← getTerminalOcoInfo exchange ocoInfo
  match terminalOcoInfo with
  | some terminalOcoInfo => return terminalOcoInfo
  | none =>
      let failedWaits ← failedOcoWaits exchange ocoInfo
      match failedWaits with
      | some waits => processOcoCancellationUpdate exchange ocoInfo waits.1 waits.2
      | none => cancelUnsettledOco exchange ocoInfo

def cancelOcoAndWaitUntilTerminal : WaitProgram OcoInfo := do
  throwIf ocoInfo.MissesChildId
    ("Both " ++ exchangerName exchange ++
      " OCO orders must contain symbol and orderId while cancelling")
  throwIf (ocoInfo.orderListId = "" ∧ ocoInfo.listClientOrderId = "")
    (exchangerName exchange ++ " OCO cancellation requires an order list identifier")
  throwIfStopRequested (exchangerName exchange ++ " OCO cancellation " ++ ocoInfo.groupId)
  withPendingOrderRegistration ocoInfo.takeProfitKey do
    withPendingOrderRegistration ocoInfo.stopLossKey do
      cancelRegisteredOco exchange ocoInfo

end Programs

/-! ## What a read of both children decides -/

/-- The reads whose answer decides how a call on an OCO goes on. -/
def isDecidingRead : WaitEffect → Bool
  | .getPendingOcoWaits .getFilledOcoOrder _ _ => true
  | .awaitOco .either _ _ => true
  | .awaitOrder _ => true
  | _ => false

/-- Both children filled, as `getFilledOcoOrder`, `processOcoOrdersUpdate` or
`completeOcoWait` get to see it; the last one only reads the sibling of a filled child. -/
def BothFilledRead (exchange : ExchangerType) : Sigma WaitEffect.Answer → Prop
  | ⟨.getPendingOcoWaits .getFilledOcoOrder _ _, .ok waits⟩ =>
      isEntryFilled exchange waits.1 ∧ isEntryFilled exchange waits.2
  | ⟨.awaitOco .either _ _, .ok (some waits)⟩ =>
      isEntryFilled exchange waits.1 ∧ isEntryFilled exchange waits.2
  | ⟨.awaitOrder _, .ok (some siblingWait)⟩ => isEntryFilled exchange siblingWait
  | _ => False

def SawBothFilled (exchange : ExchangerType) (history : WaitHistory) : Prop :=
  ∃ event ∈ history, BothFilledRead exchange event

section Orderly

variable {exchange : ExchangerType} {genuine : OrderInfo → Prop} {keys : List OrderKey}
  {Result Other : Type} {holds : Result → Prop} {history later : WaitHistory}

theorem deciding_of_both_filled_read {event : Sigma WaitEffect.Answer}
    (bothFilled : BothFilledRead exchange event) : isDecidingRead event.1 := by
  unfold BothFilledRead at bothFilled
  split at bothFilled <;> trivial

theorem saw_both_filled_filter :
    SawBothFilled exchange (history.filter (isDecidingRead ·.1)) ↔
      SawBothFilled exchange history := by
  constructor
  · intro saw
    obtain ⟨event, member, bothFilled⟩ := saw
    exact ⟨event, (List.mem_filter.mp member).1, bothFilled⟩
  · intro saw
    obtain ⟨event, member, bothFilled⟩ := saw
    exact ⟨event, List.mem_filter.mpr ⟨member, deciding_of_both_filled_read bothFilled⟩,
      bothFilled⟩

/-- No part of a call goes on after it has seen both children filled. -/
def Orderly (exchange : ExchangerType) (genuine : OrderInfo → Prop) (keys : List OrderKey)
    (holds : Result → Prop) (program : WaitProgram Result) : Prop :=
  ∀ history : WaitHistory, Registered keys history → ¬ SawBothFilled exchange history →
    Meets (waitContract exchange genuine)
      (fun later outcome =>
        registrations later = registrations history ∧
        ∀ result, outcome = .ok result → ¬ SawBothFilled exchange later ∧ holds result)
      program history

theorem Quietly.orderly {program : WaitProgram Result}
    (part : Quietly exchange genuine isDecidingRead keys holds program) :
    Orderly exchange genuine keys holds program := by
  intro history registered unseen
  apply (part history registered).weaken
  intro later outcome known
  refine ⟨known.1, ?_⟩
  intro result same
  refine ⟨?_, known.2.2 result same⟩
  rw [← saw_both_filled_filter, known.2.1, saw_both_filled_filter]
  exact unseen

theorem Orderly.bind {program : WaitProgram Other} {first : Other → Prop}
    {continuation : Other → WaitProgram Result}
    (part : Orderly exchange genuine keys first program)
    (rest : ∀ result, first result →
      Orderly exchange genuine keys holds (continuation result)) :
    Orderly exchange genuine keys holds (program >>= continuation) := by
  intro history registered unseen
  apply (part history registered unseen).bind
  · intro later result known
    have reached := known.2 result rfl
    have still : Registered keys later := by
      rw [Registered, known.1]
      exact registered
    apply (rest result reached.2 later still reached.1).weaken
    intro last outcome after
    rw [known.1] at after
    exact after
  · intro later failure known
    refine ⟨known.1, ?_⟩
    intro result same
    cases same

/-- A deciding read: the call does not return once it has seen both children filled. -/
theorem orderly_request {effect : WaitEffect} {next : effect.Answer → WaitProgram Result}
    (registersNothing : ∀ (history : WaitHistory) answer,
      registrations (⟨effect, answer⟩ :: history) = registrations history)
    (required : ∀ history, Registered keys history → waitRequires genuine history effect)
    (continues : ∀ answer, waitEnsures exchange genuine effect answer →
      ¬ BothFilledRead exchange ⟨effect, answer⟩ →
      Orderly exchange genuine keys holds (next answer))
    (stops : ∀ answer, waitEnsures exchange genuine effect answer →
      BothFilledRead exchange ⟨effect, answer⟩ →
      Quietly exchange genuine isDecidingRead keys (fun _ => False) (next answer)) :
    Orderly exchange genuine keys holds (.request effect next) := by
  intro history registered unseen
  refine ⟨required history registered, ?_⟩
  intro answer kept
  have still : Registered keys (⟨effect, answer⟩ :: history) := by
    rw [Registered, registersNothing]
    exact registered
  by_cases bothFilled : BothFilledRead exchange ⟨effect, answer⟩
  · apply (stops answer kept bothFilled _ still).weaken
    intro later outcome known
    refine ⟨known.1.trans (registersNothing history answer), ?_⟩
    intro result same
    exact absurd same (fun same => known.2.2 result same)
  · have stillUnseen : ¬ SawBothFilled exchange (⟨effect, answer⟩ :: history) := by
      intro saw
      obtain ⟨event, member, seen⟩ := saw
      rcases List.mem_cons.mp member with rfl | earlier
      · exact bothFilled seen
      · exact unseen ⟨event, earlier, seen⟩
    apply (continues answer kept bothFilled _ still stillUnseen).weaken
    intro later outcome known
    rw [registersNothing] at known
    exact known

end Orderly

/-! ## What the parts return -/

section Parts

variable {exchange : ExchangerType} {genuine : OrderInfo → Prop} {ocoInfo : OcoInfo}
  {Result : Type} {holds : Result → Prop}

namespace OcoInfo

def childKeys (ocoInfo : OcoInfo) : List OrderKey := [ocoInfo.takeProfitKey, ocoInfo.stopLossKey]

theorem take_profit_registered : ocoInfo.takeProfitKey ∈ ocoInfo.childKeys :=
  List.mem_cons_self

theorem stop_loss_registered : ocoInfo.stopLossKey ∈ ocoInfo.childKeys :=
  List.mem_cons_of_mem _ (List.mem_singleton_self _)

/-- One of the children, filled. -/
def ChildFilled (exchange : ExchangerType) (genuine : OrderInfo → Prop) (ocoInfo : OcoInfo)
    (orderInfo : OrderInfo) : Prop :=
  FilledUpdate exchange genuine ocoInfo.takeProfitKey orderInfo ∨
    FilledUpdate exchange genuine ocoInfo.stopLossKey orderInfo

/-- One child filled and the other terminal without a fill. -/
structure Completed (exchange : ExchangerType) (genuine : OrderInfo → Prop) (ocoInfo : OcoInfo)
    (result : OcoWaitResult) : Prop where
  children : result.filledOrder.key = ocoInfo.takeProfitKey ∧
      result.siblingTerminalOrder.key = ocoInfo.stopLossKey ∨
    result.filledOrder.key = ocoInfo.stopLossKey ∧
      result.siblingTerminalOrder.key = ocoInfo.takeProfitKey
  filledReported : genuine result.filledOrder
  siblingReported : genuine result.siblingTerminalOrder
  filled : isOrderFilled exchange result.filledOrder.status
  siblingTerminal : isOrderTerminal exchange result.siblingTerminalOrder.status
  siblingUnfilled : ¬ isOrderFilled exchange result.siblingTerminalOrder.status

/-- Both children terminal, each in its slot. -/
structure Terminated (exchange : ExchangerType) (genuine : OrderInfo → Prop) (ocoInfo : OcoInfo)
    (result : OcoInfo) : Prop where
  takeProfit : TerminalUpdate exchange genuine ocoInfo.takeProfitKey result.takeProfitOrder
  stopLoss : TerminalUpdate exchange genuine ocoInfo.stopLossKey result.stopLossOrder

end OcoInfo

open OcoInfo

theorem quietly_cancel_oco_after_failure :
    Quietly exchange genuine isDecidingRead ocoInfo.childKeys (fun _ => True)
      (cancelOcoAfterFailure ocoInfo) := by
  apply Quietly.catch_exception
  · apply Quietly.bind
    · exact quietly_request rfl (fun _ _ => rfl) (fun _ _ => trivial) fun _ _ =>
        quietly_except fun _ _ => trivial
    · intro _ (_ : True)
      exact quietly_returned trivial
  · intro _
    exact quietly_returned trivial

theorem quietly_throw_oco_wait_failure_after_cleanup {named : ExchangerType} {reason : String} :
    Quietly exchange genuine isDecidingRead ocoInfo.childKeys holds
      (throwOcoWaitFailureAfterCleanup named ocoInfo reason) :=
  quietly_cancel_oco_after_failure.bind fun _ _ => quietly_threw _

theorem quietly_throw_both_filled :
    Quietly exchange genuine isDecidingRead ocoInfo.childKeys holds
      (throwBothFilled exchange ocoInfo) :=
  quietly_throw_oco_wait_failure_after_cleanup

theorem quietly_reconcile_children :
    Quietly exchange genuine isDecidingRead ocoInfo.childKeys (fun _ => True)
      (do
        reconcileOrder ocoInfo.takeProfitOrder
        reconcileOrder ocoInfo.stopLossOrder) :=
  (quietly_reconcile_order (fun _ => rfl) fun _ => rfl).bind fun _ _ =>
    quietly_reconcile_order (fun _ => rfl) fun _ => rfl

theorem quietly_prepare_oco_subscription :
    Quietly exchange genuine isDecidingRead ocoInfo.childKeys (fun _ => True)
      (prepareOcoSubscription ocoInfo) :=
  (quietly_ensure_user_stream_connected rfl).bind fun _ _ => quietly_reconcile_children

theorem quietly_cancel_unfilled_child {filledOrder : OrderInfo} :
    Quietly exchange genuine isDecidingRead ocoInfo.childKeys (fun _ => True)
      (cancelUnfilledChild ocoInfo filledOrder) := by
  have processed : Quietly exchange genuine isDecidingRead ocoInfo.childKeys (fun _ => True)
      (processOcoUpdate filledOrder.clientOrderId) :=
    quietly_request rfl (fun _ _ => rfl) (fun _ _ => trivial) fun _ _ =>
      quietly_except fun _ _ => trivial
  have checked : Quietly exchange genuine isDecidingRead ocoInfo.childKeys (fun _ => True)
      (liftM (throwIf (filledOrder.clientOrderId = "")
        ("Bybit OCO filled order " ++ filledOrder.orderId ++
          " is missing its client order id"))) :=
    quietly_except fun _ _ => trivial
  apply checked.bind
  intro _ _
  apply processed.bind
  intro cancellationError _
  cases cancellationError with
  | none => exact quietly_returned trivial
  | some error =>
      apply Quietly.bind
      · exact quietly_request rfl (fun _ _ => rfl) (fun _ _ => trivial) fun _ _ =>
          quietly_returned trivial
      · intro _ (_ : True)
        exact quietly_throw_oco_wait_failure_after_cleanup

/-! ### Completing -/

theorem sibling_of_take_profit {filledOrder : OrderInfo}
    (key : filledOrder.key = ocoInfo.takeProfitKey) :
    siblingKey ocoInfo filledOrder = ocoInfo.stopLossKey :=
  if_pos (congrArg Prod.snd key)

theorem sibling_of_stop_loss {filledOrder : OrderInfo}
    (distinct : ocoInfo.takeProfitOrder.orderId ≠ ocoInfo.stopLossOrder.orderId)
    (key : filledOrder.key = ocoInfo.stopLossKey) :
    siblingKey ocoInfo filledOrder = ocoInfo.takeProfitKey := by
  apply if_neg
  intro same
  exact distinct (same.symm.trans (congrArg Prod.snd key))

theorem sibling_registered {filledOrder : OrderInfo} :
    siblingKey ocoInfo filledOrder ∈ ocoInfo.childKeys := by
  unfold siblingKey
  split_ifs
  · exact stop_loss_registered
  · exact take_profit_registered

/-- What the sibling's entry makes of a filled child. -/
theorem completed_of_sibling {filledOrder siblingOrder : OrderInfo} {siblingWait : PendingOrderWait}
    (distinct : ocoInfo.takeProfitOrder.orderId ≠ ocoInfo.stopLossOrder.orderId)
    (filled : ChildFilled exchange genuine ocoInfo filledOrder)
    (entry : EntryOf genuine (siblingKey ocoInfo filledOrder) siblingWait)
    (found : siblingWait.orderInfo = some siblingOrder)
    (terminal : isOrderTerminal exchange siblingOrder.status)
    (unfilled : ¬ isOrderFilled exchange siblingOrder.status) :
    Completed exchange genuine ocoInfo { filledOrder, siblingTerminalOrder := siblingOrder } := by
  have sibling := entry siblingOrder found
  rcases filled with update | update
  · rw [sibling_of_take_profit update.key] at sibling
    exact ⟨.inl ⟨update.key, sibling.1⟩, update.reported, sibling.2, update.filled, terminal,
      unfilled⟩
  · rw [sibling_of_stop_loss distinct update.key] at sibling
    exact ⟨.inr ⟨update.key, sibling.1⟩, update.reported, sibling.2, update.filled, terminal,
      unfilled⟩

theorem quietly_sibling_result {filledOrder : OrderInfo} {siblingWait : PendingOrderWait}
    {holds : OcoWaitResult → Prop}
    (completes : ∀ siblingOrder, siblingWait.orderInfo = some siblingOrder →
      isOrderTerminal exchange siblingOrder.status → ¬ isOrderFilled exchange siblingOrder.status →
      holds { filledOrder, siblingTerminalOrder := siblingOrder }) :
    Quietly exchange genuine isDecidingRead ocoInfo.childKeys holds
      (siblingResult exchange ocoInfo filledOrder siblingWait) := by
  unfold siblingResult
  split
  · exact quietly_threw _
  · split
    next siblingOrder found =>
      split_ifs with filled terminal
      · exact quietly_throw_both_filled
      · exact quietly_returned (completes siblingOrder found terminal filled)
      · exact quietly_threw _
    exact quietly_stream_stopped rfl _

theorem orderly_complete_oco_wait {filledOrder : OrderInfo}
    (distinct : ocoInfo.takeProfitOrder.orderId ≠ ocoInfo.stopLossOrder.orderId)
    (filled : ChildFilled exchange genuine ocoInfo filledOrder) :
    Orderly exchange genuine ocoInfo.childKeys (Completed exchange genuine ocoInfo)
      (completeOcoWait exchange ocoInfo filledOrder) := by
  have waited : Orderly exchange genuine ocoInfo.childKeys (Completed exchange genuine ocoInfo)
      (do
        let siblingWait ← waitForOcoSiblingTerminalStatus exchange ocoInfo filledOrder
        siblingResult exchange ocoInfo filledOrder siblingWait) := by
    apply orderly_request
    · exact fun _ _ => rfl
    · exact fun _ needed => needed _ sibling_registered
    · intro answer kept _
      obtain ⟨read, rfl, entries⟩ := kept
      cases read with
      | none => exact (quietly_threw _).orderly
      | some siblingWait =>
          apply Quietly.orderly
          apply quietly_sibling_result
          intro siblingOrder found terminal unfilled
          exact completed_of_sibling distinct filled (entries siblingWait rfl) found terminal
            unfilled
    · intro answer kept bothFilled
      obtain ⟨read, rfl, entries⟩ := kept
      cases read with
      | none => exact quietly_threw _
      | some siblingWait =>
          apply quietly_sibling_result
          intro siblingOrder found terminal unfilled
          change isEntryFilled exchange siblingWait at bothFilled
          rw [isEntryFilled, found] at bothFilled
          exact unfilled bothFilled
  cases exchange with
  | binance => exact waited
  | bybit => exact quietly_cancel_unfilled_child.orderly.bind fun _ _ => waited

theorem is_entry_filled {pendingWait : PendingOrderWait} :
    isEntryFilled exchange pendingWait = (pendingWait.filledInfo exchange).isSome := by
  unfold isEntryFilled PendingOrderWait.filledInfo
  cases pendingWait.orderInfo <;> simp [Option.filter]
  split <;> simp_all

theorem quietly_filled_oco_order {takeProfitWait stopLossWait : PendingOrderWait}
    (takeProfitEntry : EntryOf genuine ocoInfo.takeProfitKey takeProfitWait)
    (stopLossEntry : EntryOf genuine ocoInfo.stopLossKey stopLossWait) :
    Quietly exchange genuine isDecidingRead ocoInfo.childKeys
      (fun found => ¬ (isEntryFilled exchange takeProfitWait ∧
          isEntryFilled exchange stopLossWait) ∧
        ∀ orderInfo ∈ found, ChildFilled exchange genuine ocoInfo orderInfo)
      (filledOcoOrder exchange ocoInfo takeProfitWait stopLossWait) := by
  unfold filledOcoOrder
  rw [is_entry_filled, is_entry_filled]
  split
  next => exact quietly_throw_both_filled
  next takeProfitOrder filled unfilled =>
    apply quietly_returned
    rw [unfilled]
    refine ⟨fun both => Bool.noConfusion both.2, ?_⟩
    intro orderInfo member
    cases member
    exact .inl (takeProfitEntry.filled_update filled)
  next unfilled =>
    apply quietly_returned
    rw [unfilled]
    refine ⟨fun both => Bool.noConfusion both.1, ?_⟩
    intro orderInfo member
    exact .inr (stopLossEntry.filled_update member)

theorem orderly_get_filled_oco_order :
    Orderly exchange genuine ocoInfo.childKeys
      (fun found => ∀ orderInfo ∈ found, ChildFilled exchange genuine ocoInfo orderInfo)
      (getFilledOcoOrder exchange ocoInfo) := by
  apply orderly_request
  · exact fun _ _ => rfl
  · exact fun _ needed =>
      ⟨needed _ take_profit_registered, needed _ stop_loss_registered⟩
  · intro answer kept _
    obtain ⟨waits, rfl, takeProfitEntry, stopLossEntry⟩ := kept
    apply Quietly.orderly
    apply (quietly_filled_oco_order takeProfitEntry stopLossEntry).weaken
    exact fun _ found => found.2
  · intro answer kept bothFilled
    obtain ⟨waits, rfl, takeProfitEntry, stopLossEntry⟩ := kept
    apply (quietly_filled_oco_order takeProfitEntry stopLossEntry).weaken
    exact fun _ found => found.1 bothFilled

theorem quietly_reconcile_oco_sibling_order {isTakeProfitFailed : Bool} :
    Quietly exchange genuine isDecidingRead ocoInfo.childKeys (fun _ => True)
      (reconcileOcoSiblingOrder ocoInfo isTakeProfitFailed) := by
  apply Quietly.catch_exception
  · apply Quietly.bind
    · exact quietly_reconcile_order (fun _ => rfl) fun _ => rfl
    · intro _ (_ : True)
      exact quietly_returned trivial
  · intro _
    exact quietly_returned trivial

theorem orderly_reconcile_oco_after_unfilled_terminal_child {isTakeProfitFailed : Bool}
    (distinct : ocoInfo.takeProfitOrder.orderId ≠ ocoInfo.stopLossOrder.orderId) :
    Orderly exchange genuine ocoInfo.childKeys (Completed exchange genuine ocoInfo)
      (reconcileOcoAfterUnfilledTerminalChild exchange ocoInfo isTakeProfitFailed) := by
  apply quietly_reconcile_oco_sibling_order.orderly.bind
  intro reconciliationError _
  apply orderly_get_filled_oco_order.bind
  intro filledOrder filled
  cases filledOrder with
  | none => exact quietly_throw_oco_wait_failure_after_cleanup.orderly
  | some filledOrder => exact orderly_complete_oco_wait distinct (filled filledOrder rfl)

/-- Without both children filled, processing goes on in order. -/
theorem orderly_process_oco_orders_update {takeProfitWait stopLossWait : PendingOrderWait}
    (distinct : ocoInfo.takeProfitOrder.orderId ≠ ocoInfo.stopLossOrder.orderId)
    (takeProfitEntry : EntryOf genuine ocoInfo.takeProfitKey takeProfitWait)
    (stopLossEntry : EntryOf genuine ocoInfo.stopLossKey stopLossWait) :
    Orderly exchange genuine ocoInfo.childKeys (Completed exchange genuine ocoInfo)
      (processOcoOrdersUpdate exchange ocoInfo takeProfitWait stopLossWait) := by
  unfold processOcoOrdersUpdate
  split
  next => exact quietly_throw_both_filled.orderly
  next takeProfitOrder filled _ =>
    exact orderly_complete_oco_wait distinct (.inl (takeProfitEntry.filled_update filled))
  next stopLossOrder _ filled =>
    exact orderly_complete_oco_wait distinct (.inr (stopLossEntry.filled_update filled))
  next =>
    split
    · exact quietly_throw_oco_wait_failure_after_cleanup.orderly
    · split_ifs
      · exact orderly_reconcile_oco_after_unfilled_terminal_child distinct
      · apply Orderly.bind (quietly_get_user_stream_last_error rfl).orderly
        intro _ _
        exact quietly_throw_oco_wait_failure_after_cleanup.orderly

theorem quietly_process_both_filled {takeProfitWait stopLossWait : PendingOrderWait}
    {holds : OcoWaitResult → Prop}
    (bothFilled : isEntryFilled exchange takeProfitWait ∧ isEntryFilled exchange stopLossWait) :
    Quietly exchange genuine isDecidingRead ocoInfo.childKeys holds
      (processOcoOrdersUpdate exchange ocoInfo takeProfitWait stopLossWait) := by
  rw [is_entry_filled, is_entry_filled] at bothFilled
  obtain ⟨takeProfitOrder, takeProfitFilled⟩ := Option.isSome_iff_exists.mp bothFilled.1
  obtain ⟨stopLossOrder, stopLossFilled⟩ := Option.isSome_iff_exists.mp bothFilled.2
  unfold processOcoOrdersUpdate
  rw [takeProfitFilled, stopLossFilled]
  exact quietly_throw_both_filled

theorem orderly_wait_and_process
    (distinct : ocoInfo.takeProfitOrder.orderId ≠ ocoInfo.stopLossOrder.orderId) :
    Orderly exchange genuine ocoInfo.childKeys (Completed exchange genuine ocoInfo)
      (do
        prepareOcoSubscription ocoInfo
        let waits ← waitForOcoTerminalStatus exchange ocoInfo
        processOcoOrdersUpdate exchange ocoInfo waits.1 waits.2) := by
  apply quietly_prepare_oco_subscription.orderly.bind
  intro _ _
  apply orderly_request
  · exact fun _ _ => rfl
  · exact fun _ needed =>
      ⟨needed _ take_profit_registered, needed _ stop_loss_registered⟩
  · intro answer kept _
    obtain ⟨read, rfl, entries⟩ := kept
    cases read with
    | none => exact (quietly_threw _).orderly
    | some waits =>
        have found := entries waits rfl
        exact orderly_process_oco_orders_update distinct found.1 found.2
  · intro answer kept bothFilled
    obtain ⟨read, rfl, entries⟩ := kept
    cases read with
    | none => exact quietly_threw _
    | some waits => exact quietly_process_both_filled bothFilled

/-! ### Cancelling -/

theorem create_terminal_oco_info_terminated {firstOrder secondOrder : OrderInfo} {result : OcoInfo}
    (distinct : ocoInfo.takeProfitOrder.orderId ≠ ocoInfo.stopLossOrder.orderId)
    (children : TerminalUpdate exchange genuine ocoInfo.takeProfitKey firstOrder ∧
        TerminalUpdate exchange genuine ocoInfo.stopLossKey secondOrder ∨
      TerminalUpdate exchange genuine ocoInfo.stopLossKey firstOrder ∧
        TerminalUpdate exchange genuine ocoInfo.takeProfitKey secondOrder)
    (created : createTerminalOcoInfo exchange ocoInfo firstOrder secondOrder = .ok result) :
    Terminated exchange genuine ocoInfo result := by
  unfold createTerminalOcoInfo at created
  obtain ⟨_, _, created⟩ := except_bind_ok.mp created
  obtain ⟨_, _, created⟩ := except_bind_ok.mp created
  cases created
  rcases children with ⟨first, second⟩ | ⟨first, second⟩
  · have takeProfitId : firstOrder.orderId = ocoInfo.takeProfitOrder.orderId :=
      congrArg Prod.snd first.key
    have notStopLoss : firstOrder.orderId ≠ ocoInfo.stopLossOrder.orderId := by
      rw [takeProfitId]
      exact distinct
    constructor
    · simp only [if_pos takeProfitId]
      exact first
    · simp only [if_neg notStopLoss]
      exact second
  · have stopLossId : firstOrder.orderId = ocoInfo.stopLossOrder.orderId :=
      congrArg Prod.snd first.key
    have notTakeProfit : firstOrder.orderId ≠ ocoInfo.takeProfitOrder.orderId := by
      rw [stopLossId]
      exact distinct.symm
    constructor
    · simp only [if_neg notTakeProfit]
      exact second
    · simp only [if_pos stopLossId]
      exact first

theorem quietly_create_terminal_oco_info {takeProfitWait stopLossWait : PendingOrderWait}
    {takeProfitOrder stopLossOrder : OrderInfo}
    (distinct : ocoInfo.takeProfitOrder.orderId ≠ ocoInfo.stopLossOrder.orderId)
    (takeProfitEntry : EntryOf genuine ocoInfo.takeProfitKey takeProfitWait)
    (stopLossEntry : EntryOf genuine ocoInfo.stopLossKey stopLossWait)
    (takeProfitFound : takeProfitWait.terminalInfo exchange = some takeProfitOrder)
    (stopLossFound : stopLossWait.terminalInfo exchange = some stopLossOrder) :
    Quietly exchange genuine isDecidingRead ocoInfo.childKeys
      (Terminated exchange genuine ocoInfo)
      (liftM (createTerminalOcoInfo exchange ocoInfo takeProfitOrder stopLossOrder)) := by
  apply quietly_except
  intro result created
  exact create_terminal_oco_info_terminated distinct
    (.inl ⟨takeProfitEntry.terminal_update takeProfitFound,
      stopLossEntry.terminal_update stopLossFound⟩) created

/-- A read of both entries outside the deciding ones. -/
theorem quietly_get_pending_oco_waits {reader : OcoReader}
    (undeciding : isDecidingRead
      (.getPendingOcoWaits reader ocoInfo.takeProfitKey ocoInfo.stopLossKey) = false) :
    Quietly exchange genuine isDecidingRead ocoInfo.childKeys
      (fun waits => EntryOf genuine ocoInfo.takeProfitKey waits.1 ∧
        EntryOf genuine ocoInfo.stopLossKey waits.2)
      (getPendingOcoWaits reader ocoInfo.takeProfitKey ocoInfo.stopLossKey) := by
  apply quietly_request undeciding
  · exact fun _ _ => rfl
  · exact fun _ needed =>
      ⟨needed _ take_profit_registered, needed _ stop_loss_registered⟩
  · intro answer kept
    obtain ⟨waits, rfl, entries⟩ := kept
    exact quietly_returned entries

theorem quietly_get_terminal_oco_info
    (distinct : ocoInfo.takeProfitOrder.orderId ≠ ocoInfo.stopLossOrder.orderId) :
    Quietly exchange genuine isDecidingRead ocoInfo.childKeys
      (fun found => ∀ result ∈ found, Terminated exchange genuine ocoInfo result)
      (getTerminalOcoInfo exchange ocoInfo) := by
  apply (quietly_get_pending_oco_waits rfl).bind
  intro waits entries
  split
  next takeProfitOrder stopLossOrder takeProfitFound stopLossFound =>
    apply quietly_except
    intro found created result member
    cases made : createTerminalOcoInfo exchange ocoInfo takeProfitOrder stopLossOrder with
    | error failure =>
        rw [made] at created
        cases created
    | ok terminated =>
        rw [made] at created
        cases created
        cases member
        exact create_terminal_oco_info_terminated distinct
          (.inl ⟨entries.1.terminal_update takeProfitFound,
            entries.2.terminal_update stopLossFound⟩) made
  next =>
    apply quietly_returned
    intro result member
    cases member

theorem quietly_process_oco_cancellation_update {takeProfitWait stopLossWait : PendingOrderWait}
    (distinct : ocoInfo.takeProfitOrder.orderId ≠ ocoInfo.stopLossOrder.orderId)
    (takeProfitEntry : EntryOf genuine ocoInfo.takeProfitKey takeProfitWait)
    (stopLossEntry : EntryOf genuine ocoInfo.stopLossKey stopLossWait) :
    Quietly exchange genuine isDecidingRead ocoInfo.childKeys
      (Terminated exchange genuine ocoInfo)
      (processOcoCancellationUpdate exchange ocoInfo takeProfitWait stopLossWait) := by
  unfold processOcoCancellationUpdate
  split
  · exact quietly_threw _
  · split
    next takeProfitOrder stopLossOrder takeProfitFound stopLossFound =>
      exact quietly_create_terminal_oco_info distinct takeProfitEntry stopLossEntry
        takeProfitFound stopLossFound
    next => exact quietly_stream_stopped rfl _

theorem orderly_complete_cancelled_oco {filledOrder : OrderInfo}
    (distinct : ocoInfo.takeProfitOrder.orderId ≠ ocoInfo.stopLossOrder.orderId)
    (filled : ChildFilled exchange genuine ocoInfo filledOrder) :
    Orderly exchange genuine ocoInfo.childKeys (Terminated exchange genuine ocoInfo)
      (completeCancelledOco exchange ocoInfo filledOrder) := by
  apply (orderly_complete_oco_wait distinct filled).bind
  intro waitResult completed
  apply Quietly.orderly
  apply quietly_except
  intro result created
  have filledTerminal := terminal_of_filled completed.filled
  apply create_terminal_oco_info_terminated distinct _ created
  rcases completed.children with ⟨first, second⟩ | ⟨first, second⟩
  · exact .inl ⟨⟨first, completed.filledReported, filledTerminal⟩,
      ⟨second, completed.siblingReported, completed.siblingTerminal⟩⟩
  · exact .inr ⟨⟨first, completed.filledReported, filledTerminal⟩,
      ⟨second, completed.siblingReported, completed.siblingTerminal⟩⟩

theorem orderly_recover_failed_cancel_oco {failure : ServiceFailure}
    (distinct : ocoInfo.takeProfitOrder.orderId ≠ ocoInfo.stopLossOrder.orderId) :
    Orderly exchange genuine ocoInfo.childKeys (Terminated exchange genuine ocoInfo)
      (recoverFailedCancelOco exchange ocoInfo failure) := by
  apply (quietly_reconcile_children.handle fun _ => quietly_threw failure).orderly.bind
  intro _ _
  apply (quietly_get_terminal_oco_info distinct).orderly.bind
  intro terminalOcoInfo terminated
  cases terminalOcoInfo with
  | some terminalOcoInfo => exact (quietly_returned (terminated _ rfl)).orderly
  | none =>
      apply orderly_get_filled_oco_order.bind
      intro filledOrder filled
      cases filledOrder with
      | none => exact (quietly_threw failure).orderly
      | some filledOrder => exact orderly_complete_cancelled_oco distinct (filled _ rfl)

theorem quietly_read_children {named : ExchangerType} :
    Quietly exchange genuine isDecidingRead ocoInfo.childKeys
      (fun waits => EntryOf genuine ocoInfo.takeProfitKey waits.1 ∧
        EntryOf genuine ocoInfo.stopLossKey waits.2)
      (readChildren named ocoInfo) := by
  cases named with
  | binance => exact quietly_get_pending_oco_waits rfl
  | bybit =>
      apply (quietly_get_pending_order_wait rfl take_profit_registered).bind
      intro takeProfitWait takeProfitEntry
      apply (quietly_get_pending_order_wait rfl stop_loss_registered).bind
      intro stopLossWait stopLossEntry
      exact quietly_returned ⟨takeProfitEntry, stopLossEntry⟩

theorem quietly_reconcile_cancelled_oco
    (distinct : ocoInfo.takeProfitOrder.orderId ≠ ocoInfo.stopLossOrder.orderId) :
    Quietly exchange genuine isDecidingRead ocoInfo.childKeys
      (Terminated exchange genuine ocoInfo) (reconcileCancelledOco exchange ocoInfo) := by
  apply (quietly_reconcile_children.catch_exception fun what => quietly_stream_stopped rfl _).bind
  intro _ _
  apply quietly_read_children.bind
  intro waits entries
  exact quietly_process_oco_cancellation_update distinct entries.1 entries.2

theorem quietly_await_both :
    Quietly exchange genuine isDecidingRead ocoInfo.childKeys
      (fun waits => EntryOf genuine ocoInfo.takeProfitKey waits.1 ∧
        EntryOf genuine ocoInfo.stopLossKey waits.2)
      (waitForOcoCancellationTerminalStatus exchange ocoInfo) := by
  apply quietly_request rfl
  · exact fun _ _ => rfl
  · exact fun _ needed =>
      ⟨needed _ take_profit_registered, needed _ stop_loss_registered⟩
  · intro answer kept
    obtain ⟨read, rfl, entries⟩ := kept
    cases read with
    | none => exact quietly_threw _
    | some waits => exact quietly_returned (entries waits rfl)

theorem quietly_confirm_cancelled_oco
    (distinct : ocoInfo.takeProfitOrder.orderId ≠ ocoInfo.stopLossOrder.orderId) :
    Quietly exchange genuine isDecidingRead ocoInfo.childKeys
      (Terminated exchange genuine ocoInfo) (confirmCancelledOco exchange ocoInfo) := by
  apply quietly_await_both.bind
  intro waits entries
  split_ifs
  · exact quietly_process_oco_cancellation_update distinct entries.1 entries.2
  · exact quietly_reconcile_cancelled_oco distinct

theorem quietly_failed_oco_waits :
    Quietly exchange genuine isDecidingRead ocoInfo.childKeys
      (fun found => ∀ waits ∈ found, EntryOf genuine ocoInfo.takeProfitKey waits.1 ∧
        EntryOf genuine ocoInfo.stopLossKey waits.2)
      (failedOcoWaits exchange ocoInfo) := by
  cases exchange with
  | binance =>
      apply quietly_returned
      intro waits member
      cases member
  | bybit =>
      apply quietly_read_children.bind
      intro waits entries
      apply quietly_returned
      intro failed member
      split_ifs at member
      · cases member
        exact entries
      · cases member

theorem orderly_cancel_unsettled_oco
    (distinct : ocoInfo.takeProfitOrder.orderId ≠ ocoInfo.stopLossOrder.orderId) :
    Orderly exchange genuine ocoInfo.childKeys (Terminated exchange genuine ocoInfo)
      (cancelUnsettledOco exchange ocoInfo) := by
  apply orderly_get_filled_oco_order.bind
  intro filledOrder filled
  cases filledOrder with
  | some filledOrder => exact orderly_complete_cancelled_oco distinct (filled _ rfl)
  | none =>
      apply (quietly_throw_if_stop_requested rfl).orderly.bind
      intro _ _
      have attempted : Quietly exchange genuine isDecidingRead ocoInfo.childKeys (fun _ => True)
          (cancelOco ocoInfo.listQuery).attempt := by
        apply quietly_request rfl
        · exact fun _ _ => rfl
        · exact fun _ _ => trivial
        intro answer _
        cases answer with
        | ok _ => exact quietly_returned trivial
        | error failure => exact quietly_returned trivial
      apply attempted.orderly.bind
      intro cancelled _
      cases cancelled with
      | ok _ => exact (quietly_confirm_cancelled_oco distinct).orderly
      | error failure => exact orderly_recover_failed_cancel_oco distinct

theorem orderly_cancel_registered_oco
    (distinct : ocoInfo.takeProfitOrder.orderId ≠ ocoInfo.stopLossOrder.orderId) :
    Orderly exchange genuine ocoInfo.childKeys (Terminated exchange genuine ocoInfo)
      (cancelRegisteredOco exchange ocoInfo) := by
  apply quietly_prepare_oco_subscription.orderly.bind
  intro _ _
  apply (quietly_get_terminal_oco_info distinct).orderly.bind
  intro terminalOcoInfo terminated
  cases terminalOcoInfo with
  | some terminalOcoInfo => exact (quietly_returned (terminated _ rfl)).orderly
  | none =>
      apply quietly_failed_oco_waits.orderly.bind
      intro failedWaits entries
      cases failedWaits with
      | none => exact orderly_cancel_unsettled_oco distinct
      | some waits =>
          have found := entries waits rfl
          exact (quietly_process_oco_cancellation_update distinct found.1 found.2).orderly

end Parts

/-! ## Whole calls -/

section Calls

variable {exchange : ExchangerType} {genuine : OrderInfo → Prop} {ocoInfo : OcoInfo}
  {Result : Type} {holds : Result → Prop} {program : WaitProgram Result}

/-- What an OCO call guarantees at its end. -/
def OcoConcluded (exchange : ExchangerType) (holds : Result → Prop) (history : WaitHistory)
    (outcome : Except ServiceFailure Result) : Prop :=
  ∀ result, outcome = .ok result → ¬ SawBothFilled exchange history ∧ holds result

theorem not_saw_both_filled_cons {history : WaitHistory} {effect : WaitEffect}
    {answer : effect.Answer} (undeciding : isDecidingRead effect = false) :
    SawBothFilled exchange (⟨effect, answer⟩ :: history) ↔ SawBothFilled exchange history := by
  rw [← saw_both_filled_filter, List.filter_cons_of_neg (by simp [undeciding]),
    saw_both_filled_filter]

/-- A body in the scope of both registrations. -/
theorem Orderly.with_registrations
    (body : Orderly exchange genuine ocoInfo.childKeys holds program) {history : WaitHistory}
    (unseen : ¬ SawBothFilled exchange history) :
    Meets (waitContract exchange genuine) (OcoConcluded exchange holds)
      (withPendingOrderRegistration ocoInfo.takeProfitKey
        (withPendingOrderRegistration ocoInfo.stopLossKey program)) history := by
  apply meets_with_pending_order_registration
  apply meets_with_pending_order_registration
  have registered : Registered ocoInfo.childKeys (⟨.registerPendingOrder ocoInfo.stopLossKey, ()⟩ ::
      ⟨.registerPendingOrder ocoInfo.takeProfitKey, ()⟩ :: history) := by
    intro orderKey member
    rcases List.mem_cons.mp member with rfl | other
    · simp [registrations]
    · rw [List.mem_singleton] at other
      subst other
      simp [registrations]
  apply Meets.weaken
  · apply body _ registered
    rw [not_saw_both_filled_cons rfl, not_saw_both_filled_cons rfl]
    exact unseen
  · intro later outcome known
    refine ⟨?_, ?_, ?_⟩
    · rw [known.1]
      exact registered _ OcoInfo.stop_loss_registered
    · simp [registrations, known.1]
    · intro result same
      rw [not_saw_both_filled_cons rfl, not_saw_both_filled_cons rfl]
      exact known.2 result same

/-- The calls start with checks that refuse or change nothing. -/
theorem meets_after_check {check : Except ServiceFailure Unit} {rest : WaitProgram Result}
    {history : WaitHistory}
    (goesOn : Meets (waitContract exchange genuine) (OcoConcluded exchange holds) rest history) :
    Meets (waitContract exchange genuine) (OcoConcluded exchange holds)
      (liftM check >>= fun _ => rest) history := by
  apply (meets_monad_bind _ _).mpr
  apply (meets_lift _).mpr
  cases check with
  | ok _ => exact goesOn
  | error failure =>
      intro result same
      cases same

/-- A whole call: a stop check and the body under its registrations. -/
theorem Orderly.whole_call {description : String}
    (body : Orderly exchange genuine ocoInfo.childKeys holds program) :
    Meets (waitContract exchange genuine) (OcoConcluded exchange holds)
      (throwIfStopRequested description >>= fun _ =>
        withPendingOrderRegistration ocoInfo.takeProfitKey
          (withPendingOrderRegistration ocoInfo.stopLossKey program)) [] := by
  have checked : Quietly exchange genuine isDecidingRead [] (fun _ => True)
      (throwIfStopRequested description) :=
    quietly_throw_if_stop_requested rfl
  apply (checked [] nofun).bind
  · intro later _ known
    apply body.with_registrations
    rw [← saw_both_filled_filter, known.2.1]
    intro saw
    obtain ⟨event, member, _⟩ := saw
    cases member
  · intro later failure _ result same
    cases same

theorem wait_until_oco_order_filled_meets
    (distinct : ocoInfo.takeProfitOrder.orderId ≠ ocoInfo.stopLossOrder.orderId) :
    Meets (waitContract exchange genuine)
      (OcoConcluded exchange (OcoInfo.Completed exchange genuine ocoInfo))
      (waitUntilOcoOrderFilled exchange ocoInfo) [] :=
  meets_after_check (orderly_wait_and_process distinct).whole_call

theorem cancel_oco_and_wait_until_terminal_meets
    (distinct : ocoInfo.takeProfitOrder.orderId ≠ ocoInfo.stopLossOrder.orderId) :
    Meets (waitContract exchange genuine)
      (OcoConcluded exchange (OcoInfo.Terminated exchange genuine ocoInfo))
      (cancelOcoAndWaitUntilTerminal exchange ocoInfo) [] :=
  meets_after_check (meets_after_check (orderly_cancel_registered_oco distinct).whole_call)

theorem OcoConcluded.throws {history : WaitHistory} {outcome : Except ServiceFailure Result}
    (concluded : OcoConcluded exchange holds history outcome)
    (saw : SawBothFilled exchange history) : ∃ failure, outcome = .error failure := by
  cases outcome with
  | error failure => exact ⟨failure, rfl⟩
  | ok result => exact absurd saw (concluded result rfl).1

end Calls

/-! ## Whole runs -/

/-- Whatever the stream, the other calls and the exchange do meanwhile: a wait
for an OCO returns a filled child with its terminal, unfilled sibling, a
confirmed cancellation returns both children terminal and in their slots, and
a call that gets to see both children filled on its way throws. -/
theorem oco_wait_postconditions (exchange : ExchangerType) (ocoInfo : OcoInfo)
    (distinct : ocoInfo.takeProfitOrder.orderId ≠ ocoInfo.stopLossOrder.orderId) :
    (∀ history state result,
      WaitRun exchange (waitUntilOcoOrderFilled exchange ocoInfo) history state
        (.returned result) →
      isOrderFilled exchange result.filledOrder.status ∧
      isOrderTerminal exchange result.siblingTerminalOrder.status ∧
      ¬ isOrderFilled exchange result.siblingTerminalOrder.status ∧
      (result.filledOrder.orderId = ocoInfo.takeProfitOrder.orderId ∧
          result.siblingTerminalOrder.orderId = ocoInfo.stopLossOrder.orderId ∨
        result.filledOrder.orderId = ocoInfo.stopLossOrder.orderId ∧
          result.siblingTerminalOrder.orderId = ocoInfo.takeProfitOrder.orderId)) ∧
    (∀ history state result,
      WaitRun exchange (cancelOcoAndWaitUntilTerminal exchange ocoInfo) history state
        (.returned result) →
      result.takeProfitOrder.orderId = ocoInfo.takeProfitOrder.orderId ∧
      result.stopLossOrder.orderId = ocoInfo.stopLossOrder.orderId ∧
      isOrderTerminal exchange result.takeProfitOrder.status ∧
      isOrderTerminal exchange result.stopLossOrder.status) ∧
    (∀ history state outcome,
      WaitRun exchange (waitUntilOcoOrderFilled exchange ocoInfo) history state
        (.ofExcept outcome) →
      SawBothFilled exchange history → ∃ failure, outcome = .error failure) ∧
    (∀ history state outcome,
      WaitRun exchange (cancelOcoAndWaitUntilTerminal exchange ocoInfo) history state
        (.ofExcept outcome) →
      SawBothFilled exchange history → ∃ failure, outcome = .error failure) := by
  refine ⟨?_, ?_, ?_, ?_⟩
  · intro history state result run
    have concluded := WaitRun.returned (wait_until_oco_order_filled_meets distinct) run
    have completed := (concluded result rfl).2
    refine ⟨completed.filled, completed.siblingTerminal, completed.siblingUnfilled, ?_⟩
    rcases completed.children with ⟨filled, sibling⟩ | ⟨filled, sibling⟩
    · exact .inl ⟨congrArg Prod.snd filled, congrArg Prod.snd sibling⟩
    · exact .inr ⟨congrArg Prod.snd filled, congrArg Prod.snd sibling⟩
  · intro history state result run
    have concluded := WaitRun.returned (cancel_oco_and_wait_until_terminal_meets distinct) run
    have terminated := (concluded result rfl).2
    exact ⟨congrArg Prod.snd terminated.takeProfit.key, congrArg Prod.snd terminated.stopLoss.key,
      terminated.takeProfit.terminal, terminated.stopLoss.terminal⟩
  · intro history state outcome run saw
    exact (WaitRun.exit (wait_until_oco_order_filled_meets distinct) run).throws saw
  · intro history state outcome run saw
    exact (WaitRun.exit (cancel_oco_and_wait_until_terminal_meets distinct) run).throws saw

/-- The stop loss has filled and the exchange has cancelled the take profit. -/
def stoppedOutOco : OcoInfo where
  orderListId := "9"
  takeProfitOrder := { symbol := "BTCUSDT", orderId := "1" }
  stopLossOrder := { symbol := "BTCUSDT", orderId := "2" }

def stoppedOutWait : WaitHistory × WaitState × WaitProgram OcoWaitResult :=
  runAlone
    (performSteadily .binance
      (fun _ query => .ok {
        symbol := query.symbol, orderId := query.orderId.getD ""
        status := if query.orderId = some "2" then "FILLED" else "CANCELED" })
      fun _ => .error .nonStandard)
    (waitUntilOcoOrderFilled .binance stoppedOutOco) [] {}

theorem oco_wait_postconditions_stopped_out :
    ∃ result, stoppedOutWait.2.2 = .returned result ∧
      isOrderFilled .binance result.filledOrder.status ∧
      isOrderTerminal .binance result.siblingTerminalOrder.status ∧
      ¬ isOrderFilled .binance result.siblingTerminalOrder.status ∧
      (result.filledOrder.orderId = "1" ∧ result.siblingTerminalOrder.orderId = "2" ∨
        result.filledOrder.orderId = "2" ∧ result.siblingTerminalOrder.orderId = "1") := by
  have run : WaitRun .binance (waitUntilOcoOrderFilled .binance stoppedOutOco)
      stoppedOutWait.1 stoppedOutWait.2.1 stoppedOutWait.2.2 :=
    SharedRun.run_alone perform_steadily_performs .start
  have ended : stoppedOutWait.2.2 = .returned {
      filledOrder := { symbol := "BTCUSDT", orderId := "2", status := "FILLED" }
      siblingTerminalOrder := { symbol := "BTCUSDT", orderId := "1", status := "CANCELED" } } :=
    rfl
  rw [ended] at run
  exact ⟨_, ended,
    (oco_wait_postconditions .binance stoppedOutOco (by decide)).1 _ _ _ run⟩

end CryptoDeal.DealService
