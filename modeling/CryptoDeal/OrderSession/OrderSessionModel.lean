import CryptoDeal.Library.KeyedRows
import CryptoDeal.OrderSession.SessionTask

/-!
# The order session

`OrderSessionModel` and the executor that it starts its tasks on, as one state
with a function for each member function. Every handler runs on the event loop:
it finds its entry, decides, writes the entry and publishes the change, which
stamps the entry and sorts the list.
-/

namespace CryptoDeal.OrderSession

open DealService OrderStatusUtil

inductive UiTaskStatus where
  | idle
  | loading
  | succeeded
  | failed
  deriving DecidableEq, Repr

structure UiTaskState where
  status : UiTaskStatus := .idle
  error : String := ""
  deriving DecidableEq

def UiTaskState.isLoading (state : UiTaskState) : Bool := state.status = .loading

/-- What the event loop still has to run of an accepted submission. -/
inductive QueuedCall where
  | continueAfterBasicAcceptance (entryId : EntryId)
  | continueAfterOcoAcceptance (entryId : EntryId)
  deriving DecidableEq, Repr

structure OrderSessionModel where
  entries : List Entry := []
  entryTaskStates : EntryId × TaskPart → UiTaskState := fun _ => {}
  nextEntryId : EntryId := 1
  /-- What `currentMSecsSinceEpoch` returns from now on. -/
  clock : ℕ → ℤ
  stopping : Bool := false
  /-- The executor's tasks in flight. -/
  tasks : List SessionTask := []
  queuedCalls : List QueuedCall := []

/-- How a handler announces a change of an entry; only `entryChange` raises the revision. -/
inductive Publication where
  | entryChange
  | entryActionChange
  deriving DecidableEq, Repr

/-- What a handler writes to its entry, if it gets past its guards. -/
abbrev Reaction := Entry → Option (Entry × Publication)

def Publication.stamp (now : ℤ) : Publication → Entry → Entry
  | .entryChange, entry => { entry with updatedAtMs := now, revision := entry.revision + 1 }
  | .entryActionChange, entry => { entry with updatedAtMs := now }

/-- The comparison of `sortEntries`. -/
def newerFirst (left right : Entry) : Bool :=
  if left.updatedAtMs ≠ right.updatedAtMs then left.updatedAtMs > right.updatedAtMs
  else left.id > right.id

def sortEntries (entries : List Entry) : List Entry := KeyedRows.sort newerFirst entries

namespace OrderSessionModel

def findEntry (session : OrderSessionModel) (entryId : EntryId) : Option Entry :=
  KeyedRows.find Entry.id entryId session.entries

/-- `publishEntryChange` and `publishEntryActionChange`, after the handler's own write. -/
def publish (session : OrderSessionModel) (publication : Publication) (changed : Entry) :
    OrderSessionModel :=
  { session with
    entries :=
      sortEntries
        (KeyedRows.write Entry.id (publication.stamp (session.clock 0) changed) session.entries)
    clock := fun reading => session.clock (reading + 1) }

def updateEntry (session : OrderSessionModel) (entryId : EntryId) (reaction : Reaction) :
    OrderSessionModel :=
  match (session.findEntry entryId).bind reaction with
  | none => session
  | some (changed, publication) => session.publish publication changed

def setTaskState (session : OrderSessionModel) (slot : EntryId × TaskPart) (state : UiTaskState) :
    OrderSessionModel :=
  { session with entryTaskStates := Function.update session.entryTaskStates slot state }

/-- `AsyncTaskExecutor::startTask`, and whether it started. -/
def startTask (session : OrderSessionModel) (task : SessionTask) : Bool × OrderSessionModel :=
  if session.stopping || (session.entryTaskStates task.slot).isLoading then (false, session)
  else
    (true,
      { session.setTaskState task.slot { status := .loading } with tasks := session.tasks ++ [task] })

def queueCall (session : OrderSessionModel) (call : QueuedCall) : OrderSessionModel :=
  { session with queuedCalls := session.queuedCalls ++ [call] }

/-- `createBasicEntry` and `createOcoEntry`. -/
def createEntry (session : OrderSessionModel) (draft : EntryDraft) : OrderSessionModel :=
  let now := session.clock 0
  let entry : Entry :=
    { id := session.nextEntryId, draft, createdAtMs := now, updatedAtMs := now }
  ({ session with
      entries := session.entries ++ [entry]
      nextEntryId := session.nextEntryId + 1
      clock := fun reading => session.clock (reading + 1) } : OrderSessionModel).publish
    .entryChange entry

/-! ## Submission -/

def failSubmission (session : OrderSessionModel) (entryId : EntryId) (failure : String) :
    OrderSessionModel :=
  session.updateEntry entryId fun entry =>
    if entry.status ≠ .submitting then none
    else some ({ entry with status := .submissionFailed, error := failure }, .entryChange)

def placeOrder (session : OrderSessionModel) (draft : BasicOrderDraft) :
    Bool × OrderSessionModel :=
  if isBasicOrderOperation draft.operation then
    let entryId := session.nextEntryId
    let (started, session) :=
      (session.createEntry (.basic draft)).startTask (.submitBasic entryId draft)
    (started,
      if started then session
      else session.failSubmission entryId "Order submission could not be started")
  else (false, session)

def placeOco (session : OrderSessionModel) (draft : OcoOrderDraft) : Bool × OrderSessionModel :=
  let entryId := session.nextEntryId
  let (started, session) :=
    (session.createEntry (.oco draft)).startTask (.submitOco entryId draft)
  (started,
    if started then session
    else session.failSubmission entryId "OCO submission could not be started")

/-- Whether `acceptBasicOrder` and `acceptOco` get past their guards. -/
def isSubmitting (session : OrderSessionModel) (entryId : EntryId) (type : EntryType) : Bool :=
  (session.findEntry entryId).any fun entry => entry.status = .submitting && entry.type = type

def acceptBasicOrder (session : OrderSessionModel) (entryId : EntryId) (orderInfo : OrderInfo) :
    OrderSessionModel :=
  if session.isSubmitting entryId .basicOrder then
    (session.updateEntry entryId fun entry =>
      some ({ entry with acceptedOrder := some orderInfo, status := .accepted, error := "" },
        .entryChange)).queueCall (.continueAfterBasicAcceptance entryId)
  else session

def acceptOco (session : OrderSessionModel) (entryId : EntryId) (ocoInfo : OcoInfo) :
    OrderSessionModel :=
  if session.isSubmitting entryId .ocoGroup then
    (session.updateEntry entryId fun entry =>
      some ({ entry with acceptedOco := some ocoInfo, status := .accepted, error := "" },
        .entryChange)).queueCall (.continueAfterOcoAcceptance entryId)
  else session

/-! ## Waits -/

def failOrderWait (session : OrderSessionModel) (entryId : EntryId) (waitRevision : ℕ)
    (failure : String) : OrderSessionModel :=
  session.updateEntry entryId fun entry =>
    if entry.isCurrentWaitingRevision waitRevision then
      some ({ entry with status := .monitoringFailed, error := failure },
        if entry.action = .cancelling ∨ entry.action = .cancellingAll then .entryActionChange
        else .entryChange)
    else none

/-- `WAITING`, and the task that waits. -/
def startWait (session : OrderSessionModel) (entry : Entry) (task : ℕ → SessionTask)
    (failure : String) : OrderSessionModel :=
  let session := session.publish .entryChange { entry with status := .waiting }
  let waitRevision := entry.revision + 1
  let (started, session) := session.startTask (task waitRevision)
  if started then session else session.failOrderWait entry.id waitRevision failure

def failMonitoring (session : OrderSessionModel) (entry : Entry) (failure : String) :
    OrderSessionModel :=
  session.publish .entryChange { entry with status := .monitoringFailed, error := failure }

def startBasicOrderWait (session : OrderSessionModel) (entryId : EntryId) : OrderSessionModel :=
  match session.findEntry entryId with
  | none => session
  | some entry =>
      match entry.status, entry.draft, entry.acceptedOrder with
      | .accepted, .basic draft, some orderInfo =>
          if orderInfo.symbol = "" ∨ orderInfo.orderId = "" then
            session.failMonitoring entry ("The accepted order response does not contain a symbol" ++
              " and order ID required for monitoring")
          else
            session.startWait entry
              (fun waitRevision => .orderWait entryId waitRevision draft.exchangerType
                orderInfo.symbol orderInfo.orderId)
              "Order status monitoring could not be started"
      | _, _, _ => session

/-- The identity that `startOcoWait` requires of an accepted OCO. -/
def isMonitorable (ocoInfo : OcoInfo) : Bool :=
  ocoInfo.orderListId ≠ "" && ocoInfo.takeProfitOrder.symbol ≠ "" &&
    ocoInfo.takeProfitOrder.orderId ≠ "" && ocoInfo.stopLossOrder.symbol ≠ "" &&
    ocoInfo.stopLossOrder.orderId ≠ ""

def startOcoWait (session : OrderSessionModel) (entryId : EntryId) : OrderSessionModel :=
  match session.findEntry entryId with
  | none => session
  | some entry =>
      match entry.status, entry.draft, entry.acceptedOco with
      | .accepted, .oco draft, some ocoInfo =>
          if isMonitorable ocoInfo then
            session.startWait entry
              (fun waitRevision => .ocoWait entryId waitRevision draft.exchangerType ocoInfo)
              "OCO status monitoring could not be started"
          else
            session.failMonitoring entry ("The accepted OCO response does not contain a group ID" ++
              " and both child orders required for monitoring")
      | _, _, _ => session

def isAcceptedBasicOrderFilled (entry : Entry) : Bool :=
  match entry.draft, entry.acceptedOrder with
  | .basic draft, some orderInfo => isOrderFilled draft.exchangerType orderInfo.status
  | _, _ => false

def continueAfterBasicAcceptance (session : OrderSessionModel) (entryId : EntryId) :
    OrderSessionModel :=
  match session.findEntry entryId with
  | none => session
  | some entry =>
      if entry.status ≠ .accepted ∨ entry.acceptedOrder = none then session
      else if isAcceptedBasicOrderFilled entry then
        session.publish .entryChange
          { entry with terminalOrder := entry.acceptedOrder, status := .filled }
      else session.startBasicOrderWait entryId

def continueAfterOcoAcceptance (session : OrderSessionModel) (entryId : EntryId) :
    OrderSessionModel :=
  match session.findEntry entryId with
  | none => session
  | some entry =>
      if entry.status ≠ .accepted ∨ entry.acceptedOco = none then session
      else session.startOcoWait entryId

def runQueuedCall (session : OrderSessionModel) : QueuedCall → OrderSessionModel
  | .continueAfterBasicAcceptance entryId => session.continueAfterBasicAcceptance entryId
  | .continueAfterOcoAcceptance entryId => session.continueAfterOcoAcceptance entryId

def finishOrderWait (session : OrderSessionModel) (entryId : EntryId) (waitRevision : ℕ)
    (orderInfo : OrderInfo) : OrderSessionModel :=
  session.updateEntry entryId fun entry =>
    if entry.isCurrentWaitingRevision waitRevision then
      some ({ entry with terminalOrder := some orderInfo, status := .filled, error := "" },
        .entryChange)
    else none

def finishOcoWait (session : OrderSessionModel) (entryId : EntryId) (waitRevision : ℕ)
    (result : OcoWaitResult) : OrderSessionModel :=
  session.updateEntry entryId fun entry =>
    if entry.isCurrentWaitingRevision waitRevision then
      match entry.updateOcoChildrenAfterCompletion result with
      | none =>
          some ({ entry with
              status := .monitoringFailed
              error := "The OCO completion did not identify both accepted child orders" },
            .entryChange)
      | some completed =>
          some ({ completed with
              terminalOrder := some result.filledOrder
              status := .filled
              error := "" },
            .entryChange)
    else none

/-! ## Actions -/

/-- The action that an entry shows from now on, with the last action's texts cleared. -/
def showAction (action : Action) : Reaction := fun entry =>
  some ({ entry with action, actionMessage := "", actionError := "" }, .entryActionChange)

/-- An entry's own action: start its task, then show it. -/
def startEntryAction (session : OrderSessionModel) (task : SessionTask) (entryId : EntryId) :
    Bool × OrderSessionModel :=
  let (started, session) := session.startTask task
  (started, if started then session.updateEntry entryId (showAction task.action) else session)

def refreshOrder (session : OrderSessionModel) (entryId : EntryId) : Bool × OrderSessionModel :=
  match (session.findEntry entryId).filter (·.canRefreshOrder) with
  | none => (false, session)
  | some entry =>
      match entry.createEntryRefreshRequest with
      | none => (false, session)
      | some request => session.startEntryAction (.refresh entry.exchangerType request) entryId

def cancelOrder (session : OrderSessionModel) (entryId : EntryId) : Bool × OrderSessionModel :=
  match (session.findEntry entryId).filter (·.canCancelOrder) with
  | none => (false, session)
  | some entry =>
      match entry.createEntryRefreshRequest with
      | none => (false, session)
      | some request =>
          match entry.type with
          | .basicOrder =>
              session.startEntryAction (.cancelBasic entry.exchangerType request) entryId
          | .ocoGroup =>
              session.startEntryAction
                (.cancelOco entry.exchangerType request (entry.acceptedOco.getD {})) entryId

/-- The exchange and symbol that `cancelAllOpenOrders` works on. -/
def isOfPair (exchangerType : ExchangerType) (symbol : String) (entry : Entry) : Bool :=
  entry.exchangerType = exchangerType && entry.pair.symbol = symbol

def canCancelAllOpenOrders (session : OrderSessionModel) (entryId : EntryId) : Bool :=
  match session.findEntry entryId with
  | none => false
  | some context =>
      context.pair.symbol ≠ "" &&
        session.entries.all fun entry =>
          !(isOfPair context.exchangerType context.pair.symbol entry &&
            (entry.status = .submitting || entry.action ≠ .none))

def createPairRefreshRequests (session : OrderSessionModel) (exchangerType : ExchangerType)
    (symbol : String) : List EntryRefreshRequest :=
  (session.entries.filter (isOfPair exchangerType symbol)).map fun entry =>
    entry.createEntryRefreshRequest.getD entry.emptyRequest

def startPairAction (session : OrderSessionModel) (requests : List EntryRefreshRequest) :
    OrderSessionModel :=
  requests.foldl
    (fun session request => session.updateEntry request.entryId fun entry =>
      if entry.revision ≠ request.revision then none else showAction .cancellingAll entry)
    session

def cancelAllOpenOrders (session : OrderSessionModel) (entryId : EntryId) :
    Bool × OrderSessionModel :=
  match (session.findEntry entryId).filter fun _ => session.canCancelAllOpenOrders entryId with
  | none => (false, session)
  | some entry =>
      let requests := session.createPairRefreshRequests entry.exchangerType entry.pair.symbol
      let (started, session) :=
        session.startTask (.cancelAll entryId entry.exchangerType entry.pair.symbol requests)
      (started, if started then session.startPairAction requests else session)

/-- The merge of an action's result, shared by the three success handlers. -/
def concludeAction (result : EntryRefreshResult) (action : Action) (message : Entry → String)
    (actionError : String) : Reaction := fun entry =>
  let (applied, becameTerminal) := entry.applyEntryRefreshResult result
  some (applied.finishEntryAction result.request.revision action (message applied) actionError,
    if becameTerminal then .entryChange else .entryActionChange)

/-- A result that comes too late ends its action and is dropped. -/
def dropAction (action : Action) : Reaction := fun entry =>
  if entry.action = action then some ({ entry with action := .none }, .entryActionChange)
  else none

def refreshMessage (result : EntryRefreshResult) (action : Action) (successMessage : String)
    (entry : Entry) : String :=
  if action = .cancelling then
    match entry.status with
    | .terminal => "Order cancellation confirmed"
    | .filled => "Order filled before cancellation completed"
    | _ => "Order cancellation accepted; terminal confirmation pending"
  else if result.getEntryRefreshError = "" then successMessage
  else
    match entry.type with
    | .ocoGroup =>
        if result.takeProfitOrder.isSome || result.stopLossOrder.isSome then
          "Available OCO child status refreshed"
        else ""
    | .basicOrder => ""

def finishEntryRefresh (session : OrderSessionModel) (result : EntryRefreshResult)
    (action : Action) (successMessage : String) : OrderSessionModel :=
  session.updateEntry result.request.entryId fun entry =>
    if entry.isEntryActionCurrent result.request.revision action then
      concludeAction result action (refreshMessage result action successMessage)
        result.getEntryRefreshError entry
    else dropAction action entry

def ocoCancellationMessage (entry : Entry) : String :=
  match entry.status with
  | .terminal => "OCO cancellation confirmed"
  | .filled => "OCO reached a confirmed fill while cancellation was in progress"
  | _ => "OCO cancellation accepted; terminal confirmation pending"

/-- A refresh error under the action that met it. -/
def prefixedError (label error : String) : String := if error = "" then "" else label ++ error

def finishOcoCancellation (session : OrderSessionModel) (result : EntryRefreshResult) :
    OrderSessionModel :=
  session.updateEntry result.request.entryId fun entry =>
    if entry.isEntryActionCurrent result.request.revision .cancelling then
      concludeAction result .cancelling ocoCancellationMessage
        (prefixedError "Cancellation accepted; " result.getOcoRefreshError) entry
    else dropAction .cancelling entry

/-- `failEntryAction`, and one request's turn in `finishPairAction`. -/
def endAction (actionRevision : ℕ) (action : Action) (message error : String) : Reaction :=
  fun entry =>
    if entry.action ≠ action then none
    else if entry.revision = actionRevision then
      some (entry.finishEntryAction actionRevision action message error, .entryActionChange)
    else some ({ entry with action := .none }, .entryActionChange)

def failEntryAction (session : OrderSessionModel) (entryId : EntryId) (actionRevision : ℕ)
    (action : Action) (failurePrefix failure : String) : OrderSessionModel :=
  session.updateEntry entryId (endAction actionRevision action "" (failurePrefix ++ failure))

def finishPairAction (session : OrderSessionModel) (requests : List EntryRefreshRequest)
    (message error : String) : OrderSessionModel :=
  requests.foldl
    (fun session request => session.updateEntry request.entryId
      (endAction request.revision .cancellingAll message error))
    session

def cancelAllMessage (result : EntryRefreshResult) (entry : Entry) : String :=
  if result.hasRefreshResult then
    if entry.status = .filled ∨ entry.status = .terminal then
      "Cancel All accepted; terminal state confirmed"
    else "Cancel All accepted; terminal confirmation pending"
  else "Cancel All accepted; this session row has no exchange status to refresh"

/-- One result's turn in `finishCancelAll`. -/
def finishCancelAllEntry (session : OrderSessionModel) (result : EntryRefreshResult) :
    OrderSessionModel :=
  session.updateEntry result.request.entryId fun entry =>
    if entry.isEntryActionCurrent result.request.revision .cancellingAll then
      concludeAction result .cancellingAll (cancelAllMessage result)
        (prefixedError "Cancel All accepted; " result.getEntryRefreshError) entry
    else none

def finishCancelAll (session : OrderSessionModel) (requests : List EntryRefreshRequest)
    (results : List EntryRefreshResult) : OrderSessionModel :=
  (results.foldl finishCancelAllEntry session).finishPairAction requests "Cancel All accepted" ""

def failCancelAll (session : OrderSessionModel) (requests : List EntryRefreshRequest)
    (failure : String) : OrderSessionModel :=
  session.finishPairAction requests "" ("Cancel All failed: " ++ failure)

/-! ## Completions -/

/-- The success callback that a task was started with. -/
def deliverSuccess (session : OrderSessionModel) :
    (task : SessionTask) → task.Result → OrderSessionModel
  | .submitBasic entryId _, orderInfo => session.acceptBasicOrder entryId orderInfo
  | .submitOco entryId _, ocoInfo => session.acceptOco entryId ocoInfo
  | .orderWait entryId waitRevision _ _ _, filledOrder =>
      session.finishOrderWait entryId waitRevision filledOrder
  | .ocoWait entryId waitRevision _ _, result =>
      session.finishOcoWait entryId waitRevision result
  | .refresh _ _, result =>
      session.finishEntryRefresh result .refreshing "Exchange status refreshed"
  | .cancelBasic _ _, result =>
      session.finishEntryRefresh result .cancelling
        "Order cancellation accepted by the exchange"
  | .cancelOco _ _ _, result => session.finishOcoCancellation result
  | .cancelAll _ _ _ requests, results => session.finishCancelAll requests results

/-- The failure callback that a task was started with. -/
def deliverFailure (session : OrderSessionModel) (task : SessionTask) (failure : String) :
    OrderSessionModel :=
  match task with
  | .submitBasic entryId _ | .submitOco entryId _ => session.failSubmission entryId failure
  | .orderWait entryId waitRevision _ _ _ | .ocoWait entryId waitRevision _ _ =>
      session.failOrderWait entryId waitRevision failure
  | .refresh _ request =>
      session.failEntryAction request.entryId request.revision .refreshing "Refresh failed: "
        failure
  | .cancelBasic _ request =>
      session.failEntryAction request.entryId request.revision .cancelling
        "Cancellation failed: " failure
  | .cancelOco _ request _ =>
      session.failEntryAction request.entryId request.revision .cancelling
        "OCO cancellation failed: " failure
  | .cancelAll _ _ _ requests => session.failCancelAll requests failure

def deliverTaskCompletion (session : OrderSessionModel) (task : SessionTask)
    (outcome : Except ServiceFailure task.Result) : OrderSessionModel :=
  match outcome with
  | .ok result =>
      (session.deliverSuccess task result).setTaskState task.slot { status := .succeeded }
  | .error failure =>
      (session.setTaskState task.slot
        { status := .failed, error := getFailureMessage failure }).deliverFailure task
        (getFailureMessage failure)

/-- `completeTask`, once the task is out of the executor's map. -/
def completeTask (session : OrderSessionModel) (task : SessionTask)
    (outcome : Except ServiceFailure task.Result) : OrderSessionModel :=
  if session.stopping then session else session.deliverTaskCompletion task outcome

end OrderSessionModel

end CryptoDeal.OrderSession
