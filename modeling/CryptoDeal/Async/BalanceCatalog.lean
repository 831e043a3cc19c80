import CryptoDeal.OrderSession.OrderSessionModel

/-!
# Live balance updates

The part of `BalanceCatalog` that keeps the balances of both exchanges live: a
start task for each exchange's user stream, a retry timer, the status changes
that the stream announces, and the request flag that the start tasks read.
-/

namespace CryptoDeal.Async

open DealService OrderSession

inductive LiveUpdateStatus where
  | idle
  | starting
  | connecting
  | connected
  | retryWaiting
  | stopped
  deriving DecidableEq, Repr

def liveRetryDelaysMs : List ℕ := [1000, 2000, 5000, 10000, 30000]

/-- Where the task of an exchange's `liveStartState` stands. -/
inductive StartTask where
  | created
  | starting
  | started
  /-- Inside `stopUserStream`, as the request was withdrawn. -/
  | withdrawing
  | finished (outcome : Except ServiceFailure Bool)

structure BalanceEntry where
  /-- The task in flight, during which `liveStartState` is loading. -/
  liveStart : Option StartTask := none
  liveUpdateStatus : LiveUpdateStatus := .idle
  liveUpdateError : String := ""
  /-- The delay that the timer runs with while it is active. -/
  liveRetryTimer : Option ℕ := none
  liveRetryAttempt : ℕ := 0
  queuedNotifications : ℕ := 0

structure BalanceCatalog where
  entries : ExchangerType → BalanceEntry := fun _ => {}
  liveUpdatesRequested : Bool := false

/-- What `getUserStreamStatus` and `getUserStreamLastError` return. -/
structure StreamReading where
  status : StreamStatus
  lastError : String
  deriving DecidableEq, Repr

namespace BalanceEntry

def setLiveUpdateStatus (entry : BalanceEntry) (status : LiveUpdateStatus) (error : String) :
    BalanceEntry :=
  { entry with liveUpdateStatus := status, liveUpdateError := error }

def startRetryTimer (entry : BalanceEntry) : BalanceEntry :=
  if entry.liveRetryTimer.isSome then entry
  else
    { entry with
      liveRetryTimer :=
        liveRetryDelaysMs[min entry.liveRetryAttempt (liveRetryDelaysMs.length - 1)]?
      liveRetryAttempt := entry.liveRetryAttempt + 1 }

def scheduleLiveRetry (requested : Bool) (entry : BalanceEntry) (error : String) : BalanceEntry :=
  if requested then entry.startRetryTimer.setLiveUpdateStatus .retryWaiting error else entry

def handleLiveStartFailure (requested : Bool) (entry : BalanceEntry) (error : String) :
    BalanceEntry :=
  if requested then entry.scheduleLiveRetry requested error else entry

def handleUserStreamStatusChanged (requested : Bool) (stream : StreamReading)
    (entry : BalanceEntry) : BalanceEntry :=
  if requested then
    match stream.status with
    | .connecting => { entry with liveRetryTimer := none }.setLiveUpdateStatus .connecting ""
    | .connected =>
        { entry with liveRetryTimer := none, liveRetryAttempt := 0 }.setLiveUpdateStatus
          .connected ""
    | .error | .stopped => entry.scheduleLiveRetry requested stream.lastError
  else entry

def startLiveUpdate (requested : Bool) (entry : BalanceEntry) : BalanceEntry :=
  if requested then
    if entry.liveStart.isSome then entry
    else
      { { entry with liveRetryTimer := none }.setLiveUpdateStatus .starting
          entry.liveUpdateError with
        liveStart := some .created }
  else entry

def completeStart (requested : Bool) (stream : StreamReading) :
    Except ServiceFailure Bool → BalanceEntry → BalanceEntry
  | .ok started, entry =>
      if started && requested then entry.handleUserStreamStatusChanged requested stream else entry
  | .error failure, entry => entry.handleLiveStartFailure requested (getFailureMessage failure)

def stopLiveUpdate (entry : BalanceEntry) : BalanceEntry :=
  { entry with liveRetryTimer := none }.setLiveUpdateStatus .stopped ""

end BalanceEntry

namespace BalanceCatalog

def startLiveUpdates (catalog : BalanceCatalog) : BalanceCatalog :=
  if catalog.liveUpdatesRequested then catalog
  else
    { entries := fun exchangerType => (catalog.entries exchangerType).startLiveUpdate true
      liveUpdatesRequested := true }

def stopLiveUpdates (catalog : BalanceCatalog) : BalanceCatalog :=
  if catalog.liveUpdatesRequested then
    { entries := fun exchangerType => (catalog.entries exchangerType).stopLiveUpdate
      liveUpdatesRequested := false }
  else catalog

end BalanceCatalog

inductive EntryEvent where
  | timerExpired
  | requestRead
  | startThrew (failure : ServiceFailure)
  | streamStarted
  | requestReadAgain
  | streamStopped
  | completed (stream : StreamReading)
  | notified
  | handled (stream : StreamReading)
  deriving DecidableEq, Repr

inductive EntryStep (requested : Bool) (entry : BalanceEntry) : EntryEvent → BalanceEntry → Prop
  | timerExpired (active : entry.liveRetryTimer.isSome) :
      EntryStep requested entry .timerExpired
        ({ entry with liveRetryTimer := none }.startLiveUpdate requested)
  | requestRead (created : entry.liveStart = some .created) :
      EntryStep requested entry .requestRead
        { entry with liveStart := some (if requested then .starting else .finished (.ok false)) }
  -- from `created` when the task's thread could not be started
  | startThrew (failure : ServiceFailure)
      (running : entry.liveStart = some .created ∨ entry.liveStart = some .starting) :
      EntryStep requested entry (.startThrew failure)
        { entry with liveStart := some (.finished (.error failure)) }
  | streamStarted (starting : entry.liveStart = some .starting) :
      EntryStep requested entry .streamStarted { entry with liveStart := some .started }
  | requestReadAgain (started : entry.liveStart = some .started) :
      EntryStep requested entry .requestReadAgain
        { entry with liveStart := some (if requested then .finished (.ok true) else .withdrawing) }
  | streamStopped (withdrawing : entry.liveStart = some .withdrawing) :
      EntryStep requested entry .streamStopped
        { entry with liveStart := some (.finished (.ok false)) }
  | completed {outcome : Except ServiceFailure Bool} (stream : StreamReading)
      (finished : entry.liveStart = some (.finished outcome)) :
      EntryStep requested entry (.completed stream)
        (BalanceEntry.completeStart requested stream outcome { entry with liveStart := none })
  | notified :
      EntryStep requested entry .notified
        { entry with queuedNotifications := entry.queuedNotifications + 1 }
  | handled {later : ℕ} (stream : StreamReading)
      (queued : entry.queuedNotifications = later + 1) :
      EntryStep requested entry (.handled stream)
        ({ entry with queuedNotifications := later }.handleUserStreamStatusChanged requested
          stream)

inductive LiveEvent where
  | startLiveUpdates
  | stopLiveUpdates
  | entry (exchangerType : ExchangerType) (event : EntryEvent)
  deriving DecidableEq, Repr

inductive BalanceCatalog.Moves (before : BalanceCatalog) : LiveEvent → BalanceCatalog → Prop
  | startLiveUpdates : Moves before .startLiveUpdates before.startLiveUpdates
  | stopLiveUpdates : Moves before .stopLiveUpdates before.stopLiveUpdates
  | entry {event : EntryEvent} {after : BalanceEntry} (exchangerType : ExchangerType)
      (step : EntryStep before.liveUpdatesRequested (before.entries exchangerType) event after) :
      Moves before (.entry exchangerType event)
        { before with entries := Function.update before.entries exchangerType after }

/-- The steps of a new catalog, latest first, each with the catalog that it found. -/
inductive LiveRun : List (BalanceCatalog × LiveEvent) → BalanceCatalog → Prop
  | start : LiveRun [] {}
  | step {steps : List (BalanceCatalog × LiveEvent)} {before after : BalanceCatalog}
      {event : LiveEvent} (run : LiveRun steps before) (moves : before.Moves event after) :
      LiveRun ((before, event) :: steps) after

end CryptoDeal.Async
