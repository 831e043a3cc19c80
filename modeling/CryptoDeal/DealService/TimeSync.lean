import CryptoDeal.DealService.Domain
import CryptoDeal.Library.Threads

/-!
# Synchronising with the exchange's clock

`getServerTimestamp` of both services: the local time plus an offset that is
measured again when the last measurement is ten seconds old. Any number of
threads may ask at once; the offset and the moment of its measurement are
atomics, and a mutex covers the measurement. The check is made before the lock
is taken and again under it.
-/

namespace CryptoDeal.DealService

open Interaction

/-- The three clocks, in nanoseconds. -/
structure Clocks where
  steady : ℕ
  system : ℕ
  exchange : ℕ
  deriving DecidableEq

def milliseconds (nanoseconds : ℕ) : ℤ :=
  (nanoseconds / 1000000 : ℕ)

inductive TimeEffect where
  | steadyClock
  | systemClock
  | loadLastSyncMonoMs
  | storeLastSyncMonoMs (currentMonoMs : ℤ)
  | loadServerTimeOffset
  | storeServerTimeOffset (offset : ℤ)
  | lockTimeSync
  | unlockTimeSync
  | sendServerTimeRequest
  /-- `sent` is the moment of sending, which the code does not look at. -/
  | receiveServerTime (sent : Clocks)
  deriving DecidableEq

@[reducible] def TimeEffect.Answer : TimeEffect → Type
  | steadyClock | systemClock => ℕ
  | loadLastSyncMonoMs | loadServerTimeOffset => ℤ
  | storeLastSyncMonoMs _ | storeServerTimeOffset _ | lockTimeSync | unlockTimeSync => Unit
  | sendServerTimeRequest => Clocks
  | receiveServerTime _ => Except ServiceFailure ℤ

abbrev TimeProgram := Interaction TimeEffect TimeEffect.Answer ServiceFailure

abbrev TimeHistory := History TimeEffect TimeEffect.Answer

namespace TimeProgram

def steadyClock : TimeProgram ℕ := .request .steadyClock .returned

def systemClock : TimeProgram ℕ := .request .systemClock .returned

def loadLastSyncMonoMs : TimeProgram ℤ := .request .loadLastSyncMonoMs .returned

def storeLastSyncMonoMs (currentMonoMs : ℤ) : TimeProgram Unit :=
  .request (.storeLastSyncMonoMs currentMonoMs) .returned

def loadServerTimeOffset : TimeProgram ℤ := .request .loadServerTimeOffset .returned

def storeServerTimeOffset (offset : ℤ) : TimeProgram Unit :=
  .request (.storeServerTimeOffset offset) .returned

def lockTimeSync : TimeProgram Unit := .request .lockTimeSync .returned

def unlockTimeSync : TimeProgram Unit := .request .unlockTimeSync .returned

def sendServerTimeRequest : TimeProgram Clocks := .request .sendServerTimeRequest .returned

def receiveServerTime (sent : Clocks) : TimeProgram ℤ :=
  .request (.receiveServerTime sent) .ofExcept

end TimeProgram

open TimeProgram

/-- What a unit of the exchange's reply is in milliseconds: Bybit answers whole seconds. -/
def replyUnit : ExchangerType → ℤ
  | .binance => 1
  | .bybit => 1000

/-- `getServerTime`; Bybit has its steps in `syncTime`. -/
def getServerTime (exchange : ExchangerType) : TimeProgram ℤ := do
  let sent ← sendServerTimeRequest
  let reading ← receiveServerTime sent
  return reading * replyUnit exchange

/-- The measurement is younger than ten seconds. -/
def isRecent (currentNanoseconds : ℕ) (lastMonoMs : ℤ) : Prop :=
  milliseconds currentNanoseconds - lastMonoMs < 10000

instance (currentNanoseconds : ℕ) (lastMonoMs : ℤ) :
    Decidable (isRecent currentNanoseconds lastMonoMs) :=
  inferInstanceAs (Decidable (_ < _))

def isTimeSyncRecent : TimeProgram Bool := do
  let currentNanoseconds ← steadyClock
  let lastMonoMs ← loadLastSyncMonoMs
  return isRecent currentNanoseconds lastMonoMs

/-- What `syncTime` does under the lock. -/
def measureOffset (exchange : ExchangerType) : TimeProgram Unit := do
  if ← isTimeSyncRecent then
    return
  else
    let serverTime ← getServerTime exchange
    let localTime ← systemClock
    storeServerTimeOffset (serverTime - milliseconds localTime)
    let currentNanoseconds ← steadyClock
    storeLastSyncMonoMs (milliseconds currentNanoseconds)

def syncTime (exchange : ExchangerType) : TimeProgram Unit := do
  if ← isTimeSyncRecent then
    return
  else
    lockTimeSync
    (measureOffset exchange).ensuring unlockTimeSync

def getServerTimestamp (exchange : ExchangerType) : TimeProgram ℤ := do
  syncTime exchange
  let localTime ← systemClock
  let serverTimeOffset ← loadServerTimeOffset
  return milliseconds localTime + serverTimeOffset

/-! ## What the threads share -/

structure TimeState where
  clocks : Clocks
  serverTimeOffset : ℤ := 0
  lastSyncMonoMs : ℤ := 0
  /-- `timeSyncMutex`. -/
  locked : Bool := false
  deriving DecidableEq

/-- What is assumed of the clocks, and what the exchange replies at a moment. -/
structure TimeEnvironment where
  runs : Clocks → Prop
  replies : Clocks → ℤ → Prop

namespace TimeEnvironment

variable (environment : TimeEnvironment)

/-- What one access finds and leaves behind. -/
def responds (now : TimeState) : (effect : TimeEffect) → effect.Answer → TimeState → Prop
  | .steadyClock, reading, after => reading = now.clocks.steady ∧ after = now
  | .systemClock, reading, after => reading = now.clocks.system ∧ after = now
  | .loadLastSyncMonoMs, lastMonoMs, after => lastMonoMs = now.lastSyncMonoMs ∧ after = now
  | .storeLastSyncMonoMs currentMonoMs, _, after =>
      after = { now with lastSyncMonoMs := currentMonoMs }
  | .loadServerTimeOffset, offset, after => offset = now.serverTimeOffset ∧ after = now
  | .storeServerTimeOffset offset, _, after => after = { now with serverTimeOffset := offset }
  | .lockTimeSync, _, after => now.locked = false ∧ after = { now with locked := true }
  | .unlockTimeSync, _, after => after = { now with locked := false }
  | .sendServerTimeRequest, sent, after => sent = now.clocks ∧ after = now
  | .receiveServerTime sent, outcome, after =>
      after = now ∧ ∀ reading, outcome = .ok reading → ∃ moment, sent.steady ≤ moment.steady ∧
        moment.steady ≤ now.clocks.steady ∧ environment.runs moment ∧
        environment.replies moment reading

/-- The clocks run on, and the steady one never back, before each access. -/
def performs (before : TimeState) (effect : TimeEffect) (answer : effect.Answer)
    (after : TimeState) : Prop :=
  ∃ clocks, before.clocks.steady ≤ clocks.steady ∧ environment.runs clocks ∧
    environment.responds { before with clocks } effect answer after

end TimeEnvironment

/-- The calls of one service. -/
def timeThreads (exchange : ExchangerType) (environment : TimeEnvironment) :
    ThreadSystem Unit TimeState TimeEffect TimeEffect.Answer ServiceFailure where
  Result := fun _ => ℤ
  program := fun _ => getServerTimestamp exchange
  performs := environment.performs

/-- A run of any number of calls from the construction of their service. -/
abbrev TimeRun (exchange : ExchangerType) (environment : TimeEnvironment) (clocks : Clocks) :
    List (ThreadStep (timeThreads exchange environment)) →
      Threads (timeThreads exchange environment) → Prop :=
  ThreadRun (timeThreads exchange environment) { clocks }

/-! ## Where a call is -/

/-- The evidence that the offset may be used: a reading of the steady clock and the moment of a
measurement. -/
structure RecentSync where
  current : ℕ
  last : ℤ
  deriving DecidableEq

inductive TimePhase where
  | checking
  | comparing (current : ℕ)
  | locking
  | rechecking
  | recomparing (current : ℕ)
  | sending (current : ℕ) (last : ℤ)
  | receiving (last : ℤ) (sent : Clocks)
  | measuring (last : ℤ) (sent : Clocks) (reading : ℤ)
  | adjusting (last : ℤ) (sent : Clocks) (reading : ℤ) (localTime : ℕ)
  | timing (last : ℤ) (sent : Clocks)
  | recording (last : ℤ) (current : ℕ)
  | unlocking (outcome : Except ServiceFailure RecentSync)
  | stamping (recent : RecentSync)
  | adding (recent : RecentSync) (localTime : ℕ)
  | ended (recent : RecentSync) (localTime : ℕ) (offset : ℤ)
  | failed (failure : ServiceFailure)

namespace TimePhase

def afterComparison (current : ℕ) (last : ℤ) (yes no : TimePhase) : TimePhase :=
  if isRecent current last then yes else no

/-- Where an answer takes the call. -/
def after : TimePhase → (effect : TimeEffect) → effect.Answer → TimePhase
  | checking, .steadyClock, current => comparing current
  | comparing current, .loadLastSyncMonoMs, last =>
      afterComparison current last (stamping ⟨current, last⟩) locking
  | locking, .lockTimeSync, _ => rechecking
  | rechecking, .steadyClock, current => recomparing current
  | recomparing current, .loadLastSyncMonoMs, last =>
      afterComparison current last (unlocking (.ok ⟨current, last⟩)) (sending current last)
  | sending _ last, .sendServerTimeRequest, sent => receiving last sent
  | receiving last sent, .receiveServerTime _, .ok reading => measuring last sent reading
  | receiving _ _, .receiveServerTime _, .error failure => unlocking (.error failure)
  | measuring last sent reading, .systemClock, localTime => adjusting last sent reading localTime
  | adjusting last sent _ _, .storeServerTimeOffset _, _ => timing last sent
  | timing last _, .steadyClock, current => recording last current
  | recording _ current, .storeLastSyncMonoMs currentMonoMs, _ =>
      unlocking (.ok ⟨current, currentMonoMs⟩)
  | unlocking (.ok recent), .unlockTimeSync, _ => stamping recent
  | unlocking (.error failure), .unlockTimeSync, _ => failed failure
  | stamping recent, .systemClock, localTime => adding recent localTime
  | adding recent localTime, .loadServerTimeOffset, offset => ended recent localTime offset
  | phase, _, _ => phase

/-- The one access that a call makes next. -/
def asks (exchange : ExchangerType) : TimePhase → Option TimeEffect
  | checking | rechecking | timing _ _ => some .steadyClock
  | comparing _ | recomparing _ => some .loadLastSyncMonoMs
  | locking => some .lockTimeSync
  | sending _ _ => some .sendServerTimeRequest
  | receiving _ sent => some (.receiveServerTime sent)
  | measuring _ _ _ | stamping _ => some .systemClock
  | adjusting _ _ reading localTime =>
      some (.storeServerTimeOffset (reading * replyUnit exchange - milliseconds localTime))
  | recording _ current => some (.storeLastSyncMonoMs (milliseconds current))
  | unlocking _ => some .unlockTimeSync
  | adding _ _ => some .loadServerTimeOffset
  | ended _ _ _ | failed _ => none

/-- How a call that is over has ended. -/
def outcome : TimePhase → Option (Except ServiceFailure ℤ)
  | ended _ localTime offset => some (.ok (milliseconds localTime + offset))
  | failed failure => some (.error failure)
  | _ => none

/-- The call holds the mutex. -/
def holds : TimePhase → Prop
  | rechecking | recomparing _ | sending _ _ | receiving _ _ | measuring _ _ _ | adjusting _ _ _ _
  | timing _ _ | recording _ _ | unlocking _ => True
  | _ => False

end TimePhase

/-- Where the answers so far have taken a call. -/
def timePhase : TimeHistory → TimePhase
  | [] => .checking
  | ⟨effect, answer⟩ :: history => (timePhase history).after effect answer

/-- A call does what its phase says. -/
def timeContract (exchange : ExchangerType) : Contract TimeEffect TimeEffect.Answer :=
  requestsOnly fun history effect => (timePhase history).asks exchange = some effect

section

variable {exchange : ExchangerType} {history : TimeHistory} {phase : TimePhase} {Result : Type}
  {post : TimeHistory → Except ServiceFailure Result → Prop}

theorem phases_next {effect : TimeEffect} {next : effect.Answer → TimeProgram Result}
    (known : timePhase history = phase) (asks : phase.asks exchange = some effect)
    (continues : ∀ answer later, timePhase later = phase.after effect answer →
      Meets (timeContract exchange) post (next answer) later) :
    Meets (timeContract exchange) post (.request effect next) history := by
  subst known
  exact ⟨asks, fun answer _ => continues answer _ rfl⟩

/-- A check, and what follows each answer to it. -/
theorem phases_check {yes no : ℕ → ℤ → TimePhase} {next : Bool → TimeProgram Result}
    (known : timePhase history = phase) (clock : phase.asks exchange = some .steadyClock)
    (load : ∀ current, (phase.after .steadyClock current).asks exchange = some .loadLastSyncMonoMs)
    (compares : ∀ current last,
      (phase.after .steadyClock current).after .loadLastSyncMonoMs last =
        .afterComparison current last (yes current last) (no current last))
    (recent : ∀ current last later, timePhase later = yes current last →
      Meets (timeContract exchange) post (next true) later)
    (stale : ∀ current last later, timePhase later = no current last →
      Meets (timeContract exchange) post (next false) later) :
    Meets (timeContract exchange) post (isTimeSyncRecent >>= next) history := by
  refine phases_next known clock fun current middle reading => ?_
  refine phases_next reading (load current) fun last later compared => ?_
  rw [compares, TimePhase.afterComparison] at compared
  change Meets _ _ (next (decide (isRecent current last))) later
  by_cases holds : isRecent current last
  · rw [if_pos holds] at compared
    rw [decide_eq_true holds]
    exact recent current last later compared
  · rw [if_neg holds] at compared
    rw [decide_eq_false holds]
    exact stale current last later compared

/-- How a measurement ends is how the lock is given back. -/
def Measured (later : TimeHistory) (outcome : Except ServiceFailure Unit) : Prop :=
  ∃ recent : Except ServiceFailure RecentSync, timePhase later = .unlocking recent ∧
    outcome = recent.map fun _ => ()

theorem phases_measure_offset (locked : timePhase history = .rechecking) :
    Meets (timeContract exchange) Measured (measureOffset exchange) history := by
  refine phases_check locked rfl (fun _ => rfl) (fun _ _ => rfl) ?_ ?_
  · intro current last later known
    exact ⟨.ok ⟨current, last⟩, known, rfl⟩
  · intro current last later known
    refine phases_next known rfl fun sent waiting receives => ?_
    refine phases_next receives rfl fun reply replied measures => ?_
    cases reply with
    | error failure => exact ⟨.error failure, measures, rfl⟩
    | ok reading =>
        refine phases_next measures rfl fun localTime _ adjusts => ?_
        refine phases_next adjusts rfl fun _ _ times => ?_
        refine phases_next times rfl fun now _ records => ?_
        refine phases_next records rfl fun _ _ unlocks => ?_
        exact ⟨_, unlocks, rfl⟩

theorem phases_sync_time (start : timePhase history = .checking) :
    Meets (timeContract exchange)
      (fun later outcome =>
        match outcome with
        | .ok _ => ∃ recent, timePhase later = .stamping recent
        | .error failure => timePhase later = .failed failure)
      (syncTime exchange) history := by
  refine phases_check start rfl (fun _ => rfl) (fun _ _ => rfl) ?_ ?_
  · intro current last later known
    exact ⟨⟨current, last⟩, known⟩
  · intro current last later known
    refine phases_next known rfl fun _ locked held => ?_
    change Meets _ _ ((measureOffset exchange).ensuring unlockTimeSync) _
    rw [meets_ensuring]
    apply (phases_measure_offset held).weaken
    rintro measured _ ⟨recent, unlocks, rfl⟩
    refine phases_next unlocks rfl fun _ _ goes => ?_
    cases recent with
    | error failure => exact goes
    | ok recent => exact ⟨recent, goes⟩

theorem phases_get_server_timestamp :
    Meets (timeContract exchange)
      (fun later outcome => (timePhase later).outcome = some outcome)
      (getServerTimestamp exchange) [] := by
  apply (phases_sync_time rfl).bind
  · rintro later _ ⟨recent, stamps⟩
    refine phases_next stamps rfl fun localTime _ adds => ?_
    refine phases_next adds rfl fun offset _ ends => ?_
    exact congrArg TimePhase.outcome ends
  · intro later failure fails
    exact congrArg TimePhase.outcome fails

end

end CryptoDeal.DealService
