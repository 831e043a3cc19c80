import CryptoDeal.DealService.Domain

/-!
# Starting and stopping the user stream

One caller at a time holds the lifecycle mutex and starts or stops the stream;
the runner connects, subscribes and reads. Each step is one access to what they
share: the `userStream` flag, the stored socket, the stream status and the
runner's thread. The services stop in a different order, and only Binance's
order lets the runner slip into a read that nobody will end.
-/

namespace CryptoDeal.DealService

abbrev Socket := ℕ

inductive RunnerPhase where
  | connecting
  | storing (socket : Socket)
  | announcing (socket : Socket)
  /-- Writes its requests and reads the responses; these reads always return. -/
  | subscribing (socket : Socket)
  | subscribed (socket : Socket)
  | testing (socket : Socket)
  | reading (socket : Socket)
  | handling (socket : Socket)
  | readFailed (socket : Socket)
  | caught
  | failing
  | leaving
  | dropping
  | settling
  | ended
  deriving DecidableEq

inductive StopPhase where
  | readingSocket
  /-- Binance: `copied` was read, the early return is not decided yet. -/
  | checking (copied : Option Socket)
  | clearing (copied : Option (Option Socket))
  | closing (copied : Option Socket)
  | joining
  | settingStopped
  | resetting
  deriving DecidableEq

inductive StopCaller where
  | stopUserStream
  | startUserStreamConcurrent
  | ensureUserStreamConnected
  deriving DecidableEq

/-- The holder of `streamLifecycleMutex`. -/
inductive CallerPhase where
  | idle
  | stopReturned
  | starting
  | ensuring
  | raisingFlag
  | announcing
  | spawning
  | stopping (caller : StopCaller) (phase : StopPhase)
  deriving DecidableEq

structure StreamState where
  userStream : Bool := false
  userWebsocketStream : Option Socket := none
  closed : List Socket := []
  streamStatus : StreamStatus := .stopped
  /-- `none` is not joinable. -/
  runner : Option RunnerPhase := none
  caller : CallerPhase := .idle
  nextSocket : Socket := 0

def StopPhase.first : ExchangerType → StopPhase
  | .binance => .readingSocket
  | .bybit => .clearing none

def StopPhase.afterRead : ExchangerType → Option Socket → StopPhase
  | .binance, copied => .checking copied
  | .bybit, copied => .closing copied

def StopPhase.afterClear : Option (Option Socket) → StopPhase
  | some copied => .closing copied
  | none => .readingSocket

def StopCaller.resume : StopCaller → CallerPhase
  | .stopUserStream => .stopReturned
  | .startUserStreamConcurrent => .raisingFlag
  | .ensureUserStreamConnected => .starting

section Steps

variable (exchange : ExchangerType)

/-- The steps of `startUserStream`, `stopUserStream` and `ensureUserStreamConnected`. -/
inductive CallerStep (state : StreamState) : StreamState → Prop where
  | callStart (free : state.caller = .idle ∨ state.caller = .stopReturned) :
      CallerStep state { state with caller := .starting }
  | callStop (free : state.caller = .idle ∨ state.caller = .stopReturned) :
      CallerStep state { state with caller := .stopping .stopUserStream (.first exchange) }
  | callEnsure (free : state.caller = .idle ∨ state.caller = .stopReturned) :
      CallerStep state { state with caller := .ensuring }
  | ensureStops (ensuring : state.caller = .ensuring)
      (broken : state.streamStatus = .error ∨
        state.streamStatus = .stopped ∧ state.runner.isSome) :
      CallerStep state
        { state with caller := .stopping .ensureUserStreamConnected (.first exchange) }
  | ensureStarts (ensuring : state.caller = .ensuring) (stopped : state.streamStatus = .stopped)
      (unjoinable : state.runner = none) : CallerStep state { state with caller := .starting }
  | ensureWaits (ensuring : state.caller = .ensuring)
      (live : state.streamStatus = .connecting ∨ state.streamStatus = .connected) :
      CallerStep state { state with caller := .idle }
  | alreadyStarted (starting : state.caller = .starting) (raised : state.userStream) :
      CallerStep state { state with caller := .idle }
  | startStops (starting : state.caller = .starting) (lowered : state.userStream = false)
      (joinable : state.runner.isSome) :
      CallerStep state
        { state with caller := .stopping .startUserStreamConcurrent (.first exchange) }
  | startGoes (starting : state.caller = .starting) (lowered : state.userStream = false)
      (unjoinable : state.runner = none) : CallerStep state { state with caller := .raisingFlag }
  | raise (raising : state.caller = .raisingFlag) :
      CallerStep state { state with userStream := true, caller := .announcing }
  | announce (announcing : state.caller = .announcing) :
      CallerStep state { state with streamStatus := .connecting, caller := .spawning }
  | spawn (spawning : state.caller = .spawning) :
      CallerStep state { state with runner := some .connecting, caller := .idle }
  | readSocket {caller : StopCaller} (stopping : state.caller = .stopping caller .readingSocket) :
      CallerStep state
        { state with caller := .stopping caller (.afterRead exchange state.userWebsocketStream) }
  | returnEarly {caller : StopCaller} (stopping : state.caller = .stopping caller (.checking none))
      (lowered : state.userStream = false) (unjoinable : state.runner = none)
      (stopped : state.streamStatus = .stopped) :
      CallerStep state { state with caller := caller.resume }
  | goOn {caller : StopCaller} {copied : Option Socket}
      (stopping : state.caller = .stopping caller (.checking copied))
      (needed : ¬ (state.userStream = false ∧ copied = none ∧ state.runner = none ∧
        state.streamStatus = .stopped)) :
      CallerStep state { state with caller := .stopping caller (.clearing (some copied)) }
  | clear {caller : StopCaller} {copied : Option (Option Socket)}
      (stopping : state.caller = .stopping caller (.clearing copied)) :
      CallerStep state
        { state with userStream := false, caller := .stopping caller (.afterClear copied) }
  | close {caller : StopCaller} {copied : Option Socket}
      (stopping : state.caller = .stopping caller (.closing copied)) :
      CallerStep state
        { state with
          closed := copied.toList ++ state.closed
          caller := .stopping caller .joining }
  | join {caller : StopCaller} (stopping : state.caller = .stopping caller .joining)
      (joined : state.runner = none ∨ state.runner = some .ended) :
      CallerStep state { state with runner := none, caller := .stopping caller .settingStopped }
  | setStopped {caller : StopCaller}
      (stopping : state.caller = .stopping caller .settingStopped) :
      CallerStep state
        { state with streamStatus := .stopped, caller := .stopping caller .resetting }
  | reset {caller : StopCaller} (stopping : state.caller = .stopping caller .resetting) :
      CallerStep state { state with userWebsocketStream := none, caller := caller.resume }

inductive RunnerStep (state : StreamState) : StreamState → Prop where
  | connect (connecting : state.runner = some .connecting) :
      RunnerStep state
        { state with
          runner := some (.storing state.nextSocket)
          nextSocket := state.nextSocket + 1 }
  | connectFails (connecting : state.runner = some .connecting) :
      RunnerStep state { state with runner := some .caught }
  | store {socket : Socket} (storing : state.runner = some (.storing socket)) :
      RunnerStep state
        { state with
          userWebsocketStream := some socket
          runner := some (.announcing socket) }
  | announce {socket : Socket} (announcing : state.runner = some (.announcing socket)) :
      RunnerStep state
        { state with streamStatus := .connecting, runner := some (.subscribing socket) }
  | subscribe {socket : Socket} (subscribing : state.runner = some (.subscribing socket)) :
      RunnerStep state { state with runner := some (.subscribed socket) }
  | subscribeFails {socket : Socket} (subscribing : state.runner = some (.subscribing socket)) :
      RunnerStep state { state with runner := some .caught }
  | setConnected {socket : Socket} (subscribed : state.runner = some (.subscribed socket)) :
      RunnerStep state
        { state with streamStatus := .connected, runner := some (.testing socket) }
  | enterRead {socket : Socket} (testing : state.runner = some (.testing socket))
      (raised : state.userStream) : RunnerStep state { state with runner := some (.reading socket) }
  | leaveLoop {socket : Socket} (testing : state.runner = some (.testing socket))
      (lowered : state.userStream = false) : RunnerStep state { state with runner := some .leaving }
  | receive {socket : Socket} (reading : state.runner = some (.reading socket)) :
      RunnerStep state { state with runner := some (.handling socket) }
  | readError {socket : Socket} (reading : state.runner = some (.reading socket)) :
      RunnerStep state { state with runner := some (.readFailed socket) }
  | handled {socket : Socket} (handling : state.runner = some (.handling socket)) :
      RunnerStep state { state with runner := some (.testing socket) }
  | handlingFails {socket : Socket} (handling : state.runner = some (.handling socket)) :
      RunnerStep state { state with runner := some .caught }
  /-- The stream is stopping, or the error is one of those that end it quietly. -/
  | breakQuietly {socket : Socket} (failed : state.runner = some (.readFailed socket)) :
      RunnerStep state { state with runner := some .leaving }
  | breakWithError {socket : Socket} (failed : state.runner = some (.readFailed socket))
      (raised : state.userStream) : RunnerStep state { state with runner := some .failing }
  | report (caught : state.runner = some .caught)
      (reports : exchange = .bybit → state.userStream) :
      RunnerStep state { state with runner := some .failing }
  | ignore (caught : state.runner = some .caught) (bybit : exchange = .bybit)
      (lowered : state.userStream = false) : RunnerStep state { state with runner := some .leaving }
  | setError (failing : state.runner = some .failing) :
      RunnerStep state { state with streamStatus := .error, runner := some .leaving }
  | lower (leaving : state.runner = some .leaving) :
      RunnerStep state { state with userStream := false, runner := some .dropping }
  | drop (dropping : state.runner = some .dropping) :
      RunnerStep state { state with userWebsocketStream := none, runner := some .settling }
  | settle (settling : state.runner = some .settling) :
      RunnerStep state
        { state with
          streamStatus := if state.streamStatus = .error then .error else .stopped
          runner := some .ended }

inductive StreamStep (state after : StreamState) : Prop where
  | caller (step : CallerStep exchange state after)
  | runner (step : RunnerStep exchange state after)

inductive StreamRun (allowed : StreamState → StreamState → Prop) : StreamState → Prop where
  | start : StreamRun allowed {}
  | step {state after : StreamState} (prior : StreamRun allowed state)
      (next : StreamStep exchange state after) (permitted : allowed state after) :
      StreamRun allowed after

end Steps

def StreamState.Stuck (state : StreamState) : Prop :=
  ∃ caller socket, state.caller = .stopping caller .joining ∧
    state.runner = some (.reading socket) ∧ socket ∉ state.closed

def CallerPhase.unclearedCopy : CallerPhase → Option (Option Socket)
  | .stopping _ (.checking copied) => some copied
  | .stopping _ (.clearing copied) => copied
  | _ => none

/-- No read is entered between a Binance stop's look at the stored socket, which
missed the runner's, and its clearing of `userStream`. -/
def ReadsSeen (exchange : ExchangerType) (state after : StreamState) : Prop :=
  exchange = .binance → ∀ socket, state.runner = some (.testing socket) →
    after.runner = some (.reading socket) →
      ∀ copied, state.caller.unclearedCopy = some copied → copied = some socket

/-! ## The invariant -/

section Invariant

variable {exchange : ExchangerType} {state after : StreamState}

def RunnerPhase.Stored : Option RunnerPhase → Option Socket → Prop
  | none, stored | some .connecting, stored | some (.storing _), stored | some .settling, stored
  | some .ended, stored => stored = none
  | some (.announcing socket), stored | some (.subscribing socket), stored
  | some (.subscribed socket), stored | some (.testing socket), stored
  | some (.reading socket), stored | some (.handling socket), stored
  | some (.readFailed socket), stored => stored = some socket
  | some .caught, _ | some .failing, _ | some .leaving, _ | some .dropping, _ => True

def StreamState.ReadsOnly (state : StreamState) (copied : Option Socket) : Prop :=
  ∀ socket, state.runner = some (.reading socket) → copied = some socket

def StopPhase.Sound (exchange : ExchangerType) (state : StreamState) : StopPhase → Prop
  | .readingSocket => exchange = .bybit → state.userStream = false
  | .checking copied => exchange = .binance ∧ state.ReadsOnly copied
  | .clearing none => exchange = .bybit
  | .clearing (some copied) => exchange = .binance ∧ state.ReadsOnly copied
  | .closing copied => state.userStream = false ∧ state.ReadsOnly copied
  | .joining => state.userStream = false ∧
      ∀ socket, state.runner = some (.reading socket) → socket ∈ state.closed
  | .settingStopped => state.runner = none
  | .resetting => state.runner = none ∧ state.streamStatus = .stopped

def CallerPhase.Sound (exchange : ExchangerType) (state : StreamState) : CallerPhase → Prop
  | .idle | .starting | .ensuring => True
  | .stopReturned => state.runner = none ∧ state.streamStatus = .stopped
  | .raisingFlag | .announcing | .spawning => state.runner = none
  | .stopping _ phase => phase.Sound exchange state

structure StreamState.Sound (exchange : ExchangerType) (state : StreamState) : Prop where
  stored : RunnerPhase.Stored state.runner state.userWebsocketStream
  caller : state.caller.Sound exchange state

structure RunnerMoves (state after : StreamState) : Prop where
  caller : after.caller = state.caller
  closed : after.closed = state.closed
  running : state.runner ≠ none
  stillRunning : after.runner ≠ none
  lowered : state.userStream = false → after.userStream = false
  entered : ∀ socket, after.runner = some (.reading socket) →
    state.runner = some (.testing socket) ∧ state.userStream = true

theorem RunnerStep.moves (step : RunnerStep exchange state after) : RunnerMoves state after := by
  cases step <;> constructor <;> simp_all

theorem RunnerStep.keeps_stored (step : RunnerStep exchange state after)
    (stored : RunnerPhase.Stored state.runner state.userWebsocketStream) :
    RunnerPhase.Stored after.runner after.userWebsocketStream := by
  cases step <;> simp_all [RunnerPhase.Stored]

theorem RunnerMoves.keeps_caller (moves : RunnerMoves state after)
    (seen : ReadsSeen exchange state after) (sound : state.caller.Sound exchange state) :
    after.caller.Sound exchange after := by
  rw [moves.caller]
  have copy : ∀ copied, exchange = .binance → state.caller.unclearedCopy = some copied →
      after.ReadsOnly copied := by
    intro copied binance uncleared socket reading
    exact seen binance socket (moves.entered socket reading).1 reading copied uncleared
  have unread : state.userStream = false → ∀ socket, after.runner ≠ some (.reading socket) := by
    intro lowered socket reading
    have raised := (moves.entered socket reading).2
    rw [lowered] at raised
    cases raised
  cases held : state.caller with
  | idle | starting | ensuring => trivial
  | stopReturned =>
      rw [held] at sound
      exact absurd sound.1 moves.running
  | raisingFlag | announcing | spawning =>
      rw [held] at sound
      exact absurd sound moves.running
  | stopping caller phase =>
      rw [held] at sound copy
      cases phase with
      | readingSocket => exact fun bybit => moves.lowered (sound bybit)
      | checking copied => exact ⟨sound.1, copy copied sound.1 rfl⟩
      | clearing copied =>
          cases copied with
          | none => exact sound
          | some copied => exact ⟨sound.1, copy copied sound.1 rfl⟩
      | closing copied =>
          exact ⟨moves.lowered sound.1, fun socket reading => absurd reading (unread sound.1 socket)⟩
      | joining =>
          exact ⟨moves.lowered sound.1, fun socket reading => absurd reading (unread sound.1 socket)⟩
      | settingStopped => exact absurd sound moves.running
      | resetting => exact absurd sound.1 moves.running

theorem stored_reads_only (stored : RunnerPhase.Stored state.runner state.userWebsocketStream) :
    state.ReadsOnly state.userWebsocketStream := by
  intro socket reading
  rw [reading] at stored
  exact stored

theorem stop_first_sound : (StopPhase.first exchange).Sound exchange state := by
  cases exchange with
  | binance => exact fun bybit => ExchangerType.noConfusion bybit
  | bybit => exact (rfl : ExchangerType.bybit = .bybit)

theorem resume_sound (caller : StopCaller) (unjoinable : state.runner = none)
    (stopped : state.streamStatus = .stopped) : caller.resume.Sound exchange state := by
  cases caller with
  | stopUserStream => exact ⟨unjoinable, stopped⟩
  | startUserStreamConcurrent => exact unjoinable
  | ensureUserStreamConnected => trivial

theorem CallerStep.keeps_sound (step : CallerStep exchange state after)
    (sound : state.Sound exchange) : after.Sound exchange := by
  have held := sound.caller
  cases step with
  | callStart | callEnsure | ensureStarts | ensureWaits | alreadyStarted =>
      exact ⟨sound.stored, trivial⟩
  | callStop | ensureStops | startStops => exact ⟨sound.stored, stop_first_sound⟩
  | startGoes starting lowered unjoinable => exact ⟨sound.stored, unjoinable⟩
  | raise raising =>
      rw [raising] at held
      exact ⟨sound.stored, held⟩
  | announce announcing =>
      rw [announcing] at held
      exact ⟨sound.stored, held⟩
  | spawn spawning =>
      rw [spawning] at held
      have stored := sound.stored
      rw [show state.runner = none from held] at stored
      exact ⟨stored, trivial⟩
  | readSocket stopping =>
      rw [stopping] at held
      have reads := stored_reads_only sound.stored
      refine ⟨sound.stored, ?_⟩
      cases exchange with
      | binance => exact ⟨rfl, reads⟩
      | bybit => exact ⟨held rfl, reads⟩
  | @returnEarly caller stopping lowered unjoinable stopped =>
      exact ⟨sound.stored, resume_sound caller unjoinable stopped⟩
  | goOn stopping needed =>
      rw [stopping] at held
      exact ⟨sound.stored, held⟩
  | @clear caller copied stopping =>
      rw [stopping] at held
      refine ⟨sound.stored, ?_⟩
      cases copied with
      | none => exact fun _ => rfl
      | some copied => exact ⟨rfl, held.2⟩
  | @close caller copied stopping =>
      rw [stopping] at held
      refine ⟨sound.stored, held.1, fun socket reading => ?_⟩
      rw [held.2 socket reading]
      exact List.mem_cons_self
  | join stopping joined =>
      have stored := sound.stored
      refine ⟨?_, rfl⟩
      rcases joined with none | ended
      · rw [none] at stored
        exact stored
      · rw [ended] at stored
        exact stored
  | setStopped stopping =>
      rw [stopping] at held
      exact ⟨sound.stored, held, rfl⟩
  | @reset caller stopping =>
      rw [stopping] at held
      refine ⟨?_, resume_sound caller held.1 held.2⟩
      rw [show state.runner = none from held.1]
      rfl

end Invariant

theorem StreamRun.sound {exchange : ExchangerType} {state : StreamState}
    (run : StreamRun exchange (ReadsSeen exchange) state) : state.Sound exchange := by
  induction run with
  | start => exact ⟨rfl, trivial⟩
  | step prior next permitted ih =>
      cases next with
      | caller step => exact step.keeps_sound ih
      | runner step =>
          exact ⟨step.keeps_stored ih.stored, step.moves.keeps_caller permitted ih.caller⟩

section Runs

variable {exchange : ExchangerType} {allowed permitted : StreamState → StreamState → Prop}
variable {state after : StreamState}

theorem StreamState.Sound.stop_released (sound : state.Sound exchange) :
    ¬ state.Stuck ∧
      (state.caller = .stopReturned →
        state.streamStatus = .stopped ∧ state.runner = none ∧
          state.userWebsocketStream = none) := by
  obtain ⟨stored, held⟩ := sound
  constructor
  · rintro ⟨caller, socket, joining, reading, unclosed⟩
    rw [joining] at held
    exact unclosed (held.2 socket reading)
  · intro returned
    rw [returned] at held
    rw [show state.runner = none from held.1] at stored ⊢
    exact ⟨held.2, rfl, stored⟩

theorem StreamRun.mono (run : StreamRun exchange allowed state)
    (weaker : ∀ before after, allowed before after → permitted before after) :
    StreamRun exchange permitted state := by
  induction run with
  | start => exact .start
  | step prior next taken ih => exact .step ih next (weaker _ _ taken)

/-- Bybit clears `userStream` before it looks at the stored socket: whatever the
runner does meanwhile, its read is ended. -/
theorem bybit_stop_always_releases (run : StreamRun .bybit (fun _ _ => True) state) :
    ¬ state.Stuck := by
  have seen : StreamRun .bybit (ReadsSeen .bybit) state :=
    run.mono fun _ _ _ binance => by cases binance
  exact seen.sound.stop_released.1

theorem StreamRun.byCaller (run : StreamRun exchange allowed state)
    (step : CallerStep exchange state after) (taken : allowed state after) :
    StreamRun exchange allowed after :=
  .step run (.caller step) taken

theorem StreamRun.byRunner (run : StreamRun exchange allowed state)
    (step : RunnerStep exchange state after) (taken : allowed state after) :
    StreamRun exchange allowed after :=
  .step run (.runner step) taken

theorem readsSeen_of_no_copy (uncopied : state.caller.unclearedCopy = none) :
    ReadsSeen exchange state after := by
  intro _ socket _ _ copied copy
  rw [uncopied] at copy
  cases copy

theorem readsSeen_of_reading {socket : Socket} (reading : state.runner = some (.reading socket)) :
    ReadsSeen exchange state after := by
  intro _ tested testing
  rw [reading] at testing
  cases testing

def connectedState : StreamState where
  userStream := true
  streamStatus := .connecting
  runner := some (.storing 0)
  nextSocket := 1

theorem connectedState_run : StreamRun exchange (ReadsSeen exchange) connectedState := by
  have starting : StreamRun exchange (ReadsSeen exchange) _ :=
    StreamRun.start.byCaller (.callStart (.inl rfl)) (readsSeen_of_no_copy rfl)
  have raising := starting.byCaller (.startGoes rfl rfl rfl) (readsSeen_of_no_copy rfl)
  have announcing := raising.byCaller (.raise rfl) (readsSeen_of_no_copy rfl)
  have spawning := announcing.byCaller (.announce rfl) (readsSeen_of_no_copy rfl)
  have spawned := spawning.byCaller (.spawn rfl) (readsSeen_of_no_copy rfl)
  exact spawned.byRunner (.connect rfl) (readsSeen_of_no_copy rfl)

end Runs

/-- No stop waits for a read that it has not ended, and each stop leaves nothing running. -/
theorem stop_releases_runner (exchange : ExchangerType) {state : StreamState}
    (run : StreamRun exchange (ReadsSeen exchange) state) :
    ¬ state.Stuck ∧
      (state.caller = .stopReturned →
        state.streamStatus = .stopped ∧ state.runner = none ∧
          state.userWebsocketStream = none) :=
  run.sound.stop_released

def stoppedState : StreamState where
  closed := [0]
  caller := .stopReturned
  nextSocket := 1

theorem reading_runner_released :
    ¬ stoppedState.Stuck ∧
      (stoppedState.caller = .stopReturned →
        stoppedState.streamStatus = .stopped ∧ stoppedState.runner = none ∧
          stoppedState.userWebsocketStream = none) := by
  apply stop_releases_runner .binance
  have announcing : StreamRun .binance (ReadsSeen .binance) _ :=
    connectedState_run.byRunner (.store rfl) (readsSeen_of_no_copy rfl)
  have subscribing := announcing.byRunner (.announce rfl) (readsSeen_of_no_copy rfl)
  have subscribed := subscribing.byRunner (.subscribe rfl) (readsSeen_of_no_copy rfl)
  have testing := subscribed.byRunner (.setConnected rfl) (readsSeen_of_no_copy rfl)
  have reading := testing.byRunner (.enterRead rfl rfl) (readsSeen_of_no_copy rfl)
  have called := reading.byCaller (.callStop (.inl rfl)) (readsSeen_of_no_copy rfl)
  have copied := called.byCaller (.readSocket rfl) (readsSeen_of_reading rfl)
  have deciding := copied.byCaller (.goOn rfl (by decide)) (readsSeen_of_reading rfl)
  have lowered := deciding.byCaller (.clear rfl) (readsSeen_of_reading rfl)
  have closed := lowered.byCaller (.close rfl) (readsSeen_of_reading rfl)
  have failed := closed.byRunner (.readError rfl) (readsSeen_of_no_copy rfl)
  have left := failed.byRunner (.breakQuietly rfl) (readsSeen_of_no_copy rfl)
  have dropping := left.byRunner (.lower rfl) (readsSeen_of_no_copy rfl)
  have settling := dropping.byRunner (.drop rfl) (readsSeen_of_no_copy rfl)
  have ended := settling.byRunner (.settle rfl) (readsSeen_of_no_copy rfl)
  have joined := ended.byCaller (.join rfl (.inr rfl)) (readsSeen_of_no_copy rfl)
  have stopped := joined.byCaller (.setStopped rfl) (readsSeen_of_no_copy rfl)
  have returned := stopped.byCaller (.reset rfl) (readsSeen_of_no_copy rfl)
  exact returned

/-- Binance looks at the stored socket first. The runner stores its socket just after
that and enters its read before the flag is cleared. -/
theorem binance_stop_gets_stuck :
    ¬ ∀ (exchange : ExchangerType) (state : StreamState),
      StreamRun exchange (fun _ _ => True) state → ¬ state.Stuck := by
  intro released
  have connected : StreamRun .binance (fun _ _ => True) connectedState :=
    connectedState_run.mono fun _ _ _ => trivial
  have called := connected.byCaller (.callStop (.inl rfl)) trivial
  have missed := called.byCaller (.readSocket rfl) trivial
  have deciding := missed.byCaller (.goOn rfl (by decide)) trivial
  have announcing := deciding.byRunner (.store rfl) trivial
  have subscribing := announcing.byRunner (.announce rfl) trivial
  have subscribed := subscribing.byRunner (.subscribe rfl) trivial
  have testing := subscribed.byRunner (.setConnected rfl) trivial
  have reading := testing.byRunner (.enterRead rfl rfl) trivial
  have lowered := reading.byCaller (.clear rfl) trivial
  have closed := lowered.byCaller (.close rfl) trivial
  exact released _ _ closed ⟨.stopUserStream, 0, rfl, rfl, List.not_mem_nil⟩

end CryptoDeal.DealService
