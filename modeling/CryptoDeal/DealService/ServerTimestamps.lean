import CryptoDeal.DealService.TimeSync
import CryptoDeal.Library.Mutex

/-!
# Timestamps of concurrent calls

What holds at any moment of a run of any number of calls: one of them measures
at a time and ten seconds after the last measurement at the earliest, and each
timestamp uses the offset of a measurement that was recent when the call looked.
-/

namespace CryptoDeal.DealService

open Interaction

/-! ## The measurements so far -/

inductive SyncEvent where
  | adjusted (offset : ℤ)
  | recorded (currentMonoMs : ℤ)
  deriving DecidableEq

def syncEvents : TimeEffect → List SyncEvent
  | .storeServerTimeOffset offset => [.adjusted offset]
  | .storeLastSyncMonoMs currentMonoMs => [.recorded currentMonoMs]
  | _ => []

def currentOffset : List SyncEvent → ℤ
  | [] => 0
  | .adjusted offset :: _ => offset
  | .recorded _ :: events => currentOffset events

def lastRecorded : List SyncEvent → ℤ
  | [] => 0
  | .recorded currentMonoMs :: _ => currentMonoMs
  | .adjusted _ :: events => lastRecorded events

variable {exchange : ExchangerType} {environment : TimeEnvironment}

/-- What the steps of a run wrote of the measurements, latest first. -/
def syncLog : List (ThreadStep (timeThreads exchange environment)) → List SyncEvent
  | [] => []
  | (_, .started _ _) :: steps => syncLog steps
  | (_, .performed _ effect _) :: steps => syncEvents effect ++ syncLog steps

/-- The log has the measurement recorded at `last`, whose offset was stored just before; or
`last` is the initial value. -/
def HasSync (last : ℤ) (log : List SyncEvent) : Prop :=
  last = 0 ∨ ∃ newer offset older, log = newer ++ .recorded last :: .adjusted offset :: older

theorem HasSync.grow {last : ℤ} {log : List SyncEvent} (found : HasSync last log)
    (more : List SyncEvent) : HasSync last (more ++ log) := by
  obtain initial | ⟨newer, offset, older, rfl⟩ := found
  · exact .inl initial
  · exact .inr ⟨more ++ newer, offset, older, (List.append_assoc _ _ _).symm⟩

/-- Measurements are recorded right after their offset is stored, ten seconds apart. -/
def SpacedLog : List SyncEvent → Prop
  | [] => True
  | .adjusted _ :: events => SpacedLog events
  | .recorded currentMonoMs :: events =>
      lastRecorded events + 10000 ≤ currentMonoMs ∧
        (∃ offset older, events = .adjusted offset :: older) ∧ SpacedLog events

theorem has_sync_last {log : List SyncEvent} (spaced : SpacedLog log) :
    HasSync (lastRecorded log) log := by
  induction log with
  | nil => exact .inl rfl
  | cons event events ih =>
      cases event with
      | adjusted offset => exact (ih spaced).grow [.adjusted offset]
      | recorded currentMonoMs =>
          obtain ⟨-, ⟨offset, older, rfl⟩, -⟩ := spaced
          exact .inr ⟨[], offset, older, rfl⟩

/-! ## What a call knows -/

/-- One measurement, from the request to the reading of the local clock. -/
structure TimeSample where
  sent : Clocks
  /-- When the exchange read its clock. -/
  moment : Clocks
  reading : ℤ
  read : Clocks

/-- The sample was taken by the call with this history. -/
structure TimeSample.TakenBy (environment : TimeEnvironment) (history : TimeHistory)
    (sample : TimeSample) : Prop where
  sent : ⟨.sendServerTimeRequest, sample.sent⟩ ∈ history
  received : ⟨.receiveServerTime sample.sent, .ok sample.reading⟩ ∈ history
  read : ⟨.systemClock, sample.read.system⟩ ∈ history
  after_sent : sample.sent.steady ≤ sample.moment.steady
  before_read : sample.moment.steady ≤ sample.read.steady
  runs : environment.runs sample.sent ∧ environment.runs sample.moment ∧
    environment.runs sample.read
  replies : environment.replies sample.moment sample.reading

def TimeSample.offset (exchange : ExchangerType) (sample : TimeSample) : ℤ :=
  sample.reading * replyUnit exchange - milliseconds sample.read.system

theorem TimeSample.TakenBy.grow {history later : TimeHistory} {sample : TimeSample}
    (taken : sample.TakenBy environment history) (grown : history ⊆ later) :
    sample.TakenBy environment later :=
  { taken with
    sent := grown taken.sent
    received := grown taken.received
    read := grown taken.read }

/-- The evidence is good, and was read off the clock by the call with this history. -/
structure RecentSync.Good (history : TimeHistory) (log : List SyncEvent) (recent : RecentSync) :
    Prop where
  read : ⟨.steadyClock, recent.current⟩ ∈ history
  young : isRecent recent.current recent.last
  found : HasSync recent.last log

/-- Ten seconds have passed since the last measurement. -/
structure Stale (now : TimeState) (last : ℤ) (steady : ℕ) : Prop where
  latest : now.lastSyncMonoMs = last
  passed : last + 10000 ≤ milliseconds steady
  past : steady ≤ now.clocks.steady

/-- The latest event is the storing of an offset. -/
def JustAdjusted (log : List SyncEvent) : Prop :=
  ∃ offset older, log = .adjusted offset :: older

/-- What is known in each phase. -/
def TimePhase.Knows (environment : TimeEnvironment) (now : TimeState) (log : List SyncEvent)
    (history : TimeHistory) : TimePhase → Prop
  | checking | locking | rechecking | failed _ | unlocking (.error _) => True
  | comparing current | recomparing current =>
      current ≤ now.clocks.steady ∧ ⟨.steadyClock, current⟩ ∈ history
  | sending current last => Stale now last current
  | receiving last sent =>
      Stale now last sent.steady ∧ environment.runs sent ∧
        ⟨.sendServerTimeRequest, sent⟩ ∈ history
  | measuring last sent reading =>
      Stale now last sent.steady ∧ environment.runs sent ∧
        ⟨.sendServerTimeRequest, sent⟩ ∈ history ∧
        ⟨.receiveServerTime sent, .ok reading⟩ ∈ history ∧
        ∃ moment, sent.steady ≤ moment.steady ∧ moment.steady ≤ now.clocks.steady ∧
          environment.runs moment ∧ environment.replies moment reading
  | adjusting last sent reading localTime =>
      Stale now last sent.steady ∧
        ∃ moment read, read.system = localTime ∧
          TimeSample.TakenBy environment history ⟨sent, moment, reading, read⟩
  | timing last sent => Stale now last sent.steady ∧ JustAdjusted log
  | recording last current =>
      Stale now last current ∧ JustAdjusted log ∧ ⟨.steadyClock, current⟩ ∈ history
  | unlocking (.ok recent) | stamping recent => recent.Good history log
  | adding recent localTime =>
      recent.Good history log ∧ ∃ read, read.system = localTime ∧ environment.runs read ∧
        ⟨.systemClock, localTime⟩ ∈ history
  | ended recent localTime offset =>
      (∃ read, read.system = localTime ∧ environment.runs read ∧
        ⟨.systemClock, localTime⟩ ∈ history) ∧
      ∃ atLoad, atLoad <:+ log ∧ offset = currentOffset atLoad ∧ recent.Good history atLoad

section

variable {now later after : TimeState} {log more : List SyncEvent} {history grown : TimeHistory}
  {phase : TimePhase} {effect : TimeEffect} {answer : effect.Answer}

theorem RecentSync.Good.grow {recent : RecentSync} (good : recent.Good history log)
    (grows : history ⊆ grown) (more : List SyncEvent) : recent.Good grown (more ++ log) where
  read := grows good.read
  young := good.young
  found := good.found.grow more

theorem Stale.grow {last : ℤ} {steady : ℕ} (stale : Stale now last steady)
    (clocks : now.clocks.steady ≤ later.clocks.steady)
    (same : later.lastSyncMonoMs = now.lastSyncMonoMs) : Stale later last steady where
  latest := same.trans stale.latest
  passed := stale.passed
  past := stale.past.trans clocks

/-- What a call knows stays true while others act and it does not hold the mutex, and while
nothing is measured. -/
theorem TimePhase.Knows.grow (known : phase.Knows environment now log history)
    (clocks : now.clocks.steady ≤ later.clocks.steady) (grows : history ⊆ grown)
    (covered : phase.holds → later.lastSyncMonoMs = now.lastSyncMonoMs ∧ more = []) :
    phase.Knows environment later (more ++ log) grown := by
  cases phase with
  | checking | locking | rechecking | failed failure => trivial
  | comparing current => exact ⟨known.1.trans clocks, grows known.2⟩
  | recomparing current => exact ⟨known.1.trans clocks, grows known.2⟩
  | sending current last => exact Stale.grow known clocks (covered trivial).1
  | receiving last sent =>
      exact ⟨known.1.grow clocks (covered trivial).1, known.2.1, grows known.2.2⟩
  | measuring last sent reading =>
      obtain ⟨stale, runs, sends, receives, moment, lower, upper, replies⟩ := known
      exact ⟨stale.grow clocks (covered trivial).1, runs, grows sends, grows receives, moment,
        lower, upper.trans clocks, replies⟩
  | adjusting last sent reading localTime =>
      obtain ⟨stale, moment, read, same, taken⟩ := known
      exact ⟨stale.grow clocks (covered trivial).1, moment, read, same, taken.grow grows⟩
  | timing last sent =>
      obtain ⟨same, rfl⟩ := covered trivial
      exact ⟨known.1.grow clocks same, known.2⟩
  | recording last current =>
      obtain ⟨same, rfl⟩ := covered trivial
      exact ⟨known.1.grow clocks same, known.2.1, grows known.2.2⟩
  | unlocking outcome =>
      cases outcome with
      | ok recent => exact RecentSync.Good.grow known grows more
      | error failure => trivial
  | stamping recent => exact RecentSync.Good.grow known grows more
  | adding recent localTime =>
      obtain ⟨good, read, same, runs, member⟩ := known
      exact ⟨good.grow grows more, read, same, runs, grows member⟩
  | ended recent localTime offset =>
      obtain ⟨⟨read, same, runs, member⟩, atLoad, earlier, loaded, good⟩ := known
      exact ⟨⟨read, same, runs, grows member⟩, atLoad, earlier.trans (List.suffix_append _ _),
        loaded, good.grow grows []⟩

/-! ## One access -/

/-- What the shared state has to do with the measurements so far. -/
structure Consistent (now : TimeState) (log : List SyncEvent) : Prop where
  offset : now.serverTimeOffset = currentOffset log
  latest : now.lastSyncMonoMs = lastRecorded log
  spaced : SpacedLog log

theorem milliseconds_mono {earlier later : ℕ} (order : earlier ≤ later) :
    milliseconds earlier ≤ milliseconds later := by
  unfold milliseconds
  exact Int.ofNat_le.mpr (Nat.div_le_div_right order)

/-- What a call knows after its own access. -/
theorem TimePhase.Knows.access (known : phase.Knows environment now log history)
    (asks : phase.asks exchange = some effect) (consistent : Consistent now log)
    (runs : environment.runs now.clocks)
    (responds : environment.responds now effect answer after) :
    (phase.after effect answer).Knows environment after (syncEvents effect ++ log)
      (⟨effect, answer⟩ :: history) := by
  have own : ⟨effect, answer⟩ ∈ (⟨effect, answer⟩ :: history : TimeHistory) :=
    List.mem_cons_self
  have grows := List.subset_cons_self (⟨effect, answer⟩ : Sigma TimeEffect.Answer) history
  cases phase with
  | checking =>
      cases asks
      obtain ⟨rfl, rfl⟩ := responds
      exact ⟨le_rfl, own⟩
  | comparing current =>
      cases asks
      obtain ⟨rfl, rfl⟩ := responds
      change (TimePhase.afterComparison _ _ _ _).Knows _ _ _ _
      rw [TimePhase.afterComparison]
      split_ifs with young
      · refine ⟨grows known.2, young, ?_⟩
        rw [consistent.latest]
        exact has_sync_last consistent.spaced
      · trivial
  | locking =>
      cases asks
      trivial
  | rechecking =>
      cases asks
      obtain ⟨rfl, rfl⟩ := responds
      exact ⟨le_rfl, own⟩
  | recomparing current =>
      cases asks
      obtain ⟨rfl, rfl⟩ := responds
      change (TimePhase.afterComparison _ _ _ _).Knows _ _ _ _
      rw [TimePhase.afterComparison]
      split_ifs with young
      · refine ⟨grows known.2, young, ?_⟩
        rw [consistent.latest]
        exact has_sync_last consistent.spaced
      · refine ⟨rfl, ?_, known.1⟩
        unfold isRecent at young
        omega
  | sending current last =>
      cases asks
      obtain ⟨rfl, rfl⟩ := responds
      have later := milliseconds_mono known.past
      exact ⟨⟨known.latest, Int.le_trans known.passed later, le_rfl⟩, runs, own⟩
  | receiving last sent =>
      cases asks
      obtain ⟨rfl, replies⟩ := responds
      cases answer with
      | error failure => trivial
      | ok reading =>
          exact ⟨known.1, known.2.1, grows known.2.2, own, replies reading rfl⟩
  | measuring last sent reading =>
      cases asks
      obtain ⟨rfl, rfl⟩ := responds
      obtain ⟨stale, ran, sends, receives, moment, lower, upper, momentRuns, replies⟩ := known
      refine ⟨stale, moment, after.clocks, rfl, ?_⟩
      exact ⟨grows sends, grows receives, own, lower, upper, ⟨ran, momentRuns, runs⟩, replies⟩
  | adjusting last sent reading localTime =>
      cases asks
      cases responds
      exact ⟨⟨known.1.latest, known.1.passed, known.1.past⟩, _, log, rfl⟩
  | timing last sent =>
      cases asks
      obtain ⟨rfl, rfl⟩ := responds
      have later := milliseconds_mono known.1.past
      exact ⟨⟨known.1.latest, Int.le_trans known.1.passed later, le_rfl⟩, known.2, own⟩
  | recording last current =>
      cases asks
      cases responds
      obtain ⟨stale, ⟨offset, older, rfl⟩, read⟩ := known
      refine ⟨grows read, ?_, .inr ⟨[], offset, older, rfl⟩⟩
      change milliseconds current - milliseconds current < 10000
      omega
  | unlocking outcome =>
      cases asks
      cases outcome with
      | error failure => trivial
      | ok recent => exact RecentSync.Good.grow known grows []
  | stamping recent =>
      cases asks
      obtain ⟨rfl, rfl⟩ := responds
      exact ⟨RecentSync.Good.grow known grows [], after.clocks, rfl, runs, own⟩
  | adding recent localTime =>
      cases asks
      obtain ⟨rfl, rfl⟩ := responds
      obtain ⟨good, read, same, ran, member⟩ := known
      exact ⟨⟨read, same, ran, grows member⟩, log, List.suffix_rfl, consistent.offset,
        good.grow grows []⟩
  | ended recent localTime offset => cases asks
  | failed failure => cases asks

/-- The offset that is stored is one that the call has measured. -/
theorem TimePhase.Knows.sampled {offset : ℤ} (known : phase.Knows environment now log history)
    (asks : phase.asks exchange = some effect) (stored : .adjusted offset ∈ syncEvents effect) :
    ∃ sample, TimeSample.TakenBy environment history sample ∧ sample.offset exchange = offset := by
  cases effect with
  | storeServerTimeOffset written =>
      cases List.mem_singleton.mp stored
      cases phase with
      | adjusting last sent reading localTime =>
          cases asks
          obtain ⟨-, moment, read, rfl, taken⟩ := known
          exact ⟨_, taken, rfl⟩
      | _ => cases asks
  | storeLastSyncMonoMs currentMonoMs => cases List.mem_singleton.mp stored
  | _ => cases stored

/-- The measurements that an access leaves behind. -/
theorem Consistent.access (consistent : Consistent now log)
    (known : phase.Knows environment now log history)
    (asks : phase.asks exchange = some effect)
    (responds : environment.responds now effect answer after) :
    Consistent after (syncEvents effect ++ log) := by
  cases effect with
  | storeServerTimeOffset offset =>
      cases responds
      exact ⟨rfl, consistent.latest, consistent.spaced⟩
  | storeLastSyncMonoMs currentMonoMs =>
      cases responds
      refine ⟨consistent.offset, rfl, ?_⟩
      cases phase with
      | recording last current =>
          cases asks
          refine ⟨?_, known.2.1, consistent.spaced⟩
          change lastRecorded log + 10000 ≤ _
          rw [← consistent.latest, known.1.latest]
          exact known.1.passed
      | _ => cases asks
  | unlockTimeSync =>
      cases responds
      exact ⟨consistent.offset, consistent.latest, consistent.spaced⟩
  | lockTimeSync | steadyClock | systemClock | loadLastSyncMonoMs | loadServerTimeOffset
    | sendServerTimeRequest =>
      cases responds.2
      exact ⟨consistent.offset, consistent.latest, consistent.spaced⟩
  | receiveServerTime sent =>
      cases responds.1
      exact ⟨consistent.offset, consistent.latest, consistent.spaced⟩

/-- Only a call that holds the mutex writes. -/
theorem writes_covered (asks : phase.asks exchange = some effect)
    (responds : environment.responds now effect answer after) (outside : ¬ phase.holds) :
    after.lastSyncMonoMs = now.lastSyncMonoMs ∧ syncEvents effect = [] := by
  cases effect with
  | storeServerTimeOffset offset =>
      cases phase with
      | adjusting last sent reading localTime => exact absurd trivial outside
      | _ => cases asks
  | storeLastSyncMonoMs currentMonoMs =>
      cases phase with
      | recording last current => exact absurd trivial outside
      | _ => cases asks
  | unlockTimeSync =>
      cases responds
      exact ⟨rfl, rfl⟩
  | lockTimeSync | steadyClock | systemClock | loadLastSyncMonoMs | loadServerTimeOffset
    | sendServerTimeRequest =>
      cases responds.2
      exact ⟨rfl, rfl⟩
  | receiveServerTime sent =>
      cases responds.1
      exact ⟨rfl, rfl⟩

theorem after_comparison_holds {current : ℕ} {last : ℤ} {yes no : TimePhase} {holds : Prop}
    (yes_holds : yes.holds ↔ holds) (no_holds : no.holds ↔ holds) :
    (TimePhase.afterComparison current last yes no).holds ↔ holds := by
  rw [TimePhase.afterComparison]
  split_ifs
  · exact yes_holds
  · exact no_holds

theorem mutex_step (asks : phase.asks exchange = some effect)
    (responds : environment.responds now effect answer after) :
    MutexStep now.locked after.locked phase.holds (phase.after effect answer).holds := by
  cases phase with
  | locking =>
      cases asks
      obtain ⟨free, rfl⟩ := responds
      exact .takes free rfl trivial
  | unlocking outcome =>
      cases asks
      cases responds
      cases outcome with
      | error failure => exact .gives trivial rfl fun holds => holds
      | ok recent => exact .gives trivial rfl fun holds => holds
  | comparing current =>
      cases asks
      obtain ⟨-, rfl⟩ := responds
      exact .keeps (after_comparison_holds Iff.rfl Iff.rfl) rfl
  | recomparing current =>
      cases asks
      obtain ⟨-, rfl⟩ := responds
      exact .keeps (after_comparison_holds Iff.rfl Iff.rfl) rfl
  | receiving last sent =>
      cases asks
      obtain ⟨rfl, -⟩ := responds
      cases answer with
      | error failure => exact .keeps Iff.rfl rfl
      | ok reading => exact .keeps Iff.rfl rfl
  | adjusting last sent reading localTime =>
      cases asks
      cases responds
      exact .keeps Iff.rfl rfl
  | recording last current =>
      cases asks
      cases responds
      exact .keeps Iff.rfl rfl
  | ended recent localTime offset => cases asks
  | failed failure => cases asks
  | _ =>
      cases asks
      obtain ⟨-, rfl⟩ := responds
      exact .keeps Iff.rfl rfl

theorem clocks_kept (responds : environment.responds now effect answer after) :
    after.clocks = now.clocks := by
  cases effect with
  | storeServerTimeOffset offset | storeLastSyncMonoMs currentMonoMs | unlockTimeSync =>
      cases responds
      rfl
  | lockTimeSync | steadyClock | systemClock | loadLastSyncMonoMs | loadServerTimeOffset
    | sendServerTimeRequest =>
      cases responds.2
      rfl
  | receiveServerTime sent =>
      cases responds.1
      rfl

end

/-! ## Whole runs -/

variable {clocks : Clocks} {steps : List (ThreadStep (timeThreads exchange environment))}
  {state before after : Threads (timeThreads exchange environment)} {threadId : ThreadId}
  {thread : Thread (timeThreads exchange environment)} {effect : TimeEffect}
  {answer : effect.Answer}

theorem TimeRun.asks (run : TimeRun exchange environment clocks steps before)
    (moves : before.Moves (.performed threadId effect answer) after) :
    (timePhase (before.historyOf threadId)).asks exchange = some effect := by
  have allowed : (timeContract exchange).requires (before.historyOf threadId) effect :=
    run.allows (fun _ _ _ _ _ _ => trivial) (fun _ => phases_get_server_timestamp) moves
  exact allowed

theorem TimeRun.phases (run : TimeRun exchange environment clocks steps state)
    (found : state.threads threadId = some thread) :
    Meets (timeContract exchange)
      (fun later outcome => (timePhase later).outcome = some outcome) thread.current
      thread.history :=
  run.meets (fun _ _ _ _ _ _ => trivial) (fun _ => phases_get_server_timestamp) found

structure TimeInvariant (clocks : Clocks)
    (steps : List (ThreadStep (timeThreads exchange environment)))
    (state : Threads (timeThreads exchange environment)) : Prop where
  consistent : Consistent state.shared (syncLog steps)
  guarded : Guarded state.shared.locked fun threadId =>
    (timePhase (state.historyOf threadId)).holds
  knows : ∀ threadId, (timePhase (state.historyOf threadId)).Knows environment state.shared
    (syncLog steps) (state.historyOf threadId)
  sampled : ∀ offset, .adjusted offset ∈ syncLog steps → ∃ threadId sample,
    TimeSample.TakenBy environment (state.historyOf threadId) sample ∧
      sample.offset exchange = offset
  started : clocks.steady ≤ state.shared.clocks.steady
  readings : ∀ threadId current, ⟨.steadyClock, current⟩ ∈ state.historyOf threadId →
    clocks.steady ≤ current

theorem time_invariant_start :
    TimeInvariant clocks [] (.alone { clocks } : Threads (timeThreads exchange environment)) where
  consistent := ⟨rfl, rfl, trivial⟩
  guarded := guarded_free
  knows := fun _ => trivial
  sampled := fun _ member => nomatch member
  started := le_rfl
  readings := fun _ _ member => nomatch member

theorem TimeInvariant.start {call : Unit} (invariant : TimeInvariant clocks steps before)
    (moves : before.Moves (.started threadId call) after) :
    TimeInvariant clocks ((before, .started threadId call) :: steps) after := by
  have shared : after.shared = before.shared := (moves.history_of_started threadId).1
  have same : after.historyOf = before.historyOf :=
    funext fun other => (moves.history_of_started other).2
  constructor
  · rw [shared]
    exact invariant.consistent
  · rw [same, shared]
    exact invariant.guarded
  · rw [same, shared]
    exact invariant.knows
  · rw [same]
    exact invariant.sampled
  · rw [shared]
    exact invariant.started
  · rw [same]
    exact invariant.readings

/-- The histories after an access: one thread's has grown by it. -/
theorem history_grows (moves : before.Moves (.performed threadId effect answer) after)
    (other : ThreadId) : before.historyOf other ⊆ after.historyOf other := by
  by_cases same : other = threadId
  · subst same
    rw [moves.history_of_actor]
    exact List.subset_cons_self _ _
  · rw [moves.history_of_other same]
    exact List.Subset.refl _

theorem TimeInvariant.access (invariant : TimeInvariant clocks steps before)
    (asks : (timePhase (before.historyOf threadId)).asks exchange = some effect)
    (moves : before.Moves (.performed threadId effect answer) after) :
    TimeInvariant clocks ((before, .performed threadId effect answer) :: steps) after := by
  obtain ⟨now, clocksGrow, runs, responds⟩ := moves.performs
  have other (other : ThreadId) (apart : other ≠ threadId) :
      after.historyOf other = before.historyOf other := moves.history_of_other apart
  have own := moves.history_of_actor
  have grows := history_grows moves
  have clocksKept := clocks_kept responds
  have known : (timePhase (before.historyOf threadId)).Knows environment
      { before.shared with clocks := now } ([] ++ syncLog steps) (before.historyOf threadId) :=
    (invariant.knows threadId).grow clocksGrow (List.Subset.refl _) fun _ => ⟨rfl, rfl⟩
  have consistent : Consistent { before.shared with clocks := now } (syncLog steps) :=
    ⟨invariant.consistent.offset, invariant.consistent.latest, invariant.consistent.spaced⟩
  constructor
  · exact consistent.access known asks responds
  · apply invariant.guarded.step (fun party apart => by rw [other party apart])
    rw [own]
    have stepped := mutex_step asks responds
    exact stepped
  · intro party
    by_cases same : party = threadId
    · subst same
      rw [own]
      exact known.access asks consistent runs responds
    · rw [other party same]
      apply (invariant.knows party).grow ?_ (List.Subset.refl _)
      · intro held
        have written := writes_covered asks responds (invariant.guarded.outside same held)
        exact written
      · rw [clocksKept]
        exact clocksGrow
  · intro offset member
    change .adjusted offset ∈ syncEvents effect ++ syncLog steps at member
    obtain fresh | old := List.mem_append.mp member
    · obtain ⟨sample, taken, same⟩ := known.sampled asks fresh
      exact ⟨threadId, sample, taken.grow (grows threadId), same⟩
    · obtain ⟨party, sample, taken, same⟩ := invariant.sampled offset old
      exact ⟨party, sample, taken.grow (grows party), same⟩
  · rw [clocksKept]
    exact invariant.started.trans clocksGrow
  · intro party current member
    by_cases same : party = threadId
    · subst same
      rw [own] at member
      obtain same | old := List.mem_cons.mp member
      · cases same
        obtain ⟨rfl, -⟩ := responds
        exact invariant.started.trans clocksGrow
      · exact invariant.readings party current old
    · rw [other party same] at member
      exact invariant.readings party current member

theorem TimeRun.invariant (run : TimeRun exchange environment clocks steps state) :
    TimeInvariant clocks steps state := by
  induction run with
  | start => exact time_invariant_start
  | @step steps before after event run moves ih =>
      cases event with
      | started threadId call => exact ih.start moves
      | performed threadId effect answer => exact ih.access (TimeRun.asks run moves) moves

/-! ## The exchange's clock is asked rarely -/

theorem SpacedLog.recorded_le {log : List SyncEvent} (spaced : SpacedLog log) {moment : ℤ}
    (member : .recorded moment ∈ log) : moment ≤ lastRecorded log := by
  induction log with
  | nil => cases member
  | cons event events ih =>
      obtain own | older := List.mem_cons.mp member
      · cases own
        exact Int.le_refl _
      · cases event with
        | adjusted offset => exact ih spaced older
        | recorded currentMonoMs =>
            have before := ih spaced.2.2 older
            have apart := spaced.1
            change moment ≤ currentMonoMs
            omega

/-- The call has sent its request and waits for the exchange's reply. -/
def AwaitsServerTime (state : Threads (timeThreads exchange environment)) (threadId : ThreadId) :
    Prop :=
  ∃ thread sent next, state.threads threadId = some thread ∧
    thread.current = .request (.receiveServerTime sent) next

/-- The call holds the mutex and is not over; its next access is not for the mutex. -/
def WillUnlock (state : Threads (timeThreads exchange environment)) (threadId : ThreadId) : Prop :=
  ∃ thread effect next, state.threads threadId = some thread ∧
    thread.current = .request effect next ∧ effect ≠ .lockTimeSync ∧
    (timePhase (state.historyOf threadId)).holds

structure RequestsSpaced (steps : List (ThreadStep (timeThreads exchange environment)))
    (state : Threads (timeThreads exchange environment)) : Prop where
  one_request : ∀ first second, AwaitsServerTime state first → AwaitsServerTime state second →
    first = second
  /-- A request is sent ten seconds after each measurement that was recorded before. -/
  spaced : ∀ later earlier before threadId sent,
    steps = later ++ (before, .performed threadId .sendServerTimeRequest sent) :: earlier →
    ∀ moment, .recorded moment ∈ syncLog earlier → moment + 10000 ≤ milliseconds sent.steady
  recorded : SpacedLog (syncLog steps)
  unlocked : state.shared.locked → ∃ threadId, WillUnlock state threadId

theorem TimeRun.asking {next : effect.Answer → TimeProgram ℤ}
    (run : TimeRun exchange environment clocks steps state)
    (found : state.threads threadId = some thread) (asks : thread.current = .request effect next) :
    (timePhase (state.historyOf threadId)).asks exchange = some effect := by
  have met := TimeRun.phases run found
  rw [asks] at met
  rw [Threads.history_of_found found]
  exact met.1

theorem TimeRun.call_outcome {outcome : Except ServiceFailure ℤ}
    (run : TimeRun exchange environment clocks steps state)
    (found : state.threads threadId = some thread) (ended : thread.current = .ofExcept outcome) :
    (timePhase (state.historyOf threadId)).outcome = some outcome := by
  have met := TimeRun.phases run found
  rw [ended] at met
  rw [Threads.history_of_found found]
  cases outcome with
  | ok timestamp => exact met
  | error failure => exact met

theorem TimePhase.holds_not_over {phase : TimePhase} {outcome : Except ServiceFailure ℤ}
    (holds : phase.holds) (ended : phase.outcome = some outcome) : False := by
  cases phase with
  | ended recent localTime offset => exact holds
  | failed failure => exact holds
  | _ => cases ended

theorem TimeRun.awaiting (run : TimeRun exchange environment clocks steps state)
    (awaits : AwaitsServerTime state threadId) : (timePhase (state.historyOf threadId)).holds := by
  obtain ⟨thread, sent, next, found, asks⟩ := awaits
  have asked := TimeRun.asking run found asks
  cases known : timePhase (state.historyOf threadId) with
  | receiving last sent => trivial
  | _ =>
      rw [known] at asked
      cases asked

/-- A call that holds the mutex is not over. -/
theorem TimeRun.holder (run : TimeRun exchange environment clocks steps state)
    (holds : (timePhase (state.historyOf threadId)).holds) : WillUnlock state threadId := by
  cases found : state.threads threadId with
  | none =>
      rw [Threads.history_of_fresh found] at holds
      cases holds
  | some thread =>
      cases asks : thread.current with
      | returned result =>
          have same : thread.current = .ofExcept (.ok result) := asks
          exact (TimePhase.holds_not_over holds (TimeRun.call_outcome run found same)).elim
      | threw failure =>
          have same : thread.current = .ofExcept (.error failure) := asks
          exact (TimePhase.holds_not_over holds (TimeRun.call_outcome run found same)).elim
      | request effect next =>
          refine ⟨thread, effect, next, found, asks, ?_, holds⟩
          have asked := TimeRun.asking run found asks
          rintro rfl
          cases known : timePhase (state.historyOf threadId) with
          | locking =>
              rw [known] at holds
              exact holds
          | _ =>
              rw [known] at asked
              cases asked

/-- However many calls need a timestamp, the exchange gets one time request at a time, and none
within ten seconds of a recorded measurement; the mutex always comes free. -/
theorem server_time_requests_spaced (run : TimeRun exchange environment clocks steps state) :
    RequestsSpaced steps state := by
  have invariant := TimeRun.invariant run
  constructor
  · intro first second firstAwaits secondAwaits
    exact invariant.guarded.exclusive (TimeRun.awaiting run firstAwaits)
      (TimeRun.awaiting run secondAwaits)
  · rintro later earlier before threadId sent rfl moment recorded
    obtain ⟨ran, reached, moves⟩ := ThreadRun.up_to run
    have earlierInvariant := TimeRun.invariant ran
    have asks := TimeRun.asks ran moves
    obtain ⟨now, clocksGrow, runs, same, -⟩ := moves.performs
    have knows := earlierInvariant.knows threadId
    cases known : timePhase (before.historyOf threadId) with
    | sending current last =>
        rw [known] at knows
        have stale : Stale before.shared last current := knows
        have passed := stale.passed
        have latest := stale.latest
        have read := milliseconds_mono (stale.past.trans clocksGrow)
        have bound := earlierInvariant.consistent.spaced.recorded_le recorded
        rw [← earlierInvariant.consistent.latest] at bound
        rw [same]
        change _ ≤ milliseconds now.steady
        omega
    | _ =>
        rw [known] at asks
        cases asks
  · exact invariant.consistent.spaced
  · intro locked
    obtain ⟨threadId, holds⟩ := invariant.guarded.locked_iff.mp locked
    exact ⟨threadId, TimeRun.holder run holds⟩

/-! ## Each timestamp uses a recent measurement -/

/-- The timestamp is a local time that the call has read plus the offset measured last at some
moment, when the measurement found by the call's own check was there already. -/
structure UsesRecentSync (log : List SyncEvent) (history : TimeHistory) (timestamp : ℤ)
    (recent : RecentSync) (localTime : ℕ) (atLoad : List SyncEvent) : Prop where
  sum : timestamp = milliseconds localTime + currentOffset atLoad
  loaded : atLoad <:+ log
  read : ⟨.systemClock, localTime⟩ ∈ history
  recent : recent.Good history atLoad

theorem TimeRun.ended {timestamp : ℤ} (run : TimeRun exchange environment clocks steps state)
    (found : state.threads threadId = some thread) (ended : thread.current = .returned timestamp) :
    ∃ recent localTime offset,
      timePhase (state.historyOf threadId) = .ended recent localTime offset ∧
      timestamp = milliseconds localTime + offset := by
  have same : thread.current = .ofExcept (.ok timestamp) := ended
  have ended := TimeRun.call_outcome run found same
  cases known : timePhase (state.historyOf threadId) with
  | ended recent localTime offset =>
      rw [known] at ended
      cases ended
      exact ⟨recent, localTime, offset, rfl, rfl⟩
  | _ =>
      rw [known] at ended
      cases ended

theorem timestamp_uses_recent_sync {timestamp : ℤ}
    (run : TimeRun exchange environment clocks steps state)
    (found : state.threads threadId = some thread)
    (ended : thread.current = .returned timestamp) :
    ∃ recent localTime atLoad,
      UsesRecentSync (syncLog steps) thread.history timestamp recent localTime atLoad := by
  have knows := (TimeRun.invariant run).knows threadId
  obtain ⟨recent, localTime, offset, known, sum⟩ := TimeRun.ended run found ended
  rw [known, Threads.history_of_found found] at knows
  obtain ⟨⟨read, -, -, member⟩, atLoad, loaded, rfl, good⟩ := knows
  exact ⟨recent, localTime, atLoad, sum, loaded, member, good⟩

/-! ## How exact a timestamp is -/

/-- A unit of the exchange's reply in nanoseconds. -/
def replyNanoseconds : ExchangerType → ℕ
  | .binance => 1000000
  | .bybit => 1000000000

/-- The three clocks run at the same rate, and the exchange replies its time. -/
def steadyEnvironment (exchange : ExchangerType) (ahead started : ℤ) : TimeEnvironment where
  runs := fun clocks => clocks.exchange = clocks.system + ahead ∧
    clocks.system = clocks.steady + started
  replies := fun moment reading => reading = (moment.exchange / replyNanoseconds exchange : ℕ)

/-- The timestamp rests on the sample: it is a local time plus the sample's offset. It is within a
millisecond above the exchange's clock, and behind it by no more than the duration of the sample's
request and the unit of its reply. -/
structure Accurate (exchange : ExchangerType) (environment : TimeEnvironment)
    (caller measurer : TimeHistory) (timestamp : ℤ) (now : Clocks) (sample : TimeSample) :
    Prop where
  read : ⟨.systemClock, now.system⟩ ∈ caller
  runs : environment.runs now
  taken : sample.TakenBy environment measurer
  sum : timestamp = milliseconds now.system + sample.offset exchange
  ahead : timestamp * 1000000 < now.exchange + 1000000
  behind : now.exchange < timestamp * 1000000 + (sample.read.steady - sample.sent.steady) +
    replyNanoseconds exchange + 1000000

section Accuracy

variable {ahead started : ℤ} {log : List SyncEvent} {history : TimeHistory}

theorem reply_scale (exchange : ExchangerType) (moment : Clocks) :
    ((moment.exchange / replyNanoseconds exchange : ℕ) : ℤ) * replyUnit exchange * 1000000 ≤
        moment.exchange ∧
      (moment.exchange : ℤ) < ((moment.exchange / replyNanoseconds exchange : ℕ) : ℤ) *
        replyUnit exchange * 1000000 + replyNanoseconds exchange := by
  cases exchange with
  | binance =>
      unfold replyNanoseconds replyUnit
      dsimp only
      omega
  | bybit =>
      unfold replyNanoseconds replyUnit
      dsimp only
      omega

theorem accurate_sum {caller : TimeHistory} {now : Clocks} {sample : TimeSample}
    (read : ⟨.systemClock, now.system⟩ ∈ caller)
    (runs : (steadyEnvironment exchange ahead started).runs now)
    (taken : sample.TakenBy (steadyEnvironment exchange ahead started) history) :
    Accurate exchange (steadyEnvironment exchange ahead started) caller history
      (milliseconds now.system + sample.offset exchange) now sample := by
  obtain ⟨lower, upper⟩ := reply_scale exchange sample.moment
  have reply : sample.reading = (sample.moment.exchange / replyNanoseconds exchange : ℕ) :=
    taken.replies
  obtain ⟨sentRuns, momentRuns, readRuns⟩ := taken.runs
  have nowExchange : (now.exchange : ℤ) = now.system + ahead := runs.1
  have momentExchange : (sample.moment.exchange : ℤ) = sample.moment.system + ahead := momentRuns.1
  have momentSystem : (sample.moment.system : ℤ) = sample.moment.steady + started := momentRuns.2
  have readSystem : (sample.read.system : ℤ) = sample.read.steady + started := readRuns.2
  have sentFirst := taken.after_sent
  have readLast := taken.before_read
  rw [← reply] at lower upper
  refine ⟨read, runs, taken, rfl, ?_, ?_⟩
  · unfold TimeSample.offset milliseconds
    omega
  · unfold TimeSample.offset milliseconds
    omega

theorem current_offset_mem (newer : List SyncEvent) (offset : ℤ) (older : List SyncEvent) :
    ∃ latest, .adjusted latest ∈ newer ++ .adjusted offset :: older ∧
      currentOffset (newer ++ .adjusted offset :: older) = latest := by
  induction newer with
  | nil => exact ⟨offset, List.mem_cons_self, rfl⟩
  | cons event newer ih =>
      cases event with
      | adjusted latest => exact ⟨latest, List.mem_cons_self, rfl⟩
      | recorded currentMonoMs =>
          obtain ⟨latest, member, same⟩ := ih
          exact ⟨latest, List.mem_cons_of_mem _ member, same⟩

/-- If the clocks run steadily and the machine has been up for ten seconds when the service is
made, each timestamp is as exact as its measurement. -/
theorem timestamps_accurate {steps : List (ThreadStep (timeThreads exchange
      (steadyEnvironment exchange ahead started)))}
    {state : Threads (timeThreads exchange (steadyEnvironment exchange ahead started))}
    {thread : Thread (timeThreads exchange (steadyEnvironment exchange ahead started))}
    {timestamp : ℤ}
    (run : TimeRun exchange (steadyEnvironment exchange ahead started) clocks steps state)
    (up : 10000 ≤ milliseconds clocks.steady) (found : state.threads threadId = some thread)
    (ended : thread.current = .returned timestamp) :
    ∃ measurer now sample, Accurate exchange (steadyEnvironment exchange ahead started)
      thread.history (state.historyOf measurer) timestamp now sample := by
  have invariant := TimeRun.invariant run
  have knows := invariant.knows threadId
  obtain ⟨recent, localTime, offset, known, rfl⟩ := TimeRun.ended run found ended
  rw [known, Threads.history_of_found found] at knows
  obtain ⟨⟨now, rfl, runs, member⟩, atLoad, ⟨newest, loaded⟩, rfl, good⟩ := knows
  have checked := invariant.readings threadId recent.current
  rw [Threads.history_of_found found] at checked
  have later := milliseconds_mono (checked good.read)
  obtain initial | ⟨newer, offset, older, rfl⟩ := good.found
  · have young := good.young
    unfold isRecent at young
    omega
  · have apart : newer ++ .recorded recent.last :: .adjusted offset :: older =
        (newer ++ [.recorded recent.last]) ++ .adjusted offset :: older := by
      rw [List.append_assoc]
      rfl
    rw [apart] at loaded ⊢
    obtain ⟨latest, adjusted, same⟩ :=
      current_offset_mem (newer ++ [.recorded recent.last]) offset older
    have logged : .adjusted latest ∈ syncLog steps := by
      rw [← loaded]
      exact List.mem_append_right _ adjusted
    obtain ⟨measurer, sample, taken, rfl⟩ := invariant.sampled latest logged
    rw [same]
    exact ⟨measurer, now, sample, accurate_sum member runs taken⟩

end Accuracy

/-! ## Two calls at once -/

/-- Every access takes a millisecond. -/
def Clocks.tick (clocks : Clocks) : Clocks where
  steady := clocks.steady + 1000000
  system := clocks.system + 1000000
  exchange := clocks.exchange + 1000000

def respondAt (exchange : ExchangerType) (now : TimeState) :
    (effect : TimeEffect) → Option (effect.Answer × TimeState)
  | .steadyClock => some (now.clocks.steady, now)
  | .systemClock => some (now.clocks.system, now)
  | .loadLastSyncMonoMs => some (now.lastSyncMonoMs, now)
  | .storeLastSyncMonoMs currentMonoMs => some ((), { now with lastSyncMonoMs := currentMonoMs })
  | .loadServerTimeOffset => some (now.serverTimeOffset, now)
  | .storeServerTimeOffset offset => some ((), { now with serverTimeOffset := offset })
  | .lockTimeSync => if now.locked then none else some ((), { now with locked := true })
  | .unlockTimeSync => some ((), { now with locked := false })
  | .sendServerTimeRequest => some (now.clocks, now)
  | .receiveServerTime sent =>
      if sent.steady ≤ now.clocks.steady then
        some (.ok (now.clocks.exchange / replyNanoseconds exchange : ℕ), now)
      else none

/-- The exchange is five seconds ahead, and the steady clock was started with the epoch. -/
def respondSteadily (exchange : ExchangerType) (state : TimeState) (effect : TimeEffect) :
    Option (effect.Answer × TimeState) :=
  if state.clocks.exchange = state.clocks.system + 5000000000 ∧
      state.clocks.system = state.clocks.steady then
    respondAt exchange { state with clocks := state.clocks.tick } effect
  else none

theorem respond_at_responds {now after : TimeState} {effect : TimeEffect} {answer : effect.Answer}
    {ahead started : ℤ} (runs : (steadyEnvironment exchange ahead started).runs now.clocks)
    (responded : respondAt exchange now effect = some (answer, after)) :
    (steadyEnvironment exchange ahead started).responds now effect answer after := by
  cases effect with
  | storeLastSyncMonoMs currentMonoMs | storeServerTimeOffset offset | unlockTimeSync =>
      cases responded
      rfl
  | lockTimeSync =>
      unfold respondAt at responded
      split_ifs at responded with locked
      cases responded
      exact ⟨Bool.eq_false_iff.mpr locked, rfl⟩
  | receiveServerTime sent =>
      simp only [respondAt, Option.ite_none_right_eq_some, Option.some.injEq, Prod.mk.injEq]
        at responded
      obtain ⟨order, rfl, rfl⟩ := responded
      refine ⟨rfl, ?_⟩
      intro reading same
      cases same
      exact ⟨now.clocks, order, le_rfl, runs, rfl⟩
  | _ =>
      cases responded
      exact ⟨rfl, rfl⟩

theorem respond_steadily_performs (exchange : ExchangerType) (state : TimeState)
    (effect : TimeEffect) (answer : effect.Answer) (after : TimeState)
    (responded : respondSteadily exchange state effect = some (answer, after)) :
    (timeThreads exchange (steadyEnvironment exchange 5000000000 0)).performs state effect answer
      after := by
  unfold respondSteadily at responded
  split_ifs at responded with runs
  have ticked : (steadyEnvironment exchange 5000000000 0).runs state.clocks.tick := by
    constructor
    · change ((state.clocks.exchange + 1000000 : ℕ) : ℤ) = (state.clocks.system + 1000000 : ℕ) + _
      omega
    · change ((state.clocks.system + 1000000 : ℕ) : ℤ) = (state.clocks.steady + 1000000 : ℕ) + 0
      omega
  exact ⟨state.clocks.tick, Nat.le_add_right _ _, ticked, respond_at_responds ticked responded⟩

def timestampOf (state : Threads (timeThreads exchange environment)) (threadId : ThreadId) :
    Option ℤ :=
  match state.threads threadId with
  | some { current := .returned timestamp, .. } => some timestamp
  | _ => none

theorem timestamp_of_returned {timestamp : ℤ} (known : timestampOf state threadId = some timestamp) :
    ∃ thread, state.threads threadId = some thread ∧ thread.current = .returned timestamp := by
  unfold timestampOf at known
  split at known
  next call history returned found =>
    cases known
    exact ⟨_, found, rfl⟩
  next => cases known

def startClocks : Clocks where
  steady := 20000000000
  system := 20000000000
  exchange := 25000000000

/-- Both calls find the offset stale; the first one measures it, for both. -/
def twoCalls : List (Command Unit) :=
  [.start 0 (), .start 1 (), .act 0 2, .act 1 2, .act 0 4, .act 1 9, .act 0 20, .act 1 20]

/-- The calls after so many of the commands. -/
def afterTwoCalls (count : ℕ) :
    Threads (timeThreads .bybit (steadyEnvironment .bybit 5000000000 0)) :=
  (twoCalls.take count).foldl (Threads.obey (respondSteadily .bybit))
    (.alone { clocks := startClocks })

theorem two_calls_run (count : ℕ) : ∃ steps,
    TimeRun .bybit (steadyEnvironment .bybit 5000000000 0) startClocks steps
      (afterTwoCalls count) := by
  obtain ⟨steps, run⟩ := ThreadRun.obeys (respond_steadily_performs .bybit) .start
    (twoCalls.take count)
  exact ⟨_, run⟩

theorem first_call_measures :
    ∃ steps, RequestsSpaced steps (afterTwoCalls 6) ∧ (afterTwoCalls 6).shared.locked := by
  obtain ⟨steps, run⟩ := two_calls_run 6
  exact ⟨steps, server_time_requests_spaced run, by decide +kernel⟩

theorem second_call_uses_measurement :
    ∃ (steps : List (ThreadStep (timeThreads .bybit (steadyEnvironment .bybit 5000000000 0))))
      (thread : Thread (timeThreads .bybit (steadyEnvironment .bybit 5000000000 0)))
      (recent : RecentSync) (localTime : ℕ) (atLoad : List SyncEvent),
      UsesRecentSync (syncLog steps) thread.history 25011 recent localTime atLoad := by
  obtain ⟨steps, run⟩ := two_calls_run 8
  have returned : timestampOf (afterTwoCalls 8) 1 = some 25011 := by decide +kernel
  obtain ⟨thread, found, ended⟩ := timestamp_of_returned returned
  exact ⟨steps, thread, timestamp_uses_recent_sync run found ended⟩

theorem second_timestamp_accurate :
    ∃ (caller measurer : TimeHistory) (now : Clocks) (sample : TimeSample),
      Accurate .bybit (steadyEnvironment .bybit 5000000000 0) caller measurer 25011 now sample := by
  obtain ⟨steps, run⟩ := two_calls_run 8
  have returned : timestampOf (afterTwoCalls 8) 1 = some 25011 := by decide +kernel
  obtain ⟨thread, found, ended⟩ := timestamp_of_returned returned
  obtain ⟨measurer, accurate⟩ := timestamps_accurate run (by decide) found ended
  exact ⟨thread.history, _, accurate⟩

end CryptoDeal.DealService
