import CryptoDeal.Async.AsyncTaskExecutor
import CryptoDeal.DealService.BalanceCache

/-!
# The balances on display

One exchange's balances as `BalanceCatalog` shows them, beside the cache of the
deal service that they are read from. The stream's thread writes the cache and
announces what it wrote, a load's worker writes it and announces nothing, and the
event loop reads it when a load has ended or an announcement comes up.
-/

namespace CryptoDeal.Async

open DealService OrderSession

inductive StreamPhase where
  | idle
  | updating (left : List (Except ServiceFailure AssetBalance)) (cacheChanged : Bool)
  /-- `notifyBalanceCacheChanged` before it copies the handler. -/
  | notifying
  | handling

inductive LoadPhase where
  | working
  | finished (outcome : Except ServiceFailure Unit)

inductive LivePhase where
  | idle
  | attaching
  | clearing
  deriving DecidableEq

structure BalanceView where
  cache : BalanceCache := fun _ => none
  balances : BalanceCache := fun _ => none
  hasSuccessfulSnapshot : Bool := false
  loadState : UiTaskState := {}
  load : Option LoadPhase := none
  liveUpdatesRequested : Bool := false
  handlersAttached : Bool := false
  live : LivePhase := .idle
  stream : StreamPhase := .idle
  /-- The queued calls of `handleBalanceCacheChanged`. -/
  queued : ℕ := 0

namespace BalanceView

def storeBalances (view : BalanceView) : BalanceView :=
  { view with balances := view.cache, hasSuccessfulSnapshot := true }

def updateBalanceCache (view : BalanceView) (update : AssetBalance) : BalanceView :=
  { view with cache := RevisedTable.put AssetBalance.asset revisedBalance view.cache update }

/-- `startLoad`, which `startTask` refuses while a load is in progress. -/
def startLoad (view : BalanceView) : BalanceView :=
  if view.loadState.isLoading then view
  else { view with loadState := view.loadState.startLoading, load := some .working }

def loadBalances (view : BalanceView) : BalanceView :=
  if view.loadState.status = .idle then view.startLoad else view

def retryBalances (view : BalanceView) : BalanceView :=
  if view.loadState.status = .failed then view.startLoad else view

def refreshBalances (view : BalanceView) : BalanceView :=
  if view.loadState.isLoading then view else view.startLoad

def completeLoad (view : BalanceView) (outcome : Except ServiceFailure Unit) : BalanceView :=
  let ended := { view with load := none }
  match outcome with
  | .ok _ =>
      let stored := ended.storeBalances
      { stored with loadState := stored.loadState.finishSuccessfully }
  | .error failure =>
      { ended with loadState := ended.loadState.finishWithFailure (getFailureMessage failure) }

def handleBalanceCacheChanged (view : BalanceView) : BalanceView :=
  if !view.liveUpdatesRequested || !view.hasSuccessfulSnapshot then view else view.storeBalances

end BalanceView

inductive ViewEvent where
  | loadBalances
  | retryBalances
  | refreshBalances
  | restWritten (update : AssetBalance)
  | restReturned (outcome : Except ServiceFailure Unit)
  | loadCompleted
  | liveUpdatesRequested
  | handlersAttached
  | liveUpdatesWithdrawn
  | handlersCleared
  | messageReceived
  | streamWritten (update : AssetBalance)
  | messageFailed
  | messageEnded
  | handlerCopied
  | changeQueued
  | changeHandled

/-- The event loop's events come one at a time; the two threads move at any time. -/
inductive BalanceView.Moves (before : BalanceView) : ViewEvent → BalanceView → Prop
  | loadBalances (idle : before.live = .idle) : Moves before .loadBalances before.loadBalances
  | retryBalances (idle : before.live = .idle) : Moves before .retryBalances before.retryBalances
  | refreshBalances (idle : before.live = .idle) :
      Moves before .refreshBalances before.refreshBalances
  | restWritten (update : AssetBalance) (working : before.load = some .working) :
      Moves before (.restWritten update) (before.updateBalanceCache update)
  | restReturned (outcome : Except ServiceFailure Unit) (working : before.load = some .working) :
      Moves before (.restReturned outcome) { before with load := some (.finished outcome) }
  | loadCompleted {outcome : Except ServiceFailure Unit} (idle : before.live = .idle)
      (finished : before.load = some (.finished outcome)) :
      Moves before .loadCompleted (before.completeLoad outcome)
  | liveUpdatesRequested (idle : before.live = .idle)
      (lowered : before.liveUpdatesRequested = false) :
      Moves before .liveUpdatesRequested
        { before with liveUpdatesRequested := true, live := .attaching }
  | handlersAttached (attaching : before.live = .attaching) :
      Moves before .handlersAttached { before with handlersAttached := true, live := .idle }
  | liveUpdatesWithdrawn (idle : before.live = .idle)
      (raised : before.liveUpdatesRequested = true) :
      Moves before .liveUpdatesWithdrawn
        { before with liveUpdatesRequested := false, live := .clearing }
  | handlersCleared (clearing : before.live = .clearing) :
      Moves before .handlersCleared { before with handlersAttached := false, live := .idle }
  | messageReceived (coins : List (Except ServiceFailure AssetBalance))
      (idle : before.stream = .idle) :
      Moves before .messageReceived { before with stream := .updating coins false }
  | streamWritten {update : AssetBalance} {left : List (Except ServiceFailure AssetBalance)}
      {changed : Bool} (updating : before.stream = .updating (.ok update :: left) changed) :
      Moves before (.streamWritten update)
        { before.updateBalanceCache update with stream := .updating left true }
  -- a coin that cannot be read ends the message without a notification
  | messageFailed {failure : ServiceFailure} {left : List (Except ServiceFailure AssetBalance)}
      {changed : Bool} (updating : before.stream = .updating (.error failure :: left) changed) :
      Moves before .messageFailed { before with stream := .idle }
  | messageEnded {changed : Bool} (updating : before.stream = .updating [] changed) :
      Moves before .messageEnded
        { before with stream := if changed then .notifying else .idle }
  | handlerCopied (notifying : before.stream = .notifying) :
      Moves before .handlerCopied
        { before with stream := if before.handlersAttached then .handling else .idle }
  | changeQueued (handling : before.stream = .handling) :
      Moves before .changeQueued { before with stream := .idle, queued := before.queued + 1 }
  | changeHandled {later : ℕ} (idle : before.live = .idle) (queued : before.queued = later + 1) :
      Moves before .changeHandled { before with queued := later }.handleBalanceCacheChanged

inductive ViewRun : List (BalanceView × ViewEvent) → BalanceView → Prop
  | start : ViewRun [] {}
  | step {steps : List (BalanceView × ViewEvent)} {before after : BalanceView} {event : ViewEvent}
      (run : ViewRun steps before) (moves : before.Moves event after) :
      ViewRun ((before, event) :: steps) after

/-! ## Since the balances were last read -/

def BalanceView.stores (before : BalanceView) : ViewEvent → Bool
  | .loadCompleted =>
      match before.load with
      | some (.finished (.ok _)) => true
      | _ => false
  | .changeHandled => before.liveUpdatesRequested && before.hasSuccessfulSnapshot
  | _ => false

/-- What has happened since the balances on display were read, latest first. -/
def sinceStored : List (BalanceView × ViewEvent) → List ViewEvent
  | [] => []
  | (before, event) :: steps => if before.stores event then [] else event :: sinceStored steps

namespace ViewEvent

def writes : ViewEvent → Prop
  | streamWritten _ | restWritten _ => True
  | _ => False

def writesRest : ViewEvent → Prop
  | restWritten _ => True
  | _ => False

def interrupts : ViewEvent → Prop
  | liveUpdatesRequested | handlersAttached | liveUpdatesWithdrawn | handlersCleared
  | messageFailed => True
  | _ => False

end ViewEvent

def StreamPhase.announces : StreamPhase → Prop
  | updating _ true | notifying | handling => True
  | _ => False

/-- A change is on its way to the event loop. -/
def BalanceView.Owed (view : BalanceView) : Prop :=
  view.stream.announces ∨ 0 < view.queued

def BalanceView.Live (view : BalanceView) : Prop :=
  view.hasSuccessfulSnapshot = true ∧ view.liveUpdatesRequested = true ∧
    view.handlersAttached = true

structure ViewInvariant (steps : List (BalanceView × ViewEvent)) (view : BalanceView) : Prop where
  fresh : view.hasSuccessfulSnapshot = true → (∀ event ∈ sinceStored steps, ¬ event.writes) →
    view.balances = view.cache
  loading : view.load.isSome → view.loadState.status = .loading
  rest : ∀ event ∈ sinceStored steps, event.writesRest →
    view.loadState.status = .loading ∨ view.loadState.status = .failed
  owed : view.Live → (∀ event ∈ sinceStored steps, ¬ event.interrupts) →
    (∃ event ∈ sinceStored steps, event.writes ∧ ¬ event.writesRest) → view.Owed

variable {steps : List (BalanceView × ViewEvent)} {before after view : BalanceView}
  {event : ViewEvent}

theorem since_stored_kept (quiet : before.stores event = false) :
    sinceStored ((before, event) :: steps) = event :: sinceStored steps := by
  rw [sinceStored, quiet]
  rfl

theorem since_stored_cleared (stored : before.stores event = true) :
    sinceStored ((before, event) :: steps) = [] := by
  rw [sinceStored, stored]
  rfl

theorem view_invariant_stored (stored : before.stores event = true)
    (read : after.balances = after.cache)
    (loading : after.load.isSome → after.loadState.status = .loading) :
    ViewInvariant ((before, event) :: steps) after := by
  have empty : sinceStored ((before, event) :: steps) = [] := since_stored_cleared stored
  constructor
  · exact fun _ _ => read
  · exact loading
  · rw [empty]
    exact fun _ member => nomatch member
  · rw [empty]
    rintro - - ⟨_, member, _⟩
    cases member

/-- A step that neither reads nor writes the cache. -/
structure Quiet (before : BalanceView) (event : ViewEvent) (after : BalanceView) : Prop where
  stores : before.stores event = false
  writes : ¬ event.writes
  cache : after.cache = before.cache
  balances : after.balances = before.balances
  snapshot : after.hasSuccessfulSnapshot = before.hasSuccessfulSnapshot

theorem ViewInvariant.quiet (invariant : ViewInvariant steps before)
    (quiet : Quiet before event after)
    (loading : after.load.isSome → after.loadState.status = .loading)
    (status : before.loadState.status = .loading ∨ before.loadState.status = .failed →
      after.loadState.status = .loading ∨ after.loadState.status = .failed)
    (owed : ¬ event.interrupts → after.Live → before.Live ∧ (before.Owed → after.Owed)) :
    ViewInvariant ((before, event) :: steps) after := by
  have kept : sinceStored ((before, event) :: steps) = event :: sinceStored steps :=
    since_stored_kept quiet.stores
  constructor
  · intro snapshot none
    rw [kept, List.forall_mem_cons] at none
    rw [quiet.balances, quiet.cache]
    rw [quiet.snapshot] at snapshot
    exact invariant.fresh snapshot none.2
  · exact loading
  · rw [kept, List.forall_mem_cons]
    refine ⟨fun rest => ?_, fun other member rest => status (invariant.rest other member rest)⟩
    cases event <;> first | exact rest.elim | exact (quiet.writes trivial).elim
  · rw [kept, List.forall_mem_cons]
    rintro live ⟨calm, uninterrupted⟩ ⟨other, member, writes, stream⟩
    obtain ⟨alive, goes⟩ := owed calm live
    obtain rfl | earlier := List.mem_cons.1 member
    · exact absurd writes quiet.writes
    · exact goes (invariant.owed alive uninterrupted ⟨other, earlier, writes, stream⟩)

theorem ViewInvariant.starts_load (invariant : ViewInvariant steps before)
    (stores : before.stores event = false) (writes : ¬ event.writes) :
    ViewInvariant ((before, event) :: steps) before.startLoad := by
  unfold BalanceView.startLoad
  by_cases loading : before.loadState.isLoading = true
  · rw [if_pos loading]
    exact invariant.quiet ⟨stores, writes, rfl, rfl, rfl⟩ invariant.loading id
      fun _ live => ⟨live, id⟩
  · rw [if_neg loading]
    exact invariant.quiet ⟨stores, writes, rfl, rfl, rfl⟩ (fun _ => rfl) (fun _ => .inl rfl)
      fun _ live => ⟨live, id⟩

theorem ViewInvariant.stays (invariant : ViewInvariant steps before)
    (stores : before.stores event = false) (writes : ¬ event.writes) :
    ViewInvariant ((before, event) :: steps) before :=
  invariant.quiet ⟨stores, writes, rfl, rfl, rfl⟩ invariant.loading id fun _ live => ⟨live, id⟩

theorem ViewInvariant.rest_written (invariant : ViewInvariant steps before) (update : AssetBalance)
    (working : before.load = some .working) :
    ViewInvariant ((before, .restWritten update) :: steps)
      (before.updateBalanceCache update) := by
  have kept : sinceStored ((before, .restWritten update) :: steps) =
      .restWritten update :: sinceStored steps := since_stored_kept rfl
  have loading : before.loadState.status = .loading := invariant.loading (by rw [working]; rfl)
  constructor
  · intro snapshot none
    rw [kept, List.forall_mem_cons] at none
    exact absurd trivial none.1
  · exact invariant.loading
  · exact fun _ _ _ => .inl loading
  · rw [kept, List.forall_mem_cons]
    rintro live ⟨-, uninterrupted⟩ ⟨other, member, writes, stream⟩
    obtain rfl | earlier := List.mem_cons.1 member
    · exact absurd trivial stream
    · exact invariant.owed live uninterrupted ⟨other, earlier, writes, stream⟩

theorem ViewInvariant.stream_written (invariant : ViewInvariant steps before)
    (update : AssetBalance) (left : List (Except ServiceFailure AssetBalance)) :
    ViewInvariant ((before, .streamWritten update) :: steps)
      { before.updateBalanceCache update with stream := .updating left true } := by
  have kept : sinceStored ((before, .streamWritten update) :: steps) =
      .streamWritten update :: sinceStored steps := since_stored_kept rfl
  constructor
  · intro snapshot none
    rw [kept, List.forall_mem_cons] at none
    exact absurd trivial none.1
  · exact invariant.loading
  · rw [kept, List.forall_mem_cons]
    exact ⟨fun rest => rest.elim, invariant.rest⟩
  · exact fun _ _ _ => .inl trivial

theorem ViewInvariant.load_completed {outcome : Except ServiceFailure Unit}
    (invariant : ViewInvariant steps before) (finished : before.load = some (.finished outcome)) :
    ViewInvariant ((before, .loadCompleted) :: steps) (before.completeLoad outcome) := by
  have unloaded : ∀ state : UiTaskState, (none : Option LoadPhase).isSome → state.status = .loading :=
    fun _ absent => Bool.noConfusion absent
  cases outcome with
  | ok result =>
      refine view_invariant_stored ?_ rfl (unloaded _)
      rw [BalanceView.stores, finished]
  | error failure =>
      refine invariant.quiet ⟨?_, fun writes => writes, rfl, rfl, rfl⟩ (unloaded _)
        (fun _ => .inr rfl) fun _ live => ⟨live, id⟩
      rw [BalanceView.stores, finished]

theorem ViewInvariant.change_handled {later : ℕ} (invariant : ViewInvariant steps before) :
    ViewInvariant ((before, .changeHandled) :: steps)
      { before with queued := later }.handleBalanceCacheChanged := by
  unfold BalanceView.handleBalanceCacheChanged
  by_cases live : before.liveUpdatesRequested = true ∧ before.hasSuccessfulSnapshot = true
  · rw [if_neg (by simp [live])]
    refine view_invariant_stored ?_ rfl invariant.loading
    rw [BalanceView.stores, live.1, live.2]
    rfl
  · have passed : before.stores .changeHandled = false := by
      rw [BalanceView.stores, Bool.and_eq_false_iff]
      by_contra both
      simp only [not_or, Bool.not_eq_false] at both
      exact live both
    have off : (!before.liveUpdatesRequested || !before.hasSuccessfulSnapshot) = true := by
      rw [← Bool.not_and, Bool.not_eq_true']
      exact passed
    rw [if_pos off]
    refine invariant.quiet ⟨passed, fun writes => writes, rfl, rfl, rfl⟩ invariant.loading id ?_
    intro _ alive
    exact absurd ⟨alive.2.1, alive.1⟩ live

theorem ViewInvariant.step (invariant : ViewInvariant steps before)
    (moves : before.Moves event after) : ViewInvariant ((before, event) :: steps) after := by
  have silent : ∀ writes : False, False := fun writes => writes
  cases moves with
  | loadBalances idle =>
      unfold BalanceView.loadBalances
      split_ifs
      · exact invariant.starts_load rfl silent
      · exact invariant.stays rfl silent
  | retryBalances idle =>
      unfold BalanceView.retryBalances
      split_ifs
      · exact invariant.starts_load rfl silent
      · exact invariant.stays rfl silent
  | refreshBalances idle =>
      unfold BalanceView.refreshBalances
      split_ifs
      · exact invariant.stays rfl silent
      · exact invariant.starts_load rfl silent
  | restWritten update working => exact invariant.rest_written update working
  | restReturned outcome working =>
      exact invariant.quiet ⟨rfl, silent, rfl, rfl, rfl⟩
        (fun _ => invariant.loading (by rw [working]; rfl)) id fun _ live => ⟨live, id⟩
  | loadCompleted idle finished => exact invariant.load_completed finished
  | liveUpdatesRequested idle lowered | handlersAttached attaching
    | liveUpdatesWithdrawn idle raised | handlersCleared clearing | messageFailed updating =>
      exact invariant.quiet ⟨rfl, silent, rfl, rfl, rfl⟩ invariant.loading id
        fun calm => absurd trivial calm
  | messageReceived coins idle =>
      refine invariant.quiet ⟨rfl, silent, rfl, rfl, rfl⟩ invariant.loading id ?_
      refine fun _ live => ⟨live, ?_⟩
      rintro (announces | queued)
      · rw [idle] at announces
        exact announces.elim
      · exact .inr queued
  | @streamWritten update left changed updating => exact invariant.stream_written update left
  | @messageEnded changed updating =>
      refine invariant.quiet ⟨rfl, silent, rfl, rfl, rfl⟩ invariant.loading id ?_
      refine fun _ live => ⟨live, ?_⟩
      rintro (announces | queued)
      · rw [updating] at announces
        cases changed with
        | true => exact .inl trivial
        | false => exact announces.elim
      · exact .inr queued
  | handlerCopied notifying =>
      refine invariant.quiet ⟨rfl, silent, rfl, rfl, rfl⟩ invariant.loading id ?_
      refine fun _ live => ⟨live, fun _ => .inl ?_⟩
      have attached : before.handlersAttached = true := live.2.2
      change StreamPhase.announces (if before.handlersAttached then _ else _)
      rw [attached]
      trivial
  | changeQueued handling =>
      exact invariant.quiet ⟨rfl, silent, rfl, rfl, rfl⟩ invariant.loading id
        fun _ live => ⟨live, fun _ => .inr (Nat.succ_pos _)⟩
  | changeHandled idle queued => exact invariant.change_handled

theorem ViewRun.invariant (run : ViewRun steps view) : ViewInvariant steps view := by
  induction run with
  | start =>
      constructor
      · exact fun snapshot => Bool.noConfusion snapshot
      · exact fun loading => Bool.noConfusion loading
      · exact fun _ member => nomatch member
      · exact fun live => Bool.noConfusion live.1
  | step run moves ih => exact ih.step moves

/-! ## Why a display may differ -/

/-- All that can make the display differ from the deal service's balances. -/
inductive Behind (steps : List (BalanceView × ViewEvent)) (view : BalanceView) : Prop where
  | unannounced (announces : view.stream.announces)
  | queued (waits : 0 < view.queued)
  | loading (status : view.loadState.status = .loading)
  | loadFailed (status : view.loadState.status = .failed)
      (written : ∃ event ∈ sinceStored steps, event.writesRest)
  | notLive (off : view.liveUpdatesRequested = false ∨ view.handlersAttached = false)
  | interrupted (since : ∃ event ∈ sinceStored steps, event.interrupts)

/-- The balances on display are the deal service's, or the reason why not is one of these. -/
theorem displayed_balances_explained (run : ViewRun steps view)
    (shown : view.hasSuccessfulSnapshot = true) :
    view.balances = view.cache ∨ Behind steps view := by
  have invariant := ViewRun.invariant run
  by_cases fresh : ∀ event ∈ sinceStored steps, ¬ event.writes
  · exact .inl (invariant.fresh shown fresh)
  · right
    push Not at fresh
    obtain ⟨event, member, writes⟩ := fresh
    by_cases rest : event.writesRest
    · obtain loading | failed := invariant.rest event member rest
      · exact .loading loading
      · exact .loadFailed failed ⟨event, member, rest⟩
    · by_cases calm : ∀ event ∈ sinceStored steps, ¬ event.interrupts
      · by_cases live : view.Live
        · obtain announces | waits := invariant.owed live calm ⟨event, member, writes, rest⟩
          · exact .unannounced announces
          · exact .queued waits
        · refine .notLive ?_
          unfold BalanceView.Live at live
          simp only [shown, true_and, not_and_or, Bool.not_eq_true] at live
          exact live
      · push Not at calm
        exact .interrupted calm

theorem streamed_balance_displayed : ∃ steps view,
    (view.balances = view.cache ∨ Behind steps view) ∧
      view.balances "BTC" = some { asset := "BTC", free := 2 } := by
  have loading := ViewRun.start.step (.refreshBalances rfl)
  have written := loading.step (.restWritten { asset := "BTC", free := 1 } rfl)
  have returned := written.step (.restReturned (.ok ()) rfl)
  have shown := returned.step (.loadCompleted rfl rfl)
  have attached := (shown.step (.liveUpdatesRequested rfl rfl)).step (.handlersAttached rfl)
  have received := attached.step (.messageReceived [.ok { asset := "BTC", free := 2 }] rfl)
  have ended := (received.step (.streamWritten rfl)).step (.messageEnded rfl)
  have queued := (ended.step (.handlerCopied rfl)).step (.changeQueued rfl)
  have handled := queued.step (.changeHandled rfl rfl)
  exact ⟨_, _, displayed_balances_explained handled rfl, by decide⟩

end CryptoDeal.Async
