import Mathlib.Data.Nat.Notation
import Mathlib.Logic.Function.Basic
import Mathlib.Tactic.SplitIfs

/-!
# Waiting on a condition variable

A waiter holds a mutex, tests the shared state, and if the test fails blocks and
releases the mutex in one step. A change of the shared state is made by a call that
notifies all blocked waiters afterwards; it may or may not hold the waiters' mutex
while it changes the state. A wake-up is lost if a waiter stays blocked although its
test would succeed and no call is about to notify.

A call that notifies without the mutex may come between a waiter's test and its
block. That is the only way to lose a wake-up.
-/

namespace CryptoDeal.ConditionVariable

abbrev WaiterId := ℕ

abbrev CallId := ℕ

/-- `test` is `none` where it throws; `change` is `none` where the call leaves all as it is and
does not notify. -/
structure WaitProtocol (Shared Need Change : Type) where
  test : Shared → Need → Option Bool
  change : Change → Shared → Option Shared
  holdsMutex : Change → Bool

inductive WaiterPhase (Need : Type) where
  | outside
  /-- with the mutex, before its test -/
  | testing (need : Need)
  /-- with the mutex, after a test that failed -/
  | blocking (need : Need)
  | blocked (need : Need)
  | woken (need : Need)

structure State (Shared Need : Type) where
  shared : Shared
  mutexOwner : Option WaiterId := none
  waiters : WaiterId → WaiterPhase Need := fun _ => .outside
  /-- The calls that have changed the state and not notified yet. -/
  notifying : CallId → Bool := fun _ => false

inductive Event (Need Change : Type) where
  | lock (waiter : WaiterId) (need : Need)
  | test (waiter : WaiterId)
  /-- A waiter leaves because its stop token was requested. -/
  | interrupt (waiter : WaiterId)
  | block (waiter : WaiterId)
  /-- A spurious wake-up, or one by a stop token. -/
  | wake (waiter : WaiterId)
  | relock (waiter : WaiterId)
  | change (call : CallId) (change : Change)
  | notify (call : CallId)

variable {Shared Need Change : Type}

def WaiterPhase.notified : WaiterPhase Need → WaiterPhase Need
  | .blocked need => .woken need
  | phase => phase

namespace State

def moveWaiter (state : State Shared Need) (waiter : WaiterId) (phase : WaiterPhase Need)
    (mutexOwner : Option WaiterId) : State Shared Need :=
  { state with waiters := Function.update state.waiters waiter phase, mutexOwner }

def step (protocol : WaitProtocol Shared Need Change) (state : State Shared Need) :
    Event Need Change → Option (State Shared Need)
  | .lock waiter need =>
      match state.waiters waiter, state.mutexOwner with
      | .outside, none => some (state.moveWaiter waiter (.testing need) (some waiter))
      | _, _ => none
  | .test waiter =>
      match state.waiters waiter with
      | .testing need =>
          if protocol.test state.shared need = some false then
            some (state.moveWaiter waiter (.blocking need) state.mutexOwner)
          else some (state.moveWaiter waiter .outside none)
      | _ => none
  | .interrupt waiter =>
      match state.waiters waiter with
      | .testing _ => some (state.moveWaiter waiter .outside none)
      | _ => none
  | .block waiter =>
      match state.waiters waiter with
      | .blocking need => some (state.moveWaiter waiter (.blocked need) none)
      | _ => none
  | .wake waiter =>
      match state.waiters waiter with
      | .blocked need => some (state.moveWaiter waiter (.woken need) state.mutexOwner)
      | _ => none
  | .relock waiter =>
      match state.waiters waiter, state.mutexOwner with
      | .woken need, none => some (state.moveWaiter waiter (.testing need) (some waiter))
      | _, _ => none
  | .change call change =>
      if state.notifying call ∨ (protocol.holdsMutex change ∧ state.mutexOwner ≠ none) then none
      else
        (protocol.change change state.shared).map fun shared =>
          { state with shared, notifying := Function.update state.notifying call true }
  | .notify call =>
      if state.notifying call then
        some { state with
          waiters := fun waiter => (state.waiters waiter).notified
          notifying := Function.update state.notifying call false }
      else none

/-- A blocked waiter whose test would succeed, with nobody left to tell it. -/
def LostWakeUp (protocol : WaitProtocol Shared Need Change) (state : State Shared Need) : Prop :=
  (∃ waiter need, state.waiters waiter = .blocked need ∧
    protocol.test state.shared need = some true) ∧
  ∀ call, state.notifying call = false

/-- Some waiter is about to block although its test would succeed by now. -/
def IsStale (protocol : WaitProtocol Shared Need Change) (state : State Shared Need) : Prop :=
  ∃ waiter need, state.waiters waiter = .blocking need ∧
    protocol.test state.shared need = some true

/-- Notifying leaves no stale waiter behind, unless another call is about to notify. -/
def InTime (protocol : WaitProtocol Shared Need Change) (state : State Shared Need) :
    Event Need Change → Prop
  | .notify call => state.IsStale protocol → ∃ other, other ≠ call ∧ state.notifying other = true
  | _ => True

end State

/-- The states that steps of an allowed kind lead to. -/
inductive Run (protocol : WaitProtocol Shared Need Change)
    (allowed : State Shared Need → Event Need Change → Prop) (start : State Shared Need) :
    State Shared Need → Prop where
  | start : Run protocol allowed start start
  | step {before after : State Shared Need} {event : Event Need Change}
      (prior : Run protocol allowed start before) (permitted : allowed before event)
      (stepped : before.step protocol event = some after) : Run protocol allowed start after

/-- The events of a script, one after the other. -/
def State.runScript (protocol : WaitProtocol Shared Need Change) (state : State Shared Need)
    (script : List (Event Need Change)) : Option (State Shared Need) :=
  script.foldlM (State.step protocol) state

theorem Run.script {protocol : WaitProtocol Shared Need Change}
    {start state after : State Shared Need}
    {script : List (Event Need Change)} (run : Run protocol (fun _ _ => True) start state)
    (ran : state.runScript protocol script = some after) :
    Run protocol (fun _ _ => True) start after := by
  induction script generalizing state with
  | nil =>
      cases ran
      exact run
  | cons event script ih =>
      obtain ⟨middle, stepped, rest⟩ := Option.bind_eq_some_iff.1 ran
      exact ih (run.step trivial stepped) rest

/-! ## What a step does -/

/-- The moves of one waiter: where it gets to, and who owns the mutex then. -/
inductive WaiterMoves (protocol : WaitProtocol Shared Need Change) (state : State Shared Need)
    (waiter : WaiterId) : WaiterPhase Need → Option WaiterId → Prop where
  | locked (need : Need) (free : state.mutexOwner = none) :
      WaiterMoves protocol state waiter (.testing need) (some waiter)
  | failed {need : Need} (tests : state.waiters waiter = .testing need)
      (failed : protocol.test state.shared need = some false) :
      WaiterMoves protocol state waiter (.blocking need) state.mutexOwner
  | left {need : Need} (tests : state.waiters waiter = .testing need) :
      WaiterMoves protocol state waiter .outside none
  | blocked {need : Need} (blocking : state.waiters waiter = .blocking need) :
      WaiterMoves protocol state waiter (.blocked need) none
  | woken (need : Need) : WaiterMoves protocol state waiter (.woken need) state.mutexOwner

inductive StepMoves (protocol : WaitProtocol Shared Need Change) (state : State Shared Need) :
    Event Need Change → State Shared Need → Prop where
  | waiter {event : Event Need Change} {waiter : WaiterId} {phase : WaiterPhase Need}
      {mutexOwner : Option WaiterId} (moves : WaiterMoves protocol state waiter phase mutexOwner) :
      StepMoves protocol state event (state.moveWaiter waiter phase mutexOwner)
  | changed {call : CallId} {change : Change} {shared : Shared}
      (allowed : protocol.holdsMutex change = true → state.mutexOwner = none) :
      StepMoves protocol state (.change call change)
        { state with shared, notifying := Function.update state.notifying call true }
  | notified (call : CallId) :
      StepMoves protocol state (.notify call)
        { state with
          waiters := fun waiter => (state.waiters waiter).notified
          notifying := Function.update state.notifying call false }

section Moves

variable {protocol : WaitProtocol Shared Need Change} {state after : State Shared Need}

theorem step_moves {event : Event Need Change} (stepped : state.step protocol event = some after) :
    StepMoves protocol state event after := by
  cases event with
  | lock waiter need =>
      simp only [State.step] at stepped
      split at stepped
      next outside free =>
          cases stepped
          exact .waiter (.locked need free)
      · cases stepped
  | test waiter =>
      simp only [State.step] at stepped
      split at stepped
      next need tests =>
          split_ifs at stepped with failed
          · cases stepped
            exact .waiter (.failed tests failed)
          · cases stepped
            exact .waiter (.left tests)
      · cases stepped
  | interrupt waiter =>
      simp only [State.step] at stepped
      split at stepped
      next need tests =>
          cases stepped
          exact .waiter (.left tests)
      · cases stepped
  | block waiter =>
      simp only [State.step] at stepped
      split at stepped
      next need blocking =>
          cases stepped
          exact .waiter (.blocked blocking)
      · cases stepped
  | wake waiter =>
      simp only [State.step] at stepped
      split at stepped
      next need blocked =>
          cases stepped
          exact .waiter (.woken need)
      · cases stepped
  | relock waiter =>
      simp only [State.step] at stepped
      split at stepped
      next need woken free =>
          cases stepped
          exact .waiter (.locked need free)
      · cases stepped
  | change call change =>
      simp only [State.step] at stepped
      split_ifs at stepped with refused
      obtain ⟨shared, _, rfl⟩ := Option.map_eq_some_iff.1 stepped
      apply StepMoves.changed
      intro holds
      by_contra owned
      exact refused (.inr ⟨holds, owned⟩)
  | notify call =>
      simp only [State.step] at stepped
      split_ifs at stepped
      cases stepped
      exact .notified call

variable {waiter other : WaiterId} {phase : WaiterPhase Need} {mutexOwner : Option WaiterId}

theorem move_waiter_other (apart : other ≠ waiter) :
    (state.moveWaiter waiter phase mutexOwner).waiters other = state.waiters other :=
  Function.update_of_ne apart _ _

theorem move_waiter_own : (state.moveWaiter waiter phase mutexOwner).waiters waiter = phase :=
  Function.update_self _ _ _

/-- A notification changes no phase but `blocked`, and leaves none of these. -/
theorem notified_blocking_iff {need : Need} :
    phase.notified = .blocking need ↔ phase = .blocking need := by
  cases phase <;> simp [WaiterPhase.notified]

theorem notified_ne_blocked {need : Need} : phase.notified ≠ .blocked need := by
  cases phase <;> simp [WaiterPhase.notified]

end Moves

/-! ## Waiters are told -/

section Told

variable {protocol : WaitProtocol Shared Need Change} {state after : State Shared Need}

/-- A waiter that is blocked or about to block, though its test would succeed. -/
def State.WaitsInVain (protocol : WaitProtocol Shared Need Change) (state : State Shared Need)
    (waiter : WaiterId) : Prop :=
  ∃ need, (state.waiters waiter = .blocking need ∨ state.waiters waiter = .blocked need) ∧
    protocol.test state.shared need = some true

/-- Some call is about to notify whoever waits in vain. -/
def State.Told (protocol : WaitProtocol Shared Need Change) (state : State Shared Need) : Prop :=
  ∀ waiter, state.WaitsInVain protocol waiter → ∃ call, state.notifying call = true

theorem WaiterMoves.told {waiter : WaiterId} {phase : WaiterPhase Need}
    {mutexOwner : Option WaiterId} (moves : WaiterMoves protocol state waiter phase mutexOwner)
    (told : state.Told protocol) : (state.moveWaiter waiter phase mutexOwner).Told protocol := by
  rintro other ⟨need, waits, succeeds⟩
  by_cases own : other = waiter
  · subst own
    rw [move_waiter_own] at waits
    apply told other
    -- a waiter blocks only after a test of its own that failed
    cases moves with
    | locked need free => exact (not_or.2 ⟨nofun, nofun⟩ waits).elim
    | failed tests failed =>
        rcases waits with same | same
        · cases same
          have clash : some false = some true := failed.symm.trans succeeds
          cases clash
        · cases same
    | left tests => exact (not_or.2 ⟨nofun, nofun⟩ waits).elim
    | blocked blocking =>
        rcases waits with same | same
        · cases same
        · cases same
          exact ⟨_, .inl blocking, succeeds⟩
    | woken need => exact (not_or.2 ⟨nofun, nofun⟩ waits).elim
  · rw [move_waiter_other own] at waits
    exact told other ⟨need, waits, succeeds⟩

theorem State.Told.step {event : Event Need Change} (told : state.Told protocol)
    (inTime : state.InTime protocol event) (stepped : state.step protocol event = some after) :
    after.Told protocol := by
  cases step_moves stepped with
  | waiter moves => exact moves.told told
  | changed _ =>
      intro waiter _
      exact ⟨_, Function.update_self _ _ _⟩
  | notified call =>
      rintro waiter ⟨need, waits, succeeds⟩
      -- whoever was blocked is woken, so this one is about to block
      have blocking := notified_blocking_iff.1 (waits.resolve_right notified_ne_blocked)
      obtain ⟨other, apart, notifies⟩ := inTime ⟨waiter, need, blocking, succeeds⟩
      exact ⟨other, (Function.update_of_ne apart _ _).trans notifies⟩

/-- What a run without late notifications keeps. -/
theorem Run.told {start : State Shared Need} (told : start.Told protocol)
    (run : Run protocol (State.InTime protocol) start state) : state.Told protocol := by
  induction run with
  | start => exact told
  | step _ permitted stepped ih => exact ih.step permitted stepped

theorem State.Told.not_lost (told : state.Told protocol) : ¬ state.LostWakeUp protocol := by
  rintro ⟨⟨waiter, need, blocked, succeeds⟩, quiet⟩
  obtain ⟨call, notifies⟩ := told waiter ⟨need, .inr blocked, succeeds⟩
  rw [quiet] at notifies
  cases notifies

/-- A notification that leaves a stale waiter behind loses its wake-up. -/
theorem late_notification_lost {call : CallId} (late : ¬ state.InTime protocol (.notify call))
    (stepped : state.step protocol (.notify call) = some after) :
    ∃ waiter next, after.step protocol (.block waiter) = some next ∧ next.LostWakeUp protocol := by
  simp only [State.InTime, not_forall, not_exists, not_and, Bool.not_eq_true] at late
  obtain ⟨⟨waiter, need, blocking, succeeds⟩, quiet⟩ := late
  simp only [State.step] at stepped
  split_ifs at stepped
  have same := Option.some.inj stepped
  have stays : after.waiters waiter = .blocking need := by
    rw [← same]
    change (state.waiters waiter).notified = .blocking need
    rw [blocking]
    rfl
  have silent : ∀ other, after.notifying other = false := by
    intro other
    rw [← same]
    by_cases own : other = call
    · subst own
      exact Function.update_self _ _ _
    · exact (Function.update_of_ne own _ _).trans (quiet other own)
  have untouched : after.shared = state.shared := by rw [← same]
  refine ⟨waiter, after.moveWaiter waiter (.blocked need) none, ?_,
    ⟨waiter, need, move_waiter_own, ?_⟩, silent⟩
  · simp only [State.step, stays]
  · rw [← untouched] at succeeds
    exact succeeds

end Told

/-! ## Changes under the mutex -/

section Guarded

variable {protocol : WaitProtocol Shared Need Change} {state after : State Shared Need}
  {waiter : WaiterId} {phase : WaiterPhase Need} {mutexOwner : Option WaiterId}

def Event.HoldsMutex (protocol : WaitProtocol Shared Need Change) : Event Need Change → Prop
  | .change _ made => protocol.holdsMutex made = true
  | _ => True

def WaiterPhase.ownsMutex : WaiterPhase Need → Bool
  | .testing _ | .blocking _ => true
  | .outside | .blocked _ | .woken _ => false

theorem owns_of_notified (owns : phase.notified.ownsMutex = true) : phase.ownsMutex = true := by
  cases phase <;> exact owns

/-- The mutex has its owner, and what a waiter found out under it still holds. -/
structure State.Guarded (protocol : WaitProtocol Shared Need Change) (state : State Shared Need) :
    Prop where
  owner : ∀ waiter, (state.waiters waiter).ownsMutex = true → state.mutexOwner = some waiter
  fresh : ∀ waiter need, state.waiters waiter = .blocking need →
    protocol.test state.shared need = some false

theorem State.Guarded.not_stale (guarded : state.Guarded protocol) : ¬ state.IsStale protocol := by
  rintro ⟨waiter, need, blocking, succeeds⟩
  rw [guarded.fresh waiter need blocking] at succeeds
  cases succeeds

/-- Who else would own the mutex owns it still. -/
theorem WaiterMoves.others (moves : WaiterMoves protocol state waiter phase mutexOwner)
    (guarded : state.Guarded protocol) {other : WaiterId} (apart : other ≠ waiter)
    (owned : state.mutexOwner = some other) : mutexOwner = some other := by
  have alone : (state.waiters waiter).ownsMutex ≠ true := by
    intro owns
    rw [guarded.owner waiter owns, Option.some_inj] at owned
    exact apart owned.symm
  cases moves with
  | locked need free =>
      rw [free] at owned
      cases owned
  | failed tests failed => exact owned
  | left tests => exact absurd (by rw [tests]; rfl) alone
  | blocked blocking => exact absurd (by rw [blocking]; rfl) alone
  | woken need => exact owned

theorem WaiterMoves.guarded (moves : WaiterMoves protocol state waiter phase mutexOwner)
    (guarded : state.Guarded protocol) :
    (state.moveWaiter waiter phase mutexOwner).Guarded protocol where
  owner := by
    intro other owns
    by_cases own : other = waiter
    · subst own
      rw [move_waiter_own] at owns
      cases moves with
      | locked need free => rfl
      | failed tests failed => exact guarded.owner other (by rw [tests]; rfl)
      | left tests => cases owns
      | blocked blocking => cases owns
      | woken need => cases owns
    · rw [move_waiter_other own] at owns
      exact moves.others guarded own (guarded.owner other owns)
  fresh := by
    intro other need blocking
    by_cases own : other = waiter
    · subst own
      rw [move_waiter_own] at blocking
      subst blocking
      cases moves with
      | failed tests failed => exact failed
    · rw [move_waiter_other own] at blocking
      exact guarded.fresh other need blocking

theorem State.Guarded.step {event : Event Need Change} (guarded : state.Guarded protocol)
    (holds : event.HoldsMutex protocol) (stepped : state.step protocol event = some after) :
    after.Guarded protocol := by
  cases step_moves stepped with
  | waiter moves => exact moves.guarded guarded
  | changed allowed =>
      refine ⟨guarded.owner, ?_⟩
      intro waiter need blocking
      have owned := guarded.owner waiter (by rw [show state.waiters waiter = _ from blocking]; rfl)
      rw [allowed holds] at owned
      cases owned
  | notified call =>
      refine ⟨fun waiter owns => guarded.owner waiter (owns_of_notified owns), ?_⟩
      intro waiter need blocking
      exact guarded.fresh waiter need (notified_blocking_iff.1 blocking)

/-- If every change is made under the mutex, every notification is in time. -/
theorem Run.in_time {start : State Shared Need} (guarded : start.Guarded protocol)
    (run : Run protocol (fun _ event => event.HoldsMutex protocol) start state) :
    Run protocol (State.InTime protocol) start state ∧ state.Guarded protocol := by
  induction run with
  | start => exact ⟨.start, guarded⟩
  | @step before after event _ holds stepped ih =>
      have inTime : before.InTime protocol event := by
        cases event with
        | notify call => exact fun stale => absurd stale ih.2.not_stale
        | _ => exact trivial
      exact ⟨ih.1.step inTime stepped, ih.2.step holds stepped⟩

end Guarded

end CryptoDeal.ConditionVariable
