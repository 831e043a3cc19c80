import CryptoDeal.Library.Interaction
import Mathlib.Logic.Function.Basic

/-!
# Threads on shared state

Any number of programs that run at once. Threads start at any time, each with
the program of its call, and a scheduler picks who acts: one request at a time
is performed on the shared state. A program that meets a contract obeys it in
every schedule, whatever the other threads do, as long as the contract's answers
are those that the state can give.
-/

namespace CryptoDeal.Interaction

structure ThreadSystem (Call State Effect : Type) (Answer : Effect → Type) (Failure : Type) where
  Result : Call → Type
  program : (call : Call) → Interaction Effect Answer Failure (Result call)
  performs : State → (effect : Effect) → Answer effect → State → Prop

variable {Call State Effect Failure : Type} {Answer : Effect → Type}

abbrev ThreadId := Nat

structure Thread (system : ThreadSystem Call State Effect Answer Failure) where
  call : Call
  history : History Effect Answer
  current : Interaction Effect Answer Failure (system.Result call)

/-- The exception that the thread has ended with. -/
def Thread.thrown {system : ThreadSystem Call State Effect Answer Failure} (thread : Thread system) :
    Option Failure :=
  match thread.current with
  | .threw failure => some failure
  | .returned _ | .request _ _ => none

theorem Thread.thrown_iff {system : ThreadSystem Call State Effect Answer Failure}
    {thread : Thread system} {failure : Failure} :
    thread.thrown = some failure ↔ thread.current = .threw failure := by
  unfold Thread.thrown
  split
  next thrown same => rw [same, Option.some.injEq, threw.injEq]
  next same => rw [same]; exact iff_of_false nofun nofun
  next same => rw [same]; exact iff_of_false nofun nofun

structure Threads (system : ThreadSystem Call State Effect Answer Failure) where
  shared : State
  threads : ThreadId → Option (Thread system)

inductive ThreadEvent (Call Effect : Type) (Answer : Effect → Type) where
  | started (threadId : ThreadId) (call : Call)
  | performed (threadId : ThreadId) (effect : Effect) (answer : Answer effect)

variable {system : ThreadSystem Call State Effect Answer Failure}

namespace Threads

def alone (shared : State) : Threads system where
  shared
  threads := fun _ => none

def start (before : Threads system) (threadId : ThreadId) (call : Call) : Threads system :=
  { before with
    threads := Function.update before.threads threadId
      (some { call, history := [], current := system.program call }) }

/-- After a thread's request has been answered. -/
def resume (before : Threads system) (threadId : ThreadId) (thread : Thread system)
    {effect : Effect} (next : Answer effect → Interaction Effect Answer Failure
      (system.Result thread.call)) (answer : Answer effect) (shared : State) : Threads system where
  shared
  threads := Function.update before.threads threadId
    (some { thread with
      history := ⟨effect, answer⟩ :: thread.history
      current := next answer })

inductive Moves (before : Threads system) :
    ThreadEvent Call Effect Answer → Threads system → Prop where
  | start (threadId : ThreadId) (call : Call) (fresh : before.threads threadId = none) :
      Moves before (.started threadId call) (before.start threadId call)
  | perform {threadId : ThreadId} {thread : Thread system} {effect : Effect}
      {next : Answer effect → Interaction Effect Answer Failure (system.Result thread.call)}
      {answer : Answer effect} {shared : State} (found : before.threads threadId = some thread)
      (asks : thread.current = .request effect next)
      (performed : system.performs before.shared effect answer shared) :
      Moves before (.performed threadId effect answer)
        (before.resume threadId thread next answer shared)

/-- What a thread has been answered so far. -/
def historyOf (state : Threads system) (threadId : ThreadId) : History Effect Answer :=
  ((state.threads threadId).map Thread.history).getD []

end Threads

/-- An event with the state that it found. -/
abbrev ThreadStep (system : ThreadSystem Call State Effect Answer Failure) :=
  Threads system × ThreadEvent Call Effect Answer

/-- The steps of a run, latest first, and where they lead. -/
inductive ThreadRun (system : ThreadSystem Call State Effect Answer Failure) (initial : State) :
    List (ThreadStep system) → Threads system → Prop where
  | start : ThreadRun system initial [] (.alone initial)
  | step {steps : List (ThreadStep system)} {before after : Threads system}
      {event : ThreadEvent Call Effect Answer} (run : ThreadRun system initial steps before)
      (moves : before.Moves event after) :
      ThreadRun system initial ((before, event) :: steps) after

section

variable {initial : State} {steps : List (ThreadStep system)} {state before after : Threads system}
  {threadId other : ThreadId} {thread : Thread system} {call : Call} {effect : Effect}
  {answer : Answer effect} {event : ThreadEvent Call Effect Answer}

theorem Threads.start_self : (before.start threadId call).threads threadId =
    some { call, history := [], current := system.program call } :=
  Function.update_self _ _ _

theorem Threads.start_other (apart : other ≠ threadId) :
    (before.start threadId call).threads other = before.threads other :=
  Function.update_of_ne apart _ _

section Resume

variable {next : Answer effect → Interaction Effect Answer Failure (system.Result thread.call)}
  {shared : State}

theorem Threads.resume_self :
    (before.resume threadId thread next answer shared).threads threadId =
      some { thread with
        history := ⟨effect, answer⟩ :: thread.history
        current := next answer } :=
  Function.update_self _ _ _

theorem Threads.resume_other (apart : other ≠ threadId) :
    (before.resume threadId thread next answer shared).threads other = before.threads other :=
  Function.update_of_ne apart _ _

end Resume

theorem Threads.history_of_found (found : state.threads threadId = some thread) :
    state.historyOf threadId = thread.history := by
  rw [Threads.historyOf, found]
  rfl

theorem Threads.history_of_fresh (fresh : state.threads threadId = none) :
    state.historyOf threadId = [] := by
  rw [Threads.historyOf, fresh]
  rfl

/-- The histories before and after: the acting thread's grows, the others stay. -/
theorem Threads.Moves.history_of_actor
    (moves : before.Moves (.performed threadId effect answer) after) :
    after.historyOf threadId = ⟨effect, answer⟩ :: before.historyOf threadId := by
  cases moves with
  | perform found asks performed =>
      rw [Threads.history_of_found found]
      exact Threads.history_of_found Threads.resume_self

theorem Threads.Moves.history_of_other
    (moves : before.Moves (.performed threadId effect answer) after) (apart : other ≠ threadId) :
    after.historyOf other = before.historyOf other := by
  cases moves with
  | perform found asks performed =>
      rw [Threads.historyOf, Threads.resume_other apart]
      rfl

theorem Threads.Moves.history_of_started (moves : before.Moves (.started threadId call) after)
    (other : ThreadId) :
    after.shared = before.shared ∧ after.historyOf other = before.historyOf other := by
  cases moves with
  | start _ _ fresh =>
      refine ⟨rfl, ?_⟩
      by_cases same : other = threadId
      · subst same
        rw [Threads.history_of_fresh fresh]
        exact Threads.history_of_found Threads.start_self
      · rw [Threads.historyOf, Threads.start_other same]
        rfl

theorem Threads.Moves.performs (moves : before.Moves (.performed threadId effect answer) after) :
    system.performs before.shared effect answer after.shared := by
  cases moves with
  | perform found asks performed => exact performed

/-- A thread has been answered what the run's steps answered it. -/
theorem ThreadRun.mem_history (run : ThreadRun system initial steps state) :
    ⟨effect, answer⟩ ∈ state.historyOf threadId ↔
      ∃ step ∈ steps, step.2 = .performed threadId effect answer := by
  induction run with
  | start =>
      constructor
      · intro member
        cases member
      · rintro ⟨step, member, _⟩
        cases member
  | @step steps before after event run moves ih =>
      have split : ∀ (head : Prop),
          (head ∨ ∃ step ∈ steps, step.2 = .performed threadId effect answer) ↔
          (head ∨ ⟨effect, answer⟩ ∈ before.historyOf threadId) := fun head => by rw [ih]
      simp only [List.mem_cons, exists_eq_or_imp]
      rw [split]
      cases event with
      | started started call =>
          rw [(moves.history_of_started threadId).2]
          exact (or_iff_right nofun).symm
      | performed actor acted given =>
          by_cases acting : threadId = actor
          · subst acting
            rw [moves.history_of_actor, List.mem_cons]
            apply or_congr_left
            constructor
            · intro same
              cases same
              rfl
            · intro same
              cases same
              rfl
          · rw [moves.history_of_other acting]
            refine (or_iff_right ?_).symm
            intro same
            cases same
            exact acting rfl

/-- The run up to a step. -/
theorem ThreadRun.up_to {later earlier : List (ThreadStep system)}
    (run : ThreadRun system initial (later ++ (before, event) :: earlier) state) :
    ThreadRun system initial earlier before ∧ ∃ after, before.Moves event after := by
  induction later generalizing state with
  | nil =>
      cases run with
      | step run moves => exact ⟨run, _, moves⟩
  | cons step later ih =>
      cases run with
      | step run moves => exact ih run

theorem ThreadRun.at_step {step : ThreadStep system} (run : ThreadRun system initial steps state)
    (member : step ∈ steps) :
    ∃ later earlier after, steps = later ++ step :: earlier ∧
      ThreadRun system initial earlier step.1 ∧ step.1.Moves step.2 after := by
  obtain ⟨later, earlier, rfl⟩ := List.append_of_mem member
  obtain ⟨ran, after, moves⟩ := run.up_to
  exact ⟨later, earlier, after, rfl, ran, moves⟩

/-! ## Contracts -/

variable {contract : Contract Effect Answer}
  {post : (call : Call) → History Effect Answer → Except Failure (system.Result call) → Prop}

/-- A thread at any moment of a run still meets its program's contract. -/
theorem ThreadRun.meets
    (answers : ∀ history shared effect answer after, system.performs shared effect answer after →
      contract.ensures history effect answer)
    (met : ∀ call, Meets contract (post call) (system.program call) [])
    (run : ThreadRun system initial steps state) (found : state.threads threadId = some thread) :
    Meets contract (post thread.call) thread.current thread.history := by
  induction run generalizing threadId thread with
  | start => cases found
  | @step steps before after event run moves ih =>
      cases moves with
      | start started call fresh =>
          by_cases same : threadId = started
          · subst same
            rw [Threads.start_self] at found
            cases found
            exact met call
          · rw [Threads.start_other same] at found
            exact ih found
      | @perform actor actorThread effect next answer shared known asks performed =>
          by_cases same : threadId = actor
          · subst same
            rw [Threads.resume_self] at found
            cases found
            have current := ih known
            rw [asks] at current
            exact current.2 answer (answers _ _ _ _ _ performed)
          · rw [Threads.resume_other same] at found
            exact ih found

/-- What a thread requests is what its contract allows. -/
theorem ThreadRun.allows
    (answers : ∀ history shared effect answer after, system.performs shared effect answer after →
      contract.ensures history effect answer)
    (met : ∀ call, Meets contract (post call) (system.program call) [])
    (run : ThreadRun system initial steps before)
    (moves : before.Moves (.performed threadId effect answer) after) :
    contract.requires (before.historyOf threadId) effect := by
  cases moves with
  | perform found asks performed =>
      have current := run.meets answers met found
      rw [asks] at current
      rw [Threads.history_of_found found]
      exact current.1

end

/-! ## Scripts -/

/-- What a script tells the scheduler. -/
inductive Command (Call : Type) where
  | start (threadId : ThreadId) (call : Call)
  /-- the thread's next so many requests -/
  | act (threadId : ThreadId) (count : Nat)

def Command.threadId : Command Call → ThreadId
  | .start threadId _ | .act threadId _ => threadId

section Scripts

variable (respond : State → (effect : Effect) → Option (Answer effect × State)) {Result : Type}

/-- A program's next requests, as far as the script's environment answers them. -/
def advance : Nat → History Effect Answer → Interaction Effect Answer Failure Result → State →
    History Effect Answer × Interaction Effect Answer Failure Result × State
  | count + 1, history, .request effect next, shared =>
      match respond shared effect with
      | some (answer, after) => advance count (⟨effect, answer⟩ :: history) (next answer) after
      | none => (history, .request effect next, shared)
  | _, history, program, shared => (history, program, shared)

def Threads.obey (state : Threads system) : Command Call → Threads system
  | .start threadId call =>
      match state.threads threadId with
      | none => state.start threadId call
      | some _ => state
  | .act threadId count =>
      match state.threads threadId with
      | none => state
      | some thread =>
          let advanced := advance respond count thread.history thread.current state.shared
          { shared := advanced.2.2
            threads := Function.update state.threads threadId
              (some { thread with history := advanced.1, current := advanced.2.1 }) }

variable {respond} {initial : State} {steps : List (ThreadStep system)} {state : Threads system}
  {threadId : ThreadId} {thread : Thread system}

theorem Threads.obey_act (found : state.threads threadId = some thread) (count : Nat) :
    state.obey respond (.act threadId count) =
      { shared := (advance respond count thread.history thread.current state.shared).2.2
        threads := Function.update state.threads threadId
          (some { thread with
            history := (advance respond count thread.history thread.current state.shared).1
            current := (advance respond count thread.history thread.current state.shared).2.1 }) } := by
  rw [Threads.obey, found]

theorem ThreadRun.stays (run : ThreadRun system initial steps state)
    (found : state.threads threadId = some thread) {count : Nat}
    (stuck : advance respond count thread.history thread.current state.shared =
      (thread.history, thread.current, state.shared)) :
    ∃ more, ThreadRun system initial (more ++ steps)
      (state.obey respond (.act threadId count)) := by
  rw [Threads.obey_act found, stuck, ← found, Function.update_eq_self]
  exact ⟨[], run⟩

theorem ThreadRun.acts
    (sound : ∀ shared effect answer after, respond shared effect = some (answer, after) →
      system.performs shared effect answer after)
    (run : ThreadRun system initial steps state) (found : state.threads threadId = some thread)
    (count : Nat) :
    ∃ more, ThreadRun system initial (more ++ steps) (state.obey respond (.act threadId count)) := by
  induction count generalizing steps state thread with
  | zero => exact run.stays found rfl
  | succ count ih =>
      cases asks : thread.current with
      | returned result => exact run.stays found (by rw [asks]; rfl)
      | threw failure => exact run.stays found (by rw [asks]; rfl)
      | request effect next =>
          cases answered : respond state.shared effect with
          | none => exact run.stays found (by rw [asks, advance, answered])
          | some response =>
              obtain ⟨answer, after⟩ := response
              have moved := run.step (.perform found asks (sound _ _ _ _ answered))
              obtain ⟨more, acted⟩ := ih moved Threads.resume_self
              refine ⟨more ++ [(state, .performed threadId effect answer)], ?_⟩
              rw [List.append_assoc]
              have same : state.obey respond (.act threadId (count + 1)) =
                  (state.resume threadId thread next answer after).obey respond
                    (.act threadId count) := by
                rw [Threads.obey_act found, Threads.obey_act Threads.resume_self, asks, advance,
                  answered]
                simp only [Threads.resume, Function.update_idem]
              rw [same]
              exact acted

theorem ThreadRun.obeys
    (sound : ∀ shared effect answer after, respond shared effect = some (answer, after) →
      system.performs shared effect answer after)
    (run : ThreadRun system initial steps state) (script : List (Command Call)) :
    ∃ more, ThreadRun system initial (more ++ steps) (script.foldl (Threads.obey respond) state) := by
  induction script generalizing steps state with
  | nil => exact ⟨[], run⟩
  | cons command script ih =>
      have obeyed : ∃ more, ThreadRun system initial (more ++ steps) (state.obey respond command) := by
        cases command with
        | start threadId call =>
            cases fresh : state.threads threadId with
            | none =>
                refine ⟨[(state, .started threadId call)], ?_⟩
                rw [Threads.obey, fresh]
                exact run.step (.start threadId call fresh)
            | some thread =>
                refine ⟨[], ?_⟩
                rw [Threads.obey, fresh]
                exact run
        | act threadId count =>
            cases found : state.threads threadId with
            | none =>
                refine ⟨[], ?_⟩
                rw [Threads.obey, found]
                exact run
            | some thread => exact run.acts sound found count
      obtain ⟨first, started⟩ := obeyed
      obtain ⟨rest, finished⟩ := ih started
      refine ⟨rest ++ first, ?_⟩
      rw [List.append_assoc]
      exact finished

theorem Threads.obey_other {command : Command Call} (apart : command.threadId ≠ threadId) :
    (state.obey respond command).threads threadId = state.threads threadId := by
  cases command with
  | start started call =>
      rw [Threads.obey]
      split
      · exact Threads.start_other (Ne.symm apart)
      · rfl
  | act actor count =>
      rw [Threads.obey]
      split
      · rfl
      · exact Function.update_of_ne (Ne.symm apart) _ _

/-- A thread that the script does not name has been answered nothing. -/
theorem Threads.script_other {script : List (Command Call)}
    (unnamed : ∀ command ∈ script, command.threadId ≠ threadId) :
    (script.foldl (Threads.obey respond) state).threads threadId = state.threads threadId := by
  induction script generalizing state with
  | nil => rfl
  | cons command script ih =>
      rw [List.forall_mem_cons] at unnamed
      rw [List.foldl_cons, ih unnamed.2, Threads.obey_other unnamed.1]

end Scripts

end CryptoDeal.Interaction
