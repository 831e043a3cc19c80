import Mathlib.Logic.Basic

/-!
# Programs that talk to an environment

A program is a tree: it returns, throws, or requests an effect and continues
with whatever the environment answers. `Reaches` is the program's behaviour
under every answer. A `Contract` says when an effect may be requested and what
its answer then satisfies; `Meets` is the weakest precondition of a program
under a contract, computed along the tree, and its rules mirror the control
structure: sequence, exception handler and clean-up on every exit.

The environment may be a network, a file system, or memory shared with other
threads; a contract that holds at every moment of a concurrent run lets a
program be reasoned about as if it were alone.
-/

namespace CryptoDeal

inductive Interaction (Effect : Type) (Answer : Effect → Type) (Failure Result : Type) : Type where
  | returned (result : Result)
  | threw (failure : Failure)
  | request (effect : Effect)
      (next : Answer effect → Interaction Effect Answer Failure Result)

namespace Interaction

variable {Effect : Type} {Answer : Effect → Type} {Failure Result Other : Type}

/-- The answered effects so far, latest first. -/
abbrev History (Effect : Type) (Answer : Effect → Type) := List (Sigma Answer)

def bind (program : Interaction Effect Answer Failure Result)
    (continuation : Result → Interaction Effect Answer Failure Other) :
    Interaction Effect Answer Failure Other :=
  match program with
  | .returned result => continuation result
  | .threw failure => .threw failure
  | .request effect next => .request effect fun answer => (next answer).bind continuation

/-- `try program catch failure => handler failure`. -/
def handle (program : Interaction Effect Answer Failure Result)
    (handler : Failure → Interaction Effect Answer Failure Result) :
    Interaction Effect Answer Failure Result :=
  match program with
  | .returned result => .returned result
  | .threw failure => handler failure
  | .request effect next => .request effect fun answer => (next answer).handle handler

/-- The program with its exception caught as a value. -/
def attempt (program : Interaction Effect Answer Failure Result) :
    Interaction Effect Answer Failure (Except Failure Result) :=
  match program with
  | .returned result => .returned (.ok result)
  | .threw failure => .returned (.error failure)
  | .request effect next => .request effect fun answer => (next answer).attempt

/-- Scope exit: `cleanup` runs after a return and after a throw, before either goes on. -/
def ensuring (program : Interaction Effect Answer Failure Result)
    (cleanup : Interaction Effect Answer Failure Unit) :
    Interaction Effect Answer Failure Result :=
  match program with
  | .returned result => cleanup.bind fun _ => .returned result
  | .threw failure => cleanup.bind fun _ => .threw failure
  | .request effect next => .request effect fun answer => (next answer).ensuring cleanup

instance : Monad (Interaction Effect Answer Failure) where
  pure := .returned
  bind := bind

theorem monad_bind_assoc {Last : Type} (program : Interaction Effect Answer Failure Result)
    (next : Result → Interaction Effect Answer Failure Other)
    (last : Other → Interaction Effect Answer Failure Last) :
    program >>= next >>= last = program >>= fun result => next result >>= last := by
  change (program.bind next).bind last = program.bind fun result => (next result).bind last
  induction program with
  | returned result => rfl
  | threw failure => rfl
  | request effect continuation ih =>
      rw [bind, bind, bind]
      congr
      funext answer
      exact ih answer

/-- Run the program's own failure out of an answer that may be one. -/
def ofExcept : Except Failure Result → Interaction Effect Answer Failure Result
  | .ok result => .returned result
  | .error failure => .threw failure

instance : MonadLift (Except Failure) (Interaction Effect Answer Failure) where
  monadLift := ofExcept

/-- Clean-up on the failing exit only. -/
def onFailure (program : Interaction Effect Answer Failure Result)
    (cleanup : Interaction Effect Answer Failure Unit) :
    Interaction Effect Answer Failure Result :=
  program.handle fun failure => cleanup.bind fun _ => .threw failure

/-- The program with each of its requests carried out by a program of other effects. -/
def interpret {Finer : Type} {FinerAnswer : Finer → Type}
    (carryOut : (effect : Effect) → Interaction Finer FinerAnswer Failure (Answer effect)) :
    Interaction Effect Answer Failure Result → Interaction Finer FinerAnswer Failure Result
  | .returned result => .returned result
  | .threw failure => .threw failure
  | .request effect next =>
      (carryOut effect).bind fun answer => (next answer).interpret carryOut

/-! ## Behaviour -/

/-- The program states that some sequence of answers leads to. -/
inductive Reaches (program : Interaction Effect Answer Failure Result) :
    History Effect Answer → Interaction Effect Answer Failure Result → Prop where
  | start : Reaches program [] program
  | answer {history : History Effect Answer} {effect : Effect}
      {next : Answer effect → Interaction Effect Answer Failure Result}
      (prior : Reaches program history (.request effect next)) (given : Answer effect) :
      Reaches program (⟨effect, given⟩ :: history) (next given)

/-! ## Contracts -/

structure Contract (Effect : Type) (Answer : Effect → Type) where
  requires : History Effect Answer → Effect → Prop
  ensures : History Effect Answer → (effect : Effect) → Answer effect → Prop

/-- Behaviour in an environment that keeps its side of the contract. -/
inductive Follows (contract : Contract Effect Answer)
    (program : Interaction Effect Answer Failure Result) :
    History Effect Answer → Interaction Effect Answer Failure Result → Prop where
  | start : Follows contract program [] program
  | answer {history : History Effect Answer} {effect : Effect}
      {next : Answer effect → Interaction Effect Answer Failure Result}
      (prior : Follows contract program history (.request effect next))
      (given : Answer effect) (kept : contract.ensures history effect given) :
      Follows contract program (⟨effect, given⟩ :: history) (next given)

/-- Weakest precondition: every request meets the contract, and every exit the postcondition. -/
def Meets (contract : Contract Effect Answer)
    (post : History Effect Answer → Except Failure Result → Prop) :
    Interaction Effect Answer Failure Result → History Effect Answer → Prop
  | .returned result, history => post history (.ok result)
  | .threw failure, history => post history (.error failure)
  | .request effect next, history =>
      contract.requires history effect ∧
        ∀ given, contract.ensures history effect given →
          Meets contract post (next given) (⟨effect, given⟩ :: history)

section Rules

variable {contract : Contract Effect Answer}
  {post weaker : History Effect Answer → Except Failure Result → Prop}
  {history : History Effect Answer}

@[simp] theorem meets_returned (result : Result) :
    Meets contract post (.returned result) history ↔ post history (.ok result) := Iff.rfl

@[simp] theorem meets_threw (failure : Failure) :
    Meets contract post (.threw failure) history ↔ post history (.error failure) := Iff.rfl

@[simp] theorem meets_pure (result : Result) :
    Meets contract post (pure result) history ↔ post history (.ok result) := Iff.rfl

@[simp] theorem meets_request (effect : Effect)
    (next : Answer effect → Interaction Effect Answer Failure Result) :
    Meets contract post (.request effect next) history ↔
      contract.requires history effect ∧
        ∀ given, contract.ensures history effect given →
          Meets contract post (next given) (⟨effect, given⟩ :: history) := Iff.rfl

theorem Meets.weaken {program : Interaction Effect Answer Failure Result}
    (met : Meets contract post program history)
    (implies : ∀ later outcome, post later outcome → weaker later outcome) :
    Meets contract weaker program history := by
  induction program generalizing history with
  | returned result => exact implies _ _ met
  | threw failure => exact implies _ _ met
  | request effect next ih => exact ⟨met.1, fun given kept => ih given (met.2 given kept)⟩

/-- What meets two contracts meets one that asks no more and promises both. -/
theorem Meets.both {second stronger : Contract Effect Answer}
    {program : Interaction Effect Answer Failure Result}
    (requires : ∀ earlier effect, contract.requires earlier effect →
      second.requires earlier effect → stronger.requires earlier effect)
    (ensures : ∀ earlier effect given, stronger.ensures earlier effect given →
      contract.ensures earlier effect given ∧ second.ensures earlier effect given)
    (met : Meets contract post program history) (too : Meets second weaker program history) :
    Meets stronger post program history := by
  induction program generalizing history with
  | returned result => exact met
  | threw failure => exact met
  | request effect next ih =>
      refine ⟨requires _ _ met.1 too.1, fun given kept => ?_⟩
      obtain ⟨first, other⟩ := ensures _ _ _ kept
      exact ih given (met.2 given first) (too.2 given other)

theorem meets_bind (program : Interaction Effect Answer Failure Other)
    (continuation : Other → Interaction Effect Answer Failure Result) :
    Meets contract post (program.bind continuation) history ↔
      Meets contract
        (fun later outcome =>
          match outcome with
          | .ok result => Meets contract post (continuation result) later
          | .error failure => post later (.error failure))
        program history := by
  induction program generalizing history with
  | returned result => rfl
  | threw failure => rfl
  | request effect next ih => simp only [bind, meets_request, ih]

@[simp] theorem meets_monad_bind (program : Interaction Effect Answer Failure Other)
    (continuation : Other → Interaction Effect Answer Failure Result) :
    Meets contract post (program >>= continuation) history ↔
      Meets contract
        (fun later outcome =>
          match outcome with
          | .ok result => Meets contract post (continuation result) later
          | .error failure => post later (.error failure))
        program history :=
  meets_bind program continuation

@[simp] theorem meets_handle (program : Interaction Effect Answer Failure Result)
    (handler : Failure → Interaction Effect Answer Failure Result) :
    Meets contract post (program.handle handler) history ↔
      Meets contract
        (fun later outcome =>
          match outcome with
          | .ok result => post later (.ok result)
          | .error failure => Meets contract post (handler failure) later)
        program history := by
  induction program generalizing history with
  | returned result => rfl
  | threw failure => rfl
  | request effect next ih => simp only [handle, meets_request, ih]

@[simp] theorem meets_attempt (program : Interaction Effect Answer Failure Other)
    {post : History Effect Answer → Except Failure (Except Failure Other) → Prop} :
    Meets contract post program.attempt history ↔
      Meets contract (fun later outcome => post later (.ok outcome)) program history := by
  induction program generalizing history with
  | returned result => rfl
  | threw failure => rfl
  | request effect next ih => simp only [attempt, meets_request, ih]

@[simp] theorem meets_ensuring (program : Interaction Effect Answer Failure Result)
    (cleanup : Interaction Effect Answer Failure Unit) :
    Meets contract post (program.ensuring cleanup) history ↔
      Meets contract
        (fun later outcome =>
          Meets contract
            (fun last cleaned =>
              match cleaned with
              | .ok _ => post last outcome
              | .error failure => post last (.error failure))
            cleanup later)
        program history := by
  induction program generalizing history with
  | returned result =>
      rw [ensuring, meets_bind, meets_returned]
      refine iff_of_eq (congrArg (fun exits => Meets contract exits cleanup history) ?_)
      funext last cleaned
      cases cleaned <;> rfl
  | threw failure =>
      rw [ensuring, meets_bind, meets_threw]
      refine iff_of_eq (congrArg (fun exits => Meets contract exits cleanup history) ?_)
      funext last cleaned
      cases cleaned <;> rfl
  | request effect next ih => simp only [ensuring, meets_request, ih]

@[simp] theorem meets_of_except (outcome : Except Failure Result) :
    Meets contract post (ofExcept outcome) history ↔ post history outcome := by
  cases outcome <;> rfl

@[simp] theorem meets_lift (outcome : Except Failure Result) :
    Meets contract post (liftM outcome) history ↔ post history outcome :=
  meets_of_except outcome

/-- Sequence, from what is known of the first part. -/
theorem Meets.bind {program : Interaction Effect Answer Failure Other}
    {continuation : Other → Interaction Effect Answer Failure Result}
    {middle : History Effect Answer → Except Failure Other → Prop}
    (met : Meets contract middle program history)
    (succeeds : ∀ later result, middle later (.ok result) →
      Meets contract post (continuation result) later)
    (fails : ∀ later failure, middle later (.error failure) → post later (.error failure)) :
    Meets contract post (program >>= continuation) history := by
  rw [meets_monad_bind]
  refine met.weaken fun later outcome known => ?_
  cases outcome with
  | ok result => exact succeeds later result known
  | error failure => exact fails later failure known

/-- A pure step that may fail, then the rest. -/
theorem meets_lift_bind {outcome : Except Failure Other}
    {continuation : Other → Interaction Effect Answer Failure Result}
    (succeeds : ∀ result, outcome = .ok result →
      Meets contract post (continuation result) history)
    (fails : ∀ failure, outcome = .error failure → post history (.error failure)) :
    Meets contract post (liftM outcome >>= continuation) history := by
  cases outcome with
  | ok result => exact succeeds result rfl
  | error failure => exact fails failure rfl

/-- Every exit of the program keeps a condition on the history. -/
def Preserves (contract : Contract Effect Answer) (good : History Effect Answer → Prop)
    (program : Interaction Effect Answer Failure Result) : Prop :=
  ∀ history, good history → Meets contract (fun later _ => good later) program history

section Preserves

variable {good : History Effect Answer → Prop}

theorem preserves_returned (result : Result) :
    Preserves contract good (.returned result : Interaction Effect Answer Failure Result) :=
  fun _ start => start

theorem preserves_threw (failure : Failure) :
    Preserves contract good (.threw failure : Interaction Effect Answer Failure Result) :=
  fun _ start => start

theorem preserves_lift (outcome : Except Failure Result) :
    Preserves contract good (liftM outcome : Interaction Effect Answer Failure Result) := by
  intro history start
  rw [meets_lift]
  exact start

theorem Preserves.bind {program : Interaction Effect Answer Failure Other}
    {continuation : Other → Interaction Effect Answer Failure Result}
    (part : Preserves contract good program)
    (rest : ∀ result, Preserves contract good (continuation result)) :
    Preserves contract good (program >>= continuation) := by
  intro history start
  apply (part history start).bind
  · exact fun later result kept => rest result later kept
  · exact fun later failure kept => kept

theorem Preserves.handle {program : Interaction Effect Answer Failure Result}
    {handler : Failure → Interaction Effect Answer Failure Result}
    (body : Preserves contract good program)
    (handled : ∀ failure, Preserves contract good (handler failure)) :
    Preserves contract good (program.handle handler) := by
  intro history start
  rw [meets_handle]
  apply (body history start).weaken
  intro later outcome kept
  cases outcome with
  | ok result => exact kept
  | error failure => exact handled failure later kept

theorem Preserves.attempt {program : Interaction Effect Answer Failure Result}
    (body : Preserves contract good program) :
    Preserves contract good (program.attempt : Interaction Effect Answer Failure _) := by
  intro history start
  rw [meets_attempt]
  exact body history start

theorem preserves_request {effect : Effect}
    {next : Answer effect → Interaction Effect Answer Failure Result}
    (required : ∀ history, good history → contract.requires history effect)
    (kept : ∀ history answer, good history → good (⟨effect, answer⟩ :: history))
    (continues : ∀ answer, Preserves contract good (next answer)) :
    Preserves contract good (.request effect next) := by
  intro history start
  refine ⟨required history start, ?_⟩
  intro answer _
  exact continues answer _ (kept history answer start)

end Preserves

/-- A program keeps its contract if its requests are carried out by programs that do, where
histories of the two levels are related throughout. -/
theorem Meets.interpret {Finer : Type} {FinerAnswer : Finer → Type}
    {finer : Contract Finer FinerAnswer}
    {carryOut : (effect : Effect) → Interaction Finer FinerAnswer Failure (Answer effect)}
    {related : History Effect Answer → History Finer FinerAnswer → Prop}
    (carriesOut : ∀ earlier fine effect, related earlier fine → contract.requires earlier effect →
      Meets finer
        (fun later outcome => ∃ answer, outcome = .ok answer ∧
          contract.ensures earlier effect answer ∧ related (⟨effect, answer⟩ :: earlier) later)
        (carryOut effect) fine)
    {program : Interaction Effect Answer Failure Result} (met : Meets contract post program history)
    {fine : History Finer FinerAnswer} (start : related history fine) :
    Meets finer (fun later outcome => ∃ coarse, related coarse later ∧ post coarse outcome)
      (program.interpret carryOut) fine := by
  induction program generalizing history fine with
  | returned result => exact ⟨history, start, met⟩
  | threw failure => exact ⟨history, start, met⟩
  | request effect next ih =>
      rw [Interaction.interpret, meets_bind]
      apply (carriesOut history fine effect start met.1).weaken
      rintro later _ ⟨answer, rfl, kept, goes⟩
      exact ih answer (met.2 answer kept) goes

theorem Follows.mono {looser : Contract Effect Answer}
    {program current : Interaction Effect Answer Failure Result}
    (run : Follows contract program history current)
    (implies : ∀ earlier effect answer,
      contract.ensures earlier effect answer → looser.ensures earlier effect answer) :
    Follows looser program history current := by
  induction run with
  | start => exact .start
  | answer _ given kept ih => exact .answer ih given (implies _ _ _ kept)

/-- A met contract stays met along every behaviour of the environment. -/
theorem Meets.follows {program current : Interaction Effect Answer Failure Result}
    (met : Meets contract post program []) (run : Follows contract program history current) :
    Meets contract post current history := by
  induction run with
  | start => exact met
  | answer _ given kept ih => exact ih.2 given kept

end Rules

/-- The state after so many answers by a function, with the history. -/
def answerBy (answers : ∀ effect, Answer effect) :
    Nat → Interaction Effect Answer Failure Result → History Effect Answer →
      History Effect Answer × Interaction Effect Answer Failure Result
  | count + 1, .request effect next, history =>
      answerBy answers count (next (answers effect)) (⟨effect, answers effect⟩ :: history)
  | _, program, history => (history, program)

theorem Reaches.answer_by {answers : ∀ effect, Answer effect} (count : Nat)
    {program current : Interaction Effect Answer Failure Result} {history : History Effect Answer}
    (run : Reaches program history current) :
    Reaches program (answerBy answers count current history).1
      (answerBy answers count current history).2 := by
  induction count generalizing current history with
  | zero => exact run
  | succ count ih =>
      cases current with
      | returned result => exact run
      | threw failure => exact run
      | request effect next => exact ih (run.answer (answers effect))

/-- The first request of a chosen kind when the environment answers by a function. -/
def firstRequest (answers : ∀ effect, Answer effect) (chosen : Effect → Bool) :
    Interaction Effect Answer Failure Result → Option Effect
  | .returned _ => none
  | .threw _ => none
  | .request effect next =>
      if chosen effect then some effect else firstRequest answers chosen (next (answers effect))

theorem Follows.first_request {contract : Contract Effect Answer}
    {answers : ∀ effect, Answer effect} {chosen : Effect → Bool} {effect : Effect}
    (kept : ∀ history effect, contract.ensures history effect (answers effect))
    {program current : Interaction Effect Answer Failure Result} {history : History Effect Answer}
    (run : Follows contract program history current)
    (found : firstRequest answers chosen current = some effect) :
    ∃ later next, Follows contract program later (.request effect next) := by
  induction current generalizing history with
  | returned result => cases found
  | threw failure => cases found
  | request asked next ih =>
      rw [firstRequest] at found
      by_cases reached : chosen asked
      · rw [if_pos reached] at found
        cases found
        exact ⟨history, next, run⟩
      · rw [if_neg reached] at found
        exact ih _ (run.answer _ (kept history asked)) found

/-- Whether the program returns when the environment answers by a function. -/
def returnsBy (answers : ∀ effect, Answer effect) : Interaction Effect Answer Failure Result → Bool
  | .returned _ => true
  | .threw _ => false
  | .request effect next => returnsBy answers (next (answers effect))

theorem Follows.returns_by {contract : Contract Effect Answer} {answers : ∀ effect, Answer effect}
    (kept : ∀ history effect, contract.ensures history effect (answers effect))
    {program current : Interaction Effect Answer Failure Result} {history : History Effect Answer}
    (run : Follows contract program history current) (found : returnsBy answers current) :
    ∃ later result, Follows contract program later (.returned result) := by
  induction current generalizing history with
  | returned result => exact ⟨history, result, run⟩
  | threw failure => cases found
  | request effect next ih => exact ih _ (run.answer _ (kept history effect)) found

/-- What has been answered was requested. -/
theorem Follows.requested {contract : Contract Effect Answer}
    {program current : Interaction Effect Answer Failure Result} {history : History Effect Answer}
    (run : Follows contract program history current) {event : Sigma Answer}
    (answered : event ∈ history) :
    ∃ earlier next, Follows contract program earlier (.request event.1 next) := by
  induction run with
  | start => cases answered
  | answer prior given kept ih =>
      rcases List.mem_cons.1 answered with rfl | before
      · exact ⟨_, _, prior⟩
      · exact ih before

/-- The contract of an arbitrary environment, with a condition on what is requested. -/
def requestsOnly (allowed : History Effect Answer → Effect → Prop) : Contract Effect Answer where
  requires := allowed
  ensures := fun _ _ _ => True

theorem Reaches.follows {program current : Interaction Effect Answer Failure Result}
    {allowed : History Effect Answer → Effect → Prop} {history : History Effect Answer}
    (run : Reaches program history current) :
    Follows (requestsOnly allowed) program history current := by
  induction run with
  | start => exact .start
  | answer _ given ih => exact .answer ih given trivial

/-! ## Ends -/

/-- Some answers lead the program to this outcome. -/
def Ends (program : Interaction Effect Answer Failure Result) (history : History Effect Answer)
    (outcome : Except Failure Result) : Prop :=
  Reaches program history (ofExcept outcome)

/-- The environment that answers anything to anything. -/
abbrev anything : Contract Effect Answer := requestsOnly fun _ _ => True

/-- Whatever is answered, a result that the program returns is good. -/
def Returns (good : History Effect Answer → Result → Prop)
    (program : Interaction Effect Answer Failure Result) (history : History Effect Answer) : Prop :=
  Meets anything (fun later outcome => ∀ result, outcome = .ok result → good later result) program
    history

section Returns

variable {good better : History Effect Answer → Result → Prop} {history : History Effect Answer}

theorem returns_returned {result : Result} (known : good history result) :
    Returns good (.returned result : Interaction Effect Answer Failure Result) history := by
  rintro returned ⟨⟩
  exact known

theorem returns_threw (failure : Failure) :
    Returns good (.threw failure : Interaction Effect Answer Failure Result) history := by
  intro result ended
  cases ended

theorem returns_of_except {outcome : Except Failure Result}
    (known : ∀ result, outcome = .ok result → good history result) :
    Returns good (ofExcept outcome) history := by
  rw [Returns, meets_of_except]
  exact known

theorem returns_request {effect : Effect}
    {next : Answer effect → Interaction Effect Answer Failure Result}
    (continues : ∀ given, Returns good (next given) (⟨effect, given⟩ :: history)) :
    Returns good (.request effect next) history :=
  ⟨trivial, fun given _ => continues given⟩

theorem Returns.weaken {program : Interaction Effect Answer Failure Result}
    (returns : Returns better program history)
    (implies : ∀ later result, better later result → good later result) :
    Returns good program history := by
  apply Meets.weaken returns
  intro later outcome known result ended
  exact implies later result (known result ended)

theorem Returns.and {program : Interaction Effect Answer Failure Result}
    (first : Returns good program history) (second : Returns better program history) :
    Returns (fun later result => good later result ∧ better later result) program history := by
  induction program generalizing history with
  | returned result => exact returns_returned ⟨first result rfl, second result rfl⟩
  | threw failure => exact returns_threw failure
  | request effect next ih =>
      apply returns_request
      intro given
      exact ih given (first.2 given trivial) (second.2 given trivial)

theorem Returns.attempt {program : Interaction Effect Answer Failure Result}
    (returns : Returns good program history) :
    Returns (fun later outcome => ∀ result, outcome = .ok result → good later result)
      program.attempt history := by
  rw [Returns, meets_attempt]
  apply Meets.weaken returns
  rintro later outcome known _ ⟨⟩
  exact known

theorem Returns.bind {program : Interaction Effect Answer Failure Other}
    {continuation : Other → Interaction Effect Answer Failure Result}
    {middle : History Effect Answer → Other → Prop} (returns : Returns middle program history)
    (continues : ∀ later result, middle later result → Returns good (continuation result) later) :
    Returns good (program >>= continuation) history := by
  apply Meets.bind returns
  · intro later result known
    exact continues later result (known result rfl)
  · intro later failure _ result ended
    cases ended

/-- Answers are only ever added. -/
theorem returns_growing (program : Interaction Effect Answer Failure Result)
    (history : History Effect Answer) :
    Returns (fun later _ => history <:+ later) program history := by
  induction program generalizing history with
  | returned result => exact returns_returned List.suffix_rfl
  | threw failure => exact returns_threw failure
  | request effect next ih =>
      apply returns_request
      intro given
      apply (ih given _).weaken
      intro later result grown
      exact (List.suffix_cons _ _).trans grown

theorem Returns.handle {program : Interaction Effect Answer Failure Result}
    {handler : Failure → Interaction Effect Answer Failure Result}
    (returns : Returns good program history)
    (handled : ∀ later failure, Returns good (handler failure) later) :
    Returns good (program.handle handler) history := by
  rw [Returns, meets_handle]
  apply Meets.weaken returns
  intro later outcome known
  cases outcome with
  | ok result => exact known
  | error failure => exact handled later failure

end Returns

/-- Whatever is answered, the program returns only after such an effect. -/
def Performs (such : Effect → Prop) (program : Interaction Effect Answer Failure Result) : Prop :=
  ∀ history, Returns (fun later _ => ∃ event ∈ later, such event.1) program history

section Performs

variable {such : Effect → Prop}

theorem performs_threw (failure : Failure) :
    Performs such (.threw failure : Interaction Effect Answer Failure Result) :=
  fun _ => returns_threw failure

theorem performs_request {effect : Effect} (one : such effect)
    (next : Answer effect → Interaction Effect Answer Failure Result) :
    Performs such (.request effect next) := by
  intro history
  apply returns_request
  intro given
  apply (returns_growing (next given) _).weaken
  intro later result grown
  exact ⟨_, grown.subset List.mem_cons_self, one⟩

theorem Performs.bind {program : Interaction Effect Answer Failure Other}
    (performs : Performs such program)
    (continuation : Other → Interaction Effect Answer Failure Result) :
    Performs such (program >>= continuation) := by
  intro history
  apply (performs history).bind
  rintro middle result ⟨event, member, one⟩
  apply (returns_growing (continuation result) middle).weaken
  intro later _ grown
  exact ⟨event, grown.subset member, one⟩

theorem performs_bind {program : Interaction Effect Answer Failure Other}
    {continuation : Other → Interaction Effect Answer Failure Result}
    (performs : ∀ result, Performs such (continuation result)) :
    Performs such (program >>= continuation) := by
  intro history
  apply (returns_growing program history).bind
  exact fun later result _ => performs result later

theorem performs_lift_bind {outcome : Except Failure Other}
    {continuation : Other → Interaction Effect Answer Failure Result}
    (performs : ∀ result, outcome = .ok result → Performs such (continuation result)) :
    Performs such (liftM outcome >>= continuation) := by
  cases outcome with
  | ok result => exact performs result rfl
  | error failure => exact performs_threw failure

theorem Performs.handle {program : Interaction Effect Answer Failure Result}
    {handler : Failure → Interaction Effect Answer Failure Result}
    (performs : Performs such program) (handled : ∀ failure, Performs such (handler failure)) :
    Performs such (program.handle handler) :=
  fun history => (performs history).handle fun later failure => handled failure later

theorem Performs.follows {contract : Contract Effect Answer}
    {program : Interaction Effect Answer Failure Result} {history : History Effect Answer}
    {result : Result} (performs : Performs such program)
    (run : Follows contract program history (.returned result)) :
    ∃ event ∈ history, such event.1 := by
  have free : Follows anything program history (.returned result) :=
    run.mono fun _ _ _ _ => trivial
  exact Meets.follows (performs []) free result rfl

end Performs

/-- Whatever is answered, a failure that the program throws is such a one. -/
def Throws (such : Failure → Prop) (program : Interaction Effect Answer Failure Result)
    (history : History Effect Answer) : Prop :=
  Meets anything (fun _ outcome => ∀ failure, outcome = .error failure → such failure) program
    history

section Throws

variable {such : Failure → Prop} {history : History Effect Answer}

theorem throws_returned (result : Result) :
    Throws such (.returned result : Interaction Effect Answer Failure Result) history := by
  intro failure ended
  cases ended

theorem throws_threw {failure : Failure} (known : such failure) :
    Throws such (.threw failure : Interaction Effect Answer Failure Result) history := by
  rintro thrown ⟨⟩
  exact known

theorem throws_request {effect : Effect}
    {next : Answer effect → Interaction Effect Answer Failure Result}
    (continues : ∀ given, Throws such (next given) (⟨effect, given⟩ :: history)) :
    Throws such (.request effect next) history :=
  ⟨trivial, fun given _ => continues given⟩

theorem Throws.bind {program : Interaction Effect Answer Failure Other}
    {continuation : Other → Interaction Effect Answer Failure Result}
    (throws : Throws such program history)
    (continues : ∀ later result, Throws such (continuation result) later) :
    Throws such (program >>= continuation) history := by
  apply Meets.bind throws
  · intro later result _
    exact continues later result
  · intro later failure known thrown ended
    exact known thrown (by cases ended; rfl)

theorem throws_handle {program : Interaction Effect Answer Failure Result}
    {handler : Failure → Interaction Effect Answer Failure Result}
    (handled : ∀ later failure, Throws such (handler failure) later) :
    Throws such (program.handle handler) history := by
  induction program generalizing history with
  | returned result => exact throws_returned result
  | threw failure => exact handled history failure
  | request effect next ih => exact throws_request fun given => ih given

theorem Throws.interpret {Finer : Type} {FinerAnswer : Finer → Type}
    {carryOut : (effect : Effect) → Interaction Finer FinerAnswer Failure (Answer effect)}
    {program : Interaction Effect Answer Failure Result} {fine : History Finer FinerAnswer}
    (throws : Throws such program history)
    (carriesOut : ∀ effect later, Throws such (carryOut effect) later) :
    Throws such (program.interpret carryOut) fine := by
  induction program generalizing history fine with
  | returned result => exact throws_returned result
  | threw failure => exact throws_threw (throws failure rfl)
  | request effect next ih =>
      apply (carriesOut effect fine).bind
      intro later given
      exact ih given (throws.2 given trivial)

/-- A handler that passes on what the first part throws belongs to the rest. -/
theorem Throws.handle_bind {program : Interaction Effect Answer Failure Other}
    {continuation : Other → Interaction Effect Answer Failure Result}
    {handler : Failure → Interaction Effect Answer Failure Result}
    (throws : Throws (fun failure => handler failure = .threw failure) program history) :
    (program >>= continuation).handle handler =
      program >>= fun result => (continuation result).handle handler := by
  change (program.bind continuation).handle handler = program.bind _
  induction program generalizing history with
  | returned result => rfl
  | threw failure => exact throws failure rfl
  | request effect next ih =>
      rw [Interaction.bind, Interaction.handle, Interaction.bind]
      congr
      funext given
      exact ih given (throws.2 given trivial)

end Throws

theorem Ends.post {program : Interaction Effect Answer Failure Result}
    {post : History Effect Answer → Except Failure Result → Prop}
    {history : History Effect Answer} {outcome : Except Failure Result}
    (ended : Ends program history outcome) (met : Meets anything post program []) :
    post history outcome := by
  have reached := met.follows ended.follows
  rw [meets_of_except] at reached
  exact reached

theorem Ends.returned {program : Interaction Effect Answer Failure Result}
    {good : History Effect Answer → Result → Prop} {history : History Effect Answer}
    {result : Result} (ended : Ends program history (.ok result))
    (returns : Returns good program []) : good history result :=
  ended.post returns result rfl

theorem ends_returned {result : Result} {history : History Effect Answer}
    {outcome : Except Failure Result}
    (ended : Ends (.returned result : Interaction Effect Answer Failure Result) history outcome) :
    outcome = .ok result := by
  have met : Meets anything (fun _ outcome => outcome = .ok result)
      (.returned result : Interaction Effect Answer Failure Result) [] := rfl
  exact ended.post met

theorem ends_threw {failure : Failure} {history : History Effect Answer}
    {outcome : Except Failure Result}
    (ended : Ends (.threw failure : Interaction Effect Answer Failure Result) history outcome) :
    outcome = .error failure := by
  have met : Meets anything (fun _ outcome => outcome = .error failure)
      (.threw failure : Interaction Effect Answer Failure Result) [] := rfl
  exact ended.post met

/-- A run that has been answered a request has reached that request. -/
theorem Reaches.asked {program current : Interaction Effect Answer Failure Result}
    {history earlier : History Effect Answer} {effect : Effect} {given : Answer effect}
    (run : Reaches program history current) (answered : ⟨effect, given⟩ :: earlier <:+ history) :
    ∃ next, Reaches program earlier (.request effect next) := by
  induction run with
  | start => cases List.suffix_nil.1 answered
  | @answer history asked next prior answer ih =>
      rcases List.suffix_cons_iff.1 answered with last | before
      · cases last
        exact ⟨next, prior⟩
      · exact ih before

/-- Whatever is answered, a program that meets a request condition obeys it at every request. -/
theorem Reaches.request_allowed {program : Interaction Effect Answer Failure Result}
    {allowed : History Effect Answer → Effect → Prop}
    {post : History Effect Answer → Except Failure Result → Prop}
    {history : History Effect Answer} {effect : Effect}
    {next : Answer effect → Interaction Effect Answer Failure Result}
    (met : Meets (requestsOnly allowed) post program [])
    (run : Reaches program history (.request effect next)) : allowed history effect :=
  (met.follows run.follows).1

end Interaction

end CryptoDeal
