import CryptoDeal.Library.Interaction

/-!
# Programs on shared state

One program among others that use the same state. Its requests are performed
on the state, one atomic step each, and between two of them the others may
interfere. A program that meets a contract may be run so if the state keeps an
invariant that, at every moment, makes the answers satisfy the contract.

Facts about the end of a run, such as all that was ever reported, are allowed
in the contract: `covers` says that a fact holds of a state, and it holds of
every earlier state too.
-/

namespace CryptoDeal.Interaction

variable {Effect : Type} {Answer : Effect → Type} {Failure Result State : Type}

structure SharedSystem (Effect : Type) (Answer : Effect → Type) (State : Type) where
  performs : State → (effect : Effect) → Answer effect → State → Prop
  interferes : State → State → Prop

/-- The states that a run of the program leads to, with its history so far. -/
inductive SharedRun (system : SharedSystem Effect Answer State) (start : State)
    (program : Interaction Effect Answer Failure Result) :
    History Effect Answer → State → Interaction Effect Answer Failure Result → Prop where
  | start : SharedRun system start program [] start program
  | act {history : History Effect Answer} {state after : State} {effect : Effect}
      {next : Answer effect → Interaction Effect Answer Failure Result}
      (prior : SharedRun system start program history state (.request effect next))
      (answer : Answer effect) (performed : system.performs state effect answer after) :
      SharedRun system start program (⟨effect, answer⟩ :: history) after (next answer)
  | interfere {history : History Effect Answer} {state after : State}
      {current : Interaction Effect Answer Failure Result}
      (prior : SharedRun system start program history state current)
      (interfered : system.interferes state after) :
      SharedRun system start program history after current

/-- The state side of a contract. -/
structure Guarantees (system : SharedSystem Effect Answer State)
    (contract : Contract Effect Answer) (covers : State → Prop)
    (invariant : History Effect Answer → State → Prop) : Prop where
  covers_before_act : ∀ {state after effect} {answer : Answer effect},
    system.performs state effect answer after → covers after → covers state
  covers_before_interference : ∀ {state after},
    system.interferes state after → covers after → covers state
  act : ∀ {history state after effect} {answer : Answer effect},
    invariant history state → contract.requires history effect →
    system.performs state effect answer after → covers after →
    contract.ensures history effect answer ∧ invariant (⟨effect, answer⟩ :: history) after
  interfere : ∀ {history state after},
    invariant history state → system.interferes state after → covers after →
    invariant history after

variable {system : SharedSystem Effect Answer State} {contract : Contract Effect Answer}
  {covers : State → Prop} {invariant : History Effect Answer → State → Prop}
  {post : History Effect Answer → Except Failure Result → Prop}

theorem SharedRun.meets {start : State} {program : Interaction Effect Answer Failure Result}
    (guarantees : Guarantees system contract covers invariant) (initially : invariant [] start)
    (met : Meets contract post program []) {history : History Effect Answer} {state : State}
    {current : Interaction Effect Answer Failure Result}
    (run : SharedRun system start program history state current) (covered : covers state) :
    Meets contract post current history ∧ invariant history state := by
  induction run with
  | start => exact ⟨met, initially⟩
  | act _ answer performed ih =>
      have before := ih (guarantees.covers_before_act performed covered)
      have kept := guarantees.act before.2 before.1.1 performed covered
      exact ⟨before.1.2 answer kept.1, kept.2⟩
  | interfere _ interfered ih =>
      have before := ih (guarantees.covers_before_interference interfered covered)
      exact ⟨before.1, guarantees.interfere before.2 interfered covered⟩

/-- A condition on what the program requests holds in any environment. -/
theorem SharedRun.keeps_requests {start : State}
    {allowed : History Effect Answer → Effect → Prop}
    {program : Interaction Effect Answer Failure Result}
    (met : Meets (requestsOnly allowed) post program []) {history : History Effect Answer}
    {state : State} {current : Interaction Effect Answer Failure Result}
    (run : SharedRun system start program history state current) :
    Meets (requestsOnly allowed) post current history := by
  induction run with
  | start => exact met
  | act _ answer _ ih => exact ih.2 answer trivial
  | interfere _ _ ih => exact ih

/-- A run goes on from where another one led. -/
theorem SharedRun.trans {start middle after : State}
    {program between current : Interaction Effect Answer Failure Result}
    {earlier later : History Effect Answer}
    (first : SharedRun system start program earlier middle between)
    (second : SharedRun system middle between later after current) :
    SharedRun system start program (later ++ earlier) after current := by
  induction second with
  | start => exact first
  | act _ answer performed ih => exact ih.act answer performed
  | interfere _ interfered ih => exact ih.interfere interfered

/-! ## Running alone -/

/-- Run the program undisturbed until it ends or is blocked. -/
def runAlone (perform : State → (effect : Effect) → Option (Answer effect × State)) :
    Interaction Effect Answer Failure Result → History Effect Answer → State →
      History Effect Answer × State × Interaction Effect Answer Failure Result
  | .returned result, history, state => (history, state, .returned result)
  | .threw failure, history, state => (history, state, .threw failure)
  | .request effect next, history, state =>
      match perform state effect with
      | some (answer, after) => runAlone perform (next answer) (⟨effect, answer⟩ :: history) after
      | none => (history, state, .request effect next)

theorem SharedRun.run_alone {start : State}
    {perform : State → (effect : Effect) → Option (Answer effect × State)}
    (performs : ∀ {state effect answer after}, perform state effect = some (answer, after) →
      system.performs state effect answer after)
    {program : Interaction Effect Answer Failure Result} {history : History Effect Answer}
    {state : State} {current : Interaction Effect Answer Failure Result}
    (run : SharedRun system start program history state current) :
    SharedRun system start program (runAlone perform current history state).1
      (runAlone perform current history state).2.1
      (runAlone perform current history state).2.2 := by
  induction current generalizing history state with
  | returned result => exact run
  | threw failure => exact run
  | request effect next ih =>
      cases performed : perform state effect with
      | none =>
          simp only [runAlone, performed]
          exact run
      | some step =>
          simp only [runAlone, performed]
          exact ih step.1 (run.act step.1 (performs performed))

/-- A sequence alone is its first part alone, then the rest from where that ended. -/
theorem run_alone_bind {Other : Type}
    {perform : State → (effect : Effect) → Option (Answer effect × State)}
    {program : Interaction Effect Answer Failure Other}
    {continuation : Other → Interaction Effect Answer Failure Result}
    {history : History Effect Answer} {state : State} :
    runAlone perform (program >>= continuation) history state =
      runAlone perform ((runAlone perform program history state).2.2 >>= continuation)
        (runAlone perform program history state).1
        (runAlone perform program history state).2.1 := by
  change runAlone perform (program.bind continuation) history state =
    runAlone perform ((runAlone perform program history state).2.2.bind continuation) _ _
  induction program generalizing history state with
  | returned result => rfl
  | threw failure => rfl
  | request effect next ih =>
      cases performed : perform state effect with
      | none => simp only [Interaction.bind, runAlone, performed]
      | some step => simp only [Interaction.bind, runAlone, performed, ih]

end CryptoDeal.Interaction
