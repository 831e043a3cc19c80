import CryptoDeal.Library.Interaction

/-!
# Programs that publish a value

Some effects of a program replace a value that others can read, and some report
the value that it has. A program publishes well if every replacement is an
advance, every report is of the present value, and the program does not return
while the last replacement is unreported.
-/

namespace CryptoDeal.Interaction

variable {Effect Value : Type} {Answer : Effect → Type} {Failure Result Other : Type}

/-- What an effect does to the value. -/
inductive Publishing (Value : Type) where
  | silent
  | stores (value : Value)
  | reports (value : Value)

section Publication

variable (publishing : Effect → Publishing Value) (advances : Value → Value → Prop)

/-- The value after a history that began with `initial`. -/
def storedValue (initial : Value) : History Effect Answer → Value
  | [] => initial
  | ⟨effect, _⟩ :: earlier =>
      match publishing effect with
      | .stores value => value
      | .silent | .reports _ => storedValue initial earlier

/-- Nothing was stored since the last report. -/
def isReported : History Effect Answer → Bool
  | [] => true
  | ⟨effect, _⟩ :: earlier =>
      match publishing effect with
      | .stores _ => false
      | .reports _ => true
      | .silent => isReported earlier

/-- What may be done to a value. -/
def Publishing.Allowed (held : Value) : Publishing Value → Prop
  | .silent => True
  | .stores value => advances held value
  | .reports value => value = held

def publication (initial : Value) : Contract Effect Answer :=
  requestsOnly fun history effect =>
    (publishing effect).Allowed advances (storedValue publishing initial history)

abbrev ReportedWhenReturned (later : History Effect Answer) (outcome : Except Failure Result) :
    Prop :=
  ∀ result, outcome = .ok result → isReported publishing later

/-- From here on, with the value that is held and whether it has been reported. -/
def Publishes (held : Value) (reported : Bool)
    (program : Interaction Effect Answer Failure Result) : Prop :=
  ∃ initial history,
    Meets (publication publishing advances initial) (ReportedWhenReturned publishing) program
        history ∧
      storedValue publishing initial history = held ∧ isReported publishing history = reported

end Publication

variable {publishing : Effect → Publishing Value} {advances : Value → Value → Prop}
  {held value : Value} {reported : Bool} {effect : Effect}
  {next : Answer effect → Interaction Effect Answer Failure Result}

theorem Meets.publishes {program : Interaction Effect Answer Failure Result} {initial : Value}
    (met : Meets (publication publishing advances initial) (ReportedWhenReturned publishing)
      program []) : Publishes publishing advances initial true program :=
  ⟨initial, [], met, rfl, rfl⟩

/-- A silent effect leaves everything as it is. -/
theorem Publishes.silent
    (publishes : Publishes publishing advances held reported (.request effect next))
    (silent : publishing effect = .silent) (answer : Answer effect) :
    Publishes publishing advances held reported (next answer) := by
  obtain ⟨initial, history, met, rfl, rfl⟩ := publishes
  refine ⟨initial, ⟨effect, answer⟩ :: history, met.2 answer trivial, ?_, ?_⟩
  · simp [storedValue, silent]
  · simp [isReported, silent]

theorem Publishes.stores
    (publishes : Publishes publishing advances held reported (.request effect next))
    (stores : publishing effect = .stores value) (answer : Answer effect) :
    advances held value ∧ Publishes publishing advances value false (next answer) := by
  obtain ⟨initial, history, met, rfl, rfl⟩ := publishes
  have allowed := met.1
  simp only [publication, requestsOnly, stores] at allowed
  refine ⟨allowed, initial, ⟨effect, answer⟩ :: history, met.2 answer trivial, ?_, ?_⟩
  · simp [storedValue, stores]
  · simp [isReported, stores]

theorem Publishes.reports
    (publishes : Publishes publishing advances held reported (.request effect next))
    (reports : publishing effect = .reports value) (answer : Answer effect) :
    value = held ∧ Publishes publishing advances held true (next answer) := by
  obtain ⟨initial, history, met, rfl, rfl⟩ := publishes
  have allowed := met.1
  simp only [publication, requestsOnly, reports] at allowed
  refine ⟨allowed, initial, ⟨effect, answer⟩ :: history, met.2 answer trivial, ?_, ?_⟩
  · simp [storedValue, reports]
  · simp [isReported, reports]

theorem Publishes.returned {result : Result}
    (publishes : Publishes publishing advances held reported
      (.returned result : Interaction Effect Answer Failure Result)) : reported = true := by
  obtain ⟨initial, history, met, rfl, rfl⟩ := publishes
  exact met result rfl

/-- A contract that allows no more, with the reports at the end known on their own. -/
theorem Meets.publication {contract : Contract Effect Answer}
    {post : History Effect Answer → Except Failure Result → Prop} {initial : Value}
    {program : Interaction Effect Answer Failure Result} {history : History Effect Answer}
    (met : Meets contract post program history)
    (allows : ∀ earlier effect, contract.requires earlier effect →
      (publishing effect).Allowed advances (storedValue publishing initial earlier))
    (free : ∀ earlier effect answer, contract.ensures earlier effect answer)
    (returns : Returns (fun later _ => isReported publishing later) program history) :
    Meets (publication publishing advances initial) (ReportedWhenReturned publishing) program
      history := by
  induction program generalizing history with
  | returned result => exact returns
  | threw failure => exact fun result ended => by cases ended
  | request effect next ih =>
      refine ⟨allows _ _ met.1, fun answer _ => ?_⟩
      exact ih answer (met.2 answer (free _ _ _)) (returns.2 answer trivial)

end CryptoDeal.Interaction
