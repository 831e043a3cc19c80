import Mathlib.Logic.Basic
import Mathlib.Tactic.ByContra

/-!
# A mutex

The flag of a mutex and the parties that hold it: at most one does, and the
flag says whether one does. A party that takes the mutex when it is free, gives
back what it holds or leaves it alone keeps that.
-/

namespace CryptoDeal

variable {Party : Type}

/-- At most one party holds the mutex, which is locked exactly while one does. -/
structure Guarded (locked : Bool) (holds : Party → Prop) : Prop where
  exclusive : ∀ {first second}, holds first → holds second → first = second
  locked_iff : locked = true ↔ ∃ party, holds party

/-- What one step of a party does to the mutex. -/
inductive MutexStep (locked lockedAfter : Bool) (held holds : Prop) : Prop where
  | takes (free : locked = false) (taken : lockedAfter = true) (now : holds)
  | gives (own : held) (free : lockedAfter = false) (released : ¬ holds)
  | keeps (same : holds ↔ held) (unchanged : lockedAfter = locked)

theorem guarded_free : Guarded false fun _ : Party => False where
  exclusive := False.elim
  locked_iff := ⟨fun raised => Bool.noConfusion raised, fun ⟨_, held⟩ => held.elim⟩

variable {locked lockedAfter : Bool} {held holds : Party → Prop} {actor : Party}

theorem Guarded.nobody (guarded : Guarded locked held) (free : locked = false) (party : Party) :
    ¬ held party := by
  intro holding
  have raised := guarded.locked_iff.mpr ⟨party, holding⟩
  rw [free] at raised
  cases raised

theorem Guarded.outside (guarded : Guarded locked held) {other : Party} (apart : other ≠ actor)
    (holding : held other) : ¬ held actor :=
  fun own => apart (guarded.exclusive holding own)

theorem Guarded.step (guarded : Guarded locked held)
    (others : ∀ other, other ≠ actor → (holds other ↔ held other))
    (stepped : MutexStep locked lockedAfter (held actor) (holds actor)) :
    Guarded lockedAfter holds := by
  cases stepped with
  | takes free taken now =>
      have only (party : Party) (holding : holds party) : party = actor := by
        by_contra apart
        exact guarded.nobody free party ((others party apart).mp holding)
      exact ⟨fun first second => (only _ first).trans (only _ second).symm,
        iff_of_true taken ⟨actor, now⟩⟩
  | gives own free released =>
      have none (party : Party) : ¬ holds party := by
        intro holding
        by_cases same : party = actor
        · rw [same] at holding
          exact released holding
        · exact guarded.outside same ((others party same).mp holding) own
      refine ⟨fun first _ => absurd first (none _), iff_of_false ?_ fun ⟨party, holding⟩ =>
        none party holding⟩
      rw [free]
      exact Bool.false_ne_true
  | keeps same unchanged =>
      have all (party : Party) : holds party ↔ held party := by
        by_cases own : party = actor
        · rw [own]
          exact same
        · exact others party own
      refine ⟨fun first second => guarded.exclusive ((all _).mp first) ((all _).mp second), ?_⟩
      rw [unchanged, guarded.locked_iff]
      exact exists_congr fun party => (all party).symm

end CryptoDeal
