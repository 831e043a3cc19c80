import Mathlib.Data.List.Nodup
import Mathlib.Logic.Function.Basic

/-!
# Tables that are revised row by row

A table is revised by a list of updates, one after the other: an update starts
the row of its key or revises the row that is there. If the later of two updates
of a key overrides the earlier, only the latest one of each key counts.
-/

namespace CryptoDeal.RevisedTable

variable {Key Row Update : Type} [DecidableEq Key] (keyOf : Update → Key)
  (revise : Option Row → Update → Row)

def put (table : Key → Option Row) (update : Update) : Key → Option Row :=
  Function.update table (keyOf update) (some (revise (table (keyOf update)) update))

def putAll (table : Key → Option Row) (updates : List Update) : Key → Option Row :=
  updates.foldl (put keyOf revise) table

/-- The last update of this key. -/
def latest (updates : List Update) (key : Key) : Option Update :=
  updates.reverse.find? fun update => keyOf update = key

/-- A later update of the same key leaves nothing of an earlier one. -/
def Overrides : Prop :=
  ∀ row first second, keyOf first = keyOf second →
    revise (some (revise row first)) second = revise row second

variable {keyOf revise} {table : Key → Option Row} {updates : List Update} {update : Update}
  {key : Key}

theorem latest_cons (updates : List Update) :
    latest keyOf (update :: updates) key =
      (latest keyOf updates key).or (if keyOf update = key then some update else none) := by
  simp only [latest, List.reverse_cons, List.find?_append, List.find?_singleton]
  by_cases same : keyOf update = key <;> simp [same]

theorem latest_key (found : latest keyOf updates key = some update) : keyOf update = key := by
  simpa using List.find?_some found

theorem latest_mem (found : latest keyOf updates key = some update) : update ∈ updates :=
  List.mem_reverse.1 (List.mem_of_find?_eq_some found)

theorem latest_eq_none_iff :
    latest keyOf updates key = none ↔ ∀ update ∈ updates, keyOf update ≠ key := by
  simp [latest]

theorem latest_of_mem (distinct : (updates.map keyOf).Nodup) (member : update ∈ updates) :
    latest keyOf updates (keyOf update) = some update := by
  cases found : latest keyOf updates (keyOf update) with
  | none => exact absurd rfl (latest_eq_none_iff.1 found update member)
  | some other =>
      rw [List.inj_on_of_nodup_map distinct (latest_mem found) member (latest_key found)]

theorem put_all_apply (overrides : Overrides keyOf revise) (table : Key → Option Row)
    (updates : List Update) (key : Key) :
    putAll keyOf revise table updates key =
      match latest keyOf updates key with
      | none => table key
      | some update => some (revise (table key) update) := by
  induction updates generalizing table with
  | nil => rfl
  | cons update updates ih =>
      rw [putAll, List.foldl_cons, ← putAll, ih, latest_cons]
      by_cases same : keyOf update = key
      · subst same
        cases found : latest keyOf updates (keyOf update) with
        | none => simp [put]
        | some later => simp [put, overrides _ _ _ (latest_key found).symm]
      · simp [put, same, Function.update_of_ne (Ne.symm same)]

/-- Nothing changes exactly if every key's latest update is what its row says already. -/
theorem put_all_eq_self_iff (overrides : Overrides keyOf revise) :
    putAll keyOf revise table updates = table ↔
      ∀ key update, latest keyOf updates key = some update →
        table key = some (revise (table key) update) := by
  rw [funext_iff]
  refine forall_congr' fun key => ?_
  rw [put_all_apply overrides]
  cases latest keyOf updates key with
  | none => simp
  | some update => simp [eq_comm]

end CryptoDeal.RevisedTable
