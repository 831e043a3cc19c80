import Mathlib.Data.List.Nodup
import Mathlib.Data.List.Sort

/-!
# Keyed rows

A list of rows that are found by a key. A row is written through its key, and
the list may be reordered: if the keys are distinct, neither changes what is
found under the others.
-/

namespace CryptoDeal.KeyedRows

variable {Row Key : Type} [DecidableEq Key] (key : Row → Key)

def find (wanted : Key) (rows : List Row) : Option Row :=
  rows.find? fun row => key row = wanted

/-- Put a row in the place of the one with its key. -/
def write (written : Row) (rows : List Row) : List Row :=
  rows.map fun row => if key row = key written then written else row

variable {key} {rows : List Row} {row : Row} {wanted : Key}

theorem find_mem (found : find key wanted rows = some row) : row ∈ rows :=
  List.mem_of_find?_eq_some found

theorem find_key (found : find key wanted rows = some row) : key row = wanted := by
  simpa using List.find?_some found

theorem find_eq_none_iff : find key wanted rows = none ↔ ∀ row ∈ rows, key row ≠ wanted := by
  simp [find]

theorem find_eq_some_iff (distinct : (rows.map key).Nodup) :
    find key wanted rows = some row ↔ row ∈ rows ∧ key row = wanted := by
  constructor
  · intro found
    exact ⟨find_mem found, find_key found⟩
  · rintro ⟨present, same⟩
    cases found : find key wanted rows with
    | none => exact absurd same (find_eq_none_iff.1 found row present)
    | some other =>
        have equal := List.inj_on_of_nodup_map distinct (find_mem found) present
          ((find_key found).trans same.symm)
        rw [equal]

theorem find_of_mem (distinct : (rows.map key).Nodup) (present : row ∈ rows) :
    find key (key row) rows = some row :=
  (find_eq_some_iff distinct).2 ⟨present, rfl⟩

theorem find_perm {reordered : List Row} (same : reordered.Perm rows)
    (distinct : (rows.map key).Nodup) : find key wanted reordered = find key wanted rows := by
  have distinctToo : (reordered.map key).Nodup := (same.map key).nodup_iff.2 distinct
  apply Option.ext
  intro row
  rw [find_eq_some_iff distinct, find_eq_some_iff distinctToo, same.mem_iff]

theorem find_append_of_ne {added : Row} (other : key added ≠ wanted) :
    find key wanted (rows ++ [added]) = find key wanted rows := by
  simp [find, List.find?_append, other]

theorem find_append_new {added : Row} (new : find key (key added) rows = none) :
    find key (key added) (rows ++ [added]) = some added := by
  rw [find] at new
  simp [find, List.find?_append, new]

section Write

variable {written : Row}

theorem map_key_write : (write key written rows).map key = rows.map key := by
  rw [write, List.map_map]
  apply List.map_congr_left
  intro row present
  simp only [Function.comp_apply]
  split_ifs with same
  · exact same.symm
  · rfl

theorem find_write : find key wanted (write key written rows) =
    if key written = wanted then (find key wanted rows).map fun _ => written
    else find key wanted rows := by
  induction rows with
  | nil => simp [find, write]
  | cons first rest ih =>
      simp only [find, write, List.map_cons, List.find?_cons] at ih ⊢
      by_cases same : key first = key written
      · rw [if_pos same]
        by_cases hit : key written = wanted
        · simp [hit, same]
        · simpa [hit, same] using ih
      · rw [if_neg same]
        by_cases hit : key first = wanted
        · have other : key written ≠ wanted := fun equal => same (hit.trans equal.symm)
          simp [hit, other]
        · simpa [hit] using ih

end Write

/-! ## Sorting -/

section Sorting

variable (before : Row → Row → Bool)

/-- Sort by a strict comparison. -/
def sort (rows : List Row) : List Row :=
  rows.insertionSort fun left right => before right left = false

variable {before}

theorem sort_perm : (sort before rows).Perm rows := List.perm_insertionSort _ rows

theorem find_sort (distinct : (rows.map key).Nodup) :
    find key wanted (sort before rows) = find key wanted rows :=
  find_perm sort_perm distinct

omit [DecidableEq Key] in
/-- If the comparison is a strict total order on the keys' rows, sorting sorts strictly. -/
theorem pairwise_sort
    (asymmetric : ∀ left right, before left right = true → before right left = false)
    (transitive : ∀ left middle right,
      before middle left = false → before right middle = false → before right left = false)
    (total : ∀ left right, key left ≠ key right →
      before left right = true ∨ before right left = true)
    (distinct : (rows.map key).Nodup) :
    (sort before rows).Pairwise fun left right => before left right = true := by
  let leads : Row → Row → Prop := fun left right => before right left = false
  have : Std.Total leads := by
    constructor
    intro left right
    cases first : before right left with
    | false => exact .inl first
    | true => exact .inr (asymmetric right left first)
  have : IsTrans Row leads := ⟨transitive⟩
  have sorted : (sort before rows).Pairwise leads := List.pairwise_insertionSort leads rows
  have apart : (sort before rows).Pairwise fun left right => key left ≠ key right := by
    rw [← List.pairwise_map]
    exact (sort_perm.map key).nodup_iff.2 distinct
  refine (sorted.and apart).imp ?_
  intro left right ordered
  rcases total left right ordered.2 with first | second
  · exact first
  · exact absurd ordered.1 (by simp [leads, second])

end Sorting

end CryptoDeal.KeyedRows
