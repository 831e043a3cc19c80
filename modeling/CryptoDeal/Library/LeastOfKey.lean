import Mathlib.Data.Finset.Insert
import Mathlib.Data.List.Sort

/-!
# One item for each key

Sort a list by rank, then keep of each key the first item: what is left is, for
each key, the item of least rank. It depends on the members of the list alone,
so neither their order nor repetitions matter.
-/

namespace CryptoDeal.LeastOfKey

variable {Item Key Rank : Type} [DecidableEq Key] [LinearOrder Rank]

/-- Erase the items whose key was seen, from the front on. -/
def eraseSeen (key : Item → Key) (seen : Finset Key) : List Item → List Item
  | [] => []
  | item :: items =>
      if key item ∈ seen then eraseSeen key seen items
      else item :: eraseSeen key (insert (key item) seen) items

/-- An item of the list that none of its key comes before. -/
structure IsLeastOfKey (key : Item → Key) (rank : Item → Rank) (items : List Item) (item : Item) :
    Prop where
  member : item ∈ items
  least : ∀ other ∈ items, key other = key item → rank item ≤ rank other

variable {key : Item → Key} {rank : Item → Rank} {seen : Finset Key} {items : List Item}
  {item : Item}

theorem erase_seen_sublist : (eraseSeen key seen items).Sublist items := by
  induction items generalizing seen with
  | nil => exact .slnil
  | cons first items ih =>
      rw [eraseSeen]
      split_ifs
      · exact ih.cons first
      · exact ih.cons_cons first

theorem erase_seen_unseen (member : item ∈ eraseSeen key seen items) : key item ∉ seen := by
  induction items generalizing seen with
  | nil => cases member
  | cons first items ih =>
      rw [eraseSeen] at member
      split_ifs at member with known
      · exact ih member
      · rcases List.mem_cons.1 member with rfl | later
        · exact known
        · exact fun inside => ih later (Finset.mem_insert_of_mem inside)

theorem erase_seen_distinct : ((eraseSeen key seen items).map key).Nodup := by
  induction items generalizing seen with
  | nil => exact List.nodup_nil
  | cons first items ih =>
      rw [eraseSeen]
      split_ifs
      · exact ih
      · rw [List.map_cons, List.nodup_cons]
        refine ⟨?_, ih⟩
        intro repeated
        obtain ⟨other, member, same⟩ := List.mem_map.1 repeated
        exact erase_seen_unseen member (same ▸ Finset.mem_insert_self _ _)

/-- No key is lost. -/
theorem erase_seen_keeps (seen : Finset Key) (member : item ∈ items) (unseen : key item ∉ seen) :
    ∃ kept ∈ eraseSeen key seen items, key kept = key item := by
  induction items generalizing seen with
  | nil => cases member
  | cons first items ih =>
      rw [eraseSeen]
      split_ifs with known
      · rcases List.mem_cons.1 member with rfl | later
        · exact absurd known unseen
        · exact ih seen later unseen
      · by_cases same : key first = key item
        · exact ⟨first, List.mem_cons_self, same⟩
        · have later : item ∈ items := by
            rcases List.mem_cons.1 member with rfl | later
            · exact absurd rfl same
            · exact later
          obtain ⟨kept, keptMember, keptSame⟩ := ih (insert (key first) seen) later
            (by simp [Ne.symm same, unseen])
          exact ⟨kept, List.mem_cons_of_mem _ keptMember, keptSame⟩

/-- In a list sorted by rank, the first item of a key is its least. -/
theorem erase_seen_least (sorted : items.Pairwise fun left right => rank left ≤ rank right)
    (kept : item ∈ eraseSeen key seen items) : IsLeastOfKey key rank items item := by
  induction items generalizing seen with
  | nil => cases kept
  | cons first items ih =>
      obtain ⟨below, rest⟩ := List.pairwise_cons.1 sorted
      rw [eraseSeen] at kept
      split_ifs at kept with known
      · have later := ih rest kept
        refine ⟨List.mem_cons_of_mem _ later.member, ?_⟩
        intro other member same
        rcases List.mem_cons.1 member with rfl | otherLater
        · exact absurd (same ▸ known) (erase_seen_unseen kept)
        · exact later.least other otherLater same
      · rcases List.mem_cons.1 kept with rfl | keptLater
        · refine ⟨List.mem_cons_self, ?_⟩
          intro other member _
          rcases List.mem_cons.1 member with rfl | otherLater
          · exact le_rfl
          · exact below other otherLater
        · have later := ih rest keptLater
          have unseen := erase_seen_unseen keptLater
          refine ⟨List.mem_cons_of_mem _ later.member, ?_⟩
          intro other member same
          rcases List.mem_cons.1 member with rfl | otherLater
          · exact absurd (same ▸ Finset.mem_insert_self _ _) unseen
          · exact later.least other otherLater same

/-! ## After a sort -/

section Sorted

variable {sorted : List Item}

/-- Sorted by rank, whatever the algorithm. -/
structure Sorts (rank : Item → Rank) (items sorted : List Item) : Prop where
  perm : sorted.Perm items
  pairwise : sorted.Pairwise fun left right => rank left ≤ rank right

theorem mem_erase_seen_iff (injective : Function.Injective rank)
    (sorts : Sorts rank items sorted) :
    item ∈ eraseSeen key ∅ sorted ↔ IsLeastOfKey key rank items item := by
  constructor
  · intro kept
    have least := erase_seen_least sorts.pairwise kept
    exact ⟨sorts.perm.mem_iff.1 least.member,
      fun other member => least.least other (sorts.perm.mem_iff.2 member)⟩
  · intro least
    obtain ⟨kept, keptMember, same⟩ := erase_seen_keeps ∅ (sorts.perm.mem_iff.2 least.member)
      (Finset.notMem_empty (key item))
    have keptLeast := erase_seen_least sorts.pairwise keptMember
    have equal : kept = item := injective (le_antisymm
      (keptLeast.least item (sorts.perm.mem_iff.2 least.member) same.symm)
      (least.least kept (sorts.perm.mem_iff.1 keptLeast.member) same))
    exact equal ▸ keptMember

/-- Distinct keys make the order strict. -/
theorem erase_seen_strict (injective : Function.Injective rank)
    (pairwise : sorted.Pairwise fun left right => rank left ≤ rank right) :
    (eraseSeen key seen sorted).Pairwise fun left right => rank left < rank right := by
  have ordered : (eraseSeen key seen sorted).Pairwise fun left right => rank left ≤ rank right :=
    pairwise.sublist erase_seen_sublist
  have distinct : (eraseSeen key seen sorted).Nodup := erase_seen_distinct.of_map key
  apply (ordered.and distinct).imp
  rintro left right ⟨below, apart⟩
  exact below.lt_of_ne fun same => apart (injective same)

/-- Two strictly sorted lists with the same members are one. -/
theorem strict_unique {first second : List Item}
    (firstStrict : first.Pairwise fun left right => rank left < rank right)
    (secondStrict : second.Pairwise fun left right => rank left < rank right)
    (same : ∀ item, item ∈ first ↔ item ∈ second) : first = second := by
  have : Std.Antisymm fun left right : Item => rank left < rank right :=
    ⟨fun left right below above => absurd above (lt_asymm below)⟩
  have : Std.Irrefl fun left right : Item => rank left < rank right :=
    ⟨fun item => lt_irrefl (rank item)⟩
  exact firstStrict.eq_of_mem_iff secondStrict same

end Sorted

end CryptoDeal.LeastOfKey
