import Mathlib.Order.BoundedOrder.Lattice
import Mathlib.Data.List.Perm.Basic

/-!
# Cells that only climb

A cell that takes offered values of a linear order of ranks: a value of the
lowest rank is always replaced, any other only by a strictly higher one. The
rank of the cell is the join of the ranks offered, so it does not depend on
the order of the offers.
-/

namespace CryptoDeal.RankedCell

variable {Value Rank : Type} [LinearOrder Rank] [OrderBot Rank] (rank : Value → Rank)

def cellRank : Option Value → Rank
  | none => ⊥
  | some value => rank value

def offer (cell : Option Value) (incoming : Value) : Option Value :=
  match cell with
  | none => some incoming
  | some current =>
      if rank current ≠ ⊥ ∧ rank incoming ≤ rank current then some current else some incoming

def offerAll (cell : Option Value) (offers : List Value) : Option Value :=
  offers.foldl (offer rank) cell

variable {rank}

theorem cell_rank_offer (cell : Option Value) (incoming : Value) :
    cellRank rank (offer rank cell incoming) = cellRank rank cell ⊔ rank incoming := by
  cases cell with
  | none => simp [offer, cellRank]
  | some current =>
      simp only [offer]
      by_cases kept : rank current ≠ ⊥ ∧ rank incoming ≤ rank current
      · rw [if_pos kept]
        simp [cellRank, kept.2]
      · rw [if_neg kept]
        have climbs : rank current ≤ rank incoming := by
          by_cases lowest : rank current = ⊥
          · rw [lowest]
            exact bot_le
          · exact (lt_of_not_ge fun below => kept ⟨lowest, below⟩).le
        simp [cellRank, climbs]

/-- An offer leaves the value of the cell or its own. -/
theorem offer_eq_some {cell : Option Value} {incoming value : Value}
    (held : offer rank cell incoming = some value) : value = incoming ∨ cell = some value := by
  cases cell with
  | none => exact .inl (Option.some.inj held).symm
  | some current =>
      simp only [offer] at held
      split_ifs at held with kept
      · exact .inr held
      · exact .inl (Option.some.inj held).symm

theorem cell_rank_offer_all (cell : Option Value) (offers : List Value) :
    cellRank rank (offerAll rank cell offers) =
      (offers.map rank).foldl (· ⊔ ·) (cellRank rank cell) := by
  induction offers generalizing cell with
  | nil => rfl
  | cons incoming offers ih =>
      simp only [offerAll, List.foldl_cons, List.map_cons] at ih ⊢
      rw [ih, cell_rank_offer]

/-- The order of the offers leaves no trace in the rank. -/
theorem cell_rank_offer_all_perm (cell : Option Value) {first second : List Value}
    (same : first.Perm second) :
    cellRank rank (offerAll rank cell first) = cellRank rank (offerAll rank cell second) := by
  rw [cell_rank_offer_all, cell_rank_offer_all]
  apply (same.map rank).foldl_eq'
  intro left _ right _ base
  exact sup_right_comm base left right

/-- Above the lowest rank, a value stays or gives way to a strictly higher one. -/
theorem offer_all_settled {current : Value} (settled : rank current ≠ ⊥) (offers : List Value) :
    offerAll rank (some current) offers = some current ∨
      ∃ later, offerAll rank (some current) offers = some later ∧ rank current < rank later := by
  induction offers generalizing current with
  | nil => exact .inl rfl
  | cons incoming offers ih =>
      simp only [offerAll, List.foldl_cons] at ih ⊢
      by_cases kept : rank incoming ≤ rank current
      · have unchanged : offer rank (some current) incoming = some current :=
          if_pos ⟨settled, kept⟩
        rw [unchanged]
        exact ih settled
      · have replaced : offer rank (some current) incoming = some incoming :=
          if_neg fun keeps => kept keeps.2
        have climbs : rank current < rank incoming := lt_of_not_ge kept
        rw [replaced]
        right
        rcases ih (bot_le.trans_lt climbs).ne' with stays | ⟨later, found, higher⟩
        · exact ⟨incoming, stays, climbs⟩
        · exact ⟨later, found, climbs.trans higher⟩

end CryptoDeal.RankedCell
