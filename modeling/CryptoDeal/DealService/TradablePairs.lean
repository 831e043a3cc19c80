import CryptoDeal.Library.LeastOfKey
import CryptoDeal.OrderSession.Entry
import Mathlib.Data.Prod.Lex
import Mathlib.Data.String.Basic

/-!
# Tradable pairs

`filterAndSortTradablePairs` and the lists that both services pass to it. The
pairs are sorted by their assets, and repetitions of a symbol go by the order that
the sort left, so the assets decide which pair of a symbol stays.
-/

namespace CryptoDeal.DealService

open OrderSession LeastOfKey

def isTradablePairComplete (pair : TradablePair) : Bool :=
  pair.symbol ≠ "" && pair.baseAsset ≠ "" && pair.quoteAsset ≠ ""

/-- `std::tie` of a pair in the order of the comparison. -/
def sortKey (pair : TradablePair) : String ×ₗ String ×ₗ String :=
  toLex (pair.baseAsset, toLex (pair.quoteAsset, pair.symbol))

def isTradablePairOrderedBefore (left right : TradablePair) : Bool := sortKey left < sortKey right

def filterAndSortTradablePairs (pairs : List TradablePair) : List TradablePair :=
  let complete := pairs.filter isTradablePairComplete
  let sorted := complete.mergeSort fun left right => !isTradablePairOrderedBefore right left
  eraseSeen TradablePair.symbol ∅ sorted

/-! ## What the services list -/

namespace Bybit

structure InstrumentDto where
  symbol : Option String := none
  status : Option String := none
  baseCoin : Option String := none
  quoteCoin : Option String := none

/-- `list` is that of the response's result. -/
def getTradablePairs (list : Option (List InstrumentDto)) :
    Except ServiceFailure (List TradablePair) := do
  throwIf list.isNone "Missing result object"
  let pairs := (list.getD []).filterMap fun instrument =>
    if instrument.status.getD "" = "Trading" then some {
      symbol := instrument.symbol.getD ""
      baseAsset := instrument.baseCoin.getD ""
      quoteAsset := instrument.quoteCoin.getD "" }
    else none
  return filterAndSortTradablePairs pairs

end Bybit

namespace Binance

structure SymbolDto where
  symbol : String
  status : String
  baseAsset : String
  quoteAsset : String
  isSpotTradingAllowed : Option Bool := none

def getTradablePairs (symbols : List SymbolDto) : List TradablePair :=
  filterAndSortTradablePairs (symbols.filterMap fun symbol =>
    if symbol.status = "TRADING" ∧ symbol.isSpotTradingAllowed.getD false then some {
      symbol := symbol.symbol
      baseAsset := symbol.baseAsset
      quoteAsset := symbol.quoteAsset }
    else none)

end Binance

/-! ## The normal form -/

theorem sort_key_injective : Function.Injective sortKey := by
  rintro ⟨symbol, baseAsset, quoteAsset⟩ ⟨_, _, _⟩ same
  cases same
  rfl

/-- Between pairs of one symbol the assets decide. -/
theorem sort_key_le_iff {left right : TradablePair} (same : left.symbol = right.symbol) :
    sortKey left ≤ sortKey right ↔
      toLex (left.baseAsset, left.quoteAsset) ≤ toLex (right.baseAsset, right.quoteAsset) := by
  simp only [sortKey, Prod.Lex.toLex_le_toLex, same, le_refl, and_true]
  rw [le_iff_lt_or_eq]

/-- What the sort of the complete pairs is. -/
theorem sorted_complete_pairs (pairs : List TradablePair) :
    Sorts sortKey (pairs.filter isTradablePairComplete)
      ((pairs.filter isTradablePairComplete).mergeSort fun left right =>
        !isTradablePairOrderedBefore right left) where
  perm := List.mergeSort_perm _ _
  pairwise := by
    have notAfter : ∀ left right : TradablePair,
        (!isTradablePairOrderedBefore right left) = true ↔ sortKey left ≤ sortKey right := by
      intro left right
      simp [isTradablePairOrderedBefore]
    have sorted := List.pairwise_mergeSort
      (fun first second third below above => (notAfter first third).2
        (((notAfter first second).1 below).trans ((notAfter second third).1 above)))
      (fun left right => by
        rw [Bool.or_eq_true, notAfter, notAfter]
        exact le_total _ _)
      (pairs.filter isTradablePairComplete)
    exact sorted.imp (notAfter _ _).1

/-- The normal form of a list of pairs. -/
structure NormalisedPairs (pairs result : List TradablePair) : Prop where
  sorted : result.Pairwise fun left right => isTradablePairOrderedBefore left right
  complete : ∀ pair ∈ result, isTradablePairComplete pair
  distinct : (result.map TradablePair.symbol).Nodup
  symbols : ∀ symbol, symbol ∈ result.map TradablePair.symbol ↔
    ∃ pair ∈ pairs, isTradablePairComplete pair ∧ pair.symbol = symbol
  least : ∀ pair ∈ result, pair ∈ pairs ∧ ∀ other ∈ pairs, isTradablePairComplete other →
    other.symbol = pair.symbol →
      toLex (pair.baseAsset, pair.quoteAsset) ≤ toLex (other.baseAsset, other.quoteAsset)

variable {pairs other : List TradablePair}

theorem mem_filter_and_sort {pair : TradablePair} :
    pair ∈ filterAndSortTradablePairs pairs ↔
      IsLeastOfKey TradablePair.symbol sortKey (pairs.filter isTradablePairComplete) pair :=
  mem_erase_seen_iff sort_key_injective (sorted_complete_pairs pairs)

theorem filter_and_sort_strict :
    (filterAndSortTradablePairs pairs).Pairwise fun left right => sortKey left < sortKey right :=
  erase_seen_strict sort_key_injective (sorted_complete_pairs pairs).pairwise

theorem filter_and_sort_normalised : NormalisedPairs pairs (filterAndSortTradablePairs pairs) where
  sorted := filter_and_sort_strict.imp fun below => decide_eq_true below
  complete := by
    intro pair kept
    exact (List.mem_filter.1 (mem_filter_and_sort.1 kept).member).2
  distinct := erase_seen_distinct
  symbols := by
    intro symbol
    constructor
    · intro listed
      obtain ⟨pair, kept, same⟩ := List.mem_map.1 listed
      obtain ⟨member, complete⟩ := List.mem_filter.1 (mem_filter_and_sort.1 kept).member
      exact ⟨pair, member, complete, same⟩
    · rintro ⟨pair, member, complete, rfl⟩
      obtain ⟨kept, keptMember, same⟩ := erase_seen_keeps ∅
        ((sorted_complete_pairs pairs).perm.mem_iff.2 (List.mem_filter.2 ⟨member, complete⟩))
        (Finset.notMem_empty pair.symbol)
      exact List.mem_map.2 ⟨kept, keptMember, same⟩
  least := by
    intro pair kept
    obtain ⟨member, least⟩ := mem_filter_and_sort.1 kept
    refine ⟨(List.mem_filter.1 member).1, ?_⟩
    intro rival rivalMember complete same
    exact (sort_key_le_iff same.symm).1
      (least rival (List.mem_filter.2 ⟨rivalMember, complete⟩) same)

/-- Only the members of the list matter. -/
theorem filter_and_sort_congr (same : ∀ pair, pair ∈ pairs ↔ pair ∈ other) :
    filterAndSortTradablePairs pairs = filterAndSortTradablePairs other := by
  apply strict_unique filter_and_sort_strict filter_and_sort_strict
  intro pair
  have filtered : ∀ rival, rival ∈ pairs.filter isTradablePairComplete ↔
      rival ∈ other.filter isTradablePairComplete := by
    intro rival
    rw [List.mem_filter, List.mem_filter, same]
  rw [mem_filter_and_sort, mem_filter_and_sort]
  constructor
  · rintro ⟨member, least⟩
    exact ⟨(filtered pair).1 member, fun rival inside => least rival ((filtered rival).2 inside)⟩
  · rintro ⟨member, least⟩
    exact ⟨(filtered pair).2 member, fun rival inside => least rival ((filtered rival).1 inside)⟩

theorem filter_and_sort_idempotent :
    filterAndSortTradablePairs (filterAndSortTradablePairs pairs) =
      filterAndSortTradablePairs pairs := by
  apply strict_unique filter_and_sort_strict filter_and_sort_strict
  intro pair
  have kept : (filterAndSortTradablePairs pairs).filter isTradablePairComplete =
      filterAndSortTradablePairs pairs :=
    List.filter_eq_self.2 filter_and_sort_normalised.complete
  rw [mem_filter_and_sort, kept]
  constructor
  · exact IsLeastOfKey.member
  · intro member
    refine ⟨member, ?_⟩
    intro rival rivalMember same
    have equal : rival = pair :=
      List.inj_on_of_nodup_map erase_seen_distinct rivalMember member same
    exact equal ▸ le_rfl

/-- The order of the exchange's answer, and repetitions in it, do not matter. -/
theorem filter_and_sort_listed {Dto : Type} {pairOf : Dto → Option TradablePair}
    {first second : List Dto} (same : ∀ dto, dto ∈ first ↔ dto ∈ second) :
    filterAndSortTradablePairs (first.filterMap pairOf) =
      filterAndSortTradablePairs (second.filterMap pairOf) := by
  apply filter_and_sort_congr
  intro pair
  rw [List.mem_filterMap, List.mem_filterMap]
  exact exists_congr fun dto => and_congr_left' (same dto)

theorem Bybit.get_tradable_pairs_listed {first second : List Bybit.InstrumentDto}
    (same : ∀ instrument, instrument ∈ first ↔ instrument ∈ second) :
    Bybit.getTradablePairs (some first) = Bybit.getTradablePairs (some second) :=
  congrArg Except.ok (filter_and_sort_listed same)

theorem Binance.get_tradable_pairs_listed {first second : List Binance.SymbolDto}
    (same : ∀ symbol, symbol ∈ first ↔ symbol ∈ second) :
    Binance.getTradablePairs first = Binance.getTradablePairs second :=
  filter_and_sort_listed same

theorem tradable_pairs_normalised (pairs : List TradablePair) :
    NormalisedPairs pairs (filterAndSortTradablePairs pairs) ∧
      (∀ other, (∀ pair, pair ∈ pairs ↔ pair ∈ other) →
        filterAndSortTradablePairs other = filterAndSortTradablePairs pairs) ∧
      filterAndSortTradablePairs (filterAndSortTradablePairs pairs) =
        filterAndSortTradablePairs pairs :=
  ⟨filter_and_sort_normalised, fun _ same => (filter_and_sort_congr same).symm,
    filter_and_sort_idempotent⟩

end CryptoDeal.DealService
