import CryptoDeal.OrderEntry.OrderEntryCatalogs
import Mathlib.Data.List.Nodup
import Mathlib.Logic.Relation

/-!
# Loads of the catalogs

What a load and a delivery do to the catalogs, and what holds of them in every
run: a load is in flight exactly while its state is `LOADING`, and what was
loaded stays.
-/

namespace CryptoDeal.OrderEntry

open DealService OrderSession

namespace OrderEntryCatalogs

/-! ## Starts of loads -/

/-- What `PairCatalog::loadCatalog` does. -/
inductive PairLoad (catalogs : OrderEntryCatalogs) (exchangerType : ExchangerType) :
    OrderEntryCatalogs → Bool → Prop
  | kept : PairLoad catalogs exchangerType catalogs false
  | started (unstarted : (catalogs.pairs exchangerType).loadStarted = false) :
      PairLoad catalogs exchangerType { catalogs with
        pairs := Function.update catalogs.pairs exchangerType
          { catalogs.pairs exchangerType with
            loadState := (catalogs.pairs exchangerType).loadState.startLoading
            loadStarted := true }
        tasks := catalogs.tasks ++ [.pairs exchangerType] } true

/-- What the functions of `BalanceCatalog` that start a load do. -/
inductive BalanceLoad (catalogs : OrderEntryCatalogs) (exchangerType : ExchangerType) :
    OrderEntryCatalogs → Bool → Prop
  | kept : BalanceLoad catalogs exchangerType catalogs false
  | started (idle : (catalogs.balances exchangerType).loadState.status ≠ .loading) :
      BalanceLoad catalogs exchangerType { catalogs with
        balances := Function.update catalogs.balances exchangerType
          { catalogs.balances exchangerType with
            loadState := (catalogs.balances exchangerType).loadState.startLoading }
        tasks := catalogs.tasks ++ [.balances exchangerType] } true

/-- What `loadSymbolInfo` and `retrySymbolInfo` do. -/
inductive SymbolLoad (status : UiTaskStatus) (catalogs : OrderEntryCatalogs)
    (exchangerType : ExchangerType) (symbol : String) : OrderEntryCatalogs → Bool → Prop
  | kept {after : OrderEntryCatalogs} (given : symbol ≠ "")
      (same : after = catalogs.writeSymbolEntry exchangerType symbol given
        (catalogs.symbolEntry exchangerType symbol)) :
      SymbolLoad status catalogs exchangerType symbol after false
  | started {after : OrderEntryCatalogs} {entry : SymbolInfoEntry} (given : symbol ≠ "")
      (old : catalogs.symbolEntry exchangerType symbol = entry)
      (due : entry.loadState.status = status) (idle : entry.loadState.status ≠ .loading)
      (find : ∀ asked name, after.symbolInfos.find asked name =
        if asked = exchangerType ∧ name = symbol
        then some { entry with loadState := entry.loadState.startLoading }
        else catalogs.symbolInfos.find asked name)
      (pairs : after.pairs = catalogs.pairs) (balances : after.balances = catalogs.balances)
      (stopping : after.stopping = catalogs.stopping)
      (tasks : after.tasks = catalogs.tasks ++ [.symbolInfo exchangerType symbol exchangerType]) :
      SymbolLoad status catalogs exchangerType symbol after true

variable {status : UiTaskStatus} {catalogs after : OrderEntryCatalogs}
  {exchangerType : ExchangerType} {symbol : String} {started : Bool}

theorem load_catalog (catalogs : OrderEntryCatalogs) (exchangerType : ExchangerType) :
    PairLoad catalogs exchangerType (catalogs.loadCatalog exchangerType).1
      (catalogs.loadCatalog exchangerType).2 := by
  unfold loadCatalog
  dsimp only
  split_ifs with refused
  · exact .kept
  · simp only [Bool.or_eq_true, not_or, Bool.not_eq_true] at refused
    exact .started refused.1

theorem start_balance_load (catalogs : OrderEntryCatalogs) (exchangerType : ExchangerType) :
    BalanceLoad catalogs exchangerType (catalogs.startBalanceLoad exchangerType).1
      (catalogs.startBalanceLoad exchangerType).2 := by
  unfold startBalanceLoad
  dsimp only
  split_ifs with refused
  · exact .kept
  · simp only [refuses, UiTaskState.isLoading, Bool.or_eq_true, not_or,
      decide_eq_true_eq] at refused
    exact .started refused.2

theorem load_balances (catalogs : OrderEntryCatalogs) (exchangerType : ExchangerType) :
    BalanceLoad catalogs exchangerType (catalogs.loadBalances exchangerType).1
      (catalogs.loadBalances exchangerType).2 := by
  unfold loadBalances
  split_ifs
  · exact start_balance_load catalogs exchangerType
  · exact .kept

theorem retry_balances (catalogs : OrderEntryCatalogs) (exchangerType : ExchangerType) :
    BalanceLoad catalogs exchangerType (catalogs.retryBalances exchangerType).1
      (catalogs.retryBalances exchangerType).2 := by
  unfold retryBalances
  split_ifs
  · exact start_balance_load catalogs exchangerType
  · exact .kept

theorem refresh_balances (catalogs : OrderEntryCatalogs) (exchangerType : ExchangerType) :
    BalanceLoad catalogs exchangerType (catalogs.refreshBalances exchangerType).1
      (catalogs.refreshBalances exchangerType).2 := by
  unfold refreshBalances
  split_ifs
  · exact start_balance_load catalogs exchangerType
  · exact .kept

theorem load_symbol_info_from
    (loaded : loadSymbolInfoFrom status catalogs exchangerType symbol = .ok (after, started)) :
    SymbolLoad status catalogs exchangerType symbol after started := by
  unfold loadSymbolInfoFrom at loaded
  split_ifs at loaded with given
  dsimp only at loaded
  split_ifs at loaded with due
  · unfold startSymbolLoad at loaded
    split_ifs at loaded with refused
    · cases loaded
      exact .kept given rfl
    · cases loaded
      refine .started given rfl due ?_ (fun asked name => ?_) rfl rfl rfl rfl
      · simp only [refuses, UiTaskState.isLoading, Bool.or_eq_true, not_or,
          decide_eq_true_eq] at refused
        exact refused.2
      · simp only [writeSymbolEntry, SymbolInfoEntries.write]
        split_ifs <;> rfl
  · cases loaded
    exact .kept given rfl

theorem SymbolLoad.frame (load : SymbolLoad status catalogs exchangerType symbol after started) :
    after.pairs = catalogs.pairs ∧ after.balances = catalogs.balances := by
  cases load with
  | kept given same =>
      subst same
      exact ⟨rfl, rfl⟩
  | started _ _ _ _ _ pairs balances => exact ⟨pairs, balances⟩

/-- The entry is there afterwards, and it is loading if a load was started. -/
theorem SymbolLoad.entry (load : SymbolLoad status catalogs exchangerType symbol after started) :
    ∃ entry, after.symbolInfos.find exchangerType symbol = some entry ∧
      (started = true → entry.loadState.status = .loading) := by
  cases load with
  | kept given same =>
      subst same
      exact ⟨_, if_pos ⟨rfl, rfl⟩, nofun⟩
  | started given old due idle find => exact ⟨_, (find _ _).trans (if_pos ⟨rfl, rfl⟩), fun _ => rfl⟩

/-! ## Deliveries -/

def without (catalogs : OrderEntryCatalogs) (task : CatalogTask) : OrderEntryCatalogs :=
  { catalogs with tasks := catalogs.tasks.erase task }

/-- A step of a catalog, as far as it concerns the catalogs only. -/
inductive CatalogStep (answers : ExchangerType → String → SymbolInfo → Prop)
    (catalogs : OrderEntryCatalogs) : OrderEntryCatalogs → Prop
  | pairLoad {after : OrderEntryCatalogs} {exchangerType : ExchangerType} {started : Bool}
      (load : PairLoad catalogs exchangerType after started) : CatalogStep answers catalogs after
  | balanceLoad {after : OrderEntryCatalogs} {exchangerType : ExchangerType} {started : Bool}
      (load : BalanceLoad catalogs exchangerType after started) :
      CatalogStep answers catalogs after
  | symbolLoad {after : OrderEntryCatalogs} {status : UiTaskStatus}
      {exchangerType : ExchangerType} {symbol : String} {started : Bool}
      (due : status = .idle ∨ status = .failed)
      (load : SymbolLoad status catalogs exchangerType symbol after started) :
      CatalogStep answers catalogs after
  | stopped : CatalogStep answers catalogs { catalogs with stopping := true }
  | pairs {exchangerType : ExchangerType} (listed : List TradablePair)
      (inFlight : .pairs exchangerType ∈ catalogs.tasks) :
      CatalogStep answers catalogs
        (((catalogs.without (.pairs exchangerType)).storePairs exchangerType
          (filterAndSortTradablePairs listed)).setPairLoadState exchangerType
            (catalogs.pairs exchangerType).loadState.finishSuccessfully)
  | pairFailure {exchangerType : ExchangerType} (failure : String)
      (inFlight : .pairs exchangerType ∈ catalogs.tasks) :
      CatalogStep answers catalogs
        ((catalogs.without (.pairs exchangerType)).setPairLoadState exchangerType
          ((catalogs.pairs exchangerType).loadState.finishWithFailure failure))
  | balances {exchangerType : ExchangerType}
      (inFlight : .balances exchangerType ∈ catalogs.tasks) :
      CatalogStep answers catalogs
        (((catalogs.without (.balances exchangerType)).storeBalances
          exchangerType).setBalanceLoadState exchangerType
            (catalogs.balances exchangerType).loadState.finishSuccessfully)
  | balanceFailure {exchangerType : ExchangerType} (failure : String)
      (inFlight : .balances exchangerType ∈ catalogs.tasks) :
      CatalogStep answers catalogs
        ((catalogs.without (.balances exchangerType)).setBalanceLoadState exchangerType
          ((catalogs.balances exchangerType).loadState.finishWithFailure failure))
  | symbolInfo {exchangerType dealService : ExchangerType} {symbol : String}
      {symbolInfo : SymbolInfo}
      (inFlight : .symbolInfo exchangerType symbol dealService ∈ catalogs.tasks)
      (answered : answers dealService symbol symbolInfo) :
      CatalogStep answers catalogs
        ((catalogs.without (.symbolInfo exchangerType symbol dealService)).storeSymbolInfo
          exchangerType symbol symbolInfo)
  | symbolInfoFailure {exchangerType dealService : ExchangerType} {symbol : String}
      (failure : String)
      (inFlight : .symbolInfo exchangerType symbol dealService ∈ catalogs.tasks) :
      CatalogStep answers catalogs
        ((catalogs.without (.symbolInfo exchangerType symbol dealService)).failSymbolInfo
          exchangerType symbol failure)

/-- The state of the task's load is `LOADING`; rules are asked of the exchange itself. -/
def Loading (catalogs : OrderEntryCatalogs) : CatalogTask → Prop
  | .pairs exchangerType => (catalogs.pairs exchangerType).loadState.status = .loading
  | .balances exchangerType => (catalogs.balances exchangerType).loadState.status = .loading
  | .symbolInfo exchangerType symbol dealService => dealService = exchangerType ∧
      (catalogs.symbolEntry exchangerType symbol).loadState.status = .loading

/-- What holds of the catalogs in every run. -/
structure Sound (answers : ExchangerType → String → SymbolInfo → Prop)
    (catalogs : OrderEntryCatalogs) : Prop where
  distinct : catalogs.tasks.Nodup
  inFlight : ∀ task, task ∈ catalogs.tasks ↔ catalogs.Loading task
  pairsStarted : ∀ exchangerType, (catalogs.pairs exchangerType).loadStarted = true ↔
    (catalogs.pairs exchangerType).loadState.status ≠ .idle
  pairsListed : ∀ exchangerType, ∃ listed,
    (catalogs.pairs exchangerType).pairs = filterAndSortTradablePairs listed
  ruled : ∀ exchangerType symbol,
    (catalogs.symbolEntry exchangerType symbol).symbolInfo.isSome ↔
      (catalogs.symbolEntry exchangerType symbol).loadState.status = .succeeded
  answered : ∀ exchangerType symbol symbolInfo,
    (catalogs.symbolEntry exchangerType symbol).symbolInfo = some symbolInfo →
      answers exchangerType symbol symbolInfo

/-- What was loaded stays, and so does a failure of the pairs. -/
structure Later (catalogs after : OrderEntryCatalogs) : Prop where
  pairs : ∀ exchangerType,
    (catalogs.pairs exchangerType).loadState.status = .succeeded ∨
        (catalogs.pairs exchangerType).loadState.status = .failed →
      after.pairs exchangerType = catalogs.pairs exchangerType
  rules : ∀ exchangerType symbol entry,
    catalogs.symbolInfos.find exchangerType symbol = some entry →
      entry.loadState.status = .succeeded →
        after.symbolInfos.find exchangerType symbol = some entry
  snapshot : ∀ exchangerType, (catalogs.balances exchangerType).hasSuccessfulSnapshot = true →
    (after.balances exchangerType).hasSuccessfulSnapshot = true

section Runs

variable {answers : ExchangerType → String → SymbolInfo → Prop}
  {catalogs after : OrderEntryCatalogs}

theorem Later.refl (catalogs : OrderEntryCatalogs) : Later catalogs catalogs :=
  ⟨fun _ _ => rfl, fun _ _ _ found _ => found, fun _ ready => ready⟩

theorem Later.trans {middle : OrderEntryCatalogs} (first : Later catalogs middle)
    (second : Later middle after) : Later catalogs after where
  pairs exchangerType settled := by
    have same := first.pairs exchangerType settled
    rw [← same] at settled ⊢
    exact second.pairs exchangerType settled
  rules exchangerType symbol entry found loaded :=
    second.rules _ _ _ (first.rules _ _ _ found loaded) loaded
  snapshot exchangerType ready := second.snapshot _ (first.snapshot _ ready)

/-- A task that starts while its state is not `LOADING`. -/
theorem Sound.start_in_flight (sound : Sound answers catalogs) {loading : CatalogTask → Prop}
    (task : CatalogTask) (unstarted : ¬ catalogs.Loading task)
    (starts : ∀ other, loading other ↔ catalogs.Loading other ∨ other = task) :
    (catalogs.tasks ++ [task]).Nodup ∧
      ∀ other, other ∈ catalogs.tasks ++ [task] ↔ loading other := by
  have absent : task ∉ catalogs.tasks := mt (sound.inFlight task).1 unstarted
  refine ⟨?_, fun other => ?_⟩
  · rw [List.nodup_append]
    exact ⟨sound.distinct, List.nodup_singleton task, fun _ listed _ last same =>
      absent (List.mem_singleton.1 last ▸ same ▸ listed)⟩
  · rw [List.mem_append, List.mem_singleton, sound.inFlight, starts]

theorem Sound.delivery_in_flight (sound : Sound answers catalogs) {loading : CatalogTask → Prop}
    (task : CatalogTask)
    (settles : ∀ other, loading other ↔ other ≠ task ∧ catalogs.Loading other) :
    (catalogs.tasks.erase task).Nodup ∧
      ∀ other, other ∈ catalogs.tasks.erase task ↔ loading other := by
  refine ⟨sound.distinct.erase task, fun other => ?_⟩
  rw [sound.distinct.mem_erase_iff, sound.inFlight, settles]

/-! ### Pairs -/

variable {exchangerType : ExchangerType} {tasks : List CatalogTask}

theorem loading_pair_change {entry : PairCatalogEntry} (other : CatalogTask) :
    Loading { catalogs with
      pairs := Function.update catalogs.pairs exchangerType entry, tasks } other ↔
        (other = .pairs exchangerType ∧ entry.loadState.status = .loading) ∨
          (other ≠ .pairs exchangerType ∧ catalogs.Loading other) := by
  cases other with
  | pairs asked =>
      by_cases own : asked = exchangerType
      · subst own
        simp [Loading]
      · simp [Loading, own]
  | balances asked => simp [Loading]
  | symbolInfo asked symbol dealService => simp [Loading, symbolEntry]

theorem Sound.pair_change (sound : Sound answers catalogs) {entry : PairCatalogEntry}
    (inFlight : tasks.Nodup ∧ ∀ other, other ∈ tasks ↔ Loading { catalogs with
      pairs := Function.update catalogs.pairs exchangerType entry, tasks } other)
    (started : entry.loadStarted = true) (status : entry.loadState.status ≠ .idle)
    (listed : ∃ listed, entry.pairs = filterAndSortTradablePairs listed)
    (unsettled : (catalogs.pairs exchangerType).loadState.status = .idle ∨
      (catalogs.pairs exchangerType).loadState.status = .loading) :
    Sound answers { catalogs with
        pairs := Function.update catalogs.pairs exchangerType entry, tasks } ∧
      Later catalogs { catalogs with
        pairs := Function.update catalogs.pairs exchangerType entry, tasks } := by
  refine ⟨⟨inFlight.1, inFlight.2, fun asked => ?_, fun asked => ?_, sound.ruled, sound.answered⟩,
    ⟨fun asked settled => ?_, fun _ _ _ found _ => found, fun _ ready => ready⟩⟩
  · by_cases own : asked = exchangerType
    · subst own
      simpa [started] using status
    · simpa [own] using sound.pairsStarted asked
  · by_cases own : asked = exchangerType
    · subst own
      simpa using listed
    · simpa [own] using sound.pairsListed asked
  · refine Function.update_of_ne ?_ _ _
    rintro rfl
    rcases unsettled with status | status <;> simp [status] at settled

theorem pair_load_sound {started : Bool} (sound : Sound answers catalogs)
    (load : PairLoad catalogs exchangerType after started) :
    Sound answers after ∧ Later catalogs after := by
  cases load with
  | kept => exact ⟨sound, .refl catalogs⟩
  | started unstarted =>
      have idle : (catalogs.pairs exchangerType).loadState.status = .idle := by
        have never := mt (sound.pairsStarted exchangerType).2 (by simp [unstarted])
        simpa using never
      refine sound.pair_change (sound.start_in_flight (.pairs exchangerType) ?_ ?_) rfl
        (by simp [UiTaskState.startLoading]) (sound.pairsListed exchangerType) (.inl idle)
      · simp [Loading, idle]
      · intro other
        rw [loading_pair_change]
        by_cases own : other = .pairs exchangerType
        · simp [own, UiTaskState.startLoading]
        · simp [own]

theorem store_pairs_settled (pairs : List TradablePair) (loadState : UiTaskState) :
    (catalogs.storePairs exchangerType pairs).setPairLoadState exchangerType loadState =
      { catalogs with
        pairs := Function.update catalogs.pairs exchangerType
          { catalogs.pairs exchangerType with pairs, loadState } } := by
  simp [storePairs, setPairLoadState]

theorem pair_delivery_sound {entry : PairCatalogEntry} (sound : Sound answers catalogs)
    (inFlight : .pairs exchangerType ∈ catalogs.tasks)
    (started : entry.loadStarted = (catalogs.pairs exchangerType).loadStarted)
    (settled : entry.loadState.status = .succeeded ∨ entry.loadState.status = .failed)
    (listed : ∃ listed, entry.pairs = filterAndSortTradablePairs listed) :
    Sound answers { catalogs.without (.pairs exchangerType) with
        pairs := Function.update catalogs.pairs exchangerType entry } ∧
      Later catalogs { catalogs.without (.pairs exchangerType) with
        pairs := Function.update catalogs.pairs exchangerType entry } := by
  have loading : (catalogs.pairs exchangerType).loadState.status = .loading :=
    (sound.inFlight _).1 inFlight
  refine sound.pair_change (sound.delivery_in_flight (.pairs exchangerType) fun other => ?_)
    ?_ ?_ listed (.inr loading)
  · rw [loading_pair_change]
    rcases settled with status | status <;> simp [status]
  · rw [started]
    exact (sound.pairsStarted exchangerType).2 (by simp [loading])
  · rcases settled with status | status <;> simp [status]

/-! ### Balances -/

theorem loading_balance_change {entry : BalanceLoadEntry} (other : CatalogTask) :
    Loading { catalogs with
      balances := Function.update catalogs.balances exchangerType entry, tasks } other ↔
        (other = .balances exchangerType ∧ entry.loadState.status = .loading) ∨
          (other ≠ .balances exchangerType ∧ catalogs.Loading other) := by
  cases other with
  | pairs asked => simp [Loading]
  | balances asked =>
      by_cases own : asked = exchangerType
      · subst own
        simp [Loading]
      · simp [Loading, own]
  | symbolInfo asked symbol dealService => simp [Loading, symbolEntry]

theorem Sound.balance_change (sound : Sound answers catalogs) {entry : BalanceLoadEntry}
    (inFlight : tasks.Nodup ∧ ∀ other, other ∈ tasks ↔ Loading { catalogs with
      balances := Function.update catalogs.balances exchangerType entry, tasks } other)
    (snapshot : (catalogs.balances exchangerType).hasSuccessfulSnapshot = true →
      entry.hasSuccessfulSnapshot = true) :
    Sound answers { catalogs with
        balances := Function.update catalogs.balances exchangerType entry, tasks } ∧
      Later catalogs { catalogs with
        balances := Function.update catalogs.balances exchangerType entry, tasks } := by
  refine ⟨⟨inFlight.1, inFlight.2, sound.pairsStarted, sound.pairsListed, sound.ruled,
    sound.answered⟩, ⟨fun _ _ => rfl, fun _ _ _ found _ => found, fun asked ready => ?_⟩⟩
  by_cases own : asked = exchangerType
  · subst own
    simpa using snapshot ready
  · simpa [own] using ready

theorem balance_load_sound {started : Bool} (sound : Sound answers catalogs)
    (load : BalanceLoad catalogs exchangerType after started) :
    Sound answers after ∧ Later catalogs after := by
  cases load with
  | kept => exact ⟨sound, .refl catalogs⟩
  | started idle =>
      refine sound.balance_change (sound.start_in_flight (.balances exchangerType) idle ?_) id
      intro other
      rw [loading_balance_change]
      by_cases own : other = .balances exchangerType
      · simp [own, UiTaskState.startLoading]
      · simp [own]

theorem store_balances_settled (loadState : UiTaskState) :
    (catalogs.storeBalances exchangerType).setBalanceLoadState exchangerType loadState =
      { catalogs with
        balances := Function.update catalogs.balances exchangerType
          { loadState, hasSuccessfulSnapshot := true } } := by
  simp [storeBalances, setBalanceLoadState]

theorem balance_delivery_sound {entry : BalanceLoadEntry} (sound : Sound answers catalogs)
    (settled : entry.loadState.status ≠ .loading)
    (snapshot : (catalogs.balances exchangerType).hasSuccessfulSnapshot = true →
      entry.hasSuccessfulSnapshot = true) :
    Sound answers { catalogs.without (.balances exchangerType) with
        balances := Function.update catalogs.balances exchangerType entry } ∧
      Later catalogs { catalogs.without (.balances exchangerType) with
        balances := Function.update catalogs.balances exchangerType entry } := by
  refine sound.balance_change
    (sound.delivery_in_flight (.balances exchangerType) fun other => ?_) snapshot
  rw [loading_balance_change]
  simp [settled]

/-! ### Trading rules -/

variable {symbol : String} {entry : SymbolInfoEntry}

/-- One entry is written. -/
structure WritesEntry (catalogs after : OrderEntryCatalogs) (exchangerType : ExchangerType)
    (symbol : String) (entry : SymbolInfoEntry) : Prop where
  find : ∀ asked name, after.symbolInfos.find asked name =
    if asked = exchangerType ∧ name = symbol then some entry
    else catalogs.symbolInfos.find asked name
  pairs : after.pairs = catalogs.pairs
  balances : after.balances = catalogs.balances

theorem WritesEntry.symbol_entry (writes : WritesEntry catalogs after exchangerType symbol entry)
    (asked : ExchangerType) (name : String) :
    after.symbolEntry asked name =
      if asked = exchangerType ∧ name = symbol then entry else catalogs.symbolEntry asked name := by
  unfold symbolEntry
  rw [writes.find]
  split_ifs <;> rfl

theorem loading_entry_change (writes : WritesEntry catalogs after exchangerType symbol entry)
    (other : CatalogTask) :
    after.Loading other ↔
      (other = .symbolInfo exchangerType symbol exchangerType ∧
          entry.loadState.status = .loading) ∨
        (other ≠ .symbolInfo exchangerType symbol exchangerType ∧ catalogs.Loading other) := by
  cases other with
  | pairs asked => simp [Loading, writes.pairs]
  | balances asked => simp [Loading, writes.balances]
  | symbolInfo asked name dealService =>
      simp only [Loading, writes.symbol_entry]
      by_cases own : asked = exchangerType ∧ name = symbol
      · obtain ⟨rfl, rfl⟩ := own
        simp
        tauto
      · rw [if_neg own]
        have different : CatalogTask.symbolInfo asked name dealService ≠
            .symbolInfo exchangerType symbol exchangerType := by
          rintro ⟨⟩
          exact own ⟨rfl, rfl⟩
        simp [different]

theorem Sound.entry_change (sound : Sound answers catalogs)
    (writes : WritesEntry catalogs after exchangerType symbol entry)
    (inFlight : after.tasks.Nodup ∧ ∀ other, other ∈ after.tasks ↔ after.Loading other)
    (ruled : entry.symbolInfo.isSome ↔ entry.loadState.status = .succeeded)
    (answered : ∀ symbolInfo, entry.symbolInfo = some symbolInfo →
      answers exchangerType symbol symbolInfo)
    (kept : (catalogs.symbolEntry exchangerType symbol).loadState.status = .succeeded →
      entry = catalogs.symbolEntry exchangerType symbol) :
    Sound answers after ∧ Later catalogs after := by
  refine ⟨⟨inFlight.1, inFlight.2, ?_, ?_, fun asked name => ?_, fun asked name symbolInfo => ?_⟩,
    ⟨?_, fun asked name found listed loaded => ?_, ?_⟩⟩
  · rw [writes.pairs]
    exact sound.pairsStarted
  · rw [writes.pairs]
    exact sound.pairsListed
  · rw [writes.symbol_entry]
    split_ifs
    · exact ruled
    · exact sound.ruled asked name
  · rw [writes.symbol_entry]
    split_ifs with own
    · obtain ⟨rfl, rfl⟩ := own
      exact answered symbolInfo
    · exact sound.answered asked name symbolInfo
  · rw [writes.pairs]
    exact fun _ _ => rfl
  · rw [writes.find]
    split_ifs with own
    · obtain ⟨rfl, rfl⟩ := own
      have old : catalogs.symbolEntry asked name = found := by
        rw [symbolEntry, listed]
        rfl
      rw [kept (old ▸ loaded), old]
    · exact listed
  · rw [writes.balances]
    exact fun _ ready => ready

theorem symbol_load_sound {status : UiTaskStatus} {started : Bool}
    (sound : Sound answers catalogs) (due : status = .idle ∨ status = .failed)
    (load : SymbolLoad status catalogs exchangerType symbol after started) :
    Sound answers after ∧ Later catalogs after := by
  cases load with
  | kept given same =>
      subst same
      have writes : WritesEntry catalogs
          (catalogs.writeSymbolEntry exchangerType symbol given
            (catalogs.symbolEntry exchangerType symbol)) exchangerType symbol
          (catalogs.symbolEntry exchangerType symbol) := ⟨fun _ _ => rfl, rfl, rfl⟩
      refine sound.entry_change writes ⟨sound.distinct, fun other => ?_⟩
        (sound.ruled exchangerType symbol) (fun _ => sound.answered exchangerType symbol _)
        fun _ => rfl
      show other ∈ catalogs.tasks ↔ _
      rw [loading_entry_change writes, sound.inFlight]
      by_cases own : other = .symbolInfo exchangerType symbol exchangerType
      · subst own
        simp [Loading]
      · simp [own]
  | @started entry given old found idle find pairs balances stopping tasks =>
      have writes : WritesEntry catalogs after exchangerType symbol
          { entry with loadState := entry.loadState.startLoading } := ⟨find, pairs, balances⟩
      have unloaded : entry.loadState.status ≠ .succeeded := by
        rw [found]
        rcases due with rfl | rfl <;> simp
      have unruled : entry.symbolInfo = none := by
        have missing := mt (sound.ruled exchangerType symbol).1 (by rw [old]; exact unloaded)
        simpa [old] using missing
      refine sound.entry_change writes ?_ (by simp [unruled, UiTaskState.startLoading])
        (by simp [unruled]) fun loaded => absurd (old ▸ loaded) unloaded
      rw [tasks]
      refine sound.start_in_flight _ ?_ fun other => ?_
      · simp [Loading, old, idle]
      · rw [loading_entry_change writes]
        by_cases own : other = .symbolInfo exchangerType symbol exchangerType
        · simp [own, UiTaskState.startLoading]
        · simp [own]

theorem symbol_delivery_sound {dealService : ExchangerType} (sound : Sound answers catalogs)
    (inFlight : .symbolInfo exchangerType symbol dealService ∈ catalogs.tasks)
    (settle : SymbolInfoEntry → SymbolInfoEntry)
    (settled : ∀ entry, (settle entry).loadState.status ≠ .loading)
    (ruled : ∀ entry, entry.symbolInfo = none →
      ((settle entry).symbolInfo.isSome ↔ (settle entry).loadState.status = .succeeded))
    (answered : ∀ entry symbolInfo, entry.symbolInfo = none →
      (settle entry).symbolInfo = some symbolInfo → answers dealService symbol symbolInfo) :
    Sound answers ((catalogs.without
        (.symbolInfo exchangerType symbol dealService)).settleSymbolInfo
          exchangerType symbol settle) ∧
      Later catalogs ((catalogs.without
        (.symbolInfo exchangerType symbol dealService)).settleSymbolInfo
          exchangerType symbol settle) := by
  obtain ⟨rfl, loading⟩ := (sound.inFlight _).1 inFlight
  have given : symbol ≠ "" := by
    rintro rfl
    simp [symbolEntry, catalogs.symbolInfos.named] at loading
  have unruled : (catalogs.symbolEntry dealService symbol).symbolInfo = none := by
    have missing := mt (sound.ruled dealService symbol).1 (by simp [loading])
    simpa using missing
  unfold settleSymbolInfo
  rw [dif_pos given]
  have writes : WritesEntry catalogs
      ((catalogs.without (.symbolInfo dealService symbol dealService)).writeSymbolEntry dealService
        symbol given (settle (catalogs.symbolEntry dealService symbol))) dealService symbol
      (settle (catalogs.symbolEntry dealService symbol)) := ⟨fun _ _ => rfl, rfl, rfl⟩
  refine sound.entry_change writes (sound.delivery_in_flight _ fun other => ?_) (ruled _ unruled)
    (fun symbolInfo => answered _ symbolInfo unruled) fun loaded => ?_
  · refine (loading_entry_change writes other).trans ?_
    simp [settled]
  · rw [loading] at loaded
    cases loaded

/-! ### Steps -/

theorem CatalogStep.sound (step : CatalogStep answers catalogs after)
    (sound : Sound answers catalogs) : Sound answers after ∧ Later catalogs after := by
  cases step with
  | pairLoad load => exact pair_load_sound sound load
  | balanceLoad load => exact balance_load_sound sound load
  | symbolLoad due load => exact symbol_load_sound sound due load
  | stopped =>
      exact ⟨⟨sound.distinct, sound.inFlight, sound.pairsStarted, sound.pairsListed, sound.ruled,
        sound.answered⟩, ⟨fun _ _ => rfl, fun _ _ _ found _ => found, fun _ ready => ready⟩⟩
  | pairs listed inFlight =>
      rw [store_pairs_settled]
      exact pair_delivery_sound sound inFlight rfl (.inl rfl) ⟨listed, rfl⟩
  | @pairFailure exchangerType failure inFlight =>
      exact pair_delivery_sound sound inFlight rfl (.inr rfl) (sound.pairsListed exchangerType)
  | balances inFlight =>
      rw [store_balances_settled]
      exact balance_delivery_sound sound (by simp [UiTaskState.finishSuccessfully]) fun _ => rfl
  | balanceFailure failure inFlight =>
      exact balance_delivery_sound sound (by simp [UiTaskState.finishWithFailure]) id
  | symbolInfo inFlight answered =>
      exact symbol_delivery_sound sound inFlight _
        (fun _ => by simp [UiTaskState.finishSuccessfully])
        (fun _ _ => by simp [UiTaskState.finishSuccessfully])
        fun _ _ _ same => by cases same; exact answered
  | symbolInfoFailure failure inFlight =>
      refine symbol_delivery_sound sound inFlight _
        (fun _ => by simp [UiTaskState.finishWithFailure]) (fun _ unruled => ?_)
        fun _ _ unruled same => ?_
      · simp [unruled, UiTaskState.finishWithFailure]
      · rw [unruled] at same
        cases same

theorem initially_sound (answers : ExchangerType → String → SymbolInfo → Prop) :
    Sound answers {} where
  distinct := List.nodup_nil
  inFlight task := by cases task <;> simp [Loading, symbolEntry]
  pairsStarted _ := by simp
  pairsListed _ := ⟨[], by simp [filterAndSortTradablePairs, LeastOfKey.eraseSeen]⟩
  ruled _ _ := by simp [symbolEntry]
  answered _ _ _ := by simp [symbolEntry]

theorem steps_sound (steps : Relation.ReflTransGen (CatalogStep answers) catalogs after)
    (sound : Sound answers catalogs) : Sound answers after ∧ Later catalogs after := by
  induction steps with
  | refl => exact ⟨sound, .refl catalogs⟩
  | tail _ step ih =>
      obtain ⟨before, later⟩ := ih
      obtain ⟨sound, grown⟩ := step.sound before
      exact ⟨sound, later.trans grown⟩

end Runs

end OrderEntryCatalogs

end CryptoDeal.OrderEntry
