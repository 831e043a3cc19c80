import CryptoDeal.Async.AsyncTaskExecutor
import CryptoDeal.DealService.TradablePairs
import CryptoDeal.OrderEntry.OrderEntryForm

/-!
# The catalogs behind the order form

`PairCatalog`, `SymbolInfoCatalog` and the load part of `BalanceCatalog`. A load
is a task of the executor: its state is `LOADING` from `startTask` on, and a
delivery stores the result before it settles the state.
-/

namespace CryptoDeal.OrderEntry

open DealService OrderSession

/-- A load in flight. A load of trading rules knows the service that it asks. -/
inductive CatalogTask where
  | pairs (exchangerType : ExchangerType)
  | balances (exchangerType : ExchangerType)
  | symbolInfo (exchangerType : ExchangerType) (symbol : String) (dealService : ExchangerType)
  deriving DecidableEq

/-- `PairCatalog::CatalogEntry`. -/
structure PairCatalogEntry where
  pairs : List TradablePair := []
  loadState : UiTaskState := {}
  loadStarted : Bool := false

/-- `BalanceCatalog::BalanceEntry`. -/
structure BalanceLoadEntry where
  loadState : UiTaskState := {}
  hasSuccessfulSnapshot : Bool := false

/-- `SymbolInfoCatalog::SymbolEntry`. -/
structure SymbolInfoEntry where
  symbolInfo : Option SymbolInfo := none
  loadState : UiTaskState := {}

/-- The map of `SymbolInfoCatalog`. -/
structure SymbolInfoEntries where
  find : ExchangerType → String → Option SymbolInfoEntry
  named : ∀ exchangerType, find exchangerType "" = none

structure OrderEntryCatalogs where
  pairs : ExchangerType → PairCatalogEntry := fun _ => {}
  balances : ExchangerType → BalanceLoadEntry := fun _ => {}
  symbolInfos : SymbolInfoEntries := { find := fun _ _ => none, named := fun _ => rfl }
  tasks : List CatalogTask := []
  stopping : Bool := false

namespace SymbolInfoEntries

def write (entries : SymbolInfoEntries) (exchangerType : ExchangerType) (symbol : String)
    (given : symbol ≠ "") (entry : SymbolInfoEntry) : SymbolInfoEntries where
  find asked name :=
    if asked = exchangerType ∧ name = symbol then some entry else entries.find asked name
  named asked := by
    rw [if_neg fun same => given same.2.symm]
    exact entries.named asked

end SymbolInfoEntries

namespace OrderEntryCatalogs

/-- `AsyncTaskExecutor::startTask` refuses. -/
def refuses (catalogs : OrderEntryCatalogs) (loadState : UiTaskState) : Bool :=
  catalogs.stopping || loadState.isLoading

/-! ## Pairs -/

/-- `PairCatalog::loadCatalog`; also whether a load was started, whose state signals. -/
def loadCatalog (catalogs : OrderEntryCatalogs) (exchangerType : ExchangerType) :
    OrderEntryCatalogs × Bool :=
  let catalog := catalogs.pairs exchangerType
  if catalog.loadStarted || catalogs.refuses catalog.loadState then (catalogs, false)
  else ({ catalogs with
    pairs := Function.update catalogs.pairs exchangerType
      { catalog with loadState := catalog.loadState.startLoading, loadStarted := true }
    tasks := catalogs.tasks ++ [.pairs exchangerType] }, true)

def storePairs (catalogs : OrderEntryCatalogs) (exchangerType : ExchangerType)
    (pairs : List TradablePair) : OrderEntryCatalogs :=
  { catalogs with
    pairs := Function.update catalogs.pairs exchangerType
      { catalogs.pairs exchangerType with pairs } }

def setPairLoadState (catalogs : OrderEntryCatalogs) (exchangerType : ExchangerType)
    (loadState : UiTaskState) : OrderEntryCatalogs :=
  { catalogs with
    pairs := Function.update catalogs.pairs exchangerType
      { catalogs.pairs exchangerType with loadState } }

/-! ## Balances -/

/-- `BalanceCatalog::startLoad`. -/
def startBalanceLoad (catalogs : OrderEntryCatalogs) (exchangerType : ExchangerType) :
    OrderEntryCatalogs × Bool :=
  let entry := catalogs.balances exchangerType
  if catalogs.refuses entry.loadState then (catalogs, false)
  else ({ catalogs with
    balances := Function.update catalogs.balances exchangerType
      { entry with loadState := entry.loadState.startLoading }
    tasks := catalogs.tasks ++ [.balances exchangerType] }, true)

def loadBalances (catalogs : OrderEntryCatalogs) (exchangerType : ExchangerType) :
    OrderEntryCatalogs × Bool :=
  if (catalogs.balances exchangerType).loadState.status = .idle then
    catalogs.startBalanceLoad exchangerType
  else (catalogs, false)

def retryBalances (catalogs : OrderEntryCatalogs) (exchangerType : ExchangerType) :
    OrderEntryCatalogs × Bool :=
  if (catalogs.balances exchangerType).loadState.status = .failed then
    catalogs.startBalanceLoad exchangerType
  else (catalogs, false)

def refreshBalances (catalogs : OrderEntryCatalogs) (exchangerType : ExchangerType) :
    OrderEntryCatalogs × Bool :=
  if !(catalogs.balances exchangerType).loadState.isLoading then
    catalogs.startBalanceLoad exchangerType
  else (catalogs, false)

def storeBalances (catalogs : OrderEntryCatalogs) (exchangerType : ExchangerType) :
    OrderEntryCatalogs :=
  { catalogs with
    balances := Function.update catalogs.balances exchangerType
      { catalogs.balances exchangerType with hasSuccessfulSnapshot := true } }

def setBalanceLoadState (catalogs : OrderEntryCatalogs) (exchangerType : ExchangerType)
    (loadState : UiTaskState) : OrderEntryCatalogs :=
  { catalogs with
    balances := Function.update catalogs.balances exchangerType
      { catalogs.balances exchangerType with loadState } }

/-! ## Trading rules -/

def symbolEntry (catalogs : OrderEntryCatalogs) (exchangerType : ExchangerType)
    (symbol : String) : SymbolInfoEntry :=
  (catalogs.symbolInfos.find exchangerType symbol).getD {}

def writeSymbolEntry (catalogs : OrderEntryCatalogs) (exchangerType : ExchangerType)
    (symbol : String) (given : symbol ≠ "") (entry : SymbolInfoEntry) : OrderEntryCatalogs :=
  { catalogs with symbolInfos := catalogs.symbolInfos.write exchangerType symbol given entry }

/-- `SymbolInfoCatalog::startLoad` on an entry that was found or made. -/
def startSymbolLoad (catalogs : OrderEntryCatalogs) (exchangerType : ExchangerType)
    (symbol : String) (given : symbol ≠ "") (entry : SymbolInfoEntry) :
    OrderEntryCatalogs × Bool :=
  if catalogs.refuses entry.loadState then (catalogs, false)
  else ({ catalogs.writeSymbolEntry exchangerType symbol given
      { entry with loadState := entry.loadState.startLoading } with
    tasks := catalogs.tasks ++ [.symbolInfo exchangerType symbol exchangerType] }, true)

/-- `loadSymbolInfo` and `retrySymbolInfo`, which start a load from one status. -/
def loadSymbolInfoFrom (status : UiTaskStatus) (catalogs : OrderEntryCatalogs)
    (exchangerType : ExchangerType) (symbol : String) :
    Except ServiceFailure (OrderEntryCatalogs × Bool) :=
  if given : symbol ≠ "" then
    let entry := catalogs.symbolEntry exchangerType symbol
    let catalogs := catalogs.writeSymbolEntry exchangerType symbol given entry
    if entry.loadState.status = status then
      .ok (catalogs.startSymbolLoad exchangerType symbol given entry)
    else .ok (catalogs, false)
  else .error (.runtime "Symbol info catalog requires a symbol")

def loadSymbolInfo (catalogs : OrderEntryCatalogs) (exchangerType : ExchangerType)
    (symbol : String) : Except ServiceFailure (OrderEntryCatalogs × Bool) :=
  catalogs.loadSymbolInfoFrom .idle exchangerType symbol

def retrySymbolInfo (catalogs : OrderEntryCatalogs) (exchangerType : ExchangerType)
    (symbol : String) : Except ServiceFailure (OrderEntryCatalogs × Bool) :=
  catalogs.loadSymbolInfoFrom .failed exchangerType symbol

/-- What a delivery leaves of the entry of its symbol. -/
def settleSymbolInfo (catalogs : OrderEntryCatalogs) (exchangerType : ExchangerType)
    (symbol : String) (settle : SymbolInfoEntry → SymbolInfoEntry) : OrderEntryCatalogs :=
  if given : symbol ≠ "" then
    catalogs.writeSymbolEntry exchangerType symbol given
      (settle (catalogs.symbolEntry exchangerType symbol))
  else catalogs

def storeSymbolInfo (catalogs : OrderEntryCatalogs) (exchangerType : ExchangerType)
    (symbol : String) (symbolInfo : SymbolInfo) : OrderEntryCatalogs :=
  catalogs.settleSymbolInfo exchangerType symbol fun entry =>
    { symbolInfo := some symbolInfo, loadState := entry.loadState.finishSuccessfully }

def failSymbolInfo (catalogs : OrderEntryCatalogs) (exchangerType : ExchangerType)
    (symbol failure : String) : OrderEntryCatalogs :=
  catalogs.settleSymbolInfo exchangerType symbol fun entry =>
    { entry with loadState := entry.loadState.finishWithFailure failure }

/-! ## What the form reads -/

def pairCatalog (catalogs : OrderEntryCatalogs) : PairCatalog where
  loadState exchangerType := (catalogs.pairs exchangerType).loadState.status
  pairs exchangerType := (catalogs.pairs exchangerType).pairs

def symbolInfoCatalog (catalogs : OrderEntryCatalogs) : SymbolInfoCatalog where
  entries exchangerType symbol := (catalogs.symbolInfos.find exchangerType symbol).map fun entry =>
    { loadState := entry.loadState.status, symbolInfo := entry.symbolInfo }
  named exchangerType := by rw [catalogs.symbolInfos.named]; rfl

end OrderEntryCatalogs

end CryptoDeal.OrderEntry
