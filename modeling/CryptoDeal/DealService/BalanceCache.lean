import CryptoDeal.DealService.DecimalConverter
import CryptoDeal.Library.RevisedTable

/-!
# The balance caches

How the deal services write what a REST response or a stream message says into
their balance cache. What the exchange answered is given as the response record
that the JSON text was converted to, or as the failure before that.
-/

namespace CryptoDeal.DealService

open RevisedTable

/-- `flat_map<string, AssetBalance>`. -/
abbrev BalanceCache := String → Option AssetBalance

structure BalanceState where
  balances : BalanceCache := fun _ => none
  /-- How often the observer was told. -/
  balanceCacheChanges : ℕ := 0
  /-- Bybit's alone. -/
  balanceAccountType : String := ""

/-- What was written before an exception stays written. -/
abbrev BalanceProgram (Result : Type) := ExceptT ServiceFailure (StateM BalanceState) Result

namespace BalanceProgram

variable {Result Other : Type}

def runOn (program : BalanceProgram Result) (state : BalanceState) :
    Except ServiceFailure Result × BalanceState := program.run.run state

def throws (failure : ServiceFailure) : BalanceProgram Result := throw failure

def notifyBalanceCacheChanged : BalanceProgram Unit :=
  modify fun state => { state with balanceCacheChanges := state.balanceCacheChanges + 1 }

def getBalances : BalanceProgram BalanceCache := return (← get).balances

theorem run_on_bind (program : BalanceProgram Other) (next : Other → BalanceProgram Result)
    (state : BalanceState) :
    (program >>= next).runOn state =
      match program.runOn state with
      | (.ok result, after) => (next result).runOn after
      | (.error failure, after) => (.error failure, after) := by
  change (match program.runOn state with
    | (outcome, after) => (ExceptT.bindCont next outcome).run after) = _
  rcases program.runOn state with ⟨_ | _, after⟩ <;> rfl

theorem run_on_lift (outcome : Except ServiceFailure Result) (state : BalanceState) :
    (liftM outcome : BalanceProgram Result).runOn state = (outcome, state) := by
  cases outcome <;> rfl

theorem run_on_catch (program : BalanceProgram Result)
    (handler : ServiceFailure → BalanceProgram Result) (state : BalanceState) :
    (tryCatch program handler).runOn state =
      match program.runOn state with
      | (.ok result, after) => (.ok result, after)
      | (.error failure, after) => (handler failure).runOn after := by
  rcases found : program.runOn state with ⟨outcome, after⟩
  have ended : program state = (outcome, after) := found
  simp only [runOn, tryCatch, tryCatchThe, MonadExceptOf.tryCatch, ExceptT.tryCatch, ExceptT.run,
    ExceptT.mk, StateT.run, bind, StateT.bind, ended]
  cases outcome <;> rfl

end BalanceProgram

open BalanceProgram

/-- The row that `updateBalanceCache` leaves for an asset. -/
def revisedBalance : Option AssetBalance → AssetBalance → AssetBalance
  | none, update => update
  | some found, update => { found with free := update.free, locked := update.locked }

def updateBalanceCache (update : AssetBalance) : BalanceProgram Unit :=
  modify fun state =>
    { state with balances := put AssetBalance.asset revisedBalance state.balances update }

/-- The loop that the services share: each coin is read, then written. -/
def updateEach {Coin : Type} (read : Coin → Except ServiceFailure AssetBalance) :
    List Coin → BalanceProgram Unit
  | [] => return ()
  | coin :: coins => do
      let update ← read coin
      updateBalanceCache update
      updateEach read coins

section Services

variable (fromChars : String → Option Decimal)

namespace Binance

structure StreamBalanceDto where
  a : String
  f : Option String := none
  l : Option String := none

structure AccountBalanceDto where
  asset : String
  free : Option String := none
  locked : Option String := none

structure OutboundAccountPositionEventDto where
  B : Option (List StreamBalanceDto) := none

structure AccountDto where
  balances : List AccountBalanceDto

def readStreamBalance (balance : StreamBalanceDto) : Except ServiceFailure AssetBalance := do
  let free ← parseToDecimal fromChars balance.f
  let locked ← parseToDecimal fromChars balance.l
  return { asset := balance.a, free, locked }

def readAccountBalance (balance : AccountBalanceDto) : Except ServiceFailure AssetBalance := do
  let free ← parseToDecimal fromChars balance.free
  let locked ← parseToDecimal fromChars balance.locked
  return { asset := balance.asset, free, locked }

/-- `updateCache` of stream balances. -/
def updateStreamCache (balanceDtos : List StreamBalanceDto) : BalanceProgram Unit := do
  updateEach (readStreamBalance fromChars) balanceDtos
  if balanceDtos ≠ [] then notifyBalanceCacheChanged

/-- `updateCache` of account balances. -/
def updateAccountCache (balanceDtos : List AccountBalanceDto) : BalanceProgram Unit :=
  updateEach (readAccountBalance fromChars) balanceDtos

def handleAccountPositionUpdate (event : OutboundAccountPositionEventDto) : BalanceProgram Unit :=
  match event.B with
  | some balanceDtos => updateStreamCache fromChars balanceDtos
  | none => return ()

def getBalancesRest (response : Except ServiceFailure AccountDto) :
    BalanceProgram BalanceCache := do
  let account ← response
  updateAccountCache fromChars account.balances
  getBalances

end Binance

namespace Bybit

structure CoinBalanceDto where
  coin : String
  walletBalance : Option String := none
  locked : Option String := none
  availableToWithdraw : Option String := none
  availableToTrade : Option String := none

structure WalletAccountDto where
  coin : Option (List CoinBalanceDto) := none

structure WalletBalanceResultDto where
  list : Option (List WalletAccountDto) := none

structure WalletBalanceResponseDto where
  result : Option WalletBalanceResultDto := none

/-- A message of the `wallet` topic. -/
structure StreamMessageDto where
  data : Option (List WalletAccountDto) := none

/-- `freeAmount` once it was read from one field or the other. -/
def readAvailable (coin : CoinBalanceDto) (withdrawable : Decimal) :
    Except ServiceFailure Decimal :=
  if withdrawable ≤ 0 then parseToDecimal fromChars coin.availableToTrade else .ok withdrawable

/-- The body of the inner loop of `processCoins`. -/
def readWalletCoin (coin : CoinBalanceDto) : Except ServiceFailure AssetBalance := do
  let walletBalance ← parseToDecimal fromChars coin.walletBalance
  let withdrawable ← parseToDecimal fromChars coin.availableToWithdraw
  let available ← readAvailable fromChars coin withdrawable
  let reserved ← parseToDecimal fromChars coin.locked
  let freeAmount := if available ≤ 0 ∧ 0 < walletBalance then walletBalance - reserved else available
  let lockedAmount :=
    if reserved ≤ 0 ∧ 0 < walletBalance ∧ 0 < freeAmount then max 0 (walletBalance - freeAmount)
    else reserved
  return { asset := coin.coin, free := freeAmount, locked := lockedAmount }

def parseBalance (coin : CoinBalanceDto) : Except ServiceFailure AssetBalance := do
  let walletBalance ← parseToDecimal fromChars coin.walletBalance
  let locked ← parseToDecimal fromChars coin.locked
  return { asset := coin.coin, free := walletBalance - locked, locked }

/-- The outer loop over the accounts of a response or a message. -/
def updateEachAccount (read : CoinBalanceDto → Except ServiceFailure AssetBalance) :
    List WalletAccountDto → BalanceProgram Unit
  | [] => return ()
  | account :: accounts => do
      updateEach read (account.coin.getD [])
      updateEachAccount read accounts

def processCoins (responseDto : WalletBalanceResponseDto) : BalanceProgram Unit :=
  match responseDto.result.bind (·.list) with
  | some accounts => updateEachAccount (readWalletCoin fromChars) accounts
  | none => return ()

def handleWalletUpdate (message : StreamMessageDto) : BalanceProgram Unit :=
  match message.data with
  | some items => do
      updateEachAccount (parseBalance fromChars) items
      if items.any fun item => item.coin.any (· ≠ []) then notifyBalanceCacheChanged
  | none => return ()

def setBalanceAccountType (accountType : String) : BalanceProgram Unit :=
  modify fun state => { state with balanceAccountType := accountType }

/-- `respond` is what the exchange answers for an account type. -/
def refreshBalancesCache (respond : String → Except ServiceFailure WalletBalanceResponseDto)
    (accountType : String) : BalanceProgram Unit := do
  processCoins fromChars (← respond accountType)

def primaryAccountType (balanceAccountType : String) : String :=
  if balanceAccountType = "" then "UNIFIED" else balanceAccountType

def fallbackAccountType (primary : String) : String :=
  if primary = "UNIFIED" then "SPOT" else "UNIFIED"

/-- A refresh for one account type, which is then the one to begin with. -/
def refreshAs (respond : String → Except ServiceFailure WalletBalanceResponseDto)
    (accountType : String) : BalanceProgram Unit := do
  refreshBalancesCache fromChars respond accountType
  setBalanceAccountType accountType

/-- `e.what()` of a `std::exception`; no other is caught. -/
def whatOf : ServiceFailure → Option String
  | .runtime what | .interrupted what => some what
  | .nonStandard => none

/-- The two `try` blocks of `getBalancesRest`. -/
def refreshEither (respond : String → Except ServiceFailure WalletBalanceResponseDto)
    (primary fallback : String) : BalanceProgram Unit :=
  tryCatch (refreshAs fromChars respond primary) fun failure =>
    match whatOf failure with
    | none => throws failure
    | some primaryError =>
        tryCatch (refreshAs fromChars respond fallback) fun failure =>
          match whatOf failure with
          | none => throws failure
          | some error =>
              throws (.runtime ("Bybit balance REST refresh failed for " ++ primary ++ ": " ++
                primaryError ++ "; " ++ fallback ++ ": " ++ error))

def getBalancesRest (respond : String → Except ServiceFailure WalletBalanceResponseDto) :
    BalanceProgram BalanceCache := do
  let primary := primaryAccountType (← get).balanceAccountType
  refreshEither fromChars respond primary (fallbackAccountType primary)
  getBalances

end Bybit

end Services

end CryptoDeal.DealService
