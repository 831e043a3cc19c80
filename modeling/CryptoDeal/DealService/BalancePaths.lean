import CryptoDeal.DealService.BalanceRefresh

/-!
# Two ways to a Bybit balance

A coin record comes with a REST response or with a message of the wallet topic.
The stream subtracts what is locked from the wallet balance; the REST path
begins with what is said to be available, and comes to the same only if that is
the difference or is not said.
-/

namespace CryptoDeal.DealService.Bybit

open BalanceProgram

section Paths

variable (fromChars : String → Option Decimal)

/-- The fields of a coin record, read. -/
structure CoinReads (coin : CoinBalanceDto) (wallet reserved withdrawable tradable : Decimal) :
    Prop where
  walletBalance : parseToDecimal fromChars coin.walletBalance = .ok wallet
  locked : parseToDecimal fromChars coin.locked = .ok reserved
  availableToWithdraw : parseToDecimal fromChars coin.availableToWithdraw = .ok withdrawable
  availableToTrade : parseToDecimal fromChars coin.availableToTrade = .ok tradable

/-- The program succeeds and leaves these amounts for the asset. -/
def Stores (program : BalanceProgram Unit) (state : BalanceState) (asset : String)
    (free locked : Decimal) : Prop :=
  ∃ after balance, program.runOn state = (.ok (), after) ∧
    after.balances asset = some balance ∧ balance.free = free ∧ balance.locked = locked

/-- Both paths store the same amounts, and the amounts make up the wallet balance. -/
def PathsAgree (coin : CoinBalanceDto) (wallet : Decimal) (response : WalletBalanceResponseDto)
    (message : StreamMessageDto) (refreshed updated : BalanceState) : Prop :=
  ∃ free locked, Stores (processCoins fromChars response) refreshed coin.coin free locked ∧
    Stores (handleWalletUpdate fromChars message) updated coin.coin free locked ∧
    0 ≤ free ∧ 0 ≤ locked ∧ free + locked = wallet

variable {fromChars} {coin : CoinBalanceDto} {wallet reserved withdrawable tradable : Decimal}

/-- What the REST path looks at first: the withdrawable amount if there is one. -/
def available (withdrawable tradable : Decimal) : Decimal :=
  if withdrawable ≤ 0 then tradable else withdrawable

def restFree (wallet reserved withdrawable tradable : Decimal) : Decimal :=
  if available withdrawable tradable ≤ 0 ∧ 0 < wallet then wallet - reserved
  else available withdrawable tradable

def restLocked (wallet reserved free : Decimal) : Decimal :=
  if reserved ≤ 0 ∧ 0 < wallet ∧ 0 < free then max 0 (wallet - free) else reserved

theorem read_wallet_coin_reads
    (reads : CoinReads fromChars coin wallet reserved withdrawable tradable) :
    readWalletCoin fromChars coin = .ok
      { asset := coin.coin
        free := restFree wallet reserved withdrawable tradable
        locked := restLocked wallet reserved (restFree wallet reserved withdrawable tradable) } := by
  have availableReads : readAvailable fromChars coin withdrawable =
      .ok (available withdrawable tradable) := by
    unfold readAvailable available
    split_ifs
    · exact reads.availableToTrade
    · rfl
  rw [readWalletCoin, reads.walletBalance, reads.availableToWithdraw, reads.locked]
  simp only [bind, Except.bind, availableReads]
  rfl

theorem parse_balance_reads
    (reads : CoinReads fromChars coin wallet reserved withdrawable tradable) :
    parseBalance fromChars coin =
      .ok { asset := coin.coin, free := wallet - reserved, locked := reserved } := by
  rw [parseBalance, reads.walletBalance, reads.locked]
  rfl

/-- One balance is written, over whatever was there. -/
theorem put_balance (state : BalanceState) (balance : AssetBalance) :
    ∃ written, (state.put [balance]).balances balance.asset = some written ∧
      written.free = balance.free ∧ written.locked = balance.locked := by
  refine ⟨revisedBalance (state.balances balance.asset) balance, Function.update_self _ _ _, ?_⟩
  cases state.balances balance.asset with
  | none => exact ⟨rfl, rfl⟩
  | some held => exact ⟨rfl, rfl⟩

/-- What a program stores is what it writes. -/
theorem stores_iff {program : BalanceProgram Unit} {state after : BalanceState}
    {balance : AssetBalance} {free locked : Decimal}
    (ran : program.runOn state = (.ok (), after))
    (written : after.balances = (state.put [balance]).balances) :
    Stores program state balance.asset free locked ↔
      balance.free = free ∧ balance.locked = locked := by
  obtain ⟨row, found, sameFree, sameLocked⟩ := put_balance state balance
  rw [← written] at found
  rw [← sameFree, ← sameLocked]
  constructor
  · rintro ⟨reached, held, again, present, amounts⟩
    rw [ran] at again
    cases again
    cases found.symm.trans present
    exact amounts
  · exact fun amounts => ⟨after, row, ran, found, amounts⟩

theorem process_coins_stores_iff {response : WalletBalanceResponseDto} {balance : AssetBalance}
    {state : BalanceState} {free locked : Decimal} (alone : response.coins = [coin])
    (reads : readWalletCoin fromChars coin = .ok balance) :
    Stores (processCoins fromChars response) state balance.asset free locked ↔
      balance.free = free ∧ balance.locked = locked := by
  have ran := @process_coins_run fromChars state response
  rw [alone] at ran
  simp only [readAll, readable, reads] at ran
  exact stores_iff ran rfl

theorem wallet_update_stores_iff {message : StreamMessageDto} {balance : AssetBalance}
    {state : BalanceState} {free locked : Decimal} (alone : message.coins = [coin])
    (reads : parseBalance fromChars coin = .ok balance) :
    Stores (handleWalletUpdate fromChars message) state balance.asset free locked ↔
      balance.free = free ∧ balance.locked = locked := by
  obtain ⟨after, ran, written⟩ := wallet_update_run fromChars state message
  rw [alone] at ran written
  simp only [readAll, readable, reads] at ran written
  exact stores_iff ran written

/-- The amounts of the two paths, by what is said to be available. -/
theorem amounts_agree_iff (nonneg : 0 ≤ reserved) :
    restFree wallet reserved withdrawable tradable = wallet - reserved ∧
        restLocked wallet reserved (restFree wallet reserved withdrawable tradable) = reserved ↔
      available withdrawable tradable = wallet - reserved ∨
        available withdrawable tradable ≤ 0 ∧ 0 < wallet := by
  have lockedAgrees : restFree wallet reserved withdrawable tradable = wallet - reserved →
      restLocked wallet reserved (restFree wallet reserved withdrawable tradable) = reserved := by
    intro same
    rw [same, restLocked]
    split_ifs with unlocked
    · have none : reserved = 0 := le_antisymm unlocked.1 nonneg
      simp [none]
    · rfl
  rw [and_iff_left_of_imp lockedAgrees, restFree]
  split_ifs with unsaid
  · simp [unsaid]
  · simp [unsaid]

/-- The paths agree exactly where the available amount is the unlocked one, or is not said. -/
theorem paths_agree_iff (reads : CoinReads fromChars coin wallet reserved withdrawable tradable)
    (nonneg : 0 ≤ reserved) (le : reserved ≤ wallet) {response : WalletBalanceResponseDto}
    {message : StreamMessageDto} (listed : response.coins = [coin]) (sent : message.coins = [coin])
    (refreshed updated : BalanceState) :
    PathsAgree fromChars coin wallet response message refreshed updated ↔
      available withdrawable tradable = wallet - reserved ∨
        available withdrawable tradable ≤ 0 ∧ 0 < wallet := by
  rw [← amounts_agree_iff nonneg]
  constructor
  · rintro ⟨free, locked, rest, stream, _⟩
    obtain ⟨restFree, restLocked⟩ :=
      (process_coins_stores_iff listed (read_wallet_coin_reads reads)).1 rest
    obtain ⟨streamFree, streamLocked⟩ :=
      (wallet_update_stores_iff sent (parse_balance_reads reads)).1 stream
    exact ⟨restFree.trans streamFree.symm, restLocked.trans streamLocked.symm⟩
  · intro amounts
    refine ⟨wallet - reserved, reserved, ?rest, ?stream, sub_nonneg.2 le, nonneg,
      sub_add_cancel wallet reserved⟩
    case rest =>
      exact (process_coins_stores_iff listed (read_wallet_coin_reads reads)).2 amounts
    case stream =>
      exact (wallet_update_stores_iff sent (parse_balance_reads reads)).2 ⟨rfl, rfl⟩

end Paths

section Example

def readPlain (text : String) : Option Decimal := DecimalText.decimalValue text.toList

/-- Ten bitcoins of which four can be withdrawn, and none is locked. -/
def partlyAvailable : CoinBalanceDto where
  coin := "BTC"
  walletBalance := some "10"
  availableToWithdraw := some "4"

def walletOnly : CoinBalanceDto := { partlyAvailable with availableToWithdraw := none }

def responseOf (coin : CoinBalanceDto) : WalletBalanceResponseDto :=
  { result := some { list := some [{ coin := some [coin] }] } }

def messageOf (coin : CoinBalanceDto) : StreamMessageDto :=
  { data := some [{ coin := some [coin] }] }

theorem partly_available_reads : CoinReads readPlain partlyAvailable 10 0 4 0 := by
  refine ⟨?_, ?_, ?_, ?_⟩
  all_goals with_unfolding_all rfl

theorem wallet_only_reads : CoinReads readPlain walletOnly 10 0 0 0 := by
  refine ⟨?_, ?_, ?_, ?_⟩
  all_goals with_unfolding_all rfl

theorem wallet_only_paths_agree :
    PathsAgree readPlain walletOnly 10 (responseOf walletOnly) (messageOf walletOnly) {} {} :=
  (paths_agree_iff wallet_only_reads le_rfl (by norm_num) rfl rfl {} {}).2
    (.inr ⟨by simp [available], by norm_num⟩)

/-- The REST path stores four and six, the stream ten and none. -/
theorem partly_available_paths_differ :
    CoinReads readPlain partlyAvailable 10 0 4 0 ∧
      ¬ PathsAgree readPlain partlyAvailable 10 (responseOf partlyAvailable)
        (messageOf partlyAvailable) {} {} := by
  refine ⟨partly_available_reads, ?_⟩
  rintro ⟨free, locked, rest, stream, _⟩
  have restAmounts :=
    (process_coins_stores_iff rfl (read_wallet_coin_reads partly_available_reads)).1 rest
  have streamAmounts :=
    (wallet_update_stores_iff rfl (parse_balance_reads partly_available_reads)).1 stream
  have same := restAmounts.1.trans streamAmounts.1.symm
  norm_num [restFree, available] at same

end Example

end CryptoDeal.DealService.Bybit
