import CryptoDeal.DealService.BalanceCache

/-!
# What an update leaves in the balance cache

A message is written coin by coin, up to the first coin that cannot be read.
So it is written as a whole exactly if what stands before such a coin is in the
cache already, and a refresh leaves the account's own assets exactly if the
cache held no other.
-/

namespace CryptoDeal.DealService

open RevisedTable BalanceProgram

section Reading

variable {Coin : Type} (read : Coin → Except ServiceFailure AssetBalance)

/-- The balances of the coins before the first one that cannot be read. -/
def readable : List Coin → List AssetBalance
  | [] => []
  | coin :: coins =>
      match read coin with
      | .ok update => update :: readable coins
      | .error _ => []

def readAll : List Coin → Except ServiceFailure Unit
  | [] => .ok ()
  | coin :: coins =>
      match read coin with
      | .ok _ => readAll coins
      | .error failure => .error failure

end Reading

def putBalances (cache : BalanceCache) (updates : List AssetBalance) : BalanceCache :=
  putAll AssetBalance.asset revisedBalance cache updates

theorem revised_balance_overrides : Overrides AssetBalance.asset revisedBalance := by
  intro row first second same
  cases row with
  | none => simp [revisedBalance, same]
  | some found => rfl

/-- The cache has the amounts of every asset's latest balance. -/
def AlreadyHeld (cache : BalanceCache) (updates : List AssetBalance) : Prop :=
  ∀ asset update, latest AssetBalance.asset updates asset = some update →
    ∃ found, cache asset = some found ∧ found.free = update.free ∧ found.locked = update.locked

theorem already_held_iff {cache : BalanceCache} {updates : List AssetBalance} :
    putBalances cache updates = cache ↔ AlreadyHeld cache updates := by
  unfold putBalances
  rw [put_all_eq_self_iff revised_balance_overrides]
  refine forall₃_congr fun asset update _ => ?_
  cases cache asset with
  | none => simp
  | some found =>
      constructor
      · intro same
        rw [Option.some.inj same]
        exact ⟨_, rfl, rfl, rfl⟩
      · rintro ⟨_, ⟨⟩, sameFree, sameLocked⟩
        rw [revisedBalance, ← sameFree, ← sameLocked]

/-! ## Running the loops -/

section Loops

variable {Coin : Type} {read : Coin → Except ServiceFailure AssetBalance} {state : BalanceState}

theorem read_all_append (first second : List Coin) :
    readAll read (first ++ second) = readAll read first >>= fun _ => readAll read second := by
  induction first with
  | nil => rfl
  | cons coin coins ih =>
      simp only [List.cons_append, readAll, ih]
      cases read coin <;> rfl

theorem readable_append (first second : List Coin) :
    readable read (first ++ second) =
      readable read first ++
        match readAll read first with
        | .ok _ => readable read second
        | .error _ => [] := by
  induction first with
  | nil => simp [readable, readAll]
  | cons coin coins ih =>
      simp only [List.cons_append, readable, readAll, ih]
      cases read coin <;> simp

/-- The state after these balances. -/
def BalanceState.put (state : BalanceState) (updates : List AssetBalance) : BalanceState :=
  { state with balances := putBalances state.balances updates }

theorem update_each_run (coins : List Coin) :
    (updateEach read coins).runOn state =
      (readAll read coins, state.put (readable read coins)) := by
  induction coins generalizing state with
  | nil => rfl
  | cons coin coins ih =>
      rw [updateEach, run_on_bind, run_on_lift, readAll, readable]
      cases read coin with
      | error failure => rfl
      | ok update =>
          dsimp only
          rw [run_on_bind]
          exact ih

theorem update_each_account_run (read : Bybit.CoinBalanceDto → Except ServiceFailure AssetBalance)
    (accounts : List Bybit.WalletAccountDto) :
    (Bybit.updateEachAccount read accounts).runOn state =
      (readAll read (accounts.flatMap (·.coin.getD [])),
        state.put (readable read (accounts.flatMap (·.coin.getD [])))) := by
  induction accounts generalizing state with
  | nil => rfl
  | cons account accounts ih =>
      rw [Bybit.updateEachAccount, run_on_bind, update_each_run, List.flatMap_cons,
        read_all_append, readable_append]
      cases readAll read (account.coin.getD []) with
      | error failure =>
          dsimp only
          rw [List.append_nil]
          rfl
      | ok _ =>
          dsimp only
          rw [ih]
          simp [BalanceState.put, putBalances, putAll, List.foldl_append]
          rfl

end Loops

/-! ## All or nothing -/

/-- If the program throws, the cache is what it was. -/
def AllOrNothing {Result : Type} (program : BalanceProgram Result) (state : BalanceState) : Prop :=
  ∀ failure, (program.runOn state).1 = .error failure →
    (program.runOn state).2.balances = state.balances

theorem all_or_nothing_ok {Result : Type} {program : BalanceProgram Result}
    {state after : BalanceState} {result : Result}
    (ran : program.runOn state = (.ok result, after)) : AllOrNothing program state := by
  intro failure failed
  rw [ran] at failed
  cases failed

theorem all_or_nothing_error {Result : Type} {program : BalanceProgram Result}
    {state after : BalanceState} {failure : ServiceFailure}
    (ran : program.runOn state = (.error failure, after)) :
    AllOrNothing program state ↔ after.balances = state.balances := by
  unfold AllOrNothing
  rw [ran]
  constructor
  · exact fun kept => kept failure rfl
  · exact fun kept _ _ => kept

/-- If a coin cannot be read, what stands before it is in the cache already. -/
def FailsHarmlessly {Coin : Type} (read : Coin → Except ServiceFailure AssetBalance)
    (cache : BalanceCache) (coins : List Coin) : Prop :=
  ∀ failure, readAll read coins = .error failure → AlreadyHeld cache (readable read coins)

/-- A program that writes the coins, and fails only where one cannot be read. -/
theorem all_or_nothing_iff {Coin Result : Type} {read : Coin → Except ServiceFailure AssetBalance}
    {coins : List Coin} {program : BalanceProgram Result} {state : BalanceState}
    (outcome : ∀ failure, (program.runOn state).1 = .error failure ↔
      readAll read coins = .error failure)
    (written : (program.runOn state).2.balances =
      putBalances state.balances (readable read coins)) :
    AllOrNothing program state ↔ FailsHarmlessly read state.balances coins := by
  refine forall_congr' fun failure => ?_
  rw [outcome, written, already_held_iff]

section Messages

variable {fromChars : String → Option Decimal} {state : BalanceState}

namespace Binance

theorem update_stream_cache_run (fromChars : String → Option Decimal) (state : BalanceState)
    (balanceDtos : List StreamBalanceDto) :
    ∃ after, (updateStreamCache fromChars balanceDtos).runOn state =
        (readAll (readStreamBalance fromChars) balanceDtos, after) ∧
      after.balances =
        putBalances state.balances (readable (readStreamBalance fromChars) balanceDtos) := by
  rw [updateStreamCache, run_on_bind, update_each_run]
  cases readAll (readStreamBalance fromChars) balanceDtos with
  | error failure => exact ⟨_, rfl, rfl⟩
  | ok _ =>
      dsimp only
      split_ifs
      · exact ⟨_, rfl, rfl⟩
      · exact ⟨_, rfl, rfl⟩

theorem account_position_all_or_nothing (event : OutboundAccountPositionEventDto) :
    AllOrNothing (handleAccountPositionUpdate fromChars event) state ↔
      FailsHarmlessly (readStreamBalance fromChars) state.balances (event.B.getD []) := by
  obtain ⟨after, ran, written⟩ :=
    update_stream_cache_run fromChars state (event.B.getD [])
  unfold handleAccountPositionUpdate
  cases listed : event.B with
  | none => exact all_or_nothing_iff (fun _ => Iff.rfl) rfl
  | some balanceDtos =>
      rw [listed, Option.getD_some] at ran written
      refine all_or_nothing_iff (fun failure => ?_) ?_
      · rw [ran]
        rfl
      · rw [ran]
        exact written

theorem get_balances_rest_run (account : AccountDto) :
    (getBalancesRest fromChars (.ok account)).runOn state =
      (readAll (readAccountBalance fromChars) account.balances >>= fun _ =>
        .ok (putBalances state.balances (readable (readAccountBalance fromChars) account.balances)),
        state.put (readable (readAccountBalance fromChars) account.balances)) := by
  rw [getBalancesRest, run_on_bind, run_on_lift]
  dsimp only
  rw [run_on_bind, updateAccountCache, update_each_run]
  cases readAll (readAccountBalance fromChars) account.balances <;> rfl

theorem balances_rest_all_or_nothing (response : Except ServiceFailure AccountDto) :
    AllOrNothing (getBalancesRest fromChars response) state ↔
      ∀ account, response = .ok account →
        FailsHarmlessly (readAccountBalance fromChars) state.balances account.balances := by
  cases response with
  | error failure =>
      refine iff_of_true (fun _ _ => rfl) ?_
      intro account answered
      cases answered
  | ok account =>
      have exactly : AllOrNothing (getBalancesRest fromChars (.ok account)) state ↔
          FailsHarmlessly (readAccountBalance fromChars) state.balances account.balances := by
        refine all_or_nothing_iff (fun failure => ?_) ?_
        · rw [get_balances_rest_run]
          cases readAll (readAccountBalance fromChars) account.balances with
          | ok _ => simp [bind, Except.bind]
          | error thrown => simp [bind, Except.bind]
        · rw [get_balances_rest_run]
          rfl
      rw [exactly]
      constructor
      · rintro harmless _ ⟨⟩
        exact harmless
      · exact fun harmless => harmless account rfl

end Binance

namespace Bybit

def StreamMessageDto.coins (message : StreamMessageDto) : List CoinBalanceDto :=
  (message.data.getD []).flatMap (·.coin.getD [])

def WalletBalanceResponseDto.coins (response : WalletBalanceResponseDto) : List CoinBalanceDto :=
  ((response.result.bind (·.list)).getD []).flatMap (·.coin.getD [])

theorem wallet_update_run (fromChars : String → Option Decimal) (state : BalanceState)
    (message : StreamMessageDto) :
    ∃ after, (handleWalletUpdate fromChars message).runOn state =
        (readAll (parseBalance fromChars) message.coins, after) ∧
      after.balances =
        putBalances state.balances (readable (parseBalance fromChars) message.coins) := by
  unfold handleWalletUpdate StreamMessageDto.coins
  cases message.data with
  | none => exact ⟨_, rfl, rfl⟩
  | some items =>
      dsimp only
      rw [run_on_bind, update_each_account_run]
      simp only [Option.getD_some]
      cases readAll (parseBalance fromChars) (items.flatMap (·.coin.getD [])) with
      | error failure => exact ⟨_, rfl, rfl⟩
      | ok _ =>
          dsimp only
          split_ifs
          · exact ⟨_, rfl, rfl⟩
          · exact ⟨_, rfl, rfl⟩

theorem wallet_update_all_or_nothing (message : StreamMessageDto) :
    AllOrNothing (handleWalletUpdate fromChars message) state ↔
      FailsHarmlessly (parseBalance fromChars) state.balances message.coins := by
  obtain ⟨after, ran, written⟩ := wallet_update_run fromChars state message
  apply all_or_nothing_iff
  · intro failure
    rw [ran]
  · rw [ran]
    exact written

theorem process_coins_run (response : WalletBalanceResponseDto) :
    (processCoins fromChars response).runOn state =
      (readAll (readWalletCoin fromChars) response.coins,
        state.put (readable (readWalletCoin fromChars) response.coins)) := by
  unfold processCoins WalletBalanceResponseDto.coins
  cases response.result.bind (·.list) with
  | none => rfl
  | some accounts => exact update_each_account_run (readWalletCoin fromChars) accounts

/-! ### The two account types of a refresh -/

section Answers

variable (fromChars : String → Option Decimal)

/-- How the answer for an account type is processed. -/
def processAnswer (answer : Except ServiceFailure WalletBalanceResponseDto) :
    Except ServiceFailure Unit :=
  answer >>= fun response => readAll (readWalletCoin fromChars) response.coins

/-- The balances that it writes. -/
def answerUpdates : Except ServiceFailure WalletBalanceResponseDto → List AssetBalance
  | .ok response => readable (readWalletCoin fromChars) response.coins
  | .error _ => []

/-- The answer is processed, or fails harmlessly. -/
def AnswerHarmless (cache : BalanceCache) (answer : Except ServiceFailure WalletBalanceResponseDto) :
    Prop :=
  ∀ failure, processAnswer fromChars answer = .error failure →
    AlreadyHeld cache (answerUpdates fromChars answer)

end Answers

variable {respond : String → Except ServiceFailure WalletBalanceResponseDto}

theorem refresh_as_run (fromChars : String → Option Decimal) (state : BalanceState)
    (respond : String → Except ServiceFailure WalletBalanceResponseDto) (accountType : String) :
    ∃ after, (refreshAs fromChars respond accountType).runOn state =
        (processAnswer fromChars (respond accountType), after) ∧
      after.balances =
        putBalances state.balances (answerUpdates fromChars (respond accountType)) := by
  rw [refreshAs, run_on_bind, refreshBalancesCache, run_on_bind, run_on_lift]
  cases respond accountType with
  | error failure => exact ⟨_, rfl, rfl⟩
  | ok response =>
      dsimp only
      rw [process_coins_run]
      show ∃ after, _ = (readAll (readWalletCoin fromChars) response.coins, after) ∧ _
      cases readAll (readWalletCoin fromChars) response.coins with
      | error failure => exact ⟨_, rfl, rfl⟩
      | ok _ => exact ⟨_, rfl, rfl⟩

theorem refresh_as_all_or_nothing (accountType : String) :
    AllOrNothing (refreshAs fromChars respond accountType) state ↔
      AnswerHarmless fromChars state.balances (respond accountType) := by
  obtain ⟨after, ran, written⟩ := refresh_as_run fromChars state respond accountType
  refine forall_congr' fun failure => ?_
  rw [ran, written, already_held_iff]

/-- The primary account type is given up for the fallback. -/
def FallsBack (fromChars : String → Option Decimal)
    (respond : String → Except ServiceFailure WalletBalanceResponseDto) (state : BalanceState) :
    Prop :=
  ∃ failure, processAnswer fromChars (respond (primaryAccountType state.balanceAccountType)) =
    .error failure ∧ failure ≠ .nonStandard

/-- How a refresh with both account types can go. -/
theorem refresh_either_run (fromChars : String → Option Decimal) (state : BalanceState)
    (respond : String → Except ServiceFailure WalletBalanceResponseDto)
    (primary fallback : String) :
    ∃ left : BalanceState,
      left.balances =
        putBalances state.balances (answerUpdates fromChars (respond primary)) ∧
      match processAnswer fromChars (respond primary) with
      | .ok _ => (refreshEither fromChars respond primary fallback).runOn state = (.ok (), left)
      | .error .nonStandard =>
          (refreshEither fromChars respond primary fallback).runOn state =
            (.error .nonStandard, left)
      | .error _ => ∃ after : BalanceState,
          after.balances =
            putBalances left.balances (answerUpdates fromChars (respond fallback)) ∧
          match processAnswer fromChars (respond fallback) with
          | .ok _ => (refreshEither fromChars respond primary fallback).runOn state = (.ok (), after)
          | .error _ => ∃ failure,
              (refreshEither fromChars respond primary fallback).runOn state =
                (.error failure, after) := by
  obtain ⟨left, primaryRan, leftWritten⟩ := refresh_as_run fromChars state respond primary
  obtain ⟨after, fallbackRan, written⟩ := refresh_as_run fromChars left respond fallback
  refine ⟨left, leftWritten, ?_⟩
  rw [refreshEither, run_on_catch, primaryRan]
  cases processAnswer fromChars (respond primary) with
  | ok _ => rfl
  | error failure =>
      cases failure with
      | nonStandard => rfl
      | runtime what | interrupted what =>
          refine ⟨after, written, ?_⟩
          dsimp only [whatOf]
          rw [run_on_catch, fallbackRan]
          cases processAnswer fromChars (respond fallback) with
          | ok _ => rfl
          | error failure => cases failure <;> exact ⟨_, rfl⟩

theorem get_balances_rest_run (fromChars : String → Option Decimal) (state : BalanceState)
    (respond : String → Except ServiceFailure WalletBalanceResponseDto)
    {outcome : Except ServiceFailure Unit} {after : BalanceState}
    (ran : (refreshEither fromChars respond (primaryAccountType state.balanceAccountType)
      (fallbackAccountType (primaryAccountType state.balanceAccountType))).runOn state =
        (outcome, after)) :
    (getBalancesRest fromChars respond).runOn state =
      (outcome >>= fun _ => .ok after.balances, after) := by
  rw [getBalancesRest, run_on_bind]
  show (_ >>= _ : BalanceProgram BalanceCache).runOn state = _
  rw [run_on_bind, ran]
  cases outcome <;> rfl

theorem answer_harmless_ok {cache : BalanceCache}
    {answer : Except ServiceFailure WalletBalanceResponseDto}
    (processed : processAnswer fromChars answer = .ok ()) : AnswerHarmless fromChars cache answer := by
  intro failure failed
  rw [processed] at failed
  cases failed

theorem answer_harmless_error {cache : BalanceCache}
    {answer : Except ServiceFailure WalletBalanceResponseDto} {failure : ServiceFailure}
    (processed : processAnswer fromChars answer = .error failure) :
    AnswerHarmless fromChars cache answer ↔
      putBalances cache (answerUpdates fromChars answer) = cache := by
  rw [already_held_iff]
  constructor
  · exact fun harmless => harmless failure processed
  · exact fun held _ _ => held

/-- Neither account type leaves anything behind if it fails. -/
theorem balances_rest_all_or_nothing (state : BalanceState)
    (respond : String → Except ServiceFailure WalletBalanceResponseDto) :
    let primary := primaryAccountType state.balanceAccountType
    (AllOrNothing (refreshAs fromChars respond primary) state ∧
        AllOrNothing (getBalancesRest fromChars respond) state) ↔
      AnswerHarmless fromChars state.balances (respond primary) ∧
        (FallsBack fromChars respond state →
          AnswerHarmless fromChars state.balances (respond (fallbackAccountType primary))) := by
  intro primary
  rw [refresh_as_all_or_nothing]
  refine and_congr_right fun harmless => ?_
  obtain ⟨left, leftWritten, ran⟩ :=
    refresh_either_run fromChars state respond primary (fallbackAccountType primary)
  cases processed : processAnswer fromChars (respond primary) with
  | ok _ =>
      rw [processed] at ran
      have returned := get_balances_rest_run fromChars state respond ran
      refine iff_of_true (all_or_nothing_ok returned) ?_
      rintro ⟨failure, failed, _⟩
      cases processed.symm.trans failed
  | error failure =>
      rw [(answer_harmless_error processed).1 harmless] at leftWritten
      cases failure with
      | nonStandard =>
          rw [processed] at ran
          have threw := get_balances_rest_run fromChars state respond ran
          refine iff_of_true ((all_or_nothing_error threw).2 leftWritten) ?_
          rintro ⟨failure, failed, standard⟩
          cases processed.symm.trans failed
          exact absurd rfl standard
      | runtime what | interrupted what =>
          have fallsBack : FallsBack fromChars respond state := ⟨_, processed, by simp⟩
          rw [imp_iff_right fallsBack]
          rw [processed] at ran
          obtain ⟨after, written, ran⟩ := ran
          rw [leftWritten] at written
          cases again : processAnswer fromChars (respond (fallbackAccountType primary)) with
          | ok _ =>
              rw [again] at ran
              have returned := get_balances_rest_run fromChars state respond ran
              exact iff_of_true (all_or_nothing_ok returned) (answer_harmless_ok again)
          | error failure =>
              rw [again] at ran
              obtain ⟨thrown, ran⟩ := ran
              have threw := get_balances_rest_run fromChars state respond ran
              rw [all_or_nothing_error threw, answer_harmless_error again, written]

end Bybit

end Messages

/-- Each kind of message, and each refresh, is all or nothing exactly if a coin that
cannot be read stands behind none whose balance is news to the cache. -/
theorem balance_updates_all_or_nothing (fromChars : String → Option Decimal)
    (state : BalanceState) :
    (∀ event, AllOrNothing (Binance.handleAccountPositionUpdate fromChars event) state ↔
      FailsHarmlessly (Binance.readStreamBalance fromChars) state.balances (event.B.getD [])) ∧
    (∀ response, AllOrNothing (Binance.getBalancesRest fromChars response) state ↔
      ∀ account, response = .ok account →
        FailsHarmlessly (Binance.readAccountBalance fromChars) state.balances account.balances) ∧
    (∀ message, AllOrNothing (Bybit.handleWalletUpdate fromChars message) state ↔
      FailsHarmlessly (Bybit.parseBalance fromChars) state.balances message.coins) ∧
    ∀ respond,
      let primary := Bybit.primaryAccountType state.balanceAccountType
      (AllOrNothing (Bybit.refreshAs fromChars respond primary) state ∧
          AllOrNothing (Bybit.getBalancesRest fromChars respond) state) ↔
        Bybit.AnswerHarmless fromChars state.balances (respond primary) ∧
          (Bybit.FallsBack fromChars respond state →
            Bybit.AnswerHarmless fromChars state.balances
              (respond (Bybit.fallbackAccountType primary))) :=
  ⟨Binance.account_position_all_or_nothing, Binance.balances_rest_all_or_nothing,
    Bybit.wallet_update_all_or_nothing, Bybit.balances_rest_all_or_nothing state⟩

/-- An account of one bitcoin, and of an amount of ether that is no decimal. -/
def malformedAccount : Binance.AccountDto where
  balances := [{ asset := "BTC", free := some "1" }, { asset := "ETH", free := some "much" }]

def readOne (text : String) : Option Decimal := if text = "1" then some 1 else none

theorem malformed_account_half_written :
    ¬ AllOrNothing (Binance.getBalancesRest readOne (.ok malformedAccount)) {} := by
  intro whole
  have kept := whole (.runtime "Invalid decimal value") (by with_unfolding_all rfl)
  have bitcoin := congrFun kept "BTC"
  cases bitcoin

theorem malformed_coin_first_harmless :
    AllOrNothing (Binance.getBalancesRest readOne
      (.ok { balances := malformedAccount.balances.reverse })) {} := by
  refine ((balance_updates_all_or_nothing readOne {}).2.1 _).2 ?_
  rintro _ ⟨⟩ failure _ asset update latest
  cases latest

/-! ## What a refresh leaves -/

section Refresh

variable {Coin : Type} {read : Coin → Except ServiceFailure AssetBalance} {name : Coin → String}

/-- The cache has the listed assets and no other, with the amounts that were read. -/
structure Reflects (read : Coin → Except ServiceFailure AssetBalance) (name : Coin → String)
    (cache : BalanceCache) (coins : List Coin) : Prop where
  listed : ∀ asset, (cache asset).isSome ↔ ∃ coin ∈ coins, name coin = asset
  amounts : ∀ coin ∈ coins, ∃ update found, read coin = .ok update ∧
    cache (name coin) = some found ∧ found.free = update.free ∧ found.locked = update.locked

theorem readable_of_ok {coins : List Coin} (processed : readAll read coins = .ok ()) :
    List.Forall₂ (fun coin update => read coin = .ok update) coins (readable read coins) := by
  induction coins with
  | nil => exact .nil
  | cons coin coins ih =>
      cases found : read coin with
      | error failure =>
          rw [readAll, found] at processed
          cases processed
      | ok update =>
          rw [readAll, found] at processed
          rw [readable, found]
          exact .cons found (ih processed)

theorem readable_names (named : ∀ coin update, read coin = .ok update → update.asset = name coin)
    {coins : List Coin} (processed : readAll read coins = .ok ()) :
    (readable read coins).map AssetBalance.asset = coins.map name := by
  have pairs := readable_of_ok processed
  clear processed
  generalize readable read coins = updates at pairs ⊢
  induction pairs with
  | nil => rfl
  | cons found _ ih => simp [named _ _ found, ih]

theorem readable_of_mem {coins : List Coin} (processed : readAll read coins = .ok ()) {coin : Coin}
    (member : coin ∈ coins) : ∃ update ∈ readable read coins, read coin = .ok update := by
  have pairs := readable_of_ok processed
  clear processed
  generalize readable read coins = updates at pairs ⊢
  induction pairs with
  | nil => cases member
  | cons found _ ih =>
      rcases List.mem_cons.1 member with rfl | later
      · exact ⟨_, List.mem_cons_self, found⟩
      · obtain ⟨update, among, read⟩ := ih later
        exact ⟨update, List.mem_cons_of_mem _ among, read⟩

theorem put_balances_is_some (cache : BalanceCache) (updates : List AssetBalance) (asset : String) :
    (putBalances cache updates asset).isSome ↔
      (cache asset).isSome ∨ asset ∈ updates.map AssetBalance.asset := by
  unfold putBalances
  rw [put_all_apply revised_balance_overrides]
  cases found : latest AssetBalance.asset updates asset with
  | none =>
      have absent : asset ∉ updates.map AssetBalance.asset := by
        intro member
        obtain ⟨update, among, same⟩ := List.mem_map.1 member
        exact latest_eq_none_iff.1 found update among same
      simp [absent]
  | some update =>
      have among : asset ∈ updates.map AssetBalance.asset :=
        List.mem_map.2 ⟨update, latest_mem found, latest_key found⟩
      simp [among]

theorem reflects_iff (named : ∀ coin update, read coin = .ok update → update.asset = name coin)
    {cache : BalanceCache} {coins : List Coin} (processed : readAll read coins = .ok ())
    (distinct : (coins.map name).Nodup) :
    Reflects read name (putBalances cache (readable read coins)) coins ↔
      ∀ asset, (cache asset).isSome → ∃ coin ∈ coins, name coin = asset := by
  have names := readable_names named processed
  have held : ∀ asset, (putBalances cache (readable read coins) asset).isSome ↔
      (cache asset).isSome ∨ ∃ coin ∈ coins, name coin = asset := by
    intro asset
    rw [put_balances_is_some, names, List.mem_map]
  constructor
  · intro reflects asset cached
    exact (reflects.listed asset).1 ((held asset).2 (.inl cached))
  · intro covered
    refine ⟨fun asset => ?_, fun coin member => ?_⟩
    · rw [held]
      exact or_iff_right_of_imp (covered asset)
    · obtain ⟨update, among, found⟩ := readable_of_mem processed member
      have last := latest_of_mem (names ▸ distinct) among
      have written : putBalances cache (readable read coins) (name coin) =
          some (revisedBalance (cache (name coin)) update) := by
        unfold putBalances
        rw [← named coin update found, put_all_apply revised_balance_overrides, last]
      refine ⟨update, _, found, written, ?_⟩
      cases cache (name coin) <;> exact ⟨rfl, rfl⟩

end Refresh

theorem Binance.account_balance_named {fromChars : String → Option Decimal}
    {coin : Binance.AccountBalanceDto} {update : AssetBalance}
    (found : Binance.readAccountBalance fromChars coin = .ok update) :
    update.asset = coin.asset := by
  obtain ⟨_, _, rest⟩ := except_bind_ok.1 found
  obtain ⟨_, _, made⟩ := except_bind_ok.1 rest
  cases made
  rfl

theorem Bybit.wallet_coin_named {fromChars : String → Option Decimal}
    {coin : Bybit.CoinBalanceDto} {update : AssetBalance}
    (found : Bybit.readWalletCoin fromChars coin = .ok update) : update.asset = coin.coin := by
  obtain ⟨_, _, rest⟩ := except_bind_ok.1 found
  obtain ⟨_, _, rest⟩ := except_bind_ok.1 rest
  obtain ⟨_, _, rest⟩ := except_bind_ok.1 rest
  obtain ⟨_, _, made⟩ := except_bind_ok.1 rest
  cases made
  rfl

/-- The response that answers a refresh, and what a failed one before it has written. -/
def Bybit.answering (fromChars : String → Option Decimal)
    (respond : String → Except ServiceFailure Bybit.WalletBalanceResponseDto)
    (state : BalanceState) : Option (Bybit.WalletBalanceResponseDto × List AssetBalance) :=
  let primary := Bybit.primaryAccountType state.balanceAccountType
  match Bybit.processAnswer fromChars (respond primary) with
  | .ok _ => (respond primary).toOption.map fun response => (response, [])
  | .error _ => (respond (Bybit.fallbackAccountType primary)).toOption.map fun response =>
      (response, Bybit.answerUpdates fromChars (respond primary))

theorem Bybit.processed_response {fromChars : String → Option Decimal}
    {answer : Except ServiceFailure Bybit.WalletBalanceResponseDto}
    (processed : Bybit.processAnswer fromChars answer = .ok ()) :
    ∃ response, answer = .ok response ∧
      readAll (Bybit.readWalletCoin fromChars) response.coins = .ok () := by
  cases answer with
  | error failure => cases processed
  | ok response => exact ⟨response, rfl, processed⟩

theorem Bybit.balances_rest_reflects {fromChars : String → Option Decimal} {state after : BalanceState}
    {respond : String → Except ServiceFailure Bybit.WalletBalanceResponseDto}
    {returned : BalanceCache}
    (returns : (Bybit.getBalancesRest fromChars respond).runOn state = (.ok returned, after)) :
    returned = after.balances ∧
      ∃ response left, Bybit.answering fromChars respond state = some (response, left) ∧
        ((response.coins.map (·.coin)).Nodup →
          (Reflects (Bybit.readWalletCoin fromChars) (·.coin) returned response.coins ↔
            ∀ asset, (state.balances asset).isSome ∨ asset ∈ left.map (·.asset) →
              ∃ coin ∈ response.coins, coin.coin = asset)) := by
  obtain ⟨left, leftWritten, ran⟩ := Bybit.refresh_either_run fromChars state respond
    (Bybit.primaryAccountType state.balanceAccountType)
    (Bybit.fallbackAccountType (Bybit.primaryAccountType state.balanceAccountType))
  cases processed : Bybit.processAnswer fromChars
      (respond (Bybit.primaryAccountType state.balanceAccountType)) with
  | ok _ =>
      rw [processed] at ran
      cases returns.symm.trans (Bybit.get_balances_rest_run fromChars state respond ran)
      obtain ⟨response, answered, readOk⟩ := Bybit.processed_response processed
      rw [answered] at leftWritten processed
      refine ⟨rfl, response, [], ?_, fun distinct => ?_⟩
      · simp only [Bybit.answering, answered, processed]
        rfl
      · rw [leftWritten]
        refine (reflects_iff (fun _ _ => Bybit.wallet_coin_named) readOk distinct).trans ?_
        refine forall_congr' fun asset => ?_
        simp
  | error failure =>
      cases failure with
      | nonStandard =>
          rw [processed] at ran
          cases returns.symm.trans (Bybit.get_balances_rest_run fromChars state respond ran)
      | runtime what | interrupted what =>
          rw [processed] at ran
          obtain ⟨last, written, ran⟩ := ran
          cases again : Bybit.processAnswer fromChars (respond (Bybit.fallbackAccountType
              (Bybit.primaryAccountType state.balanceAccountType))) with
          | error failure =>
              rw [again] at ran
              obtain ⟨thrown, ran⟩ := ran
              cases returns.symm.trans (Bybit.get_balances_rest_run fromChars state respond ran)
          | ok _ =>
              rw [again] at ran
              cases returns.symm.trans (Bybit.get_balances_rest_run fromChars state respond ran)
              obtain ⟨response, answered, readOk⟩ := Bybit.processed_response again
              rw [answered] at written
              refine ⟨rfl, response, Bybit.answerUpdates fromChars
                (respond (Bybit.primaryAccountType state.balanceAccountType)), ?_,
                fun distinct => ?_⟩
              · simp only [Bybit.answering, processed, answered]
                rfl
              · rw [written]
                refine (reflects_iff (fun _ _ => Bybit.wallet_coin_named) readOk distinct).trans ?_
                refine forall_congr' fun asset => ?_
                rw [leftWritten, put_balances_is_some]

/-- After a successful refresh the cache is the account's, exactly if each asset that
it held, and that a failed primary response has written, is listed. -/
theorem refresh_reflects_account (fromChars : String → Option Decimal) (state : BalanceState) :
    (∀ account returned after,
      (Binance.getBalancesRest fromChars (.ok account)).runOn state = (.ok returned, after) →
      returned = after.balances ∧
        ((account.balances.map (·.asset)).Nodup →
          (Reflects (Binance.readAccountBalance fromChars) (·.asset) returned account.balances ↔
            ∀ asset, (state.balances asset).isSome →
              ∃ coin ∈ account.balances, coin.asset = asset))) ∧
    ∀ respond returned after,
      (Bybit.getBalancesRest fromChars respond).runOn state = (.ok returned, after) →
      returned = after.balances ∧
        ∃ response left, Bybit.answering fromChars respond state = some (response, left) ∧
          ((response.coins.map (·.coin)).Nodup →
            (Reflects (Bybit.readWalletCoin fromChars) (·.coin) returned response.coins ↔
              ∀ asset, (state.balances asset).isSome ∨ asset ∈ left.map (·.asset) →
                ∃ coin ∈ response.coins, coin.coin = asset)) := by
  constructor
  · intro account returned after ran
    rw [Binance.get_balances_rest_run] at ran
    cases processed : readAll (Binance.readAccountBalance fromChars) account.balances with
    | error failure =>
        rw [processed] at ran
        cases ran
    | ok _ =>
        rw [processed] at ran
        cases ran
        exact ⟨rfl, reflects_iff (fun _ _ => Binance.account_balance_named) processed⟩
  · exact fun respond returned after returns => Bybit.balances_rest_reflects returns

/-- The account has sold its bitcoin since the last refresh. -/
theorem sold_asset_stays_cached :
    let sold : BalanceState :=
      { balances := fun asset => if asset = "BTC" then some { asset, free := 1 } else none }
    let account : Binance.AccountDto := { balances := [{ asset := "USDT", free := some "1" }] }
    ∃ returned after,
      (Binance.getBalancesRest readOne (.ok account)).runOn sold = (.ok returned, after) ∧
      returned "BTC" = some { asset := "BTC", free := 1 } ∧
      ¬ Reflects (Binance.readAccountBalance readOne) (·.asset) returned account.balances := by
  intro sold account
  refine ⟨_, _, Binance.get_balances_rest_run account, ?_, ?_⟩
  · with_unfolding_all rfl
  · intro reflects
    obtain ⟨coin, member, same⟩ := (reflects.listed "BTC").1 (by with_unfolding_all rfl)
    cases List.mem_singleton.1 member
    exact absurd same (by decide)

/-- An earlier balance of USDT is in the cache. -/
def staleCache : BalanceState where
  balances asset := if asset = "USDT" then some { asset, free := 2 } else none

def listedAccount : Binance.AccountDto where
  balances := [{ asset := "USDT", free := some "1" }, { asset := "BTC", free := some "1" }]

def walletResponse (coins : List Bybit.CoinBalanceDto) : Bybit.WalletBalanceResponseDto where
  result := some { list := some [{ coin := some coins }] }

def listedCoins : List Bybit.CoinBalanceDto :=
  [{ coin := "USDT", walletBalance := some "1" }, { coin := "BTC", walletBalance := some "1" }]

/-- The unified account's response fails behind the bitcoin that it has written. -/
def fallingBack (accountType : String) :
    Except ServiceFailure Bybit.WalletBalanceResponseDto :=
  if accountType = "UNIFIED" then
    .ok (walletResponse [{ coin := "BTC", walletBalance := some "1" },
      { coin := "ETH", walletBalance := some "much" }])
  else .ok (walletResponse listedCoins)

theorem stale_cache_asset {asset : String} (held : (staleCache.balances asset).isSome) :
    asset = "USDT" := by
  by_contra other
  simp [staleCache, other] at held

theorem listed_refreshes_reflect :
    Reflects (Binance.readAccountBalance readOne) (·.asset)
        ((Binance.getBalancesRest readOne (.ok listedAccount)).runOn staleCache).2.balances
        listedAccount.balances ∧
      Reflects (Bybit.readWalletCoin readOne) (·.coin)
        ((Bybit.getBalancesRest readOne fallingBack).runOn staleCache).2.balances listedCoins := by
  constructor
  · obtain ⟨-, exactly⟩ := (refresh_reflects_account readOne staleCache).1 listedAccount _ _
      (Binance.get_balances_rest_run listedAccount)
    refine (exactly (by decide)).2 fun asset held => ?_
    exact ⟨_, List.mem_cons_self, (stale_cache_asset held).symm⟩
  · obtain ⟨-, response, left, answered, exactly⟩ :=
      (refresh_reflects_account readOne staleCache).2 fallingBack _ _
        (by with_unfolding_all rfl)
    have known : Bybit.answering readOne fallingBack staleCache =
        some (walletResponse listedCoins, [{ asset := "BTC", free := 1 }]) := by
      with_unfolding_all rfl
    cases known.symm.trans answered
    refine (exactly (by decide)).2 fun asset held => ?_
    rcases held with cached | written
    · exact ⟨_, List.mem_cons_self, (stale_cache_asset cached).symm⟩
    · exact ⟨_, List.mem_cons_of_mem _ List.mem_cons_self, (List.mem_singleton.1 written).symm⟩

end CryptoDeal.DealService
