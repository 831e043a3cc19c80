import CryptoDeal.DealService.SymbolInfoCreation
import CryptoDeal.DealService.SymbolRuleValidator
import CryptoDeal.Library.Increments
import CryptoDeal.Library.Threads

/-!
# The cache of trading rules

`getSymbolInfo` and `ceilQuantityToStep` of both services, called by any number
of threads. The cache is looked up and filled in two critical sections with the
exchange's reply between them, so calls for one symbol can overtake each other.
-/

namespace CryptoDeal.DealService

open Interaction

inductive SymbolEffect where
  /-- The critical section that looks the symbol up. -/
  | findSymbolInfo (symbol : String)
  | requestSymbol (symbol : String)
  /-- The critical section that stores the symbol's rules. -/
  | storeSymbolInfo (symbol : String) (info : SymbolInfo)

@[reducible] def SymbolEffect.Answer (Response : Type) : SymbolEffect → Type
  | findSymbolInfo _ => Option SymbolInfo
  | requestSymbol _ => Except ServiceFailure Response
  | storeSymbolInfo _ _ => Unit

abbrev SymbolProgram (Response : Type) :=
  Interaction SymbolEffect (SymbolEffect.Answer Response) ServiceFailure

abbrev SymbolHistory (Response : Type) := History SymbolEffect (SymbolEffect.Answer Response)

/-- How a service computes, and how it reads the reply for a symbol: what it makes of it can be
traded with. -/
structure SymbolSource (Response : Type) where
  rounding : DecimalText.NearestRounding
  create : String → Response → Except ServiceFailure SymbolInfo
  usable : ∀ {symbol response info}, create symbol response = .ok info → info.Usable

namespace SymbolProgram

variable {Response : Type}

def findSymbolInfo (symbol : String) : SymbolProgram Response (Option SymbolInfo) :=
  .request (.findSymbolInfo symbol) .returned

def requestSymbol (symbol : String) : SymbolProgram Response Response :=
  .request (.requestSymbol symbol) .ofExcept

def storeSymbolInfo (symbol : String) (info : SymbolInfo) : SymbolProgram Response Unit :=
  .request (.storeSymbolInfo symbol info) .returned

end SymbolProgram

open SymbolProgram

section

variable {Response : Type} (source : SymbolSource Response)

/-- From the reply on. -/
def fetchSymbolInfo (symbol : String) : SymbolProgram Response SymbolInfo := do
  let response ← requestSymbol symbol
  let info ← liftM (source.create symbol response)
  storeSymbolInfo symbol info
  return info

def getSymbolInfo (symbol : String) : SymbolProgram Response SymbolInfo := do
  liftM (throwIf (symbol = "") "Symbol cannot be empty")
  match ← findSymbolInfo symbol with
  | some info => return info
  | none => fetchSymbolInfo source symbol

def ceilQuantityToStep (symbol : String) (quantity : Decimal) : SymbolProgram Response Decimal := do
  let info ← getSymbolInfo source symbol
  return DecimalConverter.ceilToStep source.rounding quantity info.stepSize

end

/-- `symbols` is that of the reply. -/
def Binance.symbolSource (rounding : DecimalText.NearestRounding)
    (fromChars : String → Option Decimal) : SymbolSource (List Binance.SymbolRulesDto) where
  rounding
  create := fun symbol symbols =>
    match symbols with
    | [] => .error (.runtime ("Binance symbol not found: " ++ symbol))
    | first :: _ => Binance.createSymbolInfo fromChars first
  usable := by
    intro symbol symbols info created
    cases symbols with
    | nil => cases created
    | cons first rest => exact Binance.create_symbol_info_usable created

/-- `list` is that of the reply's result. -/
def Bybit.symbolSource (rounding : DecimalText.NearestRounding)
    (fromChars : String → Option Decimal) :
    SymbolSource (Option (List Bybit.InstrumentRulesDto)) where
  rounding
  create := fun symbol list =>
    match list with
    | none => .error (.runtime "Missing result object")
    | some [] => .error (.runtime ("Symbol not found: " ++ symbol))
    | some (first :: _) => Bybit.createSymbolInfo fromChars first symbol
  usable := by
    intro symbol list info created
    match list with
    | none => cases created
    | some [] => cases created
    | some (first :: rest) => exact Bybit.create_symbol_info_usable created

namespace Binance

variable (rounding : DecimalText.NearestRounding) (fromChars : String → Option Decimal)

def getSymbolInfo (symbol : String) :=
  DealService.getSymbolInfo (symbolSource rounding fromChars) symbol

def ceilQuantityToStep (symbol : String) (quantity : Decimal) :=
  DealService.ceilQuantityToStep (symbolSource rounding fromChars) symbol quantity

end Binance

namespace Bybit

variable (rounding : DecimalText.NearestRounding) (fromChars : String → Option Decimal)

def getSymbolInfo (symbol : String) :=
  DealService.getSymbolInfo (symbolSource rounding fromChars) symbol

def ceilQuantityToStep (symbol : String) (quantity : Decimal) :=
  DealService.ceilQuantityToStep (symbolSource rounding fromChars) symbol quantity

end Bybit

/-! ## Any number of calls -/

inductive SymbolCall where
  | getSymbolInfo (symbol : String)
  | ceilQuantityToStep (symbol : String) (quantity : Decimal)

@[reducible] def SymbolCall.Result : SymbolCall → Type
  | getSymbolInfo _ => SymbolInfo
  | ceilQuantityToStep _ _ => Decimal

/-- `symbolInfoCache`. -/
abbrev SymbolCache := String → Option SymbolInfo

/-- The exchange may reply anything. -/
def SymbolEffect.Performs {Response : Type} (before : SymbolCache) :
    (effect : SymbolEffect) → effect.Answer Response → SymbolCache → Prop
  | findSymbolInfo symbol, found, after => found = before symbol ∧ after = before
  | requestSymbol _, _, after => after = before
  | storeSymbolInfo symbol info, _, after => after = Function.update before symbol (some info)

section

variable {Response : Type} (source : SymbolSource Response)

def symbolThreads :
    ThreadSystem SymbolCall SymbolCache SymbolEffect (SymbolEffect.Answer Response)
      ServiceFailure where
  Result := SymbolCall.Result
  program := fun call =>
    match call with
    | .getSymbolInfo symbol => getSymbolInfo source symbol
    | .ceilQuantityToStep symbol quantity => ceilQuantityToStep source symbol quantity
  performs := SymbolEffect.Performs

/-- A run from the construction of the service. -/
abbrev SymbolRun : List (ThreadStep (symbolThreads source)) → Threads (symbolThreads source) → Prop :=
  ThreadRun (symbolThreads source) fun _ => none

end

/-! ## What one call does -/

section

variable {Response : Type} {source : SymbolSource Response}

/-- What a call has been answered when it makes a request. -/
def lookupRequires (source : SymbolSource Response) (history : SymbolHistory Response) :
    SymbolEffect → Prop
  | .findSymbolInfo _ => history = []
  | .requestSymbol symbol => history = [⟨.findSymbolInfo symbol, none⟩]
  | .storeSymbolInfo symbol info => ∃ response, source.create symbol response = .ok info ∧
      history = [⟨.requestSymbol symbol, .ok response⟩, ⟨.findSymbolInfo symbol, none⟩]

/-- The rules come from the cache or from a reply. -/
def Obtained (source : SymbolSource Response) (history : SymbolHistory Response) (symbol : String)
    (info : SymbolInfo) : Prop :=
  ⟨.findSymbolInfo symbol, some info⟩ ∈ history ∨ ∃ response,
    source.create symbol response = .ok info ∧ ⟨.requestSymbol symbol, .ok response⟩ ∈ history

theorem get_symbol_info_meets (symbol : String) :
    Meets (requestsOnly (lookupRequires source))
      (fun later outcome => ∀ info, outcome = .ok info → Obtained source later symbol info)
      (getSymbolInfo source symbol) [] := by
  apply meets_lift_bind
  · intro checked _
    refine ⟨rfl, fun found _ => ?_⟩
    cases found with
    | some info =>
        rintro _ ⟨⟩
        exact .inl List.mem_cons_self
    | none =>
        refine ⟨rfl, fun reply _ => ?_⟩
        cases reply with
        | error failure =>
            intro info same
            cases same
        | ok response =>
            change Meets _ _ (liftM (source.create symbol response) >>= _) _
            apply meets_lift_bind
            · intro info created
              refine ⟨⟨response, created, rfl⟩, fun _ _ => ?_⟩
              rintro _ ⟨⟩
              exact .inr ⟨response, created, List.mem_cons_of_mem _ List.mem_cons_self⟩
            · intro failure _ info same
              cases same
  · intro failure _ info same
    cases same

/-- What a call returns, by its kind. -/
def CallReturns (source : SymbolSource Response) :
    (call : SymbolCall) → SymbolHistory Response → Except ServiceFailure call.Result → Prop
  | .getSymbolInfo symbol, later, outcome =>
      ∀ info, outcome = .ok info → Obtained source later symbol info
  | .ceilQuantityToStep symbol quantity, later, outcome => ∀ value, outcome = .ok value →
      ∃ info, Obtained source later symbol info ∧
        value = DecimalConverter.ceilToStep source.rounding quantity info.stepSize

theorem symbol_call_meets (call : SymbolCall) :
    Meets (requestsOnly (lookupRequires source)) (CallReturns source call)
      ((symbolThreads source).program call) [] := by
  cases call with
  | getSymbolInfo symbol => exact get_symbol_info_meets symbol
  | ceilQuantityToStep symbol quantity =>
      apply (get_symbol_info_meets symbol).bind
      · intro later info obtained value same
        cases same
        exact ⟨info, obtained info rfl, rfl⟩
      · intro later failure _ value same
        cases same

end

/-! ## Whole runs -/

section

variable {Response : Type} {source : SymbolSource Response}
  {steps : List (ThreadStep (symbolThreads source))}
  {state before after : Threads (symbolThreads source)} {threadId : ThreadId}
  {thread : Thread (symbolThreads source)} {symbol : String} {info : SymbolInfo}

/-- The rules were made of a reply that some call of this run got for the symbol. -/
def Listed (steps : List (ThreadStep (symbolThreads source))) (symbol : String)
    (info : SymbolInfo) : Prop :=
  ∃ step ∈ steps, ∃ threadId response,
    step.2 = .performed threadId (.requestSymbol symbol) (.ok response) ∧
      source.create symbol response = .ok info

/-- The symbol's rules have been stored. -/
def Stored (steps : List (ThreadStep (symbolThreads source))) (symbol : String) : Prop :=
  ∃ step ∈ steps, ∃ threadId info, step.2 = .performed threadId (.storeSymbolInfo symbol info) ()

theorem Listed.grow (listed : Listed steps symbol info)
    {more : List (ThreadStep (symbolThreads source))} (within : steps ⊆ more) :
    Listed more symbol info := by
  obtain ⟨step, member, rest⟩ := listed
  exact ⟨step, within member, rest⟩

theorem Listed.usable (listed : Listed steps symbol info) : info.Usable := by
  obtain ⟨-, -, -, response, -, created⟩ := listed
  exact source.usable created

theorem SymbolRun.meets (run : SymbolRun source steps state)
    (found : state.threads threadId = some thread) :
    Meets (requestsOnly (lookupRequires source)) (CallReturns source thread.call) thread.current
      thread.history :=
  ThreadRun.meets (fun _ _ _ _ _ _ => trivial) symbol_call_meets run found

theorem SymbolRun.required {effect : SymbolEffect} {answer : effect.Answer Response}
    (run : SymbolRun source steps before)
    (moves : before.Moves (.performed threadId effect answer) after) :
    lookupRequires source (before.historyOf threadId) effect := by
  have required : (requestsOnly (lookupRequires source)).requires (before.historyOf threadId)
      effect := ThreadRun.allows (fun _ _ _ _ _ _ => trivial) symbol_call_meets run moves
  exact required

/-- The cache has what was stored, all of it from replies. -/
structure CacheInvariant (steps : List (ThreadStep (symbolThreads source)))
    (state : Threads (symbolThreads source)) : Prop where
  listed : ∀ symbol info, state.shared symbol = some info → Listed steps symbol info
  kept : ∀ symbol, Stored steps symbol ↔ (state.shared symbol).isSome

theorem stored_cons {event : ThreadEvent SymbolCall SymbolEffect (SymbolEffect.Answer Response)}
    (other : ∀ threadId info, event ≠ .performed threadId (.storeSymbolInfo symbol info) ()) :
    Stored ((before, event) :: steps) symbol ↔ Stored steps symbol := by
  constructor
  · rintro ⟨step, member, threadId, info, same⟩
    obtain rfl | old := List.mem_cons.1 member
    · exact absurd same (other threadId info)
    · exact ⟨step, old, threadId, info, same⟩
  · rintro ⟨step, member, rest⟩
    exact ⟨step, List.mem_cons_of_mem _ member, rest⟩

/-- A step that stores nothing leaves the cache alone. -/
theorem CacheInvariant.quiet
    {event : ThreadEvent SymbolCall SymbolEffect (SymbolEffect.Answer Response)}
    (invariant : CacheInvariant steps before) (shared : after.shared = before.shared)
    (other : ∀ symbol threadId info,
      event ≠ .performed threadId (.storeSymbolInfo symbol info) ()) :
    CacheInvariant ((before, event) :: steps) after where
  listed := by
    intro symbol info cached
    rw [shared] at cached
    exact (invariant.listed symbol info cached).grow (List.subset_cons_self _ _)
  kept := by
    intro symbol
    rw [shared, stored_cons (other symbol), invariant.kept]

/-- What is stored is what the call's own reply gave. -/
theorem CacheInvariant.store (run : SymbolRun source steps before)
    (invariant : CacheInvariant steps before)
    (moves : before.Moves (.performed threadId (.storeSymbolInfo symbol info) ()) after) :
    CacheInvariant ((before, .performed threadId (.storeSymbolInfo symbol info) ()) :: steps)
      after := by
  have shared : after.shared = Function.update before.shared symbol (some info) := moves.performs
  obtain ⟨response, created, history⟩ := SymbolRun.required run moves
  constructor
  · intro other cached found
    rw [shared] at found
    by_cases same : other = symbol
    · subst same
      rw [Function.update_self] at found
      cases found
      have answered : ⟨.requestSymbol other, .ok response⟩ ∈ before.historyOf threadId := by
        rw [history]
        exact List.mem_cons_self
      obtain ⟨step, member, event⟩ := (ThreadRun.mem_history run).1 answered
      exact ⟨step, List.mem_cons_of_mem _ member, threadId, response, event, created⟩
    · rw [Function.update_of_ne same] at found
      exact (invariant.listed other cached found).grow (List.subset_cons_self _ _)
  · intro other
    rw [shared]
    by_cases same : other = symbol
    · subst same
      rw [Function.update_self]
      exact iff_of_true ⟨_, List.mem_cons_self, threadId, info, rfl⟩ rfl
    · rw [Function.update_of_ne same, ← invariant.kept]
      apply stored_cons
      intro actor stored again
      cases again
      exact same rfl

theorem SymbolRun.cache (run : SymbolRun source steps state) : CacheInvariant steps state := by
  induction run with
  | start =>
      constructor
      · intro symbol info cached
        cases cached
      · intro symbol
        refine iff_of_false ?_ Bool.false_ne_true
        rintro ⟨step, member, -⟩
        cases member
  | @step steps before after event run moves ih =>
      cases event with
      | started threadId call =>
          apply ih.quiet (moves.history_of_started threadId).1
          intro symbol actor info same
          cases same
      | performed threadId effect answer =>
          have performed := moves.performs
          cases effect with
          | findSymbolInfo symbol =>
              apply ih.quiet performed.2
              intro symbol actor info same
              cases same
          | requestSymbol symbol =>
              apply ih.quiet performed
              intro symbol actor info same
              cases same
          | storeSymbolInfo symbol info => exact CacheInvariant.store run ih moves

/-- Whatever a call has found or made was listed in the run. -/
theorem SymbolRun.obtained (run : SymbolRun source steps state)
    (obtained : Obtained source (state.historyOf threadId) symbol info) :
    Listed steps symbol info := by
  obtain found | ⟨response, created, answered⟩ := obtained
  · obtain ⟨step, member, event⟩ := (ThreadRun.mem_history run).1 found
    obtain ⟨later, earlier, after, rfl, ran, moves⟩ := ThreadRun.at_step run member
    rw [event] at moves
    have cached := moves.performs.1
    refine ((SymbolRun.cache ran).listed symbol info cached.symm).grow ?_
    exact List.subset_append_of_subset_right _ (List.subset_cons_self _ _)
  · obtain ⟨step, member, event⟩ := (ThreadRun.mem_history run).1 answered
    exact ⟨step, member, threadId, response, event, created⟩

/-! ## What holds in every run -/

/-- What the callers of one service may rely on, however many they are. -/
structure LookupsSound (steps : List (ThreadStep (symbolThreads source)))
    (state : Threads (symbolThreads source)) : Prop where
  /-- The rules that a call returns are those of a reply for its symbol, and usable. -/
  returned : ∀ threadId history symbol (info : SymbolInfo),
    state.threads threadId = some ⟨.getSymbolInfo symbol, history, .returned info⟩ →
      Listed steps symbol info ∧ info.Usable
  /-- A quantity is rounded up by the symbol's step. On one scale with the step it becomes the
  least multiple not below it, and no check of the rules complains about its step. -/
  rounded : ∀ threadId history symbol quantity (value : Decimal),
    state.threads threadId = some ⟨.ceilQuantityToStep symbol quantity, history, .returned value⟩ →
      ∃ info, Listed steps symbol info ∧
        value = DecimalConverter.ceilToStep source.rounding quantity info.stepSize ∧
        ∀ digits, DecimalConverter.SharesScale digits quantity info.stepSize → 0 < quantity →
          IsLeast { multiple | Increments.IsMultiple info.stepSize multiple ∧ quantity ≤ multiple }
            value ∧
          (SymbolRuleValidator.validateQuantity source.rounding value info).violation ∉
            [.quantityStepMismatch, .quantityStepUnavailable]
  /-- What has been stored stays. -/
  kept : ∀ symbol, Stored steps symbol ↔ (state.shared symbol).isSome
  /-- A call asks the exchange only if nothing was stored for its symbol when it looked. -/
  asked : ∀ later earlier before threadId symbol answer,
    steps = later ++ (before, .performed threadId (.requestSymbol symbol) answer) :: earlier →
      ∃ between looked older,
        earlier = between ++ (looked, .performed threadId (.findSymbolInfo symbol) none) :: older ∧
          ¬ Stored older symbol

theorem multiple_fits_step (rounding : DecimalText.NearestRounding) {value : Decimal}
    (positive : 0 < info.stepSize) (multiple : Increments.IsMultiple info.stepSize value) :
    (SymbolRuleValidator.validateQuantity rounding value info).violation ∉
      [.quantityStepMismatch, .quantityStepUnavailable] := by
  obtain ⟨units, same⟩ := multiple
  have whole : SymbolRuleValidator.isIncrementValid rounding value info.stepSize :=
    SymbolRuleValidator.increment_valid_of_multiple positive same
  rw [SymbolRuleValidator.validateQuantity, if_neg (not_le.2 positive), if_neg (not_not.2 whole)]
  split_ifs <;> decide

theorem symbol_lookups_sound (run : SymbolRun source steps state) : LookupsSound steps state := by
  constructor
  · intro threadId history symbol info found
    have met := SymbolRun.meets run found
    have same : state.historyOf threadId = history := Threads.history_of_found found
    have obtained : Obtained source history symbol info := met info rfl
    rw [← same] at obtained
    have listed := SymbolRun.obtained run obtained
    exact ⟨listed, listed.usable⟩
  · intro threadId history symbol quantity value found
    have met := SymbolRun.meets run found
    have same : state.historyOf threadId = history := Threads.history_of_found found
    obtain ⟨info, obtained, rfl⟩ : ∃ info, Obtained source history symbol info ∧
        value = DecimalConverter.ceilToStep source.rounding quantity info.stepSize :=
      met value rfl
    rw [← same] at obtained
    have listed := SymbolRun.obtained run obtained
    have positive := listed.usable.stepSize
    refine ⟨info, listed, rfl, fun digits scale quantityPositive => ?_⟩
    rw [DecimalConverter.ceil_to_step_scaled source.rounding scale quantityPositive positive]
    have least := Increments.least_multiple positive quantity
    exact ⟨least, multiple_fits_step source.rounding positive least.1.1⟩
  · exact (SymbolRun.cache run).kept
  · rintro later earlier before threadId symbol answer rfl
    obtain ⟨ran, after, moves⟩ := ThreadRun.up_to run
    have history : before.historyOf threadId = [⟨.findSymbolInfo symbol, none⟩] :=
      SymbolRun.required ran moves
    have looked : ⟨.findSymbolInfo symbol, none⟩ ∈ before.historyOf threadId := by
      rw [history]
      exact List.mem_cons_self
    obtain ⟨⟨found, event⟩, member, same⟩ := (ThreadRun.mem_history ran).1 looked
    cases same
    obtain ⟨between, older, next, rfl, started, moved⟩ := ThreadRun.at_step ran member
    have absent := moved.performs.1
    refine ⟨between, found, older, rfl, ?_⟩
    rw [(SymbolRun.cache started).kept, ← absent]
    exact Bool.false_ne_true

/-! ## Two calls for one symbol -/

def respondWith (response : Response) (cache : SymbolCache) :
    (effect : SymbolEffect) → Option (effect.Answer Response × SymbolCache)
  | .findSymbolInfo symbol => some (cache symbol, cache)
  | .requestSymbol _ => some (.ok response, cache)
  | .storeSymbolInfo symbol info => some ((), Function.update cache symbol (some info))

theorem respond_with_performs (source : SymbolSource Response) (response : Response)
    (cache : SymbolCache) (effect : SymbolEffect)
    (answer : effect.Answer Response) (after : SymbolCache)
    (responded : respondWith response cache effect = some (answer, after)) :
    (symbolThreads source).performs cache effect answer after := by
  cases effect with
  | findSymbolInfo symbol =>
      cases responded
      exact ⟨rfl, rfl⟩
  | requestSymbol symbol =>
      cases responded
      rfl
  | storeSymbolInfo symbol info =>
      cases responded
      rfl

end

namespace Bybit

def exampleInstrument : InstrumentRulesDto where
  symbol := some "BTCUSDT"
  status := some "Trading"
  baseCoin := some "BTC"
  quoteCoin := some "USDT"
  priceFilter := some { tickSize := some "0.01" }
  lotSizeFilter := some { basePrecision := some "0.001", minOrderQty := some "0.01" }

def exampleSource : SymbolSource (Option (List InstrumentRulesDto)) :=
  symbolSource DecimalText.roundedHalfUp fun text => DecimalText.decimalValue text.toList

/-- Both calls look before either has stored anything. -/
def racingCalls : Threads (symbolThreads exampleSource) :=
  [.start 0 (.getSymbolInfo "BTCUSDT"), .start 1 (.ceilQuantityToStep "BTCUSDT" (12345 / 10 ^ 7)),
    .act 0 1, .act 1 1, .act 0 2, .act 1 2].foldl
    (Threads.obey (respondWith (some [exampleInstrument]))) (.alone fun _ => none)

theorem racing_calls_sound : ∃ steps, LookupsSound steps racingCalls ∧
    (racingCalls.shared "BTCUSDT").map SymbolInfo.stepSize = some (1 / 1000) := by
  obtain ⟨steps, run⟩ := ThreadRun.obeys (respond_with_performs exampleSource _) .start
    [.start 0 (.getSymbolInfo "BTCUSDT"), .start 1 (.ceilQuantityToStep "BTCUSDT" (12345 / 10 ^ 7)),
      .act 0 1, .act 1 1, .act 0 2, .act 1 2]
  exact ⟨_, symbol_lookups_sound run, by decide +kernel⟩

end Bybit

end CryptoDeal.DealService
