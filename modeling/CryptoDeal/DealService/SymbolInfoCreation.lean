import CryptoDeal.DealService.DecimalConverter
import CryptoDeal.DealService.TradablePairs

/-!
# Trading rules from an exchange's reply

`createSymbolInfo` of both services. Binance lists a symbol's rules as filters,
of which the last one of a kind decides; Bybit has one record of each kind.
Neither hands out rules without a tick, a step and a smallest quantity.
-/

namespace CryptoDeal.DealService

open DecimalConverter

/-- What both services check of the rules that they hand out. -/
structure SymbolInfo.Usable (info : SymbolInfo) : Prop where
  tickSize : 0 < info.tickSize
  stepSize : 0 < info.stepSize
  minQty : 0 < info.minQty

section

variable (fromChars : String → Option Decimal)

def checkSymbolInfo (info : SymbolInfo) : Except ServiceFailure SymbolInfo := do
  throwIf (info.tickSize ≤ 0) "Invalid tickSize"
  throwIf (info.stepSize ≤ 0) "Invalid stepSize"
  throwIf (info.minQty ≤ 0) "Invalid minQty"
  return info

namespace Binance

inductive FilterType where
  | priceFilter
  | lotSize
  | minNotional
  | notional
  deriving DecidableEq

/-- `EnumStringConverter<FilterType>::parseString`. -/
def FilterType.parseString : String → Option FilterType
  | "PRICE_FILTER" => some .priceFilter
  | "LOT_SIZE" => some .lotSize
  | "MIN_NOTIONAL" => some .minNotional
  | "NOTIONAL" => some .notional
  | _ => none

structure FilterDto where
  filterType : Option String := none
  minPrice : Option String := none
  maxPrice : Option String := none
  tickSize : Option String := none
  minQty : Option String := none
  maxQty : Option String := none
  stepSize : Option String := none
  minNotional : Option String := none
  maxNotional : Option String := none

/-- `SymbolDto` with the fields that the trading rules come from. -/
structure SymbolRulesDto extends SymbolDto where
  baseAssetPrecision : Option ℤ := none
  quotePrecision : Option ℤ := none
  filters : List FilterDto := []

/-- The cast of an `int64_t` to `int`. -/
def parseToInt (value : Option ℤ) : ℤ :=
  (value.map fun whole => whole.bmod (2 ^ 32)).getD 0

def FilterDto.kind (filter : FilterDto) : Option FilterType :=
  filter.filterType.bind FilterType.parseString

def processSymbolFilters (info : SymbolInfo) (filter : FilterDto) :
    Except ServiceFailure SymbolInfo :=
  match filter.kind with
  | none => return info
  | some .priceFilter => do
      let minPrice ← parseToDecimal fromChars filter.minPrice
      let maxPrice ← parseToDecimal fromChars filter.maxPrice
      let tickSize ← parseToDecimal fromChars filter.tickSize
      return { info with minPrice, maxPrice, tickSize }
  | some .lotSize => do
      let minQty ← parseToDecimal fromChars filter.minQty
      let maxQty ← parseToDecimal fromChars filter.maxQty
      let stepSize ← parseToDecimal fromChars filter.stepSize
      return { info with minQty, maxQty, stepSize }
  | some .minNotional => do
      let minNotional ← parseToDecimal fromChars filter.minNotional
      return { info with minNotional }
  | some .notional => do
      let minNotional ← parseToDecimal fromChars filter.minNotional
      let maxNotional ← parseToDecimal fromChars filter.maxNotional
      return { info with minNotional, maxNotional }

/-- The part of the rules that no filter changes. -/
def describeSymbol (symbol : SymbolRulesDto) : SymbolInfo where
  symbol := symbol.symbol
  status := symbol.status
  baseAsset := symbol.baseAsset
  quoteAsset := symbol.quoteAsset
  qtyPrecision := parseToInt symbol.baseAssetPrecision
  pricePrecision := parseToInt symbol.quotePrecision

def createSymbolInfo (symbol : SymbolRulesDto) : Except ServiceFailure SymbolInfo := do
  let info ← symbol.filters.foldlM (processSymbolFilters fromChars) (describeSymbol symbol)
  checkSymbolInfo info

end Binance

namespace Bybit

structure PriceFilterDto where
  tickSize : Option String := none
  minPrice : Option String := none
  maxPrice : Option String := none

structure LotSizeFilterDto where
  qtyStep : Option String := none
  basePrecision : Option String := none
  minOrderQty : Option String := none
  maxOrderQty : Option String := none
  minOrderAmt : Option String := none
  maxOrderAmt : Option String := none

/-- `InstrumentDto` with the fields that the trading rules come from. -/
structure InstrumentRulesDto extends InstrumentDto where
  priceFilter : Option PriceFilterDto := none
  lotSizeFilter : Option LotSizeFilterDto := none

def applyPriceFilter (info : SymbolInfo) :
    Option PriceFilterDto → Except ServiceFailure SymbolInfo
  | none => return info
  | some priceFilter => do
      let tickSize ← parseToDecimal fromChars priceFilter.tickSize
      let minPrice ← parseToDecimal fromChars priceFilter.minPrice
      let maxPrice ← parseToDecimal fromChars priceFilter.maxPrice
      return { info with tickSize, minPrice, maxPrice }

def applyLotSizeFilter (info : SymbolInfo) :
    Option LotSizeFilterDto → Except ServiceFailure SymbolInfo
  | none => return info
  | some lotSizeFilter => do
      let qtyStep ← parseToDecimal fromChars lotSizeFilter.qtyStep
      let stepSize ←
        if qtyStep ≤ 0 then parseToDecimal fromChars lotSizeFilter.basePrecision
        else pure qtyStep
      let minQty ← parseToDecimal fromChars lotSizeFilter.minOrderQty
      let maxQty ← parseToDecimal fromChars lotSizeFilter.maxOrderQty
      let minNotional ← parseToDecimal fromChars lotSizeFilter.minOrderAmt
      let maxNotional ← parseToDecimal fromChars lotSizeFilter.maxOrderAmt
      return { info with stepSize, minQty, maxQty, minNotional, maxNotional }

def createSymbolInfo (instrument : InstrumentRulesDto) (symbol : String) :
    Except ServiceFailure SymbolInfo := do
  let named : SymbolInfo :=
    { symbol := instrument.symbol.getD symbol
      status := instrument.status.getD ""
      baseAsset := instrument.baseCoin.getD ""
      quoteAsset := instrument.quoteCoin.getD "" }
  let priced ← applyPriceFilter fromChars named instrument.priceFilter
  let sized ← applyLotSizeFilter fromChars priced instrument.lotSizeFilter
  checkSymbolInfo sized

end Bybit

end

section Checks

theorem check_symbol_info_ok {info checked : SymbolInfo} :
    checkSymbolInfo info = .ok checked ↔ checked = info ∧ info.Usable := by
  unfold checkSymbolInfo
  simp only [throw_if_bind_ok, not_le]
  constructor
  · rintro ⟨tick, step, quantity, same⟩
    exact ⟨(Except.ok.inj same).symm, tick, step, quantity⟩
  · rintro ⟨rfl, usable⟩
    exact ⟨usable.tickSize, usable.stepSize, usable.minQty, rfl⟩

variable {fromChars : String → Option Decimal} {info : SymbolInfo}

theorem Binance.create_symbol_info_usable {symbol : Binance.SymbolRulesDto}
    (created : Binance.createSymbolInfo fromChars symbol = .ok info) : info.Usable := by
  obtain ⟨rules, -, checked⟩ := except_bind_ok.1 created
  obtain ⟨rfl, usable⟩ := check_symbol_info_ok.1 checked
  exact usable

theorem Bybit.create_symbol_info_usable {instrument : Bybit.InstrumentRulesDto} {symbol : String}
    (created : Bybit.createSymbolInfo fromChars instrument symbol = .ok info) : info.Usable := by
  obtain ⟨priced, -, rest⟩ := except_bind_ok.1 created
  obtain ⟨sized, -, checked⟩ := except_bind_ok.1 rest
  obtain ⟨rfl, usable⟩ := check_symbol_info_ok.1 checked
  exact usable

end Checks

/-! ## The last filter of a kind decides -/

namespace Binance

/-- The numbers of a symbol's rules. -/
inductive RuleField where
  | minPrice
  | maxPrice
  | tickSize
  | minQty
  | maxQty
  | stepSize
  | minNotional
  | maxNotional
  deriving DecidableEq

def RuleField.of (info : SymbolInfo) : RuleField → Decimal
  | minPrice => info.minPrice
  | maxPrice => info.maxPrice
  | tickSize => info.tickSize
  | minQty => info.minQty
  | maxQty => info.maxQty
  | stepSize => info.stepSize
  | minNotional => info.minNotional
  | maxNotional => info.maxNotional

/-- The text that a filter has for a rule, if its kind sets that rule. -/
def RuleField.textIn (filter : FilterDto) : RuleField → Option (Option String)
  | minPrice => if filter.kind = some .priceFilter then some filter.minPrice else none
  | maxPrice => if filter.kind = some .priceFilter then some filter.maxPrice else none
  | tickSize => if filter.kind = some .priceFilter then some filter.tickSize else none
  | minQty => if filter.kind = some .lotSize then some filter.minQty else none
  | maxQty => if filter.kind = some .lotSize then some filter.maxQty else none
  | stepSize => if filter.kind = some .lotSize then some filter.stepSize else none
  | minNotional =>
      if filter.kind = some .minNotional ∨ filter.kind = some .notional then
        some filter.minNotional
      else none
  | maxNotional => if filter.kind = some .notional then some filter.maxNotional else none

/-- What is left of the rules without their numbers. -/
def unruled (info : SymbolInfo) : SymbolInfo where
  symbol := info.symbol
  status := info.status
  baseAsset := info.baseAsset
  quoteAsset := info.quoteAsset
  pricePrecision := info.pricePrecision
  qtyPrecision := info.qtyPrecision

theorem eq_of_rules {left right : SymbolInfo} (rest : unruled left = unruled right)
    (rules : ∀ field : RuleField, field.of left = field.of right) : left = right := by
  cases left
  cases right
  simp only [unruled, SymbolInfo.mk.injEq, true_and] at rest
  obtain ⟨symbol, status, baseAsset, quoteAsset, pricePrecision, qtyPrecision⟩ := rest
  rw [SymbolInfo.mk.injEq]
  exact ⟨symbol, status, baseAsset, quoteAsset, rules .tickSize, rules .stepSize, rules .minQty,
    rules .maxQty, rules .minPrice, rules .maxPrice, rules .minNotional, rules .maxNotional,
    pricePrecision, qtyPrecision⟩

variable {fromChars : String → Option Decimal}

/-- The value is the text's, or the earlier value where there is no text. -/
def SetTo (fromChars : String → Option Decimal) (text : Option (Option String))
    (earlier value : Decimal) : Prop :=
  match text with
  | none => value = earlier
  | some text => parseToDecimal fromChars text = .ok value

theorem SetTo.unique {text : Option (Option String)} {earlier first second : Decimal}
    (left : SetTo fromChars text earlier first) (right : SetTo fromChars text earlier second) :
    first = second := by
  cases text with
  | none => exact Eq.trans left (Eq.symm right)
  | some text =>
      have same : Except.ok first = .ok second := Eq.trans (Eq.symm left) right
      exact Except.ok.inj same

/-- Every number that the filter sets can be read. -/
def Readable (fromChars : String → Option Decimal) (filter : FilterDto) : Prop :=
  ∀ field : RuleField, ∀ text, field.textIn filter = some text →
    ∃ value, parseToDecimal fromChars text = .ok value

/-- The rules are the start's, changed by the last filter that sets each. -/
structure FilteredRules (fromChars : String → Option Decimal) (filters : List FilterDto)
    (start info : SymbolInfo) : Prop where
  rest : unruled info = unruled start
  rules : ∀ field : RuleField,
    SetTo fromChars (filters.filterMap field.textIn).getLast? (field.of start) (field.of info)

variable {info next start : SymbolInfo} {filter : FilterDto} {filters : List FilterDto}

/-- One filter sets what its kind sets. -/
theorem process_symbol_filters_rules
    (processed : processSymbolFilters fromChars info filter = .ok next) :
    unruled next = unruled info ∧
      ∀ field : RuleField, SetTo fromChars (field.textIn filter) (field.of info) (field.of next) := by
  rw [processSymbolFilters] at processed
  cases kind : filter.kind with
  | none =>
      rw [kind] at processed
      cases processed
      refine ⟨rfl, fun field => ?_⟩
      cases field <;> simp [RuleField.textIn, kind, SetTo]
  | some filterType =>
      rw [kind] at processed
      cases filterType with
      | priceFilter =>
          obtain ⟨minPrice, minText, processed⟩ := except_bind_ok.1 processed
          obtain ⟨maxPrice, maxText, processed⟩ := except_bind_ok.1 processed
          obtain ⟨tickSize, tickText, processed⟩ := except_bind_ok.1 processed
          cases processed
          refine ⟨rfl, fun field => ?_⟩
          cases field <;> simp [RuleField.textIn, RuleField.of, kind, SetTo, minText, maxText, tickText]
      | lotSize =>
          obtain ⟨minQty, minText, processed⟩ := except_bind_ok.1 processed
          obtain ⟨maxQty, maxText, processed⟩ := except_bind_ok.1 processed
          obtain ⟨stepSize, stepText, processed⟩ := except_bind_ok.1 processed
          cases processed
          refine ⟨rfl, fun field => ?_⟩
          cases field <;> simp [RuleField.textIn, RuleField.of, kind, SetTo, minText, maxText, stepText]
      | minNotional =>
          obtain ⟨minNotional, minText, processed⟩ := except_bind_ok.1 processed
          cases processed
          refine ⟨rfl, fun field => ?_⟩
          cases field <;> simp [RuleField.textIn, RuleField.of, kind, SetTo, minText]
      | notional =>
          obtain ⟨minNotional, minText, processed⟩ := except_bind_ok.1 processed
          obtain ⟨maxNotional, maxText, processed⟩ := except_bind_ok.1 processed
          cases processed
          refine ⟨rfl, fun field => ?_⟩
          cases field <;> simp [RuleField.textIn, RuleField.of, kind, SetTo, minText, maxText]

/-- A filter whose numbers can be read is processed. -/
theorem process_symbol_filters_succeeds (readable : Readable fromChars filter) :
    ∃ next, processSymbolFilters fromChars info filter = .ok next := by
  rw [processSymbolFilters]
  cases kind : filter.kind with
  | none => exact ⟨info, rfl⟩
  | some filterType =>
      cases filterType with
      | priceFilter =>
          obtain ⟨minPrice, minText⟩ := readable .minPrice filter.minPrice (if_pos kind)
          obtain ⟨maxPrice, maxText⟩ := readable .maxPrice filter.maxPrice (if_pos kind)
          obtain ⟨tickSize, tickText⟩ := readable .tickSize filter.tickSize (if_pos kind)
          simp only [minText, maxText, tickText]
          exact ⟨_, rfl⟩
      | lotSize =>
          obtain ⟨minQty, minText⟩ := readable .minQty filter.minQty (if_pos kind)
          obtain ⟨maxQty, maxText⟩ := readable .maxQty filter.maxQty (if_pos kind)
          obtain ⟨stepSize, stepText⟩ := readable .stepSize filter.stepSize (if_pos kind)
          simp only [minText, maxText, stepText]
          exact ⟨_, rfl⟩
      | minNotional =>
          obtain ⟨minNotional, minText⟩ :=
            readable .minNotional filter.minNotional (if_pos (.inl kind))
          simp only [minText]
          exact ⟨_, rfl⟩
      | notional =>
          obtain ⟨minNotional, minText⟩ :=
            readable .minNotional filter.minNotional (if_pos (.inr kind))
          obtain ⟨maxNotional, maxText⟩ := readable .maxNotional filter.maxNotional (if_pos kind)
          simp only [minText, maxText]
          exact ⟨_, rfl⟩

theorem readable_of_set
    (sets : ∀ field : RuleField,
      SetTo fromChars (field.textIn filter) (field.of info) (field.of next)) :
    Readable fromChars filter := by
  intro field text given
  have set := sets field
  rw [given] at set
  exact ⟨_, set⟩

theorem SetTo.append {texts : List (Option String)} {text : Option (Option String)}
    {earlier middle value : Decimal} (first : SetTo fromChars texts.getLast? earlier middle)
    (last : SetTo fromChars text middle value) :
    SetTo fromChars (texts ++ text.toList).getLast? earlier value := by
  cases text with
  | none =>
      rw [Option.toList_none, List.append_nil]
      cases last
      exact first
  | some text =>
      rw [Option.toList_some, List.getLast?_append_of_ne_nil _ (List.cons_ne_nil _ _)]
      exact last

theorem filters_rules (processed : filters.foldlM (processSymbolFilters fromChars) start = .ok info) :
    (∀ filter ∈ filters, Readable fromChars filter) ∧
      FilteredRules fromChars filters start info := by
  induction filters using List.reverseRecOn generalizing info with
  | nil =>
      cases processed
      exact ⟨List.forall_mem_nil _, rfl, fun _ => rfl⟩
  | append_singleton filters filter ih =>
      rw [List.foldlM_append] at processed
      obtain ⟨middle, earlier, later⟩ := except_bind_ok.1 processed
      obtain ⟨readable, rules⟩ := ih earlier
      obtain ⟨info', last, same⟩ := except_bind_ok.1 later
      cases same
      obtain ⟨rest, sets⟩ := process_symbol_filters_rules last
      refine ⟨?_, rest.trans rules.rest, ?_⟩
      · intro each member
        obtain old | new := List.mem_append.1 member
        · exact readable each old
        · rw [List.mem_singleton.1 new]
          exact readable_of_set sets
      · intro field
        have texts : (filters ++ [filter]).filterMap field.textIn =
            filters.filterMap field.textIn ++ (field.textIn filter).toList := by
          rw [List.filterMap_append]
          cases given : field.textIn filter <;> simp [given]
        rw [texts]
        exact (rules.rules field).append (sets field)

theorem filters_succeed (readable : ∀ filter ∈ filters, Readable fromChars filter)
    (start : SymbolInfo) :
    ∃ info, filters.foldlM (processSymbolFilters fromChars) start = .ok info := by
  induction filters generalizing start with
  | nil => exact ⟨start, rfl⟩
  | cons filter filters ih =>
      rw [List.forall_mem_cons] at readable
      obtain ⟨next, processed⟩ := process_symbol_filters_succeeds readable.1
      obtain ⟨info, rest⟩ := ih readable.2 next
      refine ⟨info, ?_⟩
      rw [List.foldlM_cons, processed]
      exact rest

theorem FilteredRules.unique {first second : SymbolInfo}
    (left : FilteredRules fromChars filters start first)
    (right : FilteredRules fromChars filters start second) : first = second :=
  eq_of_rules (left.rest.trans right.rest.symm) fun field =>
    (left.rules field).unique (right.rules field)

/-- The rules that Binance's filters stand for: each number is that of the last filter that sets
it, zero without one. They are handed out exactly if every number can be read and the tick, the
step and the smallest quantity are positive. -/
theorem binance_symbol_info_iff (fromChars : String → Option Decimal) (symbol : SymbolRulesDto)
    (info : SymbolInfo) :
    createSymbolInfo fromChars symbol = .ok info ↔
      (∀ filter ∈ symbol.filters, Readable fromChars filter) ∧
        FilteredRules fromChars symbol.filters (describeSymbol symbol) info ∧ info.Usable := by
  constructor
  · intro created
    obtain ⟨rules, processed, checked⟩ := except_bind_ok.1 created
    obtain ⟨rfl, usable⟩ := check_symbol_info_ok.1 checked
    obtain ⟨readable, filtered⟩ := filters_rules processed
    exact ⟨readable, filtered, usable⟩
  · rintro ⟨readable, filtered, usable⟩
    obtain ⟨rules, processed⟩ := filters_succeed readable (describeSymbol symbol)
    have same : rules = info := (filters_rules processed).2.unique filtered
    exact except_bind_ok.2 ⟨rules, processed, check_symbol_info_ok.2 ⟨same.symm, same ▸ usable⟩⟩

end Binance

end CryptoDeal.DealService
