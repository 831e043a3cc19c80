import CryptoDeal.OperationChain.DefinitionLoader

/-!
# The schema of chain definitions

What a definitions file has to say, field by field, and what it then means. The
loader accepts exactly these documents and returns exactly their definitions.
-/

namespace CryptoDeal.DefinitionLoader

open DealService DecimalText

section Schema

variable (fromChars : String → Option Decimal)

/-- A text in fixed form that is read as this positive value. -/
structure DenotesDecimal (text : String) (value : Decimal) : Prop where
  fixed : IsFixedDecimal text.toList
  read : fromChars text = some value
  positive : 0 < value

def HasDecimal (object : JsonObject) (field : String) (value : Decimal) : Prop :=
  ∃ text, object.HasText field text ∧ DenotesDecimal fromChars text value

def HasOptionalDecimal (object : JsonObject) (field : String) : Option Decimal → Prop
  | none => object.find field = none
  | some value => HasDecimal fromChars object field value

def exchangeName : ExchangerType → String
  | .binance => "BINANCE"
  | .bybit => "BYBIT"

def sideName : OrderOperation → String
  | .buy => "BUY"
  | .sell => "SELL"

def orderTypeName : DealService.OrderType → String
  | .market => "MARKET"
  | .limit => "LIMIT"

def operationTypeName : OperationType → String
  | .buyCrypto => "BUY_CRYPTO"
  | .sellCrypto => "SELL_CRYPTO"
  | .placeOrder => "PLACE_ORDER"
  | .placeOco => "PLACE_OCO"
  | .sendTo => "SEND_TO"

structure BaseSchema (object : JsonObject) (config : BaseConfig) : Prop where
  fields : object.OnlyFields ["outAsset"]
  outAsset : object.HasText "outAsset" config.outAsset

structure PlaceOrderSchema (object : JsonObject) (config : PlaceOrderConfig) : Prop where
  fields : object.OnlyFields
    ["outAsset", "side", "orderType", "price", "timeInForce", "triggerPrice", "orderFilter",
      "marketUnit"]
  outAsset : object.HasText "outAsset" config.outAsset
  side : object.HasText "side" (sideName config.side)
  orderType : object.HasText "orderType" (orderTypeName config.type)
  limitPrice : config.type = .limit → HasDecimal fromChars object "price" config.price
  marketPrice : config.type = .market → object.find "price" = none ∧ config.price = 0
  timeInForce : object.HasOptionalText "timeInForce" config.timeInForce
  marketTimeInForce : config.type = .market → config.timeInForce = none
  triggerPrice : object.HasOptionalText "triggerPrice" config.triggerPrice
  triggerValue : ∀ text ∈ config.triggerPrice, ∃ value, DenotesDecimal fromChars text value
  orderFilter : object.HasOptionalText "orderFilter" config.orderFilter
  marketUnit : object.HasOptionalText "marketUnit" config.marketUnit
  limitMarketUnit : config.type = .limit → config.marketUnit = none

structure PlaceOcoSchema (object : JsonObject) (config : PlaceOcoConfig) : Prop where
  fields : object.OnlyFields
    ["outAsset", "side", "price", "stopPrice", "stopLimitPrice", "stopLimitTimeInForce"]
  outAsset : object.HasText "outAsset" config.outAsset
  side : object.HasText "side" (sideName config.side)
  price : HasDecimal fromChars object "price" config.price
  stopPrice : HasDecimal fromChars object "stopPrice" config.stopPrice
  stopLimitPrice : HasOptionalDecimal fromChars object "stopLimitPrice" config.stopLimitPrice
  stopLimitTimeInForce : object.HasOptionalText "stopLimitTimeInForce" config.stopLimitTimeInForce
  stopLimitPair : config.stopLimitPrice.isSome ↔ config.stopLimitTimeInForce.isSome
  ownIdentifiers : config.listClientOrderId = none ∧ config.limitClientOrderId = none ∧
    config.stopClientOrderId = none

structure SendToSchema (object : JsonObject) (config : SendToConfig) : Prop where
  fields : object.OnlyFields ["destinationExchange", "chain", "address"]
  destinationExchange :
    object.HasText "destinationExchange" (exchangeName config.destinationExchanger)
  chain : object.HasText "chain" config.chain
  address : object.HasText "address" config.address

def ConfigSchema (object : JsonObject) : Config → Prop
  | .base config => BaseSchema object config
  | .placeOrder config => PlaceOrderSchema fromChars object config
  | .placeOco config => PlaceOcoSchema fromChars object config
  | .sendTo config => SendToSchema object config

/-- That the config is of its type's kind is a field of the definition. -/
def OperationSchema (value : JsonValue) (operation : OperationDefinition) : Prop :=
  ∃ object config : JsonObject, value = .object object ∧ object.OnlyFields ["type", "config"] ∧
    object.HasText "type" (operationTypeName operation.type) ∧
    object.find "config" = some (.object config) ∧ ConfigSchema fromChars config operation.config

structure InitialSchema (initial : JsonObject) (definition : OperationChainDefinition) : Prop where
  fields : initial.OnlyFields ["exchange", "asset", "quantity"]
  exchange : initial.HasText "exchange" (exchangeName definition.initialExchangerType)
  asset : initial.HasText "asset" definition.initialAsset
  quantity : HasDecimal fromChars initial "quantity" definition.initialQuantity

/-- That there is an operation is a field of the definition. -/
def ChainSchema (value : JsonValue) (definition : OperationChainDefinition) : Prop :=
  ∃ (object initial : JsonObject) (operations : List JsonValue), value = .object object ∧
    object.OnlyFields ["name", "initial", "operations"] ∧
    object.HasText "name" definition.name ∧
    object.find "initial" = some (.object initial) ∧ InitialSchema fromChars initial definition ∧
    object.find "operations" = some (.array operations) ∧
    List.Forall₂ (OperationSchema fromChars) operations definition.operations

def DocumentSchema (document : JsonValue) (definitions : List OperationChainDefinition) : Prop :=
  ∃ (root : JsonObject) (chains : List JsonValue), document = .object root ∧
    root.OnlyFields ["schemaVersion", "chains"] ∧
    (root.find "schemaVersion" = some (.int64 1) ∨
      root.find "schemaVersion" = some (.uint64 1)) ∧
    root.find "chains" = some (.array chains) ∧
    List.Forall₂ (ChainSchema fromChars) chains definitions ∧
    (definitions.map (·.name)).Nodup

end Schema

/-! ## Fields -/

section Fields

variable {fromChars : String → Option Decimal} {source path field : String} {object : JsonObject}

@[simp] theorem refuse_if_ok {condition : Prop} [Decidable condition] {message : String}
    {checked : Unit} : refuseIf condition source path message = .ok checked ↔ ¬ condition := by
  unfold refuseIf throwSchemaError
  split_ifs with holds <;> simp [holds]

@[simp] theorem validate_fields_ok {allowed : List String} {checked : Unit} :
    validateFields source path object allowed = .ok checked ↔ object.OnlyFields allowed := by
  unfold validateFields JsonObject.OnlyFields throwSchemaError
  cases found : object.find? fun member => member.1 ∉ allowed with
  | some member =>
      have unknown := List.find?_some found
      have among := List.mem_of_find?_eq_some found
      simp only [reduceCtorEq, false_iff]
      intro only
      exact of_decide_eq_true unknown (only member among)
  | none =>
      have all := List.find?_eq_none.1 found
      simpa using all

theorem get_required_value_ok {value : JsonValue} :
    getRequiredValue source path object field = .ok value ↔ object.find field = some value := by
  unfold getRequiredValue throwSchemaError
  cases object.find field <;> simp

@[simp] theorem as_text_ok {value : JsonValue} {text : String} :
    asText source path value = .ok text ↔ value = .string text ∧ text ≠ "" := by
  unfold asText throwSchemaError
  cases value with
  | string written =>
      dsimp only
      split_ifs with empty
      · simp only [JsonValue.string.injEq, false_iff]
        rintro ⟨same, nonempty⟩
        exact nonempty (same.symm.trans empty)
      · simp only [Except.ok.injEq, JsonValue.string.injEq]
        constructor
        · intro same
          exact ⟨same, same ▸ empty⟩
        · exact And.left
  | _ => simp

@[simp] theorem as_object_ok {value : JsonValue} {members : JsonObject} :
    asObject source path value = .ok members ↔ value = .object members := by
  unfold asObject throwSchemaError
  cases value <;> simp

@[simp] theorem as_array_ok {value : JsonValue} {items : List JsonValue} :
    asArray source path value = .ok items ↔ value = .array items := by
  unfold asArray throwSchemaError
  cases value <;> simp

@[simp] theorem get_required_string_ok {text : String} :
    getRequiredString source path object field = .ok text ↔ object.HasText field text := by
  simp [getRequiredString, except_bind_ok, get_required_value_ok, JsonObject.HasText]

@[simp] theorem get_required_object_ok {members : JsonObject} :
    getRequiredObject source path object field = .ok members ↔
      object.find field = some (.object members) := by
  simp [getRequiredObject, except_bind_ok, get_required_value_ok]

@[simp] theorem get_required_array_ok {items : List JsonValue} :
    getRequiredArray source path object field = .ok items ↔
      object.find field = some (.array items) := by
  simp [getRequiredArray, except_bind_ok, get_required_value_ok]

@[simp] theorem get_optional_string_ok {text : Option String} :
    getOptionalString source path object field = .ok text ↔
      object.HasOptionalText field text := by
  unfold getOptionalString
  cases found : object.find field with
  | none => cases text <;> simp [JsonObject.HasOptionalText, JsonObject.HasText, found]
  | some value =>
      cases text <;>
        simp [JsonObject.HasOptionalText, JsonObject.HasText, found, except_bind_ok, pure,
          Except.pure]

end Fields

/-! ## Decimals -/

theorem after_point {whole : List Char} (noPoint : '.' ∉ whole) (fraction : List Char) :
    afterPoint (whole ++ '.' :: fraction) = fraction := by
  simp [afterPoint, idx_of_point noPoint]

theorem positive_decimal_syntax_iff {text : String} :
    hasPositiveDecimalSyntax text ↔ IsFixedDecimal text.toList := by
  unfold hasPositiveDecimalSyntax
  generalize text.toList = characters
  dsimp only
  by_cases pointed : '.' ∈ characters
  · obtain ⟨whole, fraction, rfl, noPoint⟩ := List.eq_append_cons_of_mem pointed
    rw [after_point noPoint, idx_of_point noPoint, is_fixed_decimal_fraction noPoint]
    by_cases again : '.' ∈ fraction
    · have notDigits : ¬ Digits fraction := fun digits => digits.noPoint again
      simp [again, notDigits]
    · rw [← digits_of_pointless noPoint, ← digits_of_pointless again]
      simpa [again] using and_and_and_comm
  · have absent : characters.idxOf? '.' = none := List.idxOf?_eq_none_iff.2 pointed
    have digits := digits_of_pointless pointed
    rw [is_fixed_decimal_whole pointed, afterPoint, absent]
    simp [← digits]

section Decimals

variable {fromChars : String → Option Decimal} {source path field : String} {object : JsonObject}

@[simp] theorem parse_positive_decimal_ok {text : String} {value : Decimal} :
    parsePositiveDecimal fromChars source path text = .ok value ↔
      DenotesDecimal fromChars text value := by
  unfold parsePositiveDecimal DecimalConverter.parseDecimal throwSchemaError
  split_ifs with fixed
  · cases read : fromChars text with
    | none =>
        simp only [reduceCtorEq, false_iff]
        intro denotes
        cases read.symm.trans denotes.read
    | some found =>
        dsimp only
        split_ifs with positive
        · simp only [false_iff]
          intro denotes
          cases read.symm.trans denotes.read
          exact absurd denotes.positive (not_lt.2 positive)
        · rw [Except.ok.injEq]
          constructor
          · rintro rfl
            exact ⟨positive_decimal_syntax_iff.1 fixed, read, not_le.1 positive⟩
          · intro denotes
            cases read.symm.trans denotes.read
            rfl
  · simp only [false_iff]
    intro denotes
    exact fixed (positive_decimal_syntax_iff.2 denotes.fixed)

@[simp] theorem get_required_positive_decimal_ok {value : Decimal} :
    getRequiredPositiveDecimal fromChars source path object field = .ok value ↔
      HasDecimal fromChars object field value := by
  simp [getRequiredPositiveDecimal, except_bind_ok, HasDecimal]

@[simp] theorem get_optional_positive_decimal_ok {value : Option Decimal} :
    getOptionalPositiveDecimal fromChars source path object field = .ok value ↔
      HasOptionalDecimal fromChars object field value := by
  unfold getOptionalPositiveDecimal
  rw [except_bind_ok]
  constructor
  · rintro ⟨text, written, read⟩
    rw [get_optional_string_ok] at written
    cases text with
    | none =>
        cases read
        exact written
    | some text =>
        obtain ⟨found, denotes, returned⟩ := except_bind_ok.1 read
        cases returned
        exact ⟨text, written, parse_positive_decimal_ok.1 denotes⟩
  · intro decimal
    cases value with
    | none => exact ⟨none, get_optional_string_ok.2 decimal, rfl⟩
    | some value =>
        obtain ⟨text, written, denotes⟩ := decimal
        refine ⟨some text, get_optional_string_ok.2 written, ?_⟩
        exact except_bind_ok.2 ⟨value, parse_positive_decimal_ok.2 denotes, rfl⟩

end Decimals

/-! ## Enumerations -/

section Enumerations

variable {source path text : String}

@[simp] theorem parse_exchanger_type_ok {type : ExchangerType} :
    parseExchangerType source path text = .ok type ↔ text = exchangeName type := by
  unfold parseExchangerType throwSchemaError
  cases type <;> split_ifs <;> simp_all [exchangeName]

@[simp] theorem parse_order_operation_ok {side : OrderOperation} :
    parseOrderOperation source path text = .ok side ↔ text = sideName side := by
  unfold parseOrderOperation throwSchemaError
  cases side <;> split_ifs <;> simp_all [sideName]

@[simp] theorem parse_order_type_ok {type : DealService.OrderType} :
    parseOrderType source path text = .ok type ↔ text = orderTypeName type := by
  unfold parseOrderType throwSchemaError
  cases type <;> split_ifs <;> simp_all [orderTypeName]

@[simp] theorem parse_operation_type_ok {type : OperationType} :
    parseOperationType source path text = .ok type ↔ text = operationTypeName type := by
  unfold parseOperationType throwSchemaError
  cases type <;> split_ifs <;> simp_all [operationTypeName]

end Enumerations

/-! ## Configs -/

section Configs

variable {fromChars : String → Option Decimal} {source path : String} {object : JsonObject}

@[simp] theorem parse_base_config_ok {config : BaseConfig} :
    parseBaseConfig source path object = .ok config ↔ BaseSchema object config := by
  simp only [parseBaseConfig, except_bind_ok, pure, Except.pure, validate_fields_ok,
    get_required_string_ok, Except.ok.injEq]
  constructor
  · rintro ⟨_, fields, outAsset, written, rfl⟩
    exact ⟨fields, written⟩
  · intro schema
    exact ⟨(), schema.fields, config.outAsset, schema.outAsset, rfl⟩

@[simp] theorem parse_send_to_config_ok {config : SendToConfig} :
    parseSendToConfig source path object = .ok config ↔ SendToSchema object config := by
  simp only [parseSendToConfig, except_bind_ok, pure, Except.pure, validate_fields_ok,
    get_required_string_ok, parse_exchanger_type_ok, Except.ok.injEq]
  constructor
  · rintro ⟨_, fields, _, exchange, type, rfl, chain, chainWritten, address, addressWritten, rfl⟩
    exact ⟨fields, exchange, chainWritten, addressWritten⟩
  · intro schema
    exact ⟨(), schema.fields, _, schema.destinationExchange, config.destinationExchanger, rfl,
      config.chain, schema.chain, config.address, schema.address, rfl⟩

@[simp] theorem parse_place_oco_config_ok {config : PlaceOcoConfig} :
    parsePlaceOcoConfig fromChars source path object = .ok config ↔
      PlaceOcoSchema fromChars object config := by
  simp only [parsePlaceOcoConfig, except_bind_ok, pure, Except.pure, validate_fields_ok,
    get_required_string_ok, parse_order_operation_ok, get_required_positive_decimal_ok,
    get_optional_positive_decimal_ok, get_optional_string_ok, refuse_if_ok, not_not,
    Except.ok.injEq]
  constructor
  · rintro ⟨_, fields, outAsset, outWritten, _, sideWritten, side, rfl, price, priceWritten,
      stopPrice, stopWritten, stopLimitPrice, limitWritten, timeInForce, timeWritten, _, paired,
      rfl⟩
    exact { fields, outAsset := outWritten, side := sideWritten, price := priceWritten,
            stopPrice := stopWritten, stopLimitPrice := limitWritten,
            stopLimitTimeInForce := timeWritten, stopLimitPair := by rw [paired],
            ownIdentifiers := ⟨rfl, rfl, rfl⟩ }
  · intro schema
    obtain ⟨noList, noLimit, noStop⟩ := schema.ownIdentifiers
    refine ⟨(), schema.fields, _, schema.outAsset, _, schema.side, _, rfl, _, schema.price, _,
      schema.stopPrice, _, schema.stopLimitPrice, _, schema.stopLimitTimeInForce, (),
      Bool.eq_iff_iff.2 schema.stopLimitPair, ?_⟩
    cases config
    cases noList
    cases noLimit
    cases noStop
    rfl

@[simp] theorem check_trigger_price_ok {triggerPrice : Option String} {checked : Unit} :
    checkTriggerPrice fromChars source path triggerPrice = .ok checked ↔
      ∀ text ∈ triggerPrice, ∃ value, DenotesDecimal fromChars text value := by
  cases triggerPrice with
  | none => simp [checkTriggerPrice, pure, Except.pure]
  | some text => simp [checkTriggerPrice, except_bind_ok, pure, Except.pure]

@[simp] theorem parse_place_order_config_ok {config : PlaceOrderConfig} :
    parsePlaceOrderConfig fromChars source path object = .ok config ↔
      PlaceOrderSchema fromChars object config := by
  simp only [parsePlaceOrderConfig, except_bind_ok, pure, Except.pure, validate_fields_ok,
    get_required_string_ok, parse_order_operation_ok, parse_order_type_ok,
    get_optional_positive_decimal_ok, get_optional_string_ok, refuse_if_ok,
    check_trigger_price_ok, Except.ok.injEq, not_and, Bool.not_eq_true, Option.isSome_eq_false_iff,
    Option.isNone_iff_eq_none]
  constructor
  · rintro ⟨_, fields, outAsset, outWritten, _, sideWritten, side, rfl, _, typeWritten, type, rfl,
      price, priceWritten, timeInForce, timeWritten, _, limitPrice, _, marketPrice, _, marketTime,
      triggerPrice, triggerWritten, _, triggerValue, orderFilter, filterWritten, marketUnit,
      unitWritten, _, limitUnit, rfl⟩
    refine { fields, outAsset := outWritten, side := sideWritten, orderType := typeWritten,
             limitPrice := ?_, marketPrice := ?_, timeInForce := timeWritten,
             marketTimeInForce := marketTime, triggerPrice := triggerWritten, triggerValue,
             orderFilter := filterWritten, marketUnit := unitWritten, limitMarketUnit := limitUnit }
    · intro limit
      cases price with
      | none => exact absurd rfl (limitPrice limit)
      | some price => exact priceWritten
    · intro market
      cases marketPrice market
      exact ⟨priceWritten, rfl⟩
  · intro schema
    obtain ⟨price, written, limitPrice, marketPrice, same⟩ : ∃ price,
        HasOptionalDecimal fromChars object "price" price ∧
          (config.type = .limit → ¬ price = none) ∧ (config.type = .market → price = none) ∧
          price.getD 0 = config.price := by
      cases type : config.type with
      | limit => exact ⟨some config.price, schema.limitPrice type, by simp, by simp, rfl⟩
      | market =>
          obtain ⟨absent, zero⟩ := schema.marketPrice type
          exact ⟨none, absent, by simp, by simp, zero.symm⟩
    refine ⟨(), schema.fields, _, schema.outAsset, _, schema.side, _, rfl, _, schema.orderType, _,
      rfl, price, written, _, schema.timeInForce, (), limitPrice, (), marketPrice, (),
      schema.marketTimeInForce, _, schema.triggerPrice, (), schema.triggerValue, _,
      schema.orderFilter, _, schema.marketUnit, (), schema.limitMarketUnit, ?_⟩
    rw [same]

end Configs

/-! ## Definitions -/

section Definitions

variable {fromChars : String → Option Decimal} {source path : String}

@[simp] theorem parse_config_ok {object : JsonObject} {type : OperationType} {config : Config} :
    parseConfig fromChars source path object type = .ok config ↔
      isConfigCompatible type config ∧ ConfigSchema fromChars object config := by
  cases type <;> cases config <;>
    simp [parseConfig, except_bind_ok, isConfigCompatible, ConfigSchema, pure, Except.pure]

@[simp] theorem parse_operation_definition_ok {value : JsonValue}
    {operation : OperationDefinition} :
    parseOperationDefinition fromChars source path value = .ok operation ↔
      OperationSchema fromChars value operation := by
  simp only [parseOperationDefinition, except_bind_ok, as_object_ok, validate_fields_ok,
    get_required_string_ok, parse_operation_type_ok, get_required_object_ok, parse_config_ok,
    OperationDefinition.create_ok]
  constructor
  · rintro ⟨object, isObject, _, fields, _, written, type, rfl, config, found, parsed,
      ⟨_, schema⟩, rfl, rfl⟩
    exact ⟨object, config, isObject, fields, written, found, schema⟩
  · rintro ⟨object, config, isObject, fields, written, found, schema⟩
    exact ⟨object, isObject, (), fields, _, written, _, rfl, config, found, operation.config,
      ⟨operation.compatible, schema⟩, rfl, rfl⟩

theorem parse_operations_ok {values : List JsonValue} {index : ℕ}
    {operations : List OperationDefinition} :
    parseOperations fromChars source path values index = .ok operations ↔
      List.Forall₂ (OperationSchema fromChars) values operations := by
  induction values generalizing index operations with
  | nil => simp [parseOperations, pure, Except.pure, eq_comm]
  | cons value values ih =>
      simp only [parseOperations, except_bind_ok, parse_operation_definition_ok, ih, pure,
        Except.pure, Except.ok.injEq, List.forall₂_cons_left_iff]
      constructor
      · rintro ⟨operation, first, operations, rest, rfl⟩
        exact ⟨operation, operations, first, rest, rfl⟩
      · rintro ⟨operation, operations, first, rest, rfl⟩
        exact ⟨operation, first, operations, rest, rfl⟩

@[simp] theorem parse_chain_definition_ok {value : JsonValue}
    {definition : OperationChainDefinition} :
    parseChainDefinition fromChars source path value = .ok definition ↔
      ChainSchema fromChars value definition := by
  simp only [parseChainDefinition, except_bind_ok, as_object_ok, validate_fields_ok,
    get_required_string_ok, get_required_object_ok, parse_exchanger_type_ok,
    get_required_positive_decimal_ok, get_required_array_ok, refuse_if_ok, parse_operations_ok,
    OperationChainDefinition.create_ok]
  constructor
  · rintro ⟨object, isObject, _, fields, _, name, initial, initialFound, _, initialFields, _,
      exchange, _, rfl, _, asset, _, quantity, values, found, _, _, operations, parsed, rfl, rfl,
      rfl, rfl, rfl⟩
    exact ⟨object, initial, values, isObject, fields, name, initialFound,
      ⟨initialFields, exchange, asset, quantity⟩, found, parsed⟩
  · rintro ⟨object, initial, values, isObject, fields, name, initialFound, schema, found, parsed⟩
    have nonempty : ¬ values = [] := by
      rintro rfl
      exact definition.operations_nonempty (List.forall₂_nil_left_iff.1 parsed)
    exact ⟨object, isObject, (), fields, _, name, initial, initialFound, (), schema.fields, _,
      schema.exchange, _, rfl, _, schema.asset, _, schema.quantity, values, found, (), nonempty,
      _, parsed, rfl, rfl, rfl, rfl, rfl⟩

theorem parse_chains_ok {values : List JsonValue} {index : ℕ} {names : List String}
    {definitions : List OperationChainDefinition} :
    parseChains fromChars source values index names = .ok definitions ↔
      List.Forall₂ (ChainSchema fromChars) values definitions ∧
        (definitions.map (·.name)).Nodup ∧ ∀ definition ∈ definitions, definition.name ∉ names := by
  induction values generalizing index names definitions with
  | nil =>
      simp only [parseChains, pure, Except.pure, Except.ok.injEq, List.forall₂_nil_left_iff]
      constructor
      · rintro rfl
        simp
      · rintro ⟨rfl, _⟩
        rfl
  | cons value values ih =>
      simp only [parseChains, except_bind_ok, parse_chain_definition_ok, refuse_if_ok, ih, pure,
        Except.pure, Except.ok.injEq, List.forall₂_cons_left_iff]
      constructor
      · rintro ⟨definition, first, _, fresh, definitions, ⟨rest, distinct, unseen⟩, rfl⟩
        have later : definition.name ∉ definitions.map (·.name) := by
          intro again
          obtain ⟨other, member, same⟩ := List.mem_map.1 again
          exact unseen other member (same ▸ List.mem_cons_self)
        refine ⟨⟨definition, definitions, first, rest, rfl⟩, List.nodup_cons.2 ⟨later, distinct⟩,
          ?_⟩
        intro other member
        rcases List.mem_cons.1 member with rfl | member
        · exact fresh
        · exact fun seen => unseen other member (List.mem_cons_of_mem _ seen)
      · rintro ⟨⟨definition, definitions, first, rest, rfl⟩, distinct, unseen⟩
        obtain ⟨later, distinct⟩ := List.nodup_cons.1 distinct
        refine ⟨definition, first, (), unseen definition List.mem_cons_self, definitions,
          ⟨rest, distinct, ?_⟩, rfl⟩
        intro other member seen
        rcases List.mem_cons.1 seen with same | seen
        · exact later (List.mem_map.2 ⟨other, member, same⟩)
        · exact unseen other (List.mem_cons_of_mem _ member) seen

theorem is_supported_version {version : JsonValue} :
    isSupportedVersion version ↔ version = .int64 1 ∨ version = .uint64 1 := by
  cases version <;> simp [isSupportedVersion]

@[simp] theorem as_root_ok {document : JsonValue} {root : JsonObject} :
    asRoot source document = .ok root ↔ document = .object root := by
  unfold asRoot throwSchemaError
  cases document <;> simp

theorem parse_document_ok {document : JsonValue} {definitions : List OperationChainDefinition} :
    parseDocument fromChars source document = .ok definitions ↔
      DocumentSchema fromChars document definitions := by
  simp only [parseDocument, except_bind_ok, as_root_ok, validate_fields_ok, get_required_value_ok,
    refuse_if_ok, Bool.not_eq_false, is_supported_version, get_required_array_ok, parse_chains_ok]
  constructor
  · rintro ⟨root, isRoot, _, fields, version, found, _, rfl | rfl, chains, chainsFound, parsed,
      distinct, _⟩
    · exact ⟨root, chains, isRoot, fields, .inl found, chainsFound, parsed, distinct⟩
    · exact ⟨root, chains, isRoot, fields, .inr found, chainsFound, parsed, distinct⟩
  · rintro ⟨root, chains, isRoot, fields, found | found, chainsFound, parsed, distinct⟩
    · exact ⟨root, isRoot, (), fields, _, found, (), .inl rfl, chains, chainsFound, parsed,
        distinct, by simp⟩
    · exact ⟨root, isRoot, (), fields, _, found, (), .inr rfl, chains, chainsFound, parsed,
        distinct, by simp⟩

end Definitions

/-! ## Refusals -/

/-- Whatever the step throws, it throws through `throwSchemaError`. -/
def FailsBySchema {Value : Type} (source : String) (result : Except ServiceFailure Value) : Prop :=
  ∀ failure, result = .error failure → ∃ path message, failure = schemaError source path message

section Refusals

variable {Value Result : Type} {fromChars : String → Option Decimal} {source path field : String}
  {object : JsonObject} {text : String}

theorem fails_by_schema_ok (value : Value) : FailsBySchema source (.ok value) := by
  intro failure thrown
  cases thrown

theorem throw_schema_error_fails (message : String) :
    FailsBySchema source (throwSchemaError source path message : Except ServiceFailure Value) := by
  rintro failure ⟨⟩
  exact ⟨path, message, rfl⟩

theorem FailsBySchema.bind {first : Except ServiceFailure Value}
    {next : Value → Except ServiceFailure Result} (head : FailsBySchema source first)
    (tail : ∀ value, first = .ok value → FailsBySchema source (next value)) :
    FailsBySchema source (first >>= next) := by
  cases first with
  | error failure =>
      rintro _ ⟨⟩
      exact head failure rfl
  | ok value => exact tail value rfl

theorem refuse_if_fails (condition : Prop) [Decidable condition] (message : String) :
    FailsBySchema source (refuseIf condition source path message) := by
  unfold refuseIf
  split_ifs
  · exact throw_schema_error_fails message
  · exact fails_by_schema_ok ()

theorem validate_fields_fails (allowed : List String) :
    FailsBySchema source (validateFields source path object allowed) := by
  unfold validateFields
  split
  · exact throw_schema_error_fails _
  · exact fails_by_schema_ok ()

theorem get_required_value_fails :
    FailsBySchema source (getRequiredValue source path object field) := by
  unfold getRequiredValue
  split
  · exact fails_by_schema_ok _
  · exact throw_schema_error_fails _

theorem as_object_fails (value : JsonValue) :
    FailsBySchema source (asObject source path value) := by
  unfold asObject
  split
  · exact fails_by_schema_ok _
  · exact throw_schema_error_fails _

theorem as_array_fails (value : JsonValue) :
    FailsBySchema source (asArray source path value) := by
  unfold asArray
  split
  · exact fails_by_schema_ok _
  · exact throw_schema_error_fails _

theorem as_text_fails (value : JsonValue) : FailsBySchema source (asText source path value) := by
  unfold asText
  split
  · split_ifs
    · exact throw_schema_error_fails _
    · exact fails_by_schema_ok _
  · exact throw_schema_error_fails _

theorem as_root_fails (document : JsonValue) : FailsBySchema source (asRoot source document) := by
  unfold asRoot
  split
  · exact fails_by_schema_ok _
  · exact throw_schema_error_fails _

theorem get_required_string_fails :
    FailsBySchema source (getRequiredString source path object field) :=
  get_required_value_fails.bind fun value _ => as_text_fails value

theorem get_required_object_fails :
    FailsBySchema source (getRequiredObject source path object field) :=
  get_required_value_fails.bind fun value _ => as_object_fails value

theorem get_required_array_fails :
    FailsBySchema source (getRequiredArray source path object field) :=
  get_required_value_fails.bind fun value _ => as_array_fails value

theorem get_optional_string_fails :
    FailsBySchema source (getOptionalString source path object field) := by
  unfold getOptionalString
  split
  · exact fails_by_schema_ok none
  · exact (as_text_fails _).bind fun text _ => fails_by_schema_ok (some text)

theorem parse_positive_decimal_fails :
    FailsBySchema source (parsePositiveDecimal fromChars source path text) := by
  unfold parsePositiveDecimal
  split_ifs
  · split
    · exact throw_schema_error_fails _
    · split_ifs
      · exact throw_schema_error_fails _
      · exact fails_by_schema_ok _
  · exact throw_schema_error_fails _

theorem get_required_positive_decimal_fails :
    FailsBySchema source (getRequiredPositiveDecimal fromChars source path object field) :=
  get_required_string_fails.bind fun _ _ => parse_positive_decimal_fails

theorem get_optional_positive_decimal_fails :
    FailsBySchema source (getOptionalPositiveDecimal fromChars source path object field) := by
  refine get_optional_string_fails.bind fun text _ => ?_
  cases text with
  | none => exact fails_by_schema_ok none
  | some text =>
      exact parse_positive_decimal_fails.bind fun value _ => fails_by_schema_ok (some value)

theorem parse_exchanger_type_fails : FailsBySchema source (parseExchangerType source path text) := by
  unfold parseExchangerType
  split_ifs
  · exact fails_by_schema_ok _
  · exact fails_by_schema_ok _
  · exact throw_schema_error_fails _

theorem parse_order_operation_fails :
    FailsBySchema source (parseOrderOperation source path text) := by
  unfold parseOrderOperation
  split_ifs
  · exact fails_by_schema_ok _
  · exact fails_by_schema_ok _
  · exact throw_schema_error_fails _

theorem parse_order_type_fails : FailsBySchema source (parseOrderType source path text) := by
  unfold parseOrderType
  split_ifs
  · exact fails_by_schema_ok _
  · exact fails_by_schema_ok _
  · exact throw_schema_error_fails _

theorem parse_operation_type_fails :
    FailsBySchema source (parseOperationType source path text) := by
  unfold parseOperationType
  split_ifs
  · exact fails_by_schema_ok _
  · exact fails_by_schema_ok _
  · exact fails_by_schema_ok _
  · exact fails_by_schema_ok _
  · exact fails_by_schema_ok _
  · exact throw_schema_error_fails _

theorem parse_base_config_fails : FailsBySchema source (parseBaseConfig source path object) := by
  refine (validate_fields_fails _).bind fun _ _ => ?_
  exact get_required_string_fails.bind fun _ _ => fails_by_schema_ok _

theorem check_trigger_price_fails (triggerPrice : Option String) :
    FailsBySchema source (checkTriggerPrice fromChars source path triggerPrice) := by
  cases triggerPrice with
  | none => exact fails_by_schema_ok ()
  | some text => exact parse_positive_decimal_fails.bind fun _ _ => fails_by_schema_ok ()

theorem parse_place_order_config_fails :
    FailsBySchema source (parsePlaceOrderConfig fromChars source path object) := by
  refine (validate_fields_fails _).bind fun _ _ => ?_
  refine get_required_string_fails.bind fun outAsset _ => ?_
  refine get_required_string_fails.bind fun side _ => ?_
  refine parse_order_operation_fails.bind fun side _ => ?_
  refine get_required_string_fails.bind fun type _ => ?_
  refine parse_order_type_fails.bind fun type _ => ?_
  refine get_optional_positive_decimal_fails.bind fun price _ => ?_
  refine get_optional_string_fails.bind fun timeInForce _ => ?_
  refine (refuse_if_fails _ _).bind fun _ _ => ?_
  refine (refuse_if_fails _ _).bind fun _ _ => ?_
  refine (refuse_if_fails _ _).bind fun _ _ => ?_
  refine get_optional_string_fails.bind fun triggerPrice _ => ?_
  refine (check_trigger_price_fails triggerPrice).bind fun _ _ => ?_
  refine get_optional_string_fails.bind fun orderFilter _ => ?_
  refine get_optional_string_fails.bind fun marketUnit _ => ?_
  exact (refuse_if_fails _ _).bind fun _ _ => fails_by_schema_ok _

theorem parse_place_oco_config_fails :
    FailsBySchema source (parsePlaceOcoConfig fromChars source path object) := by
  refine (validate_fields_fails _).bind fun _ _ => ?_
  refine get_required_string_fails.bind fun outAsset _ => ?_
  refine get_required_string_fails.bind fun side _ => ?_
  refine parse_order_operation_fails.bind fun side _ => ?_
  refine get_required_positive_decimal_fails.bind fun price _ => ?_
  refine get_required_positive_decimal_fails.bind fun stopPrice _ => ?_
  refine get_optional_positive_decimal_fails.bind fun stopLimitPrice _ => ?_
  refine get_optional_string_fails.bind fun stopLimitTimeInForce _ => ?_
  exact (refuse_if_fails _ _).bind fun _ _ => fails_by_schema_ok _

theorem parse_send_to_config_fails : FailsBySchema source (parseSendToConfig source path object) := by
  refine (validate_fields_fails _).bind fun _ _ => ?_
  refine get_required_string_fails.bind fun destinationExchange _ => ?_
  refine parse_exchanger_type_fails.bind fun destinationExchanger _ => ?_
  refine get_required_string_fails.bind fun chain _ => ?_
  exact get_required_string_fails.bind fun address _ => fails_by_schema_ok _

theorem parse_config_fails (type : OperationType) :
    FailsBySchema source (parseConfig fromChars source path object type) := by
  cases type with
  | buyCrypto => exact parse_base_config_fails.bind fun _ _ => fails_by_schema_ok _
  | sellCrypto => exact parse_base_config_fails.bind fun _ _ => fails_by_schema_ok _
  | placeOrder => exact parse_place_order_config_fails.bind fun _ _ => fails_by_schema_ok _
  | placeOco => exact parse_place_oco_config_fails.bind fun _ _ => fails_by_schema_ok _
  | sendTo => exact parse_send_to_config_fails.bind fun _ _ => fails_by_schema_ok _

/-- The constructor's check never fails: the config is of the type's kind. -/
theorem parse_operation_definition_fails (value : JsonValue) :
    FailsBySchema source (parseOperationDefinition fromChars source path value) := by
  refine (as_object_fails value).bind fun object _ => ?_
  refine (validate_fields_fails _).bind fun _ _ => ?_
  refine get_required_string_fails.bind fun type _ => ?_
  refine parse_operation_type_fails.bind fun type _ => ?_
  refine get_required_object_fails.bind fun config _ => ?_
  refine (parse_config_fails type).bind fun config parsed => ?_
  have compatible := (parse_config_ok.1 parsed).1
  rw [OperationDefinition.create, dif_pos compatible]
  exact fails_by_schema_ok _

theorem parse_operations_fails (values : List JsonValue) (index : ℕ) :
    FailsBySchema source (parseOperations fromChars source path values index) := by
  induction values generalizing index with
  | nil => exact fails_by_schema_ok []
  | cons value values ih =>
      refine (parse_operation_definition_fails value).bind fun operation _ => ?_
      exact (ih (index + 1)).bind fun operations _ => fails_by_schema_ok _

/-- Nor does one of the constructor of a chain, on what the fields' own checks let through. -/
theorem parse_chain_definition_fails (value : JsonValue) :
    FailsBySchema source (parseChainDefinition fromChars source path value) := by
  refine (as_object_fails value).bind fun object _ => ?_
  refine (validate_fields_fails _).bind fun _ _ => ?_
  refine get_required_string_fails.bind fun name named => ?_
  refine get_required_object_fails.bind fun initial _ => ?_
  refine (validate_fields_fails _).bind fun _ _ => ?_
  refine get_required_string_fails.bind fun exchange _ => ?_
  refine parse_exchanger_type_fails.bind fun exchangerType _ => ?_
  refine get_required_string_fails.bind fun asset held => ?_
  refine get_required_positive_decimal_fails.bind fun quantity read => ?_
  refine get_required_array_fails.bind fun operationValues _ => ?_
  refine (refuse_if_fails _ _).bind fun _ nonempty => ?_
  refine (parse_operations_fails operationValues 0).bind fun operations parsed => ?_
  have nameNonempty : name ≠ "" := (get_required_string_ok.1 named).2
  have assetNonempty : asset ≠ "" := (get_required_string_ok.1 held).2
  obtain ⟨_, _, denotes⟩ := get_required_positive_decimal_ok.1 read
  have operationsNonempty : operations ≠ [] := by
    rintro rfl
    exact refuse_if_ok.1 nonempty (List.forall₂_nil_right_iff.1 (parse_operations_ok.1 parsed))
  rw [OperationChainDefinition.create, dif_pos nameNonempty, dif_pos assetNonempty,
    dif_pos denotes.positive, dif_pos operationsNonempty]
  exact fails_by_schema_ok _

theorem parse_chains_fails (values : List JsonValue) (index : ℕ) (names : List String) :
    FailsBySchema source (parseChains fromChars source values index names) := by
  induction values generalizing index names with
  | nil => exact fails_by_schema_ok []
  | cons value values ih =>
      refine (parse_chain_definition_fails value).bind fun definition _ => ?_
      refine (refuse_if_fails _ _).bind fun _ _ => ?_
      exact (ih (index + 1) _).bind fun definitions _ => fails_by_schema_ok _

theorem parse_document_fails (document : JsonValue) :
    FailsBySchema source (parseDocument fromChars source document) := by
  refine (as_root_fails document).bind fun root _ => ?_
  refine (validate_fields_fails _).bind fun _ _ => ?_
  refine get_required_value_fails.bind fun schemaVersion _ => ?_
  refine (refuse_if_fails _ _).bind fun _ _ => ?_
  exact get_required_array_fails.bind fun chainValues _ => parse_chains_fails chainValues 0 []

end Refusals

/-! ## Files -/

/-- What a check of one of the two constructors throws. -/
inductive ConstructorRefusal : ServiceFailure → Prop where
  | operation {type : OperationType} {config : Config} {failure : ServiceFailure}
      (refused : OperationDefinition.create type config = .error failure) :
      ConstructorRefusal failure
  | chain {name : String} {exchangerType : ExchangerType} {asset : String} {quantity : Decimal}
      {operations : List OperationDefinition} {failure : ServiceFailure}
      (refused : OperationChainDefinition.create name exchangerType asset quantity operations =
        .error failure) :
      ConstructorRefusal failure

theorem constructor_refusal_text {failure : ServiceFailure} (refusal : ConstructorRefusal failure) :
    ∃ what, failure = .runtime what ∧ what.toList.head? = some 'O' := by
  cases refusal with
  | operation refused =>
      unfold OperationDefinition.create at refused
      split_ifs at refused
      cases refused
      exact ⟨_, rfl, by decide⟩
  | chain refused =>
      unfold OperationChainDefinition.create at refused
      split_ifs at refused
      all_goals
        cases refused
        exact ⟨_, rfl, by decide⟩

theorem schema_error_not_constructor (source path message : String) :
    ¬ ConstructorRefusal (schemaError source path message) := by
  intro refusal
  obtain ⟨what, same, head⟩ := constructor_refusal_text refusal
  cases same
  simp at head

theorem definitions_accepted_exactly (fromChars : String → Option Decimal) (source : String)
    (parse : String → Except String JsonValue) (text : String) :
    (∀ definitions, parseDefinitions fromChars source parse text = .ok definitions ↔
      ∃ document, parse text = .ok document ∧ DocumentSchema fromChars document definitions) ∧
    ∀ failure, parseDefinitions fromChars source parse text = .error failure →
      ¬ ConstructorRefusal failure := by
  unfold parseDefinitions
  cases parsed : parse text with
  | error message =>
      refine ⟨by simp, ?_⟩
      rintro failure ⟨⟩ refusal
      obtain ⟨what, same, head⟩ := constructor_refusal_text refusal
      cases same
      simp at head
  | ok document =>
      refine ⟨fun definitions => by simp [parse_document_ok], ?_⟩
      intro failure thrown
      obtain ⟨path, message, rfl⟩ := parse_document_fails document failure thrown
      exact schema_error_not_constructor source path message

section Example

def readDecimal (text : String) : Option Decimal := decimalValue text.toList

def buyBitcoinDocument : JsonValue :=
  .object
    [("schemaVersion", .int64 1),
      ("chains", .array [.object
        [("name", .string "Unique chain name"),
          ("initial", .object
            [("exchange", .string "BINANCE"), ("asset", .string "USDT"),
              ("quantity", .string "0.00010")]),
          ("operations", .array [.object
            [("type", .string "BUY_CRYPTO"),
              ("config", .object [("outAsset", .string "BTC")])]])]])]

def buyBitcoinDefinition : OperationChainDefinition where
  name := "Unique chain name"
  initialExchangerType := .binance
  initialAsset := "USDT"
  initialQuantity := 1 / 10000
  operations := [⟨.buyCrypto, .base { outAsset := "BTC" }, rfl⟩]
  name_nonempty := by decide
  initial_asset_nonempty := by decide
  initial_quantity_positive := by norm_num
  operations_nonempty := by simp

theorem buy_bitcoin_document_accepted :
    ∃ document, (.ok buyBitcoinDocument : Except String JsonValue) = .ok document ∧
      DocumentSchema readDecimal document [buyBitcoinDefinition] :=
  ((definitions_accepted_exactly readDecimal "operation_chains.json"
    (fun _ => .ok buyBitcoinDocument) "").1 [buyBitcoinDefinition]).1 (by with_unfolding_all rfl)

end Example

end CryptoDeal.DefinitionLoader
