import CryptoDeal.DealService.DecimalConverter
import CryptoDeal.Library.JsonValue
import CryptoDeal.OperationChain.Definition

/-!
# Loading chain definitions

`OperationChainDefinitionLoader` from the text of the file on. The JSON parser
and `boost::decimal::from_chars` are parameters; every check after them, with
its error, is the source's own.
-/

namespace CryptoDeal.DefinitionLoader

open DealService

/-- What `throwSchemaError` throws. -/
def schemaError (source path message : String) : ServiceFailure :=
  .runtime ("Invalid operation-chain definitions in '" ++ source ++ "' at " ++ path ++ ": " ++ message)

def buildFieldPath (path field : String) : String := path ++ "." ++ field

def indexedPath (path : String) (index : ℕ) : String := path ++ "[" ++ toString index ++ "]"

section Fields

variable (source path : String)

def throwSchemaError {Value : Type} (message : String) : Except ServiceFailure Value :=
  .error (schemaError source path message)

def validateFields (object : JsonObject) (allowedFields : List String) :
    Except ServiceFailure Unit :=
  match object.find? fun member => member.1 ∉ allowedFields with
  | some member => throwSchemaError source (buildFieldPath path member.1) "unknown field"
  | none => .ok ()

variable (object : JsonObject) (field : String)

def getRequiredValue : Except ServiceFailure JsonValue :=
  match object.find field with
  | some value => .ok value
  | none => throwSchemaError source (buildFieldPath path field) "required field is missing"

def asObject : JsonValue → Except ServiceFailure JsonObject
  | .object members => .ok members
  | _ => throwSchemaError source path "expected an object"

def asArray : JsonValue → Except ServiceFailure (List JsonValue)
  | .array items => .ok items
  | _ => throwSchemaError source path "expected an array"

def asText : JsonValue → Except ServiceFailure String
  | .string text =>
      if text = "" then throwSchemaError source path "expected a non-empty string" else .ok text
  | _ => throwSchemaError source path "expected a non-empty string"

def getRequiredObject : Except ServiceFailure JsonObject := do
  asObject source (buildFieldPath path field) (← getRequiredValue source path object field)

def getRequiredArray : Except ServiceFailure (List JsonValue) := do
  asArray source (buildFieldPath path field) (← getRequiredValue source path object field)

def getRequiredString : Except ServiceFailure String := do
  asText source (buildFieldPath path field) (← getRequiredValue source path object field)

def getOptionalString : Except ServiceFailure (Option String) :=
  match object.find field with
  | none => .ok none
  | some value => return some (← asText source (buildFieldPath path field) value)

end Fields

/-- Where `text.find('.', decimalPoint + 1)` starts to look; at the end without a point. -/
def afterPoint (characters : List Char) : List Char :=
  match characters.idxOf? '.' with
  | some decimalPoint => characters.drop (decimalPoint + 1)
  | none => []

def hasPositiveDecimalSyntax (text : String) : Bool :=
  let characters := text.toList
  let decimalPoint := characters.idxOf? '.'
  if characters.isEmpty || decimalPoint = some 0 || decimalPoint = some (characters.length - 1) ||
      (afterPoint characters).contains '.' then false
  else characters.all fun character => character = '.' || character.isDigit

section Decimals

variable (fromChars : String → Option Decimal) (source path : String)

def parsePositiveDecimal (text : String) : Except ServiceFailure Decimal :=
  if hasPositiveDecimalSyntax text then
    match DecimalConverter.parseDecimal fromChars text with
    | .error _ => throwSchemaError source path "expected a positive fixed decimal string"
    | .ok value =>
        if value ≤ 0 then throwSchemaError source path "expected a value greater than zero"
        else .ok value
  else throwSchemaError source path "expected a positive fixed decimal string"

variable (object : JsonObject) (field : String)

def getRequiredPositiveDecimal : Except ServiceFailure Decimal := do
  parsePositiveDecimal fromChars source (buildFieldPath path field)
    (← getRequiredString source path object field)

def getOptionalPositiveDecimal : Except ServiceFailure (Option Decimal) := do
  match ← getOptionalString source path object field with
  | none => return none
  | some text =>
      return some (← parsePositiveDecimal fromChars source (buildFieldPath path field) text)

end Decimals

section Enumerations

variable (source path : String)

def parseExchangerType (text : String) : Except ServiceFailure ExchangerType :=
  if text = "BINANCE" then .ok .binance
  else if text = "BYBIT" then .ok .bybit
  else throwSchemaError source path "expected BINANCE or BYBIT"

def parseOrderOperation (text : String) : Except ServiceFailure OrderOperation :=
  if text = "BUY" then .ok .buy
  else if text = "SELL" then .ok .sell
  else throwSchemaError source path "expected BUY or SELL"

def parseOrderType (text : String) : Except ServiceFailure DealService.OrderType :=
  if text = "MARKET" then .ok .market
  else if text = "LIMIT" then .ok .limit
  else throwSchemaError source path "expected MARKET or LIMIT"

def parseOperationType (text : String) : Except ServiceFailure OperationType :=
  if text = "BUY_CRYPTO" then .ok .buyCrypto
  else if text = "SELL_CRYPTO" then .ok .sellCrypto
  else if text = "PLACE_ORDER" then .ok .placeOrder
  else if text = "PLACE_OCO" then .ok .placeOco
  else if text = "SEND_TO" then .ok .sendTo
  else
    throwSchemaError source path
      "expected BUY_CRYPTO, SELL_CRYPTO, PLACE_ORDER, PLACE_OCO, or SEND_TO"

end Enumerations

/-- A check that the source writes as `if (condition) throwSchemaError(...)`. -/
def refuseIf (condition : Prop) [Decidable condition] (source path message : String) :
    Except ServiceFailure Unit :=
  if condition then throwSchemaError source path message else .ok ()

section Configs

variable (fromChars : String → Option Decimal) (source path : String) (object : JsonObject)

def parseBaseConfig : Except ServiceFailure BaseConfig := do
  validateFields source path object ["outAsset"]
  let outAsset ← getRequiredString source path object "outAsset"
  return { outAsset }

def placeOrderFields : List String :=
  ["outAsset", "side", "orderType", "price", "timeInForce", "triggerPrice", "orderFilter",
    "marketUnit"]

/-- The text is kept, its value is only checked. -/
def checkTriggerPrice : Option String → Except ServiceFailure Unit
  | some text => do
      let _ ← parsePositiveDecimal fromChars source (buildFieldPath path "triggerPrice") text
  | none => return ()

def parsePlaceOrderConfig : Except ServiceFailure PlaceOrderConfig := do
  validateFields source path object placeOrderFields
  let outAsset ← getRequiredString source path object "outAsset"
  let side ← parseOrderOperation source (buildFieldPath path "side")
    (← getRequiredString source path object "side")
  let type ← parseOrderType source (buildFieldPath path "orderType")
    (← getRequiredString source path object "orderType")
  let price ← getOptionalPositiveDecimal fromChars source path object "price"
  let timeInForce ← getOptionalString source path object "timeInForce"
  refuseIf (type = .limit ∧ price = none) source (buildFieldPath path "price")
    "required for a LIMIT order"
  refuseIf (type = .market ∧ price.isSome) source (buildFieldPath path "price")
    "not allowed for a MARKET order"
  refuseIf (type = .market ∧ timeInForce.isSome) source (buildFieldPath path "timeInForce")
    "not allowed for a MARKET order"
  let triggerPrice ← getOptionalString source path object "triggerPrice"
  checkTriggerPrice fromChars source path triggerPrice
  let orderFilter ← getOptionalString source path object "orderFilter"
  let marketUnit ← getOptionalString source path object "marketUnit"
  refuseIf (type = .limit ∧ marketUnit.isSome) source (buildFieldPath path "marketUnit")
    "not allowed for a LIMIT order"
  return { outAsset, side, type, price := price.getD 0, timeInForce, triggerPrice, orderFilter,
           marketUnit }

def placeOcoFields : List String :=
  ["outAsset", "side", "price", "stopPrice", "stopLimitPrice", "stopLimitTimeInForce"]

def parsePlaceOcoConfig : Except ServiceFailure PlaceOcoConfig := do
  validateFields source path object placeOcoFields
  let outAsset ← getRequiredString source path object "outAsset"
  let side ← parseOrderOperation source (buildFieldPath path "side")
    (← getRequiredString source path object "side")
  let price ← getRequiredPositiveDecimal fromChars source path object "price"
  let stopPrice ← getRequiredPositiveDecimal fromChars source path object "stopPrice"
  let stopLimitPrice ← getOptionalPositiveDecimal fromChars source path object "stopLimitPrice"
  let stopLimitTimeInForce ← getOptionalString source path object "stopLimitTimeInForce"
  refuseIf (stopLimitPrice.isSome ≠ stopLimitTimeInForce.isSome) source path
    "stopLimitPrice and stopLimitTimeInForce must either both be present or both be absent"
  return { outAsset, side, price, stopPrice, stopLimitPrice, stopLimitTimeInForce }

def parseSendToConfig : Except ServiceFailure SendToConfig := do
  validateFields source path object ["destinationExchange", "chain", "address"]
  let destinationExchanger ← parseExchangerType source (buildFieldPath path "destinationExchange")
    (← getRequiredString source path object "destinationExchange")
  let chain ← getRequiredString source path object "chain"
  let address ← getRequiredString source path object "address"
  return { destinationExchanger, chain, address }

end Configs

section Definitions

variable (fromChars : String → Option Decimal) (source : String)

/-- The `switch` of `parseOperationDefinition`. -/
def parseConfig (path : String) (object : JsonObject) :
    OperationType → Except ServiceFailure Config
  | .buyCrypto | .sellCrypto => return .base (← parseBaseConfig source path object)
  | .placeOrder => return .placeOrder (← parsePlaceOrderConfig fromChars source path object)
  | .placeOco => return .placeOco (← parsePlaceOcoConfig fromChars source path object)
  | .sendTo => return .sendTo (← parseSendToConfig source path object)

def parseOperationDefinition (path : String) (value : JsonValue) :
    Except ServiceFailure OperationDefinition := do
  let object ← asObject source path value
  validateFields source path object ["type", "config"]
  let type ← parseOperationType source (buildFieldPath path "type")
    (← getRequiredString source path object "type")
  let config ← getRequiredObject source path object "config"
  OperationDefinition.create type
    (← parseConfig fromChars source (buildFieldPath path "config") config type)

/-- The loop over the operations of a chain, from `index` on. -/
def parseOperations (path : String) : List JsonValue → ℕ →
    Except ServiceFailure (List OperationDefinition)
  | [], _ => return []
  | value :: values, index => do
      let operation ← parseOperationDefinition fromChars source (indexedPath path index) value
      let operations ← parseOperations path values (index + 1)
      return operation :: operations

def parseChainDefinition (path : String) (value : JsonValue) :
    Except ServiceFailure OperationChainDefinition := do
  let object ← asObject source path value
  validateFields source path object ["name", "initial", "operations"]
  let name ← getRequiredString source path object "name"
  let initial ← getRequiredObject source path object "initial"
  let initialPath := buildFieldPath path "initial"
  validateFields source initialPath initial ["exchange", "asset", "quantity"]
  let exchangerType ← parseExchangerType source (buildFieldPath initialPath "exchange")
    (← getRequiredString source initialPath initial "exchange")
  let asset ← getRequiredString source initialPath initial "asset"
  let quantity ← getRequiredPositiveDecimal fromChars source initialPath initial "quantity"
  let operationValues ← getRequiredArray source path object "operations"
  refuseIf (operationValues = []) source (buildFieldPath path "operations")
    "expected at least one operation"
  let operations ← parseOperations fromChars source (buildFieldPath path "operations")
    operationValues 0
  OperationChainDefinition.create name exchangerType asset quantity operations

/-- The loop over the chains, from `index` on, with the names that were seen. -/
def parseChains : List JsonValue → ℕ → List String →
    Except ServiceFailure (List OperationChainDefinition)
  | [], _, _ => return []
  | value :: values, index, names => do
      let path := indexedPath "$.chains" index
      let definition ← parseChainDefinition fromChars source path value
      refuseIf (definition.name ∈ names) source (buildFieldPath path "name")
        "chain names must be unique"
      let definitions ← parseChains values (index + 1) (definition.name :: names)
      return definition :: definitions

def isSupportedVersion : JsonValue → Bool
  | .int64 value => value = 1
  | .uint64 value => value = 1
  | _ => false

def asRoot : JsonValue → Except ServiceFailure JsonObject
  | .object members => .ok members
  | _ => throwSchemaError source "$" "expected a root object"

/-- `parseDefinitions` once the text is parsed. -/
def parseDocument (document : JsonValue) :
    Except ServiceFailure (List OperationChainDefinition) := do
  let root ← asRoot source document
  validateFields source "$" root ["schemaVersion", "chains"]
  let schemaVersion ← getRequiredValue source "$" root "schemaVersion"
  refuseIf (isSupportedVersion schemaVersion = false) source "$.schemaVersion"
    "expected integer value 1"
  let chainValues ← getRequiredArray source "$" root "chains"
  parseChains fromChars source chainValues 0 []

/-- `parse` is `boost::json::parse`, with the message of its error code. -/
def parseDefinitions (parse : String → Except String JsonValue) (text : String) :
    Except ServiceFailure (List OperationChainDefinition) :=
  match parse text with
  | .error message =>
      .error (.runtime ("Failed to parse operation-chain definitions file '" ++ source ++ "': " ++
        message))
  | .ok document => parseDocument fromChars source document

end Definitions

end CryptoDeal.DefinitionLoader
