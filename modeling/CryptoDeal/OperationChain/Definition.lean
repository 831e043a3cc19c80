import CryptoDeal.DealService.Domain

/-!
# Operation-chain definitions and snapshots

What a chain is told to do, and what it tells its observers. A definition's
constructors refuse ill-formed values, so the structures carry what they check.
-/

namespace CryptoDeal

open DealService

abbrev OperationChainTimePoint := ℤ

inductive OperationType where
  | buyCrypto
  | sellCrypto
  | placeOrder
  | placeOco
  | sendTo
  deriving DecidableEq, Repr

structure BaseConfig where
  outAsset : String
  deriving DecidableEq

structure PlaceOrderConfig where
  outAsset : String
  side : OrderOperation
  type : DealService.OrderType
  price : Decimal := 0
  timeInForce : Option String := none
  triggerPrice : Option String := none
  orderFilter : Option String := none
  marketUnit : Option String := none
  deriving DecidableEq

structure PlaceOcoConfig where
  outAsset : String
  side : OrderOperation
  price : Decimal := 0
  stopPrice : Decimal := 0
  stopLimitPrice : Option Decimal := none
  stopLimitTimeInForce : Option String := none
  listClientOrderId : Option String := none
  limitClientOrderId : Option String := none
  stopClientOrderId : Option String := none
  deriving DecidableEq

structure SendToConfig where
  destinationExchanger : ExchangerType
  chain : String
  address : String
  deriving DecidableEq

inductive Config where
  | base (config : BaseConfig)
  | placeOrder (config : PlaceOrderConfig)
  | placeOco (config : PlaceOcoConfig)
  | sendTo (config : SendToConfig)
  deriving DecidableEq

def isConfigCompatible : OperationType → Config → Bool
  | .buyCrypto, .base _ | .sellCrypto, .base _ => true
  | .placeOrder, .placeOrder _ => true
  | .placeOco, .placeOco _ => true
  | .sendTo, .sendTo _ => true
  | _, _ => false

structure OperationDefinition where
  type : OperationType
  config : Config
  compatible : isConfigCompatible type config

def OperationDefinition.create (type : OperationType) (config : Config) :
    Except ServiceFailure OperationDefinition :=
  if compatible : isConfigCompatible type config then .ok ⟨type, config, compatible⟩
  else .error (.runtime "Operation definition config does not match its operation type")

@[simp] theorem OperationDefinition.create_ok {type : OperationType} {config : Config}
    {definition : OperationDefinition} :
    OperationDefinition.create type config = .ok definition ↔
      definition.type = type ∧ definition.config = config := by
  unfold OperationDefinition.create
  split_ifs with compatible
  · rw [Except.ok.injEq]
    constructor
    · rintro rfl
      exact ⟨rfl, rfl⟩
    · rintro ⟨rfl, rfl⟩
      rfl
  · simp only [false_iff]
    rintro ⟨rfl, rfl⟩
    exact compatible definition.compatible

structure OperationChainDefinition where
  name : String
  initialExchangerType : ExchangerType
  initialAsset : String
  initialQuantity : Decimal
  operations : List OperationDefinition
  name_nonempty : name ≠ ""
  initial_asset_nonempty : initialAsset ≠ ""
  initial_quantity_positive : 0 < initialQuantity
  operations_nonempty : operations ≠ []

/-- The check of the exchange is missing here: both values of the type are known. -/
def OperationChainDefinition.create (name : String) (initialExchangerType : ExchangerType)
    (initialAsset : String) (initialQuantity : Decimal) (operations : List OperationDefinition) :
    Except ServiceFailure OperationChainDefinition :=
  if name_nonempty : name ≠ "" then
    if initial_asset_nonempty : initialAsset ≠ "" then
      if initial_quantity_positive : 0 < initialQuantity then
        if operations_nonempty : operations ≠ [] then
          .ok { name, initialExchangerType, initialAsset, initialQuantity, operations,
                name_nonempty, initial_asset_nonempty, initial_quantity_positive,
                operations_nonempty }
        else .error (.runtime "Operation-chain definition requires at least one operation")
      else .error (.runtime "Operation-chain definition requires a positive initial quantity")
    else .error (.runtime "Operation-chain definition requires an initial asset")
  else .error (.runtime "Operation-chain definition requires a name")

@[simp] theorem OperationChainDefinition.create_ok {name : String} {exchangerType : ExchangerType}
    {asset : String} {quantity : Decimal} {operations : List OperationDefinition}
    {definition : OperationChainDefinition} :
    OperationChainDefinition.create name exchangerType asset quantity operations =
        .ok definition ↔
      definition.name = name ∧ definition.initialExchangerType = exchangerType ∧
        definition.initialAsset = asset ∧ definition.initialQuantity = quantity ∧
        definition.operations = operations := by
  unfold OperationChainDefinition.create
  constructor
  · intro created
    split_ifs at created
    cases created
    exact ⟨rfl, rfl, rfl, rfl, rfl⟩
  · rintro ⟨rfl, rfl, rfl, rfl, rfl⟩
    rw [dif_pos definition.name_nonempty, dif_pos definition.initial_asset_nonempty,
      dif_pos definition.initial_quantity_positive, dif_pos definition.operations_nonempty]

/-! ## Snapshots -/

inductive OperationStepStatus where
  | pending
  | running
  | awaiting
  | succeeded
  | failed
  | cancelled
  deriving DecidableEq, Repr

inductive OperationChainStatus where
  | pending
  | running
  | completed
  | failed
  | cancelled
  deriving DecidableEq, Repr

/-- `isRunTerminal`. -/
def OperationChainStatus.isTerminal : OperationChainStatus → Bool
  | completed | failed | cancelled => true
  | pending | running => false

structure OperationContextSnapshot where
  exchangerType : ExchangerType
  asset : String
  quantity : Decimal
  deriving DecidableEq

structure OperationAcceptedIdentifiers where
  orderId : Option String := none
  ocoGroupId : Option String := none
  takeProfitOrderId : Option String := none
  stopLossOrderId : Option String := none
  deriving DecidableEq

structure OperationStepSnapshot where
  index : ℕ
  type : OperationType
  config : Config
  status : OperationStepStatus := .pending
  inputContext : Option OperationContextSnapshot := none
  outputContext : Option OperationContextSnapshot := none
  acceptedIdentifiers : OperationAcceptedIdentifiers := {}
  startedAt : Option OperationChainTimePoint := none
  finishedAt : Option OperationChainTimePoint := none
  error : String := ""
  deriving DecidableEq

structure OperationChainSnapshot where
  definitionName : String
  status : OperationChainStatus := .pending
  initialContext : OperationContextSnapshot
  currentContext : OperationContextSnapshot
  currentStepIndex : Option ℕ := none
  createdAt : OperationChainTimePoint
  startedAt : Option OperationChainTimePoint := none
  updatedAt : OperationChainTimePoint
  finishedAt : Option OperationChainTimePoint := none
  error : String := ""
  revision : ℕ := 0
  steps : List OperationStepSnapshot
  deriving DecidableEq

end CryptoDeal
