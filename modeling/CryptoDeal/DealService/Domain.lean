import Mathlib.Data.Rat.Defs

/-!
# Exchange data

The records that the deal services exchange with their callers, field by
field. `Decimal` is exact: `boost::decimal` values are read as rationals.
-/

namespace CryptoDeal.DealService

abbrev Decimal := ℚ

inductive ExchangerType where
  | binance
  | bybit
  deriving DecidableEq, Repr

inductive OrderOperation where
  | buy
  | sell
  deriving DecidableEq, Repr

inductive OrderType where
  | market
  | limit
  deriving DecidableEq, Repr

inductive OrderCategory where
  | spot
  deriving DecidableEq, Repr

inductive StreamStatus where
  | stopped
  | connecting
  | connected
  | error
  deriving DecidableEq, Repr

structure SymbolInfo where
  symbol : String := ""
  status : String := ""
  baseAsset : String := ""
  quoteAsset : String := ""
  tickSize : Decimal := 0
  stepSize : Decimal := 0
  minQty : Decimal := 0
  maxQty : Decimal := 0
  minPrice : Decimal := 0
  maxPrice : Decimal := 0
  minNotional : Decimal := 0
  maxNotional : Decimal := 0
  pricePrecision : Int := 0
  qtyPrecision : Int := 0
  deriving DecidableEq

structure AssetBalance where
  asset : String
  free : Decimal := 0
  locked : Decimal := 0
  deriving DecidableEq

structure PlaceOrderRequest where
  symbol : String
  side : OrderOperation
  type : OrderType
  quantity : Decimal := 0
  price : Option Decimal := none
  timeInForce : Option String := none
  clientOrderId : Option String := none
  category : OrderCategory := .spot
  triggerPrice : Option String := none
  orderFilter : Option String := none
  marketUnit : Option String := none
  deriving DecidableEq

structure PlaceOcoRequest where
  symbol : String
  side : OrderOperation
  quantity : Decimal := 0
  price : Decimal := 0
  stopPrice : Decimal := 0
  stopLimitPrice : Option Decimal := none
  stopLimitTimeInForce : Option String := none
  listClientOrderId : Option String := none
  limitClientOrderId : Option String := none
  stopClientOrderId : Option String := none
  deriving DecidableEq

structure OrderInfo where
  symbol : String := ""
  orderId : String := ""
  clientOrderId : String := ""
  side : String := ""
  type : String := ""
  timeInForce : String := ""
  status : String := ""
  statusReason : String := ""
  price : Decimal := 0
  origQty : Decimal := 0
  executedQty : Decimal := 0
  cumQuoteQty : Decimal := 0
  createdTimeMs : Int := 0
  updatedTimeMs : Int := 0
  category : String := ""
  leavesQty : Decimal := 0
  avgPrice : Decimal := 0
  deriving DecidableEq

structure OcoInfo where
  orderListId : String := ""
  listClientOrderId : String := ""
  transactTimeMs : Int := 0
  takeProfitOrder : OrderInfo := {}
  stopLossOrder : OrderInfo := {}
  deriving DecidableEq

structure OcoWaitResult where
  filledOrder : OrderInfo
  siblingTerminalOrder : OrderInfo
  deriving DecidableEq

structure OrderQuery where
  symbol : String
  orderId : Option String := none
  clientOrderId : Option String := none
  category : OrderCategory := .spot
  deriving DecidableEq

structure OrderListQuery where
  symbol : String
  orderListId : Option String := none
  listClientOrderId : Option String := none
  category : OrderCategory := .spot
  deriving DecidableEq

/-- What a deal-service call can throw. `OrderWaitInterrupted` is the one class
of its own; every other standard exception is known by its text. -/
inductive ServiceFailure where
  | runtime (what : String)
  | interrupted (what : String)
  | nonStandard
  deriving DecidableEq, Repr

/-- `throwIf`. -/
def throwIf (condition : Prop) [Decidable condition] (message : String) :
    Except ServiceFailure Unit :=
  if condition then .error (.runtime message) else .ok ()

@[simp] theorem throw_if_ok {condition : Prop} [Decidable condition] {message : String} :
    throwIf condition message = .ok () ↔ ¬ condition := by
  unfold throwIf
  split_ifs with holds <;> simp [holds]

theorem except_bind_ok {Value Result : Type} {first : Except ServiceFailure Value}
    {next : Value → Except ServiceFailure Result} {result : Result} :
    (first >>= next) = .ok result ↔ ∃ value, first = .ok value ∧ next value = .ok result := by
  cases first <;> simp [bind, Except.bind]

theorem throw_if_bind_ok {Result : Type} {condition : Prop} [Decidable condition]
    {message : String} {next : Unit → Except ServiceFailure Result} {result : Result} :
    (throwIf condition message >>= next) = .ok result ↔ ¬ condition ∧ next () = .ok result := by
  unfold throwIf
  split_ifs with holds <;> simp [holds, bind, Except.bind]

end CryptoDeal.DealService
