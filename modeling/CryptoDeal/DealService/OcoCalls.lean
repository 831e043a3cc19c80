import CryptoDeal.DealService.OcoRegistry
import CryptoDeal.DealService.OrderStatusUtil
import CryptoDeal.DealService.StandardFailures

/-!
# The calls that work on the OCO registry

`processOcoUpdate`, `cancelOco` and `placeOco` as programs whose requests are
the sections under `ocoMutex` and the network calls between them. A placement's
own call of `processOcoUpdate` is carried out section by section too. The phase
of a call, read off its history, says which section it may enter next.
-/

namespace CryptoDeal.DealService.Bybit

open DecimalText OrderStatusUtil Interaction

inductive OcoEffect where
  | placement (effect : PlacementEffect)
  | startOcoUpdate (orderLinkId : String)
  | finishOcoUpdate (groupId : String) (cancelError : Option String)
  | findOcoGroup (groupId : String)
  | removeOcoGroup (groupId : String) (ocoGroup : RegisteredOcoGroup)
  | cancelOrder (query : OrderQuery)
  | getOrder (query : OrderQuery)

@[reducible] def OcoEffect.Answer : OcoEffect → Type
  | placement effect => effect.Answer
  | startOcoUpdate _ => Option (String × OrderQuery)
  | finishOcoUpdate _ _ => Option String
  | findOcoGroup _ => Except ServiceFailure RegisteredOcoGroup
  | removeOcoGroup _ _ => Unit
  | cancelOrder _ | getOrder _ => Except ServiceFailure OrderInfo

abbrev OcoProgram (Result : Type) := Interaction OcoEffect OcoEffect.Answer ServiceFailure Result

abbrev OcoHistory := History OcoEffect OcoEffect.Answer

namespace OcoProgram

def startOcoUpdate (orderLinkId : String) : OcoProgram (Option (String × OrderQuery)) :=
  .request (.startOcoUpdate orderLinkId) .returned

def finishOcoUpdate (groupId : String) (cancelError : Option String) :
    OcoProgram (Option String) :=
  .request (.finishOcoUpdate groupId cancelError) .returned

def findOcoGroup (groupId : String) : OcoProgram RegisteredOcoGroup :=
  .request (.findOcoGroup groupId) .ofExcept

def removeOcoGroup (groupId : String) (ocoGroup : RegisteredOcoGroup) : OcoProgram Unit :=
  .request (.removeOcoGroup groupId ocoGroup) .returned

def cancelOrder (query : OrderQuery) : OcoProgram OrderInfo :=
  .request (.cancelOrder query) .ofExcept

def getOrder (query : OrderQuery) : OcoProgram OrderInfo :=
  .request (.getOrder query) .ofExcept

/-- `catch (const exception &e)`. -/
def catchException {Result : Type} (program : OcoProgram Result)
    (handler : String → OcoProgram Result) : OcoProgram Result :=
  program.handle fun
    | .runtime what => handler what
    | .interrupted what => handler what
    | .nonStandard => .threw .nonStandard

end OcoProgram

open OcoProgram in
def requestOcoOtherLegCancellation (order : OrderQuery) : OcoProgram (Option String) :=
  catchException (do
    let _ ← cancelOrder order
    return none)
    fun cancelError => catchException (do
      let cancelInfo ← getOrder order
      return if isOrderTerminal .bybit cancelInfo.status then none else some cancelError)
      fun statusError => return some (cancelError ++ "; Status check failed: " ++ statusError)

open OcoProgram in
def processOcoUpdate (orderLinkId : String) : OcoProgram (Option String) := do
  match ← startOcoUpdate orderLinkId with
  | none => return none
  | some (groupId, otherLegQuery) => do
      let cancelError ← requestOcoOtherLegCancellation otherLegQuery
      finishOcoUpdate groupId cancelError

open OcoProgram in
/-- The error of one leg; `cancelInfo` is not read by the caller. -/
def cancelOcoGroupOrder (order : OrderQuery) : OcoProgram (Option String) :=
  catchException (do
    let _ ← cancelOrder order
    return none)
    fun cancelError => do
      let orderId ← optionalValue order.orderId
      catchException (do
        let check ← getOrder order
        return if isOrderTerminal .bybit check.status then none
          else some (orderId ++ " order cancel failed and is not terminal: " ++ cancelError))
        fun statusError =>
          return some (orderId ++ " order cancel failed: " ++ cancelError ++
            "; status check failed: " ++ statusError)

open OcoProgram in
def cancelOco (request : OrderListQuery) : OcoProgram Unit := do
  throwIf (request.orderListId = none ∧ request.listClientOrderId = none)
    "Bybit cancelOco: missing orderListId or listClientOrderId"
  let groupId ← optionalValue (request.orderListId.or request.listClientOrderId)
  throwIf (groupId = "") "Bybit cancelOco: order list identifier cannot be empty"
  let ocoGroup ← findOcoGroup groupId
  let takeProfitError ← cancelOcoGroupOrder ocoGroup.takeProfit
  let stopLossError ← cancelOcoGroupOrder ocoGroup.stopLeg
  throwIf (takeProfitError.isSome ∨ stopLossError.isSome)
    ("Bybit cancelOco incomplete: " ++ takeProfitError.getD "" ++ stopLossError.getD "")
  removeOcoGroup groupId ocoGroup

/-- A placement's request; its `processOcoUpdate` is a call of its own. -/
def carryOut : (effect : PlacementEffect) → OcoProgram effect.Answer
  | .processOcoUpdate orderLinkId => (processOcoUpdate orderLinkId).attempt
  | effect => .request (.placement effect) .returned

inductive OcoCall where
  | placeOco (request : PlaceOcoRequest)
  | processOcoUpdate (orderLinkId : String)
  | cancelOco (request : OrderListQuery)
  deriving DecidableEq

@[reducible] def OcoCall.Result : OcoCall → Type
  | placeOco _ => OcoInfo
  | processOcoUpdate _ => Option String
  | cancelOco _ => Unit

def OcoCall.program (rounding : NearestRounding) (fromChars : String → Option Decimal) :
    (call : OcoCall) → OcoProgram call.Result
  | placeOco asked => (Bybit.placeOco rounding fromChars asked).interpret carryOut
  | processOcoUpdate orderLinkId => Bybit.processOcoUpdate orderLinkId
  | cancelOco asked => Bybit.cancelOco asked

/-! ## Phases -/

/-- Where a call stands with the registry. -/
inductive OcoPhase where
  | idle
  | placing (groupId : String)
  | handingOver (groupId orderLinkId : String)
  /-- between the sections of `processOcoUpdate` -/
  | cancelling (groupId : String) (otherLegQuery : OrderQuery)
  /-- between the sections of `cancelOco` -/
  | holding (groupId : String) (ocoGroup : RegisteredOcoGroup)
  deriving DecidableEq

namespace OcoPhase

def next (phase : OcoPhase) : (effect : OcoEffect) → effect.Answer → OcoPhase
  | .placement (.registerOcoPlacement groupId _ _), .ok _ => .placing groupId
  | .placement (.clearOcoPlacementRegistration _ _), _ => .idle
  | .placement (.createOcoGroup _), none => .idle
  | .placement (.createOcoGroup group), some orderLinkId =>
      .handingOver group.groupId orderLinkId
  | .placement (.processOcoUpdate _), _ => .idle
  | .placement _, _ => phase
  | .startOcoUpdate _, none => .idle
  | .startOcoUpdate _, some (groupId, otherLegQuery) => .cancelling groupId otherLegQuery
  | .finishOcoUpdate _ _, _ => .idle
  | .findOcoGroup groupId, .ok ocoGroup => .holding groupId ocoGroup
  | .findOcoGroup _, .error _ => phase
  | .removeOcoGroup _ _, _ => .idle
  | .cancelOrder _, _ | .getOrder _, _ => phase

/-- The network may be asked about any order, unless the call works on another leg. -/
def MayAsk (query : OrderQuery) : OcoPhase → Prop
  | idle | placing _ | holding _ _ => True
  | handingOver _ _ => False
  | cancelling _ otherLegQuery => query = otherLegQuery

def IsQuiet : OcoPhase → Prop
  | idle | placing _ | holding _ _ => True
  | handingOver _ _ | cancelling _ _ => False

def MayEnd : OcoPhase → Prop
  | idle | holding _ _ => True
  | placing _ | handingOver _ _ | cancelling _ _ => False

/-- What a call may request in a phase. -/
def Allows (phase : OcoPhase) : OcoEffect → Prop
  | .placement (.registerOcoPlacement groupId takeProfitOrderLinkId stopLossOrderLinkId) =>
      phase = .idle ∧ takeProfitOrderLinkId = takeProfitLinkId groupId ∧
        stopLossOrderLinkId = stopLossLinkId groupId
  | .placement (.clearOcoPlacementRegistration takeProfitOrderLinkId stopLossOrderLinkId) =>
      ∃ groupId, phase = .placing groupId ∧ takeProfitOrderLinkId = takeProfitLinkId groupId ∧
        stopLossOrderLinkId = stopLossLinkId groupId
  | .placement (.createOcoGroup group) =>
      phase = .placing group.groupId ∧ Keyed group.groupId group
  | .placement (.processOcoUpdate orderLinkId) => ∃ groupId, phase = .handingOver groupId orderLinkId
  | .placement _ => phase.IsQuiet
  | .startOcoUpdate orderLinkId => phase = .idle ∨ ∃ groupId, phase = .handingOver groupId orderLinkId
  | .finishOcoUpdate groupId _ => ∃ otherLegQuery, phase = .cancelling groupId otherLegQuery
  | .findOcoGroup _ => phase = .idle
  | .removeOcoGroup groupId ocoGroup => phase = .holding groupId ocoGroup
  | .cancelOrder query | .getOrder query => phase.MayAsk query

end OcoPhase

def ocoPhase : OcoHistory → OcoPhase
  | [] => .idle
  | ⟨effect, answer⟩ :: earlier => (ocoPhase earlier).next effect answer

/-- The phase of a placement whose `processOcoUpdate` counts as one request. -/
def placementPhase : History PlacementEffect PlacementEffect.Answer → OcoPhase
  | [] => .idle
  | ⟨effect, answer⟩ :: earlier => (placementPhase earlier).next (.placement effect) answer

/-- What a call asked of the market and the registry as a placement. -/
def placementPart : OcoHistory → History PlacementEffect PlacementEffect.Answer
  | [] => []
  | ⟨.placement effect, answer⟩ :: earlier => ⟨effect, answer⟩ :: placementPart earlier
  | _ :: earlier => placementPart earlier

/-- The answers that a placement can get: what the network layer throws is derived from
`std::exception`. -/
def AnswersPlacement : (effect : PlacementEffect) → effect.Answer → Prop
  | .getSymbolInfo _ _, answer => IsStandard answer
  | .getTickerPrice _, answer => IsStandard answer
  | .getOrderPriceLimit _ _, answer => IsStandard answer
  | .getServerTimestamp, answer => IsStandard answer
  | .createBinanceOrder _, answer => IsStandard answer
  | .createBinanceOco _, answer => IsStandard answer
  | .createBybitOrder _, answer => IsStandard answer
  | .cancelOrder _, answer => IsStandard answer
  | .ensureUserStreamConnected, answer => IsStandard answer
  | .registerOcoPlacement _ _ _, answer => IsStandard answer
  -- a call of the service itself, which catches what its requests throw
  | .processOcoUpdate _, answer => ∃ cancelError, answer = .ok cancelError
  | .getBalance _, _ | .generateUniqueOcoId, _ | .clearOcoPlacementRegistration _ _, _
  | .createOcoGroup _, _ => True

def AnswersOco : (effect : OcoEffect) → effect.Answer → Prop
  | .placement effect, answer => AnswersPlacement effect answer
  | .findOcoGroup _, answer => IsStandard answer
  | .cancelOrder _, answer => IsStandard answer
  | .getOrder _, answer => IsStandard answer
  | .startOcoUpdate _, _ | .finishOcoUpdate _ _, _ | .removeOcoGroup _ _, _ => True

/-- The leg's cancellation was acknowledged, or the leg was reported over. -/
def LegSettled (query : OrderQuery) (history : OcoHistory) : Prop :=
  (∃ orderInfo, ⟨.cancelOrder query, .ok orderInfo⟩ ∈ history) ∨
    ∃ orderInfo, ⟨.getOrder query, .ok orderInfo⟩ ∈ history ∧
      isOrderTerminal .bybit orderInfo.status

/-- The query names the very order that the exchange returned for the link id. -/
def LegPlaced (history : History PlacementEffect PlacementEffect.Answer) (orderLinkId : String)
    (query : OrderQuery) : Prop :=
  ∃ body orderInfo, ⟨.createBybitOrder body, .ok orderInfo⟩ ∈ history ∧
    body.orderLinkId = some orderLinkId ∧
      query = {
        symbol := body.symbol
        orderId := some orderInfo.orderId
        clientOrderId := some orderLinkId }

/-- A placement registers once, and makes its group of the orders it was given. -/
def PlacementPrepared (history : History PlacementEffect PlacementEffect.Answer) :
    PlacementEffect → Prop
  | .registerOcoPlacement _ _ _ => ∀ groupId takeProfitOrderLinkId stopLossOrderLinkId answer,
      ⟨.registerOcoPlacement groupId takeProfitOrderLinkId stopLossOrderLinkId, answer⟩ ∉ history
  | .createOcoGroup group => LegPlaced history group.tpOrderLinkId group.takeProfit ∧
      LegPlaced history group.slOrderLinkId group.stopLeg
  | _ => True

def Prepared (history : OcoHistory) : OcoEffect → Prop
  | .placement effect => PlacementPrepared (placementPart history) effect
  | .finishOcoUpdate groupId _ => ∀ otherLegQuery,
      ocoPhase history = .cancelling groupId otherLegQuery →
        ∃ answer, ⟨.cancelOrder otherLegQuery, answer⟩ ∈ history
  | .removeOcoGroup _ ocoGroup =>
      LegSettled ocoGroup.takeProfit history ∧ LegSettled ocoGroup.stopLeg history
  | _ => True

def ocoContract : Contract OcoEffect OcoEffect.Answer where
  requires history effect := (ocoPhase history).Allows effect ∧ Prepared history effect
  ensures _ effect answer := AnswersOco effect answer

def placementContract : Contract PlacementEffect PlacementEffect.Answer where
  requires history effect := (placementPhase history).Allows (.placement effect) ∧
    PlacementPrepared history effect
  ensures _ effect answer := AnswersPlacement effect answer

def OcoEffect.readsOnly : OcoEffect → Bool
  | .findOcoGroup _ | .cancelOrder _ | .getOrder _ => true
  | .startOcoUpdate _ | .finishOcoUpdate _ _ | .removeOcoGroup _ _ => false
  | .placement (.registerOcoPlacement _ _ _) => false
  | .placement (.clearOcoPlacementRegistration _ _) => false
  | .placement (.createOcoGroup _) => false
  | .placement (.processOcoUpdate _) => false
  | .placement _ => true

end CryptoDeal.DealService.Bybit
