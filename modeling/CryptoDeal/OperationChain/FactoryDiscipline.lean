import CryptoDeal.OperationChain.ExecutionTrace

/-!
# What the factory's operations keep to

An operation of the factory places its order right after its own check, makes
itself known to the coordinator before it completes, and throws
`OperationCancellationRequested` only from that check.
-/

namespace CryptoDeal

open DealService Interaction

/-- The action that this call registered. -/
def registers : (asked : OperationCall) → asked.Answer → Option OrderAction
  | .register action, .ok _ => some action
  | _, _ => none

/-- The action of an operation, once it is registered. -/
def registeredAction : CallHistory → Option OrderAction
  | [] => none
  | ⟨asked, answer⟩ :: earlier => (registers asked answer).or (registeredAction earlier)

def OperationCall.completes : OperationCall → Bool
  | .completeActionNaturally => true
  | _ => false

/-- The operation has run `completeActionNaturally`. -/
def hasCompleted (calls : CallHistory) : Bool := calls.any fun event => event.1.completes

/-- The calls of an operation that has only passed its own check. -/
def checkedOnly : CallHistory := [⟨.isCancellationRequested, false⟩]

def factoryCallAllowed (calls : CallHistory) : OperationCall → Prop
  | .buyCrypto _ _ _ _ | .sellCrypto _ _ _ _ | .placeOrder _ _ | .placeOco _ _ =>
      calls = checkedOnly
  | .register _ => hasCompleted calls = false
  | _ => True

def factoryEndAllowed (calls : CallHistory) : Except OperationFailure Unit → Prop
  | .ok _ => True
  | .error (.cancellationRequested _) =>
      registeredAction calls = none ∧ hasCompleted calls = false
  | .error (.thrown _) => hasCompleted calls = false

def factoryDiscipline : OperationDiscipline where
  callAllowed := factoryCallAllowed
  endAllowed := factoryEndAllowed

namespace OperationFactory

abbrev OperationMeets {Result : Type}
    (post : History OperationEffect OperationEffect.Answer → Except OperationFailure Result → Prop)
    (program : OperationProgram Result) (asked : History OperationEffect OperationEffect.Answer) :
    Prop :=
  Meets factoryDiscipline.contract post program asked

abbrev EndsWell (later : History OperationEffect OperationEffect.Answer)
    (outcome : Except OperationFailure Unit) : Prop :=
  factoryEndAllowed (callsIn later) outcome

/-- The history of an operation that has passed its own check. -/
abbrev passedCheck : History OperationEffect OperationEffect.Answer :=
  [⟨.call .isCancellationRequested, false⟩]

/-- An operation is its own check, then the rest. -/
theorem meets_check {rest : OperationProgram Unit} (met : OperationMeets EndsWell rest passedCheck) :
    OperationMeets EndsWell (throwIfCancellationRequested >>= fun _ => rest) [] := by
  refine ⟨trivial, fun requested _ => ?_⟩
  cases requested with
  | false => exact met
  | true => exact ⟨rfl, rfl⟩

theorem meets_get_exchanger {context : OperationContext}
    {rest : ExchangerType → OperationProgram Unit}
    (met : ∀ service, OperationMeets EndsWell (rest service) passedCheck) :
    OperationMeets EndsWell (getExchanger context >>= rest) passedCheck := by
  show Meets _ _ (getExchanger context >>= rest) _
  rw [meets_monad_bind, getExchanger]
  by_cases present : context.exchangerType ∈ context.exchangersPull
  · rw [if_pos present]
    exact met context.exchangerType
  · rw [if_neg present]
    exact rfl

/-- What a submission may leave behind: nothing completed, and no cancellation thrown. -/
def Submitted {Result : Type} (later : History OperationEffect OperationEffect.Answer) :
    Except OperationFailure Result → Prop
  | .ok _ => hasCompleted (callsIn later) = false
  | .error failure => EndsWell later (.error failure)

theorem ordinary_order_keeps {outAsset : String} {side : OrderOperation}
    {submit : OperationContext → ExchangerType → OperationProgram OrderInfo}
    (submits : ∀ context service, OperationMeets Submitted (submit context service) passedCheck) :
    factoryDiscipline.Keeps (ordinaryOrderOperation outAsset side submit) := by
  intro context
  apply meets_check
  apply meets_get_exchanger
  intro service
  apply (submits context service).bind
  case fails => exact fun later failure ended => ended
  case succeeds =>
    intro later orderInfo uncompleted
    refine ⟨uncompleted, fun registered _ => ?_⟩
    cases registered with
    | error failure => exact uncompleted
    | ok registered =>
        refine ⟨trivial, fun reported _ => ?_⟩
        cases reported with
        | error failure => exact uncompleted
        | ok reported =>
            refine ⟨trivial, fun token _ => ⟨trivial, fun waited _ => ?_⟩⟩
            cases waited with
            | error failure => exact uncompleted
            | ok completeOrderInfo =>
                exact ⟨trivial, fun _ _ => ⟨trivial, fun _ _ => trivial⟩⟩

theorem buy_crypto_keeps (preset : BaseConfig) : factoryDiscipline.Keeps (buyCrypto preset) := by
  apply ordinary_order_keeps
  intro context service
  refine ⟨rfl, fun submitted _ => ?_⟩
  cases submitted <;> rfl

theorem sell_crypto_keeps (preset : BaseConfig) : factoryDiscipline.Keeps (sellCrypto preset) := by
  apply ordinary_order_keeps
  intro context service
  refine ⟨rfl, fun submitted _ => ?_⟩
  cases submitted <;> rfl

theorem place_order_keeps (preset : PlaceOrderConfig) :
    factoryDiscipline.Keeps (placeOrder preset) := by
  apply ordinary_order_keeps
  intro context service
  refine ⟨rfl, fun submitted _ => ?_⟩
  cases submitted <;> rfl

theorem place_oco_keeps (preset : PlaceOcoConfig) :
    factoryDiscipline.Keeps (placeOco preset) := by
  intro context
  apply meets_check
  apply meets_get_exchanger
  intro service
  refine ⟨rfl, fun submitted _ => ?_⟩
  cases submitted with
  | error failure => exact rfl
  | ok ocoInfo =>
      refine ⟨rfl, fun registered _ => ?_⟩
      cases registered with
      | error failure => exact rfl
      | ok registered =>
          refine ⟨trivial, fun reported _ => ?_⟩
          cases reported with
          | error failure => exact rfl
          | ok reported =>
              refine ⟨trivial, fun token _ => ⟨trivial, fun waited _ => ?_⟩⟩
              cases waited with
              | error failure => exact rfl
              | ok result => exact ⟨trivial, fun _ _ => ⟨trivial, fun _ _ => trivial⟩⟩

theorem send_to_keeps (preset : SendToConfig) : factoryDiscipline.Keeps (sendTo preset) := by
  intro context
  apply meets_check
  exact ⟨trivial, fun _ _ => ⟨trivial, fun _ _ => trivial⟩⟩

theorem create_keeps {type : OperationType} {config : Config} {operation : Operation}
    (created : create type config = .ok operation) : factoryDiscipline.Keeps operation := by
  cases type <;> cases config <;> cases created
  · exact buy_crypto_keeps _
  · exact sell_crypto_keeps _
  · exact place_order_keeps _
  · exact place_oco_keeps _
  · exact send_to_keeps _

end OperationFactory

theorem map_m_at {Input Output : Type} {change : Input → Except ServiceFailure Output}
    {inputs : List Input} {outputs : List Output} (mapped : inputs.mapM change = .ok outputs)
    {index : ℕ} {output : Output} (found : outputs[index]? = some output) :
    ∃ input, inputs[index]? = some input ∧ change input = .ok output := by
  induction inputs generalizing outputs index with
  | nil =>
      cases mapped
      cases found
  | cons input inputs ih =>
      rw [List.mapM_cons] at mapped
      obtain ⟨first, changed, remaining⟩ := except_bind_ok.1 mapped
      obtain ⟨rest, mappedRest, last⟩ := except_bind_ok.1 remaining
      cases last
      cases index with
      | zero =>
          cases found
          exact ⟨input, rfl, changed⟩
      | succ index => exact ih mappedRest found

theorem of_mem_map_m {Input Output : Type} {change : Input → Except ServiceFailure Output}
    {inputs : List Input} {outputs : List Output} (mapped : inputs.mapM change = .ok outputs)
    {output : Output} (member : output ∈ outputs) : ∃ input, change input = .ok output := by
  obtain ⟨index, found⟩ := List.mem_iff_getElem?.1 member
  obtain ⟨input, _, changed⟩ := map_m_at mapped found
  exact ⟨input, changed⟩

/-- Every operation of a built chain keeps to the discipline. -/
theorem OperationChainBuilder.build_keeps {definition : OperationChainDefinition}
    {exchangers : List ExchangerType} {createdAt : OperationChainTimePoint}
    {chain : OperationChain} (built : build definition exchangers createdAt = .ok chain) :
    ∃ operations, OperationChain.create definition operations exchangers createdAt = .ok chain ∧
      ∀ operation ∈ operations, factoryDiscipline.Keeps operation := by
  rcases except_bind_ok.1 built with ⟨operations, mapped, created⟩
  refine ⟨operations, created, fun operation member => ?_⟩
  rcases of_mem_map_m mapped member with ⟨operationDefinition, made⟩
  exact OperationFactory.create_keeps made

end CryptoDeal
