import CryptoDeal.DealService.OcoCoordination
import CryptoDeal.DealService.OrderStream
import CryptoDeal.Library.SharedRun

/-!
# Which items of a stream message take effect

One `try` block surrounds a message. An item that cannot be converted stops the
whole message before its first update, and one whose numbers do not parse stops
the items that follow it. The items of a message are isolated from each other
exactly when no malformed item does either to a well-formed one.
-/

namespace CryptoDeal.DealService.Bybit

open DecimalText OrderStatusUtil Interaction

variable {fromChars : String → Option Decimal} {stoll : String → Except String ℤ}

/-! ## Exceptions -/

/-- Nothing that the handler of a message would catch. -/
abbrev ThrowsNoException {Result : Type} (program : OrderStreamProgram Result)
    (history : History OrderStreamEffect OrderStreamEffect.Answer) : Prop :=
  Throws (fun failure => OrderStreamProgram.logException failure = .threw failure) program history

theorem catch_exception_throws {Result : Type} {program : OcoProgram Result}
    {handler : String → OcoProgram Result} {history : OcoHistory}
    (handled : ∀ what later, Throws (· = .nonStandard) (handler what) later) :
    Throws (· = .nonStandard) (OcoProgram.catchException program handler) history := by
  apply throws_handle
  intro later failure
  cases failure with
  | runtime what => exact handled what later
  | interrupted what => exact handled what later
  | nonStandard => exact throws_threw rfl

theorem process_oco_update_throws (orderLinkId : String) (history : OcoHistory) :
    Throws (· = .nonStandard) (processOcoUpdate orderLinkId) history := by
  unfold processOcoUpdate
  apply Throws.bind (throws_request fun _ => throws_returned _)
  intro started taken
  cases taken with
  | none => exact throws_returned none
  | some taken =>
      apply Throws.bind
      · apply catch_exception_throws
        intro cancelError later
        apply catch_exception_throws
        intro statusError last
        exact throws_returned _
      · intro cancelled cancelError
        exact throws_request fun _ => throws_returned _

theorem deliver_order_info_throws (orderInfo : OrderInfo)
    (history : History OrderStreamEffect OrderStreamEffect.Answer) :
    ThrowsNoException (deliverOrderInfo orderInfo) history := by
  have published : ∀ later, ThrowsNoException
      (OrderStreamProgram.publishOrderUpdate orderInfo) later :=
    fun _ => throws_request fun _ => throws_returned _
  unfold deliverOrderInfo
  split_ifs
  · apply Throws.bind
    · have processed := process_oco_update_throws orderInfo.clientOrderId []
      apply Throws.interpret (processed.weaken ?_)
      · exact fun effect later => throws_request fun _ => throws_returned _
      · intro later outcome known failure ended
        rw [known failure ended]
        rfl
    · intro processed ocoError
      cases ocoError with
      | none => exact published processed
      | some error =>
          apply Throws.bind (throws_request fun _ => throws_returned _)
          intro found legs
          cases legs with
          | none => exact throws_returned ()
          | some legs =>
              apply Throws.bind (throws_request fun _ => throws_returned _)
              intro told _
              exact throws_request fun _ => throws_returned _
  · exact published history

section Standard

theorem standard_outcome {Result : Type} (outcome : Except String Result) :
    IsStandard (standardOutcome outcome) := by
  cases outcome with
  | ok result => exact standard_ok result
  | error what => exact standard_runtime what

theorem standard_parse_to_decimal (text : Option String) :
    IsStandard (parseToDecimal fromChars text) := by
  unfold parseToDecimal
  split
  · exact standard_parse_decimal fromChars _
  · exact standard_ok 0

theorem standard_parse_timestamp (text : Option String) :
    IsStandard (parseTimestamp (fun text => standardOutcome (stoll text)) text) := by
  unfold parseTimestamp
  split
  · exact standard_outcome _
  · exact standard_ok 0

theorem standard_create_order_info (order : StreamOrderDto) :
    IsStandard (order.createOrderInfo fromChars stoll) := by
  unfold StreamOrderDto.createOrderInfo
  apply (standard_parse_to_decimal _).bind
  intro price
  apply (standard_parse_to_decimal _).bind
  intro origQty
  apply (standard_parse_to_decimal _).bind
  intro executedQty
  apply (standard_parse_to_decimal _).bind
  intro cumQuoteQty
  apply (standard_parse_to_decimal _).bind
  intro leavesQty
  apply (standard_parse_to_decimal _).bind
  intro avgPrice
  apply (standard_parse_timestamp _).bind
  intro createdTimeMs
  apply (standard_parse_timestamp _).bind
  intro updatedTimeMs
  exact standard_ok _

theorem log_standard {Result : Type} {outcome : Except ServiceFailure Result}
    {failure : ServiceFailure} (standard : IsStandard outcome) (failed : outcome = .error failure) :
    OrderStreamProgram.logException failure = .returned () := by
  subst failed
  cases failure with
  | runtime what => rfl
  | interrupted what => rfl
  | nonStandard => exact absurd rfl standard

end Standard

/-! ## One message -/

def deliverAll : List OrderInfo → OrderStreamProgram Unit
  | [] => return ()
  | orderInfo :: orderInfos => do
      deliverOrderInfo orderInfo
      deliverAll orderInfos

theorem deliver_all_append {first second : List OrderInfo} :
    deliverAll (first ++ second) = deliverAll first >>= fun _ => deliverAll second := by
  induction first with
  | nil => rfl
  | cons orderInfo first ih =>
      rw [List.cons_append, deliverAll, deliverAll, ih, monad_bind_assoc]

/-- What the well-formed ones of these items deliver. -/
def orderInfos (fromChars : String → Option Decimal) (stoll : String → Except String ℤ)
    (items : List StreamItem) : List OrderInfo :=
  items.filterMap fun item => (item.orderInfo fromChars stoll).toOption

section Conversions

variable {Dto : Type} {convert : StreamItem → Except String Dto} {items : List StreamItem}

theorem convert_items_ok (converts : ∀ item ∈ items, (convert item).isOk) :
    ∃ dtos, items.mapM convert = .ok dtos ∧
      List.Forall₂ (fun item dto => convert item = .ok dto) items dtos := by
  induction items with
  | nil => exact ⟨[], rfl, .nil⟩
  | cons item items ih =>
      obtain ⟨dtos, converted, each⟩ := ih fun other member =>
        converts other (List.mem_cons_of_mem _ member)
      have own := converts item List.mem_cons_self
      cases converting : convert item with
      | error what =>
          rw [converting] at own
          cases own
      | ok dto =>
          refine ⟨dto :: dtos, ?_, .cons converting each⟩
          rw [List.mapM_cons, converting, converted]
          rfl

theorem convert_items_error {item : StreamItem} (member : item ∈ items)
    (fails : ¬ (convert item).isOk) : ∃ what, items.mapM convert = .error what := by
  induction items with
  | nil => cases member
  | cons first items ih =>
      rw [List.mapM_cons]
      cases converting : convert first with
      | error what => exact ⟨what, rfl⟩
      | ok dto =>
          rcases List.mem_cons.1 member with rfl | later
          · rw [converting] at fails
            exact absurd rfl fails
          · obtain ⟨what, failed⟩ := ih later
            exact ⟨what, by rw [failed]; rfl⟩

theorem convert_data_items : convertData convert (.ok (some items)) =
    (items.mapM convert).map some := by
  change (items.mapM convert >>= fun dtos => pure (some dtos)) = _
  cases items.mapM convert <;> rfl

theorem convert_data_ok (converts : ∀ item ∈ items, (convert item).isOk) :
    ∃ dtos, convertData convert (.ok (some items)) = .ok (some dtos) ∧
      List.Forall₂ (fun item dto => convert item = .ok dto) items dtos := by
  obtain ⟨dtos, converted, each⟩ := convert_items_ok converts
  refine ⟨dtos, ?_, each⟩
  rw [convert_data_items, converted]
  rfl

theorem convert_data_error {item : StreamItem} (member : item ∈ items)
    (fails : ¬ (convert item).isOk) :
    ∃ what, convertData convert (.ok (some items)) = .error what := by
  obtain ⟨what, failed⟩ := convert_items_error member fails
  refine ⟨what, ?_⟩
  rw [convert_data_items, failed]
  rfl

end Conversions

section Items

variable {item : StreamItem} {items : List StreamItem} {order : StreamOrderDto}

theorem order_info_converted (converts : item.converts) (converted : item.order = .ok order) :
    item.orderInfo fromChars stoll = order.createOrderInfo fromChars stoll := by
  unfold StreamItem.orderInfo
  rw [converted]
  cases account : item.walletAccount with
  | ok account => rfl
  | error what =>
      rw [StreamItem.converts, account] at converts
      cases converts

theorem converts_of_well_formed (wellFormed : item.isWellFormed fromChars stoll) :
    item.converts := by
  unfold StreamItem.isWellFormed StreamItem.orderInfo at wellFormed
  unfold StreamItem.converts
  cases account : item.walletAccount with
  | error what =>
      rw [account] at wellFormed
      cases wellFormed
  | ok account' =>
      cases converted : item.order with
      | error what =>
          rw [account, converted] at wellFormed
          cases wellFormed
      | ok order => rfl

/-- The loop, once its exception is logged, delivers the items before the first malformed one. -/
theorem handle_orders_logged {orders : List StreamOrderDto}
    (converts : ∀ item ∈ items, item.converts)
    (converted : List.Forall₂ (fun item order => item.order = .ok order) items orders) :
    (handleOrders fromChars stoll orders).handle OrderStreamProgram.logException =
      deliverAll (orderInfos fromChars stoll
        (items.takeWhile (·.isWellFormed fromChars stoll))) := by
  induction converted with
  | nil => rfl
  | @cons item order items orders own rest ih =>
      have same : item.orderInfo fromChars stoll = order.createOrderInfo fromChars stoll :=
        order_info_converted (converts item List.mem_cons_self) own
      have after := ih fun other member => converts other (List.mem_cons_of_mem _ member)
      cases created : order.createOrderInfo fromChars stoll with
      | error failure =>
          have malformed : item.isWellFormed fromChars stoll = false := by
            rw [StreamItem.isWellFormed, same, created]
            rfl
          rw [List.takeWhile_cons_of_neg (by simp [malformed]), handleOrders, created]
          exact log_standard (standard_create_order_info order) created
      | ok orderInfo =>
          have wellFormed : item.isWellFormed fromChars stoll = true := by
            rw [StreamItem.isWellFormed, same, created]
            rfl
          have delivered : orderInfos fromChars stoll
              (item :: items.takeWhile (·.isWellFormed fromChars stoll)) =
              orderInfo :: orderInfos fromChars stoll
                (items.takeWhile (·.isWellFormed fromChars stoll)) := by
            simp [orderInfos, same, created, Except.toOption]
          rw [List.takeWhile_cons_of_pos wellFormed, delivered, handleOrders, created, deliverAll,
            ← after]
          exact (deliver_order_info_throws orderInfo []).handle_bind

theorem order_message_converted (converts : ∀ item ∈ items, item.converts) :
    handleUserStreamMessage fromChars stoll (orderMessage items) =
      deliverAll (orderInfos fromChars stoll
        (items.takeWhile (·.isWellFormed fromChars stoll))) := by
  have both : ∀ item ∈ items, item.walletAccount.isOk ∧ item.order.isOk := by
    intro item member
    exact Bool.and_eq_true_iff.1 (converts item member)
  obtain ⟨accounts, accountsConverted, _⟩ := convert_data_ok fun item member => (both item member).1
  obtain ⟨orders, ordersConverted, each⟩ := convert_data_ok fun item member => (both item member).2
  rw [← handle_orders_logged converts each]
  unfold handleUserStreamMessage dispatchMessage orderMessage
  dsimp only
  rw [accountsConverted, ordersConverted]
  rfl

theorem order_message_unconverted (member : item ∈ items) (fails : ¬ item.converts) :
    handleUserStreamMessage fromChars stoll (orderMessage items) = .returned () := by
  unfold handleUserStreamMessage dispatchMessage orderMessage
  dsimp only
  by_cases account : item.walletAccount.isOk
  · have order : ¬ item.order.isOk := by
      intro order
      exact fails (Bool.and_eq_true_iff.2 ⟨account, order⟩)
    obtain ⟨what, failed⟩ := convert_data_error member order
    rw [failed]
    cases convertData (·.walletAccount) (.ok (some items)) with
    | ok accounts => rfl
    | error what => rfl
  · obtain ⟨what, failed⟩ := convert_data_error member account
    rw [failed]
    rfl

theorem order_infos_well_formed :
    orderInfos fromChars stoll (items.filter (·.isWellFormed fromChars stoll)) =
      orderInfos fromChars stoll items := by
  unfold orderInfos
  rw [List.filterMap_filter]
  congr
  funext item
  unfold StreamItem.isWellFormed
  cases item.orderInfo fromChars stoll <;> rfl

theorem malformed_order_info (malformed : ¬ item.isWellFormed fromChars stoll) :
    orderInfos fromChars stoll [item] = [] := by
  rw [← order_infos_well_formed, List.filter_cons_of_neg malformed]
  rfl

theorem single_message_delivers :
    handleUserStreamMessage fromChars stoll (orderMessage [item]) =
      deliverAll (orderInfos fromChars stoll [item]) := by
  by_cases converts : item.converts
  · rw [order_message_converted fun other member => by rwa [List.mem_singleton.1 member]]
    by_cases wellFormed : item.isWellFormed fromChars stoll
    · rw [List.takeWhile_cons_of_pos wellFormed, List.takeWhile_nil]
    · rw [List.takeWhile_cons_of_neg wellFormed, malformed_order_info wellFormed]
      rfl
  · rw [order_message_unconverted List.mem_cons_self converts,
      malformed_order_info fun wellFormed => converts (converts_of_well_formed wellFormed)]
    rfl

theorem dispatch_single_message :
    dispatchMessage fromChars stoll (orderMessage [item]) =
      ofExcept (item.orderInfo fromChars stoll) >>= fun orderInfo => deliverAll [orderInfo] := by
  unfold dispatchMessage orderMessage StreamItem.orderInfo
  dsimp only
  rw [convert_data_items, convert_data_items, List.mapM_cons, List.mapM_cons]
  cases item.walletAccount with
  | error what => rfl
  | ok account =>
      cases item.order with
      | error what => rfl
      | ok order => rfl

/-- By itself an item is processed without an exception exactly when it is well formed. -/
theorem processed_alone_iff :
    ThrowsNoException (dispatchMessage fromChars stoll (orderMessage [item])) [] ↔
      item.isWellFormed fromChars stoll := by
  rw [dispatch_single_message, StreamItem.isWellFormed]
  have standard : IsStandard (item.orderInfo fromChars stoll) :=
    (standard_outcome _).bind fun _ =>
      (standard_outcome _).bind fun order => standard_create_order_info order
  cases created : item.orderInfo fromChars stoll with
  | error failure =>
      have logged := log_standard standard created
      constructor
      · intro alone
        have passed : OrderStreamProgram.logException failure = .threw failure := alone failure rfl
        rw [logged] at passed
        cases passed
      · exact nofun
  | ok orderInfo =>
      refine iff_of_true ?_ rfl
      apply (deliver_order_info_throws orderInfo []).bind
      intro later _
      exact throws_returned ()

theorem deliver_separately_all :
    deliverSeparately fromChars stoll items = deliverAll (orderInfos fromChars stoll items) := by
  induction items with
  | nil => rfl
  | cons item items ih =>
      rw [deliverSeparately, single_message_delivers, ih, ← deliver_all_append, orderInfos,
        orderInfos, ← List.filterMap_append]
      rfl

end Items

/-! ## Isolation -/

section Isolation

variable (fromChars stoll)

/-- Whatever goes on around: the same requests with the same answers, the same store and registry
as with each well-formed item in a message of its own, and the same end. -/
def IsolatesItems (items : List StreamItem) : Prop :=
  ∀ {World : Type} (surroundings : Surroundings World) (state : World × OrderStreamState),
    runAlone (OrderStreamState.perform surroundings)
        (handleUserStreamMessage fromChars stoll (orderMessage items)) [] state =
      runAlone (OrderStreamState.perform surroundings)
        (deliverSeparately fromChars stoll (items.filter (·.isWellFormed fromChars stoll))) [] state

/-- No malformed item comes before a well-formed one, and none stops its conversion. -/
def NoItemStopsAnother (items : List StreamItem) : Prop :=
  ∀ earlier item later, items = earlier ++ item :: later → item.isWellFormed fromChars stoll →
    (∀ other ∈ items, other.converts) ∧ ∀ other ∈ earlier, other.isWellFormed fromChars stoll

end Isolation

/-- The updates that were published, latest first. -/
def publishedUpdates (history : History OrderStreamEffect OrderStreamEffect.Answer) :
    List OrderInfo :=
  history.filterMap fun answered =>
    match answered.1 with
    | .publishOrderUpdate orderInfo => some orderInfo
    | _ => none

/-- No other thread, and a network that answers. -/
def quietSurroundings : Surroundings Unit where
  network := fun _ => promptNetwork

/-- Without groups, every update is published. -/
theorem deliver_order_info_quietly (orderInfo : OrderInfo)
    (history : History OrderStreamEffect OrderStreamEffect.Answer) (waits : PendingOrderWaits) :
    ∃ more, publishedUpdates more = [orderInfo] ∧
      runAlone (OrderStreamState.perform quietSurroundings) (deliverOrderInfo orderInfo) history
          ((), { pendingOrderWaits := waits }) =
        (more ++ history,
          ((), { pendingOrderWaits := publishOrderUpdate .bybit orderInfo waits }),
          .returned ()) := by
  unfold deliverOrderInfo
  split_ifs
  · exact ⟨[⟨.publishOrderUpdate orderInfo, ()⟩,
      ⟨.oco (.startOcoUpdate orderInfo.clientOrderId), none⟩], rfl, rfl⟩
  · exact ⟨[⟨.publishOrderUpdate orderInfo, ()⟩], rfl, rfl⟩

theorem deliver_all_quietly (orderInfos : List OrderInfo)
    (history : History OrderStreamEffect OrderStreamEffect.Answer) (waits : PendingOrderWaits) :
    publishedUpdates (runAlone (OrderStreamState.perform quietSurroundings) (deliverAll orderInfos)
      history ((), { pendingOrderWaits := waits })).1 =
      orderInfos.reverse ++ publishedUpdates history := by
  induction orderInfos generalizing history waits with
  | nil => rfl
  | cons orderInfo orderInfos ih =>
      obtain ⟨more, published, ran⟩ := deliver_order_info_quietly orderInfo history waits
      rw [deliverAll, run_alone_bind, ran]
      refine (ih (more ++ history) _).trans ?_
      rw [publishedUpdates, List.filterMap_append]
      change _ ++ (publishedUpdates more ++ _) = _
      rw [published, List.reverse_cons, List.append_assoc]
      rfl

theorem deliver_all_injective {first second : List OrderInfo}
    (same : runAlone (OrderStreamState.perform quietSurroundings) (deliverAll first) [] ((), {}) =
      runAlone (OrderStreamState.perform quietSurroundings) (deliverAll second) [] ((), {})) :
    first = second := by
  have published := congrArg (fun ended => publishedUpdates ended.1) same
  simp only [deliver_all_quietly] at published
  simpa using published

theorem take_while_eq_filter_iff {Item : Type} {chosen : Item → Bool} {items : List Item} :
    items.takeWhile chosen = items.filter chosen ↔
      ∀ earlier item later, items = earlier ++ item :: later → chosen item →
        ∀ other ∈ earlier, chosen other := by
  induction items with
  | nil => simp
  | cons first items ih =>
      by_cases own : chosen first
      · rw [List.takeWhile_cons_of_pos own, List.filter_cons_of_pos own, List.cons.injEq, ih]
        constructor
        · rintro ⟨_, ordered⟩ earlier item later split isChosen other member
          cases earlier with
          | nil => cases member
          | cons head earlier =>
              obtain ⟨rfl, rest⟩ := List.cons.inj split
              rcases List.mem_cons.1 member with rfl | member
              · exact own
              · exact ordered earlier item later rest isChosen other member
        · intro ordered
          refine ⟨rfl, ?_⟩
          intro earlier item later split isChosen other member
          exact ordered (first :: earlier) item later (congrArg _ split) isChosen other
            (List.mem_cons_of_mem _ member)
      · rw [List.takeWhile_cons_of_neg own, List.filter_cons_of_neg own, eq_comm,
          List.filter_eq_nil_iff]
        constructor
        · intro none earlier item later split isChosen other member
          cases earlier with
          | nil => cases member
          | cons head earlier =>
              obtain ⟨rfl, rest⟩ := List.cons.inj split
              exact absurd isChosen (none item (by simp [rest]))
        · intro ordered item member isChosen
          obtain ⟨earlier, later, split⟩ := List.append_of_mem member
          exact own (ordered (first :: earlier) item later (congrArg _ split) isChosen first
            List.mem_cons_self)

section Isolation

variable {items : List StreamItem}

theorem order_infos_length
    (wellFormed : ∀ item ∈ items, item.isWellFormed fromChars stoll) :
    (orderInfos fromChars stoll items).length = items.length := by
  rw [orderInfos, List.filterMap_length_eq_length]
  intro item member
  have own := wellFormed item member
  unfold StreamItem.isWellFormed at own
  cases created : item.orderInfo fromChars stoll with
  | error failure =>
      rw [created] at own
      cases own
  | ok orderInfo => rfl

/-- What precedes the first malformed item is all that is well formed, if it delivers as much. -/
theorem take_while_of_order_infos
    (same : orderInfos fromChars stoll (items.takeWhile (·.isWellFormed fromChars stoll)) =
      orderInfos fromChars stoll (items.filter (·.isWellFormed fromChars stoll))) :
    items.takeWhile (·.isWellFormed fromChars stoll) =
      items.filter (·.isWellFormed fromChars stoll) := by
  have leading : ∀ item ∈ items.takeWhile (·.isWellFormed fromChars stoll),
      item.isWellFormed fromChars stoll := fun item member => List.mem_takeWhile_imp member
  have lengths := congrArg List.length same
  rw [order_infos_length leading, order_infos_length fun item member =>
    (List.mem_filter.1 member).2] at lengths
  have sublist := (List.takeWhile_sublist (l := items)
    (fun item => item.isWellFormed fromChars stoll)).filter
    (fun item => item.isWellFormed fromChars stoll)
  rw [List.filter_eq_self.2 leading] at sublist
  exact sublist.eq_of_length lengths

theorem items_isolated_iff :
    IsolatesItems fromChars stoll items ↔ NoItemStopsAnother fromChars stoll items := by
  by_cases converts : ∀ item ∈ items, item.converts
  · have ordered : NoItemStopsAnother fromChars stoll items ↔
        items.takeWhile (·.isWellFormed fromChars stoll) =
          items.filter (·.isWellFormed fromChars stoll) := by
      rw [take_while_eq_filter_iff]
      exact ⟨fun stops earlier item later split wellFormed =>
          (stops earlier item later split wellFormed).2,
        fun stops earlier item later split wellFormed =>
          ⟨converts, stops earlier item later split wellFormed⟩⟩
    rw [ordered]
    constructor
    · intro isolated
      have same := isolated quietSurroundings ((), {})
      rw [order_message_converted converts, deliver_separately_all] at same
      exact take_while_of_order_infos (deliver_all_injective same)
    · intro same World surroundings state
      rw [order_message_converted converts, deliver_separately_all, same]
  · push Not at converts
    obtain ⟨item, member, fails⟩ := converts
    have unconverted :
        handleUserStreamMessage fromChars stoll (orderMessage items) = .returned () :=
      order_message_unconverted member fails
    constructor
    · intro isolated
      have same := isolated quietSurroundings ((), {})
      rw [unconverted, deliver_separately_all] at same
      have nothing : [] = orderInfos fromChars stoll
          (items.filter (·.isWellFormed fromChars stoll)) := deliver_all_injective same
      have lengths := congrArg List.length nothing
      rw [order_infos_length fun item member => (List.mem_filter.1 member).2] at lengths
      intro earlier other later split wellFormed
      have known : other ∈ items.filter (·.isWellFormed fromChars stoll) :=
        List.mem_filter.2 ⟨by simp [split], wellFormed⟩
      exact absurd lengths.symm (List.length_pos_of_mem known).ne'
    · intro stops World surroundings state
      have nothing : items.filter (·.isWellFormed fromChars stoll) = [] := by
        apply List.filter_eq_nil_iff.2
        intro other otherMember wellFormed
        obtain ⟨earlier, later, split⟩ := List.append_of_mem otherMember
        exact fails ((stops earlier other later split wellFormed).1 item member)
      rw [unconverted, nothing]
      rfl

end Isolation

/-! ## A hidden update -/

/-- A price that is no number, then the cancellation of an order. -/
def hiddenUpdate : List StreamItem := [
  { walletAccount := .ok {}
    order := .ok { symbol := some "BTCUSDT", orderId := some "1", price := some "-" } },
  { walletAccount := .ok {}
    order := .ok {
      symbol := some "BTCUSDT"
      orderId := some "2"
      orderStatus := some "Cancelled" } }]

/-- Some call waits for the second order, and nothing else goes on. -/
def awaitedOrder : Unit × OrderStreamState :=
  ((), { pendingOrderWaits := registerPendingOrder ("BTCUSDT", "2") noPendingOrderWaits })

/-- The entry of the awaited order after a program. -/
def awaitedEntry (program : OrderStreamProgram Unit) : Option PendingOrderWait :=
  let ended := runAlone (OrderStreamState.perform quietSurroundings) program [] awaitedOrder
  ended.2.1.2.pendingOrderWaits ("BTCUSDT", "2")

/-- The waiter gets neither the update nor an error; in messages of their own it would be told. -/
theorem malformed_item_hides_update :
    ¬ IsolatesItems (fun _ => none) (fun _ => .error "stoll") hiddenUpdate ∧
      awaitedEntry (handleUserStreamMessage (fun _ => none) (fun _ => .error "stoll")
        (orderMessage hiddenUpdate)) = some { registrationCount := 1 } ∧
      awaitedEntry (deliverSeparately (fun _ => none) (fun _ => .error "stoll") hiddenUpdate) =
        some {
          registrationCount := 1
          orderInfo := some { symbol := "BTCUSDT", orderId := "2", status := "Cancelled" } } := by
  refine ⟨?_, by rfl, by rfl⟩
  intro isolated
  have same := congrArg (fun ended => ended.2.1.2.pendingOrderWaits ("BTCUSDT", "2"))
    (isolated quietSurroundings awaitedOrder)
  exact absurd same (by decide +kernel)

end CryptoDeal.DealService.Bybit
