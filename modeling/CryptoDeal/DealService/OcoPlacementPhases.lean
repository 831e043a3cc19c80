import CryptoDeal.DealService.OcoDiscipline

/-!
# The course of a placement

A leg asks the market and then sends its order. `placeOco` registers its link ids
before the first leg, and on every exit it has given them up or made its group
of them. A failure of the second leg cancels the first one, unless it comes from
formatting the stop price, which is not inside the `try`.
-/

namespace CryptoDeal.DealService.Bybit

open DecimalText DecimalConverter Interaction PlacementProgram

variable {rounding : NearestRounding} {fromChars : String → Option Decimal}

abbrev PlacementHistory := History PlacementEffect PlacementEffect.Answer

abbrev PlacementMeets {Result : Type}
    (post : PlacementHistory → Except ServiceFailure Result → Prop)
    (program : PlacementProgram Result) (history : PlacementHistory) : Prop :=
  Meets placementContract post program history

/-! ## Inquiries -/

/-- The request neither orders, nor cancels, nor works on the registry. -/
def isInquiry : PlacementEffect → Bool
  | .getSymbolInfo _ _ | .getTickerPrice _ | .getOrderPriceLimit _ _ | .getBalance _
  | .getServerTimestamp | .ensureUserStreamConnected | .generateUniqueOcoId => true
  | .createBinanceOrder _ | .createBinanceOco _ | .createBybitOrder _ | .cancelOrder _
  | .registerOcoPlacement _ _ _ | .clearOcoPlacementRegistration _ _ | .createOcoGroup _
  | .processOcoUpdate _ => false

/-- Only inquiries were made in between. -/
def Inquired (history later : PlacementHistory) : Prop :=
  ∃ added, later = added ++ history ∧ ∀ item ∈ added, isInquiry item.1

section Inquired

variable {history middle later : PlacementHistory}

theorem Inquired.refl (history : PlacementHistory) : Inquired history history :=
  ⟨[], rfl, List.forall_mem_nil _⟩

theorem Inquired.cons {effect : PlacementEffect} (inquiry : isInquiry effect)
    (answer : effect.Answer) (history : PlacementHistory) :
    Inquired history (⟨effect, answer⟩ :: history) := by
  refine ⟨[⟨effect, answer⟩], rfl, ?_⟩
  intro item member
  rw [List.mem_singleton.1 member]
  exact inquiry

theorem Inquired.trans (first : Inquired history middle) (second : Inquired middle later) :
    Inquired history later := by
  obtain ⟨earlierAdded, rfl, earlierInquiries⟩ := first
  obtain ⟨laterAdded, rfl, laterInquiries⟩ := second
  refine ⟨laterAdded ++ earlierAdded, by rw [List.append_assoc], ?_⟩
  intro item member
  rcases List.mem_append.1 member with late | early
  · exact laterInquiries item late
  · exact earlierInquiries item early

theorem inquiry_keeps_phase {effect : PlacementEffect} (inquiry : isInquiry effect)
    (phase : OcoPhase) (answer : effect.Answer) :
    phase.next (.placement effect) answer = phase := by
  cases effect <;> first | rfl | cases inquiry

theorem inquiry_allowed {effect : PlacementEffect} (inquiry : isInquiry effect) {phase : OcoPhase}
    (quiet : phase.IsQuiet) (history : PlacementHistory) :
    phase.Allows (.placement effect) ∧ PlacementPrepared history effect := by
  cases effect <;> first | exact ⟨quiet, trivial⟩ | cases inquiry

theorem Inquired.phase (inquired : Inquired history later) :
    placementPhase later = placementPhase history := by
  obtain ⟨added, rfl, inquiries⟩ := inquired
  induction added with
  | nil => rfl
  | cons item added ih =>
      rw [List.forall_mem_cons] at inquiries
      rw [List.cons_append, placementPhase, inquiry_keeps_phase inquiries.1]
      exact ih inquiries.2

/-- Whatever else was asked for was asked for before. -/
theorem Inquired.earlier (inquired : Inquired history later) {item : Sigma PlacementEffect.Answer}
    (ordering : isInquiry item.1 = false) (member : item ∈ later) : item ∈ history := by
  obtain ⟨added, rfl, inquiries⟩ := inquired
  rcases List.mem_append.1 member with new | old
  · rw [inquiries item new] at ordering
    cases ordering
  · exact old

end Inquired

/-- The program makes inquiries only, and throws standard exceptions only. -/
def Inquires {Result : Type} (program : PlacementProgram Result) : Prop :=
  ∀ history, (placementPhase history).IsQuiet →
    PlacementMeets (fun later outcome => Inquired history later ∧ IsStandard outcome) program history

section Inquires

variable {First Result : Type}

theorem inquires_returned (result : Result) : Inquires (.returned result) :=
  fun history _ => ⟨.refl history, standard_ok result⟩

theorem inquires_of_except {outcome : Except ServiceFailure Result} (standard : IsStandard outcome) :
    Inquires (.ofExcept outcome) := by
  intro history _
  rw [PlacementMeets, meets_of_except]
  exact ⟨.refl history, standard⟩

theorem inquires_lift {outcome : Except ServiceFailure Result} (standard : IsStandard outcome) :
    Inquires (liftM outcome : PlacementProgram Result) :=
  inquires_of_except standard

theorem Inquires.bind {program : PlacementProgram First}
    {continuation : First → PlacementProgram Result} (part : Inquires program)
    (rest : ∀ result, Inquires (continuation result)) : Inquires (program >>= continuation) := by
  intro history quiet
  apply (part history quiet).bind
  · rintro middle result ⟨first, _⟩
    apply (rest result middle (by rw [first.phase]; exact quiet)).weaken
    rintro later outcome ⟨second, standard⟩
    exact ⟨first.trans second, standard⟩
  · rintro later failure ⟨first, standard⟩
    refine ⟨first, ?_⟩
    rintro ⟨⟩
    exact standard rfl

theorem inquires_request {effect : PlacementEffect} (inquiry : isInquiry effect)
    {next : effect.Answer → PlacementProgram Result}
    (continues : ∀ answer, AnswersPlacement effect answer → Inquires (next answer)) :
    Inquires (.request effect next) := by
  intro history quiet
  refine ⟨inquiry_allowed inquiry quiet history, fun answer given => ?_⟩
  have first := Inquired.cons inquiry answer history
  apply (continues answer given _ (by rw [first.phase]; exact quiet)).weaken
  rintro later outcome ⟨second, standard⟩
  exact ⟨first.trans second, standard⟩

end Inquires

theorem inquires_get_symbol_info (symbol : String) (category : OrderCategory) :
    Inquires (getSymbolInfo symbol category) :=
  inquires_request rfl fun _ => inquires_of_except

theorem inquires_get_ticker_price (symbol : String) : Inquires (getTickerPrice symbol) :=
  inquires_request rfl fun _ => inquires_of_except

theorem inquires_get_order_price_limit (symbol : String) (category : OrderCategory) :
    Inquires (getOrderPriceLimit symbol category) :=
  inquires_request rfl fun _ => inquires_of_except

theorem inquires_get_server_timestamp : Inquires getServerTimestamp :=
  inquires_request rfl fun _ => inquires_of_except

theorem inquires_ensure_user_stream_connected : Inquires ensureUserStreamConnected :=
  inquires_request rfl fun _ => inquires_of_except

theorem inquires_resolve_group_id (request : PlaceOcoRequest) :
    Inquires (resolveGroupId request) := by
  unfold resolveGroupId
  split_ifs
  · exact inquires_request rfl fun _ _ => inquires_returned _
  · exact inquires_returned _

theorem inquires_free_balance (asset : String) : Inquires (freeBalance asset) :=
  inquires_request rfl fun _ _ => inquires_returned _

theorem inquires_validate_order_price_limit (request : PlaceOrderRequest) :
    Inquires (validateOrderPriceLimit rounding fromChars request) := by
  unfold validateOrderPriceLimit
  cases request.type with
  | market => exact inquires_returned ()
  | limit =>
      apply (inquires_get_order_price_limit request.symbol request.category).bind
      intro priceLimit
      apply (inquires_lift (standard_optional_value request.price)).bind
      intro price
      cases request.side <;> exact inquires_lift (standard_require_within_limit _ _ _ _ _ _ _)

theorem inquires_required_quote_amount (request : PlaceOrderRequest) (info : SymbolInfo) :
    Inquires (requiredQuoteAmount rounding request info) := by
  have checked : ∀ label quantity price, IsStandard (requireNoError label
      (validateQuantity rounding quantity price info)) := fun label quantity price =>
    standard_require_no_error (standard_validate_quantity rounding quantity price info)
  unfold requiredQuoteAmount
  split
  · exact (inquires_lift (checked _ _ _)).bind fun _ => inquires_returned _
  · split_ifs
    · apply (inquires_lift
        (standard_require_no_error (standard_validate_notional rounding _ info))).bind
      exact fun _ => inquires_returned _
    · apply (inquires_get_ticker_price request.symbol).bind
      intro marketLastPrice
      exact (inquires_lift (checked _ _ _)).bind fun _ => inquires_returned _

theorem inquires_check_balance (request : PlaceOrderRequest) (info : SymbolInfo) :
    Inquires (checkBalance rounding request info) := by
  unfold checkBalance
  cases request.side with
  | buy =>
      apply (inquires_free_balance info.quoteAsset).bind
      intro quoteFree
      apply (inquires_required_quote_amount request info).bind
      exact fun required => inquires_lift (standard_require_quote_balance rounding _ _ _)
  | sell =>
      apply (inquires_free_balance info.baseAsset).bind
      exact fun baseFree => inquires_lift (standard_require_base_balance rounding _ _ _)

/-- Inquiries first; each may refuse. -/
theorem meets_after_inquiry {First Result : Type} {program : PlacementProgram First}
    {continuation : First → PlacementProgram Result}
    {post : PlacementHistory → Except ServiceFailure Result → Prop}
    {start history : PlacementHistory} (inquires : Inquires program)
    (quiet : (placementPhase start).IsQuiet) (inquired : Inquired start history)
    (continues : ∀ later result, Inquired start later →
      PlacementMeets post (continuation result) later)
    (refused : ∀ later failure, Inquired start later → failure ≠ .nonStandard →
      post later (.error failure)) :
    PlacementMeets post (program >>= continuation) history := by
  apply (inquires history (by rw [inquired.phase]; exact quiet)).bind
  · rintro later result ⟨since, _⟩
    exact continues later result (inquired.trans since)
  · rintro later failure ⟨since, standard⟩
    apply refused later failure (inquired.trans since)
    rintro rfl
    exact standard rfl

/-! ## Legs -/

/-- An inquiry, or an order that was not created. -/
def IsFruitless (item : Sigma PlacementEffect.Answer) : Prop :=
  isInquiry item.1 ∨ ∃ body failure, item = ⟨.createBybitOrder body, .error failure⟩

/-- A leg that failed. -/
def LegFailed (history later : PlacementHistory) : Prop :=
  ∃ added, later = added ++ history ∧ ∀ item ∈ added, IsFruitless item

/-- A leg whose order the exchange returned. -/
def LegReturned (symbol : String) (orderLinkId : Option String)
    (history later : PlacementHistory) (orderInfo : OrderInfo) : Prop :=
  ∃ earlier body, Inquired history earlier ∧
    (body.symbol = symbol ∧ body.orderLinkId = orderLinkId) ∧
      later = ⟨.createBybitOrder body, .ok orderInfo⟩ :: earlier

def OrderTried (symbol : String) (orderLinkId : Option String)
    (history later : PlacementHistory) : Except ServiceFailure OrderInfo → Prop
  | .ok orderInfo => LegReturned symbol orderLinkId history later orderInfo
  | .error failure => LegFailed history later ∧ failure ≠ .nonStandard

section Legs

variable {history later : PlacementHistory}

theorem Inquired.fruitless (inquired : Inquired history later) : LegFailed history later := by
  obtain ⟨added, same, inquiries⟩ := inquired
  exact ⟨added, same, fun item member => .inl (inquiries item member)⟩

theorem LegFailed.phase (failed : LegFailed history later) :
    placementPhase later = placementPhase history := by
  obtain ⟨added, rfl, fruitless⟩ := failed
  induction added with
  | nil => rfl
  | cons item added ih =>
      rw [List.forall_mem_cons] at fruitless
      have kept := ih fruitless.2
      rcases fruitless.1 with inquiry | ⟨body, failure, rfl⟩
      · rw [List.cons_append, placementPhase, inquiry_keeps_phase inquiry]
        exact kept
      · exact kept

theorem LegReturned.phase {symbol : String} {orderLinkId : Option String} {orderInfo : OrderInfo}
    (sent : LegReturned symbol orderLinkId history later orderInfo) :
    placementPhase later = placementPhase history := by
  obtain ⟨earlier, body, inquired, _, rfl⟩ := sent
  exact inquired.phase

theorem LegReturned.grows {symbol : String} {orderLinkId : Option String} {orderInfo : OrderInfo}
    (sent : LegReturned symbol orderLinkId history later orderInfo) : history ⊆ later := by
  obtain ⟨earlier, body, ⟨added, rfl, _⟩, _, rfl⟩ := sent
  exact List.subset_cons_of_subset _ (List.subset_append_right added history)

theorem LegReturned.placed {symbol orderLinkId : String} {orderInfo : OrderInfo}
    (sent : LegReturned symbol (some orderLinkId) history later orderInfo) :
    LegPlaced later orderLinkId {
      symbol, orderId := some orderInfo.orderId, clientOrderId := some orderLinkId } := by
  obtain ⟨earlier, body, _, ⟨rfl, linkId⟩, rfl⟩ := sent
  exact ⟨body, orderInfo, List.mem_cons_self, linkId, rfl⟩

theorem LegPlaced.mono {orderLinkId : String} {query : OrderQuery} (grows : history ⊆ later)
    (placed : LegPlaced history orderLinkId query) : LegPlaced later orderLinkId query := by
  obtain ⟨body, orderInfo, member, named⟩ := placed
  exact ⟨body, orderInfo, grows member, named⟩

theorem create_request_body_names {request : PlaceOrderRequest} {info : SymbolInfo}
    {body : CreateOrderRequestDto} (created : createRequestBody rounding request info = .ok body) :
    body.symbol = request.symbol ∧ body.orderLinkId = request.clientOrderId := by
  obtain ⟨qty, _, rest⟩ := except_bind_ok.1 created
  obtain ⟨fields, _, same⟩ := except_bind_ok.1 rest
  cases same
  exact ⟨rfl, rfl⟩

theorem place_order_meets (quiet : (placementPhase history).IsQuiet) (request : PlaceOrderRequest) :
    PlacementMeets (OrderTried request.symbol request.clientOrderId history)
      (placeOrder rounding fromChars request) history := by
  have refused : ∀ later failure, Inquired history later → failure ≠ .nonStandard →
      OrderTried request.symbol request.clientOrderId history later (.error failure) := by
    intro later failure inquired standard
    exact ⟨inquired.fruitless, standard⟩
  apply meets_after_inquiry (inquires_lift (standard_validate_place_order_request request)) quiet
    (.refl history) _ refused
  intro later _ inquired
  apply meets_after_inquiry (inquires_get_symbol_info request.symbol request.category) quiet
    inquired _ refused
  intro later info inquired
  apply meets_after_inquiry (inquires_lift (standard_check_limit_price rounding _ request info))
    quiet inquired _ refused
  intro later _ inquired
  apply meets_after_inquiry (inquires_validate_order_price_limit request) quiet inquired _ refused
  intro later _ inquired
  apply meets_after_inquiry (inquires_check_balance request info) quiet inquired _ refused
  intro later _ inquired
  apply meets_lift_bind
  · intro body created
    apply meets_after_inquiry inquires_get_server_timestamp quiet inquired _ refused
    intro last _ inquired
    have quietLast : (placementPhase last).IsQuiet := by
      rw [inquired.phase]
      exact quiet
    refine ⟨⟨quietLast, trivial⟩, fun answer given => ?_⟩
    cases answer with
    | ok orderInfo => exact ⟨last, body, inquired, create_request_body_names created, rfl⟩
    | error failure =>
        obtain ⟨added, rfl, inquiries⟩ := inquired
        refine ⟨⟨⟨.createBybitOrder body, .error failure⟩ :: added, rfl, ?_⟩, ?_⟩
        · rw [List.forall_mem_cons]
          exact ⟨.inr ⟨body, failure, rfl⟩, fun item member => .inl (inquiries item member)⟩
        · rintro rfl
          exact given rfl
  · intro failure unformatted
    apply refused later failure inquired
    rintro rfl
    exact standard_create_request_body rounding request info unformatted

/-- A caught exception of a leg. -/
theorem meets_catch_order {program : PlacementProgram OrderInfo}
    {handler : String → PlacementProgram OrderInfo} {symbol : String} {orderLinkId : Option String}
    {post : PlacementHistory → Except ServiceFailure OrderInfo → Prop}
    (tried : PlacementMeets (OrderTried symbol orderLinkId history) program history)
    (sent : ∀ later orderInfo, LegReturned symbol orderLinkId history later orderInfo →
      post later (.ok orderInfo))
    (handled : ∀ later what, LegFailed history later → PlacementMeets post (handler what) later) :
    PlacementMeets post (catchException program handler) history := by
  unfold catchException
  rw [PlacementMeets, meets_handle]
  apply tried.weaken
  intro later outcome known
  cases outcome with
  | ok orderInfo => exact sent later orderInfo known
  | error failure =>
      cases failure with
      | runtime what => exact handled later what known.1
      | interrupted what => exact handled later what known.1
      | nonStandard => exact absurd rfl known.2

theorem create_take_profit_meets (quiet : (placementPhase history).IsQuiet)
    (request : PlaceOcoRequest) (takeProfitOrderLinkId : String) :
    PlacementMeets (OrderTried request.symbol (some takeProfitOrderLinkId) history)
      (createTakeProfitOcoRequest rounding fromChars request takeProfitOrderLinkId) history := by
  apply meets_catch_order (place_order_meets quiet _)
  · exact fun later orderInfo sent => sent
  · exact fun later what failed => ⟨failed, nofun⟩

abbrev rollbackQuery (request : PlaceOcoRequest) (takeProfitOrderLinkId : String) : OrderQuery :=
  { symbol := request.symbol, clientOrderId := some takeProfitOrderLinkId }

theorem rollback_meets (quiet : (placementPhase history).IsQuiet) (request : PlaceOcoRequest)
    (takeProfitOrderLinkId : String) :
    PlacementMeets
      (fun later outcome => (∃ rollbackError, outcome = .ok rollbackError) ∧ ∃ answer,
        later = ⟨.cancelOrder (rollbackQuery request takeProfitOrderLinkId), answer⟩ :: history)
      (rollbackOcoRequests request takeProfitOrderLinkId) history := by
  refine ⟨⟨quiet, trivial⟩, fun answer given => ?_⟩
  cases answer with
  | ok orderInfo => exact ⟨⟨_, rfl⟩, _, rfl⟩
  | error failure =>
      cases failure with
      | runtime what => exact ⟨⟨_, rfl⟩, _, rfl⟩
      | interrupted what => exact ⟨⟨_, rfl⟩, _, rfl⟩
      | nonStandard => exact absurd rfl given

/-- The second leg: sent, or failed with a rollback, or not even tried. -/
inductive StopLossTried (rounding : NearestRounding) (request : PlaceOcoRequest)
    (takeProfitOrderLinkId stopLossOrderLinkId : String) (history : PlacementHistory) :
    PlacementHistory → Except ServiceFailure OrderInfo → Prop where
  | sent {later : PlacementHistory} {orderInfo : OrderInfo}
      (sent : LegReturned request.symbol (some stopLossOrderLinkId) history later orderInfo) :
      StopLossTried rounding request takeProfitOrderLinkId stopLossOrderLinkId history later
        (.ok orderInfo)
  | rolledBack {middle : PlacementHistory} {answer : Except ServiceFailure OrderInfo} {text : String}
      {failure : ServiceFailure} (failed : LegFailed history middle)
      (formatted : formatDecimal rounding request.stopPrice = .ok text) :
      StopLossTried rounding request takeProfitOrderLinkId stopLossOrderLinkId history
        (⟨.cancelOrder (rollbackQuery request takeProfitOrderLinkId), answer⟩ :: middle)
        (.error failure)
  | unformatted {failure : ServiceFailure}
      (unformatted : formatDecimal rounding request.stopPrice = .error failure) :
      StopLossTried rounding request takeProfitOrderLinkId stopLossOrderLinkId history history
        (.error failure)

theorem create_stop_loss_meets (quiet : (placementPhase history).IsQuiet)
    (request : PlaceOcoRequest) (stopLossOrderLinkId takeProfitOrderLinkId : String) :
    PlacementMeets
      (StopLossTried rounding request takeProfitOrderLinkId stopLossOrderLinkId history)
      (createStopLossOcoRequest rounding fromChars request stopLossOrderLinkId
        takeProfitOrderLinkId) history := by
  apply meets_lift_bind
  · intro triggerPrice formatted
    apply meets_catch_order (place_order_meets quiet _)
    · exact fun later orderInfo sent => .sent sent
    · intro middle what failed
      have quietMiddle : (placementPhase middle).IsQuiet := by
        rw [failed.phase]
        exact quiet
      apply (rollback_meets quietMiddle request takeProfitOrderLinkId).bind
      · rintro later rollbackError ⟨_, answer, rfl⟩
        exact .rolledBack failed formatted
      · rintro later failure ⟨⟨_, ⟨⟩⟩, _⟩
  · exact fun failure unformatted => .unformatted unformatted

end Legs

/-! ## Both legs -/

/-- No order was created or cancelled, and no group made. -/
structure Orderless (history : PlacementHistory) : Prop where
  unreturned : ∀ body orderInfo, ⟨.createBybitOrder body, .ok orderInfo⟩ ∉ history
  uncancelled : ∀ query answer, ⟨.cancelOrder query, answer⟩ ∉ history
  uncreated : ∀ group pending, ⟨.createOcoGroup group, pending⟩ ∉ history

/-- The cancellation of the take-profit leg was requested. -/
def RollbackAttempted (request : PlaceOcoRequest) (takeProfitOrderLinkId : String)
    (history : PlacementHistory) : Prop :=
  ∃ answer, ⟨.cancelOrder (rollbackQuery request takeProfitOrderLinkId), answer⟩ ∈ history

/-- What a placement leaves that fails before its group is made: the only order that can have
been returned is the take-profit leg, and its cancellation hangs on the stop price. -/
structure LegsFailed (rounding : NearestRounding) (request : PlaceOcoRequest)
    (takeProfitOrderLinkId : String) (history : PlacementHistory) : Prop where
  returned : ∀ body orderInfo, ⟨.createBybitOrder body, .ok orderInfo⟩ ∈ history →
    body.orderLinkId = some takeProfitOrderLinkId ∧
      (RollbackAttempted request takeProfitOrderLinkId history ↔
        ∃ text, formatDecimal rounding request.stopPrice = .ok text)
  uncreated : ∀ group pending, ⟨.createOcoGroup group, pending⟩ ∉ history

section LegsFailed

variable {history middle later : PlacementHistory} {request : PlaceOcoRequest}
  {takeProfitOrderLinkId stopLossOrderLinkId : String} {orderInfo : OrderInfo}

theorem returned_not_fruitless (body : CreateOrderRequestDto) (orderInfo : OrderInfo) :
    ¬ IsFruitless ⟨.createBybitOrder body, .ok orderInfo⟩ := by
  rintro (inquiry | ⟨other, failure, same⟩)
  · cases inquiry
  · cases same

theorem cancel_not_fruitless (query : OrderQuery) (answer : Except ServiceFailure OrderInfo) :
    ¬ IsFruitless ⟨.cancelOrder query, answer⟩ := by
  rintro (inquiry | ⟨other, failure, same⟩)
  · cases inquiry
  · cases same

theorem created_not_fruitless (group : BybitOcoGroup) (pending : Option String) :
    ¬ IsFruitless ⟨.createOcoGroup group, pending⟩ := by
  rintro (inquiry | ⟨other, failure, same⟩)
  · cases inquiry
  · cases same

theorem LegFailed.earlier (failed : LegFailed history later) {item : Sigma PlacementEffect.Answer}
    (fruitful : ¬ IsFruitless item) (member : item ∈ later) : item ∈ history := by
  obtain ⟨added, rfl, fruitless⟩ := failed
  rcases List.mem_append.1 member with new | old
  · exact absurd (fruitless item new) fruitful
  · exact old

theorem LegFailed.orderless (failed : LegFailed history later) (orderless : Orderless history) :
    Orderless later where
  unreturned body orderInfo member :=
    orderless.unreturned body orderInfo (failed.earlier (returned_not_fruitless _ _) member)
  uncancelled query answer member :=
    orderless.uncancelled query answer (failed.earlier (cancel_not_fruitless _ _) member)
  uncreated group pending member :=
    orderless.uncreated group pending (failed.earlier (created_not_fruitless _ _) member)

theorem Orderless.legs_failed (orderless : Orderless history) :
    LegsFailed rounding request takeProfitOrderLinkId history where
  returned body orderInfo member := absurd member (orderless.unreturned body orderInfo)
  uncreated := orderless.uncreated

theorem StopLossTried.legs_failed {failure : ServiceFailure} (orderless : Orderless history)
    (takeProfit : LegReturned request.symbol (some takeProfitOrderLinkId) history middle orderInfo)
    (tried : StopLossTried rounding request takeProfitOrderLinkId stopLossOrderLinkId middle later
      (.error failure)) : LegsFailed rounding request takeProfitOrderLinkId later := by
  obtain ⟨earlier, sent, inquired, ⟨_, linkId⟩, rfl⟩ := takeProfit
  have before := inquired.fruitless.orderless orderless
  have only : ∀ body info, ⟨.createBybitOrder body, .ok info⟩ ∈
      (⟨.createBybitOrder sent, .ok orderInfo⟩ :: earlier : PlacementHistory) →
        body.orderLinkId = some takeProfitOrderLinkId := by
    intro body info member
    rcases List.mem_cons.1 member with same | member
    · cases same
      exact linkId
    · exact absurd member (before.unreturned body info)
  have uncreated : ∀ group pending, ⟨.createOcoGroup group, pending⟩ ∉
      (⟨.createBybitOrder sent, .ok orderInfo⟩ :: earlier : PlacementHistory) := by
    intro group pending member
    rcases List.mem_cons.1 member with same | member
    · cases same
    · exact before.uncreated group pending member
  cases tried with
  | @rolledBack middle answer text _ failed formatted =>
      refine ⟨?_, ?_⟩
      · intro body info member
        rcases List.mem_cons.1 member with same | member
        · cases same
        · refine ⟨only body info (failed.earlier (returned_not_fruitless _ _) member), ?_⟩
          exact iff_of_true ⟨answer, List.mem_cons_self⟩ ⟨text, formatted⟩
      · intro group pending member
        rcases List.mem_cons.1 member with same | member
        · cases same
        · exact uncreated group pending (failed.earlier (created_not_fruitless _ _) member)
  | unformatted unformatted =>
      refine ⟨?_, uncreated⟩
      intro body info member
      refine ⟨only body info member, iff_of_false ?_ ?_⟩
      · rintro ⟨answer, attempted⟩
        rcases List.mem_cons.1 attempted with same | attempted
        · cases same
        · exact before.uncancelled _ _ attempted
      · rintro ⟨text, formatted⟩
        rw [unformatted] at formatted
        cases formatted

end LegsFailed

/-! ## The whole placement -/

/-- The phase of a placement whose group has just been made. -/
def createdPhase (groupId : String) : Option String → OcoPhase
  | none => .idle
  | some orderLinkId => .handingOver groupId orderLinkId

/-- The legs of a placement: its group made, or its registration still held. -/
inductive LegsPlaced (rounding : NearestRounding) (request : PlaceOcoRequest) (groupId : String) :
    PlacementHistory → Except ServiceFailure (OrderInfo × OrderInfo × Option String) → Prop where
  | created {earlier : PlacementHistory} {group : BybitOcoGroup} {pending : Option String}
      {takeProfitOrderInfo stopLossOrderInfo : OrderInfo} (own : group.groupId = groupId)
      (uncreated : ∀ other answer, ⟨.createOcoGroup other, answer⟩ ∉ earlier) :
      LegsPlaced rounding request groupId (⟨.createOcoGroup group, pending⟩ :: earlier)
        (.ok (takeProfitOrderInfo, stopLossOrderInfo, pending))
  | failed {later : PlacementHistory} {failure : ServiceFailure}
      (phase : placementPhase later = .placing groupId)
      (failed : LegsFailed rounding request (takeProfitLinkId groupId) later) :
      LegsPlaced rounding request groupId later (.error failure)

theorem place_oco_legs_meets {history : PlacementHistory} {groupId : String}
    (placing : placementPhase history = .placing groupId) (orderless : Orderless history)
    (request : PlaceOcoRequest) :
    PlacementMeets (LegsPlaced rounding request groupId)
      (placeOcoLegs rounding fromChars request groupId (takeProfitLinkId groupId)
        (stopLossLinkId groupId)) history := by
  have quiet : (placementPhase history).IsQuiet := by
    rw [placing]
    trivial
  apply (create_take_profit_meets quiet request (takeProfitLinkId groupId)).bind
  · intro middle takeProfitOrderInfo takeProfit
    have quietMiddle : (placementPhase middle).IsQuiet := by
      rw [LegReturned.phase takeProfit]
      exact quiet
    apply (create_stop_loss_meets quietMiddle request (stopLossLinkId groupId)
      (takeProfitLinkId groupId)).bind
    · rintro later stopLossOrderInfo ⟨sent⟩
      have phase : placementPhase later = .placing groupId :=
        (LegReturned.phase sent).trans ((LegReturned.phase takeProfit).trans placing)
      refine ⟨⟨⟨phase, ⟨rfl, rfl, rfl, rfl, rfl⟩⟩, ?_⟩, fun pending _ => ?_⟩
      · exact ⟨(LegReturned.placed takeProfit).mono sent.grows, sent.placed⟩
      refine .created rfl ?_
      obtain ⟨first, firstBody, firstInquired, _, rfl⟩ := takeProfit
      obtain ⟨second, secondBody, secondInquired, _, rfl⟩ := sent
      intro group answer member
      rcases List.mem_cons.1 member with same | member
      · cases same
      have earlier := secondInquired.fruitless.earlier (created_not_fruitless group answer) member
      rcases List.mem_cons.1 earlier with same | earlier
      · cases same
      · exact (firstInquired.fruitless.orderless orderless).uncreated group answer earlier
    · intro later failure tried
      refine .failed ?_ (tried.legs_failed orderless takeProfit)
      rw [← placing, ← LegReturned.phase takeProfit]
      cases tried with
      | rolledBack failed _ => exact failed.phase
      | unformatted _ => rfl
  · rintro later failure ⟨failed, _⟩
    exact .failed (failed.phase.trans placing) (failed.orderless orderless).legs_failed

/-- How a placement ends. -/
structure PlacementEnded (rounding : NearestRounding) (request : PlaceOcoRequest)
    (later : PlacementHistory) (outcome : Except ServiceFailure OcoInfo) : Prop where
  phase : placementPhase later = .idle
  /-- a failure before the group is made -/
  legs : ∀ failure, outcome = .error failure →
    (∀ group pending, ⟨.createOcoGroup group, pending⟩ ∉ later) →
      ∃ groupId, LegsFailed rounding request (takeProfitLinkId groupId) later
  /-- a failure after the group is made -/
  reported : ∀ failure, outcome = .error failure → ∀ group pending,
    ⟨.createOcoGroup group, pending⟩ ∈ later → ∃ orderLinkId error earlier,
      pending = some orderLinkId ∧
        later = ⟨.processOcoUpdate orderLinkId, .ok (some error)⟩ :: earlier

theorem PlacementEnded.refused {request : PlaceOcoRequest} {later : PlacementHistory}
    {outcome : Except ServiceFailure OcoInfo} (groupId : String)
    (phase : placementPhase later = .idle)
    (failed : LegsFailed rounding request (takeProfitLinkId groupId) later) :
    PlacementEnded rounding request later outcome where
  phase := phase
  legs _ _ _ := ⟨groupId, failed⟩
  reported _ _ group pending member := absurd member (failed.uncreated group pending)

theorem PlacementEnded.returned {request : PlaceOcoRequest} {later : PlacementHistory}
    {ocoInfo : OcoInfo} (phase : placementPhase later = .idle) :
    PlacementEnded rounding request later (.ok ocoInfo) where
  phase := phase
  legs := by
    intro failure ended
    cases ended
  reported := by
    intro failure ended
    cases ended

theorem legs_failed_clear {request : PlaceOcoRequest} {takeProfitOrderLinkId : String}
    {history : PlacementHistory}
    (failed : LegsFailed rounding request takeProfitOrderLinkId history)
    (first second : String) :
    LegsFailed rounding request takeProfitOrderLinkId
      (⟨.clearOcoPlacementRegistration first second, ()⟩ :: history) where
  returned body orderInfo member := by
    obtain ⟨linkId, settled⟩ := failed.returned body orderInfo (by
      rcases List.mem_cons.1 member with same | member
      · cases same
      · exact member)
    refine ⟨linkId, Iff.trans ?_ settled⟩
    constructor
    · rintro ⟨answer, attempted⟩
      rcases List.mem_cons.1 attempted with same | attempted
      · cases same
      · exact ⟨answer, attempted⟩
    · rintro ⟨answer, attempted⟩
      exact ⟨answer, List.mem_cons_of_mem _ attempted⟩
  uncreated group pending member := by
    rcases List.mem_cons.1 member with same | member
    · cases same
    · exact failed.uncreated group pending member

/-- The legs, with the registration given up on a failure. -/
theorem registered_legs_meets {history : PlacementHistory} {groupId : String}
    (placing : placementPhase history = .placing groupId) (orderless : Orderless history)
    (request : PlaceOcoRequest) :
    PlacementMeets
      (fun later outcome =>
        (∃ takeProfitOrderInfo stopLossOrderInfo pending,
          outcome = .ok (takeProfitOrderInfo, stopLossOrderInfo, pending) ∧
            placementPhase later = createdPhase groupId pending ∧
            (∃ group, ⟨.createOcoGroup group, pending⟩ ∈ later) ∧
            ∀ group answer, ⟨.createOcoGroup group, answer⟩ ∈ later → answer = pending) ∨
        ∃ failure, outcome = .error failure ∧ placementPhase later = .idle ∧
          LegsFailed rounding request (takeProfitLinkId groupId) later)
      ((placeOcoLegs rounding fromChars request groupId (takeProfitLinkId groupId)
        (stopLossLinkId groupId)).onFailure
        (clearOcoPlacementRegistration (takeProfitLinkId groupId) (stopLossLinkId groupId)))
      history := by
  rw [Interaction.onFailure, PlacementMeets, meets_handle]
  apply (place_oco_legs_meets placing orderless request).weaken
  intro later outcome placed
  cases placed with
  | @created earlier group pending takeProfitOrderInfo stopLossOrderInfo own uncreated =>
      refine .inl ⟨_, _, pending, rfl, ?_, ⟨group, List.mem_cons_self⟩, ?_⟩
      · subst own
        cases pending <;> rfl
      · intro other answer member
        rcases List.mem_cons.1 member with same | member
        · cases same
          rfl
        · exact absurd member (uncreated other answer)
  | @failed _ failure phase failed =>
      refine ⟨⟨⟨groupId, phase, rfl, rfl⟩, trivial⟩, fun _ _ => ?_⟩
      exact .inr ⟨failure, rfl, rfl, legs_failed_clear failed _ _⟩

theorem settle_pending_fill_meets {history : PlacementHistory} {groupId : String}
    {pending : Option String} (created : placementPhase history = createdPhase groupId pending) :
    PlacementMeets
      (fun later outcome => placementPhase later = .idle ∧ history <:+ later ∧
        ∀ failure, outcome = .error failure → ∃ orderLinkId error, pending = some orderLinkId ∧
          later = ⟨.processOcoUpdate orderLinkId, .ok (some error)⟩ :: history)
      (settlePendingFill groupId pending) history := by
  cases pending with
  | none => exact ⟨created, List.suffix_rfl, nofun⟩
  | some orderLinkId =>
      refine ⟨⟨⟨groupId, created⟩, trivial⟩, ?_⟩
      rintro _ ⟨cancelError, rfl⟩
      cases cancelError with
      | none => exact ⟨rfl, List.suffix_cons _ _, nofun⟩
      | some error =>
          exact ⟨rfl, List.suffix_cons _ _, fun _ _ => ⟨orderLinkId, error, rfl, rfl⟩⟩

/-- `placeOco` from the registration on. -/
def placeRegisteredOco (rounding : NearestRounding) (fromChars : String → Option Decimal)
    (request : PlaceOcoRequest) (groupId : String) : PlacementProgram OcoInfo := do
  let takeProfitOrderLinkId := groupId ++ "_TP"
  let stopLossOrderLinkId := groupId ++ "_SL"
  registerOcoPlacement groupId takeProfitOrderLinkId stopLossOrderLinkId
  let (takeProfitOrderInfo, stopLossOrderInfo, pendingFilledOrderLinkId) ←
    (placeOcoLegs rounding fromChars request groupId takeProfitOrderLinkId
      stopLossOrderLinkId).onFailure
      (clearOcoPlacementRegistration takeProfitOrderLinkId stopLossOrderLinkId)
  settlePendingFill groupId pendingFilledOrderLinkId
  return {
    orderListId := groupId
    listClientOrderId := groupId
    transactTimeMs := takeProfitOrderInfo.createdTimeMs
    takeProfitOrder := takeProfitOrderInfo
    stopLossOrder := stopLossOrderInfo }

theorem Inquired.orderless {history : PlacementHistory} (inquired : Inquired [] history) :
    Orderless history := by
  apply inquired.fruitless.orderless
  constructor <;> intros <;> exact List.not_mem_nil

theorem place_registered_oco_meets {history : PlacementHistory} (inquired : Inquired [] history)
    (request : PlaceOcoRequest) (groupId : String) :
    PlacementMeets (PlacementEnded rounding request)
      (placeRegisteredOco rounding fromChars request groupId) history := by
  have idle : placementPhase history = .idle := inquired.phase
  have first : ∀ other takeProfitOrderLinkId stopLossOrderLinkId answer,
      ⟨.registerOcoPlacement other takeProfitOrderLinkId stopLossOrderLinkId, answer⟩ ∉ history := by
    intro other takeProfitOrderLinkId stopLossOrderLinkId answer member
    cases inquired.earlier rfl member
  refine ⟨⟨⟨idle, rfl, rfl⟩, first⟩, fun answer _ => ?_⟩
  have orderless : Orderless
      (⟨.registerOcoPlacement groupId (takeProfitLinkId groupId) (stopLossLinkId groupId), answer⟩ ::
        history : PlacementHistory) := by
    constructor <;> intro first second member <;>
      rcases List.mem_cons.1 member with same | member
    · cases same
    · exact inquired.orderless.unreturned _ _ member
    · cases same
    · exact inquired.orderless.uncancelled _ _ member
    · cases same
    · exact inquired.orderless.uncreated _ _ member
  cases answer with
  | error failure => exact .refused groupId idle orderless.legs_failed
  | ok registered =>
      apply (registered_legs_meets rfl orderless request).bind
      · rintro middle _
          (⟨takeProfitOrderInfo, stopLossOrderInfo, pending, ⟨⟩, phase, made, only⟩ | ⟨_, ⟨⟩, _⟩)
        apply (settle_pending_fill_meets phase).bind
        · rintro later _ ⟨ended, _⟩
          exact .returned ended
        · rintro later failure ⟨ended, grown, reported⟩
          refine ⟨ended, ?_, ?_⟩
          · intro _ _ uncreated
            obtain ⟨group, member⟩ := made
            exact absurd (grown.subset member) (uncreated group pending)
          · intro _ _ group answer member
            obtain ⟨orderLinkId, error, taken, rfl⟩ := reported failure rfl
            refine ⟨orderLinkId, error, middle, ?_, rfl⟩
            rw [← taken]
            rcases List.mem_cons.1 member with same | member
            · cases same
            · exact only group answer member
      · rintro later failure (⟨_, _, _, ⟨⟩, _⟩ | ⟨_, _, ended, failed⟩)
        exact .refused groupId ended failed

theorem place_oco_meets (request : PlaceOcoRequest) :
    PlacementMeets (PlacementEnded rounding request) (placeOco rounding fromChars request) [] := by
  have refused : ∀ later failure, Inquired [] later → failure ≠ .nonStandard →
      PlacementEnded rounding request later (.error failure) := by
    intro later failure inquired _
    exact .refused "" inquired.phase inquired.orderless.legs_failed
  have checked : ∀ label price info, IsStandard (requireNoError label
      (validatePrice rounding price info)) := fun label price info =>
    standard_require_no_error (standard_price_error rounding price info)
  have quiet : (placementPhase []).IsQuiet := trivial
  apply meets_after_inquiry (inquires_lift (standard_validate_place_oco_request request)) quiet
    (.refl []) _ refused
  intro later _ inquired
  apply meets_after_inquiry (inquires_get_symbol_info request.symbol .spot) quiet inquired _ refused
  intro later info inquired
  apply meets_after_inquiry (inquires_lift (checked _ _ _)) quiet inquired _ refused
  intro later _ inquired
  apply meets_after_inquiry (inquires_lift (checked _ _ _)) quiet inquired _ refused
  intro later _ inquired
  apply meets_after_inquiry (inquires_lift (standard_check_stop_limit_price rounding _ request info))
    quiet inquired _ refused
  intro later _ inquired
  apply meets_after_inquiry inquires_ensure_user_stream_connected quiet inquired _ refused
  intro later _ inquired
  apply meets_after_inquiry (inquires_resolve_group_id request) quiet inquired _ refused
  intro later groupId inquired
  apply meets_after_inquiry (inquires_lift (standard_throw_if _ _)) quiet inquired _ refused
  intro later _ inquired
  exact place_registered_oco_meets inquired request groupId

end CryptoDeal.DealService.Bybit
