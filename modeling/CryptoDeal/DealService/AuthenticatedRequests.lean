import CryptoDeal.Library.ObjectText
import CryptoDeal.DealService.SignedRequests

/-!
# Authenticated requests

The private calls of the Bybit service as the requests that go out. The signature is a
header; it covers the time, the key, the window and the query of a `GET` or the body
of a `POST`. The exchange takes the four from what it received and compares, and
reads the query or the JSON object that the call wrote, the amounts as the
step-formatted texts.
-/

namespace CryptoDeal.DealService.Bybit

open QueryString ObjectText

/-- What a service is constructed with. -/
structure Credentials where
  apiKey : String
  secretKey : String
  recvWindow : ℤ := 5000

section Writing

variable (hmac : Hmac) (credentials : Credentials)

/-- `body` is the query of a `GET`. -/
def getSignature (body : Octets) (timestamp : ℤ) : Octets :=
  hmacSha256 hmac (octets credentials.secretKey)
    (octets (toString timestamp) ++ octets credentials.apiKey ++
      octets (toString credentials.recvWindow) ++ body)

def createHeaders (signature : Octets) (timestamp : ℤ) : Headers :=
  [("X-BAPI-API-KEY", octets credentials.apiKey),
    ("X-BAPI-TIMESTAMP", octets (toString timestamp)),
    ("X-BAPI-SIGN", signature),
    ("X-BAPI-RECV-WINDOW", octets (toString credentials.recvWindow)),
    ("Content-Type", octets "application/json")]

/-- A member that is left out when there is no text for it. -/
def filledMember (key : String) (text : Option String) : ParameterMap :=
  Binance.setParameterIfPresent key (text.filter (· ≠ ""))

/-- `tag_invoke` of `CreateOrderRequestDto`. -/
def createOrderMembers (body : CreateOrderRequestDto) : ParameterMap :=
  [("category", body.category), ("symbol", body.symbol), ("side", body.side),
      ("orderType", body.orderType), ("qty", body.qty)] ++
    filledMember "price" body.price ++ filledMember "timeInForce" body.timeInForce ++
    filledMember "orderLinkId" body.orderLinkId ++ filledMember "triggerPrice" body.triggerPrice ++
    filledMember "orderFilter" body.orderFilter ++ filledMember "marketUnit" body.marketUnit

/-- `createRequestBody(OrderQuery)` with `tag_invoke` of `CancelOrderRequestDto`. -/
def cancelOrderMembers (request : OrderQuery) : Except ServiceFailure ParameterMap := do
  validateOrderQuery request
  return [("category", categoryText request.category), ("symbol", request.symbol)] ++
    filledMember "orderId" request.orderId ++ filledMember "orderLinkId" request.clientOrderId

/-- `tag_invoke` of `CancelAllOpenOrdersRequestDto`. -/
def cancelAllOpenOrdersMembers (symbol : String) (category : OrderCategory) : ParameterMap :=
  ("category", categoryText category) :: filledMember "symbol" (some symbol)

/-- `setRequestParameters(OrderQuery, category)`. -/
def orderQueryParameters (request : OrderQuery) : Except ServiceFailure ParameterMap := do
  validateOrderQuery request
  return [("category", categoryText request.category), ("symbol", request.symbol)] ++
    Binance.setParameterIfPresent "orderId" request.orderId ++
    Binance.setParameterIfPresent "orderLinkId" request.clientOrderId

/-- `setRequestParameters(accountType, coinFilter)`. -/
def walletParameters (accountType : String) (coinFilter : Option String) : ParameterMap :=
  ("accountType", accountType) :: filledMember "coin" coinFilter

def getRequest (spelling : Spelling) (path : String) (parameterMap : ParameterMap)
    (timestamp : ℤ) : HttpRequest :=
  let url := setUrlParameters spelling { path := octets path } parameterMap
  { verb := .get
    target := getTarget url
    headers := createHeaders credentials (getSignature hmac credentials url.query timestamp)
      timestamp }

def postRequest (serialization : Serialization) (path : String) (members : ParameterMap)
    (timestamp : ℤ) : HttpRequest :=
  let body := serialization.write members
  { verb := .post
    target := octets path
    headers := createHeaders credentials (getSignature hmac credentials body timestamp) timestamp
    body }

end Writing

/-! ## The exchange -/

/-- What the signature must be of, as far as it was received. -/
def signedContent (request : HttpRequest) : Octets :=
  match request.verb with
  | .get => (splitTarget request.target).2
  | .post | .delete => request.body

def readContent (spelling : Spelling) (serialization : Serialization) (request : HttpRequest) :
    Option (List Pair) :=
  match request.verb with
  | .get => readQuery spelling (splitTarget request.target).2
  | .post | .delete => serialization.read request.body

/-- The account is the one of the received key. -/
def readAuthenticated (spelling : Spelling) (serialization : Serialization) (hmac : Hmac)
    (secretKeyOf : Octets → Option Octets) (request : HttpRequest) : Option ReceivedCall := do
  let apiKey ← request.headers.lookup "X-BAPI-API-KEY"
  let timestamp ← request.headers.lookup "X-BAPI-TIMESTAMP"
  let recvWindow ← request.headers.lookup "X-BAPI-RECV-WINDOW"
  let signature ← (request.headers.lookup "X-BAPI-SIGN").bind readHexText
  let secretKey ← secretKeyOf apiKey
  if signature = hmac secretKey (timestamp ++ apiKey ++ recvWindow ++ signedContent request) then
    let fields ← readContent spelling serialization request
    return { verb := request.verb, path := (splitTarget request.target).1, fields }
  else none

section Reading

variable {spelling : Spelling} {serialization : Serialization} {hmac : Hmac}
  {credentials : Credentials} {timestamp : ℤ}
  {secretKeyOf : Octets → Option Octets} {path : String} {members : ParameterMap}

theorem read_authenticated {request : HttpRequest} {content : Octets} {fields : List Pair}
    (known : secretKeyOf (octets credentials.apiKey) = some (octets credentials.secretKey))
    (headers : request.headers =
      createHeaders credentials (getSignature hmac credentials content timestamp) timestamp)
    (signed : signedContent request = content)
    (read : readContent spelling serialization request = some fields) :
    readAuthenticated spelling serialization hmac secretKeyOf request =
      some { verb := request.verb, path := (splitTarget request.target).1, fields } := by
  have key : request.headers.lookup "X-BAPI-API-KEY" = some (octets credentials.apiKey) := by
    rw [headers]
    rfl
  have time : request.headers.lookup "X-BAPI-TIMESTAMP" = some (octets (toString timestamp)) := by
    rw [headers]
    rfl
  have window : request.headers.lookup "X-BAPI-RECV-WINDOW" =
      some (octets (toString credentials.recvWindow)) := by
    rw [headers]
    rfl
  have sign : request.headers.lookup "X-BAPI-SIGN" =
      some (getSignature hmac credentials content timestamp) := by
    rw [headers]
    rfl
  rw [readAuthenticated, key, time, window, sign]
  simp only [Option.bind_eq_bind, Option.bind_some, known, getSignature, hmacSha256,
    read_hex_text, signed, if_true, read]
  rfl

theorem split_plain_target (plain : questionMark ∉ octets path) :
    splitTarget (octets path) = (octets path, []) := by
  have all : ∀ octet ∈ octets path, decide (octet ≠ questionMark) = true := by
    intro octet member
    exact decide_eq_true fun same => plain (same ▸ member)
  rw [splitTarget, List.takeWhile_eq_self_iff.2 all, List.dropWhile_eq_nil_iff.2 all]
  rfl

theorem post_request_read (plain : questionMark ∉ octets path)
    (distinct : (members.map Prod.fst).Nodup)
    (known : secretKeyOf (octets credentials.apiKey) = some (octets credentials.secretKey)) :
    ∃ fields, readAuthenticated spelling serialization hmac secretKeyOf
        (postRequest hmac credentials serialization path members timestamp) =
          some { verb := .post, path := octets path, fields } ∧
      fields.Perm (entryTexts members) := by
  obtain ⟨fields, written, same⟩ := serialization.read_write members distinct
  refine ⟨fields, ?_, same⟩
  have read : readAuthenticated spelling serialization hmac secretKeyOf
      (postRequest hmac credentials serialization path members timestamp) =
        some { verb := .post, path := (splitTarget (octets path)).1, fields } :=
    read_authenticated known rfl rfl written
  rw [read, split_plain_target plain]

theorem get_request_read (plain : questionMark ∉ octets path) (nonempty : members ≠ [])
    (known : secretKeyOf (octets credentials.apiKey) = some (octets credentials.secretKey)) :
    readAuthenticated spelling serialization hmac secretKeyOf
      (getRequest hmac credentials spelling path members timestamp) =
        some { verb := .get, path := octets path, fields := sortedEntries members } := by
  have entries : sortedEntries members ≠ [] := by
    rw [← List.length_pos_iff, sorted_entries_length]
    exact List.length_pos_iff.2 nonempty
  have written := write_query_ne_nil spelling entries
  have split : splitTarget (getTarget (setUrlParameters spelling { path := octets path } members)) =
      (octets path, writeQuery spelling (sortedEntries members)) := split_target plain written
  have signed : signedContent (getRequest hmac credentials spelling path members timestamp) =
      writeQuery spelling (sortedEntries members) := congrArg Prod.snd split
  have content : readContent spelling serialization
      (getRequest hmac credentials spelling path members timestamp) =
        some (sortedEntries members) := by
    rw [← read_query_write spelling entries]
    exact congrArg (fun parts : Octets × Octets => readQuery spelling parts.2) split
  have read := read_authenticated known rfl signed content
  have path : (splitTarget (getRequest hmac credentials spelling path members timestamp).target).1 =
      octets path := congrArg Prod.fst split
  rw [read, path]
  rfl

end Reading

/-! ## The calls -/

/-- The calls whose requests are authenticated; `placeOco` sends one for each leg. -/
inductive PrivateCall where
  | placeOrder (request : PlaceOrderRequest)
  | placeOco (request : PlaceOcoRequest)
  | cancelOrder (request : OrderQuery)
  | getOrder (request : OrderQuery)
  | cancelAllOpenOrders (symbol : String) (category : OrderCategory)
  | refreshBalancesCache (accountType : String) (coinFilter : Option String)

namespace PrivateCall

def verb : PrivateCall → HttpVerb
  | getOrder _ | refreshBalancesCache _ _ => .get
  | _ => .post

def path : PrivateCall → String
  | placeOrder _ | placeOco _ => "/v5/order/create"
  | cancelOrder _ => "/v5/order/cancel"
  | getOrder _ => "/v5/order/realtime"
  | cancelAllOpenOrders _ _ => "/v5/order/cancel-all"
  | refreshBalancesCache _ _ => "/v5/account/wallet-balance"

def request (hmac : Hmac) (credentials : Credentials) (spelling : Spelling)
    (serialization : Serialization) (call : PrivateCall) (members : ParameterMap)
    (timestamp : ℤ) : HttpRequest :=
  match call with
  | getOrder _ | refreshBalancesCache _ _ =>
      getRequest hmac credentials spelling call.path members timestamp
  | placeOrder _ | placeOco _ | cancelOrder _ | cancelAllOpenOrders _ _ =>
      postRequest hmac credentials serialization call.path members timestamp

/-- The members that a run of the call may send. -/
inductive Sends (context : PlacementContext) (market : Market) :
    PrivateCall → ParameterMap → Prop where
  | placeOrder {request : PlaceOrderRequest} {body : CreateOrderRequestDto}
      (requested : market.Requests (Bybit.placeOrder context.rounding context.fromChars request)
        (.createBybitOrder body)) :
      Sends context market (.placeOrder request) (createOrderMembers body)
  | placeOco {request : PlaceOcoRequest} {body : CreateOrderRequestDto}
      (requested : market.Requests (Bybit.placeOco context.rounding context.fromChars request)
        (.createBybitOrder body)) :
      Sends context market (.placeOco request) (createOrderMembers body)
  | cancelOrder {request : OrderQuery} {members : ParameterMap}
      (made : cancelOrderMembers request = .ok members) :
      Sends context market (.cancelOrder request) members
  | getOrder {request : OrderQuery} {members : ParameterMap}
      (made : orderQueryParameters request = .ok members) :
      Sends context market (.getOrder request) members
  | cancelAllOpenOrders (symbol : String) (category : OrderCategory) :
      Sends context market (.cancelAllOpenOrders symbol category)
        (cancelAllOpenOrdersMembers symbol category)
  | refreshBalancesCache (accountType : String) (coinFilter : Option String) :
      Sends context market (.refreshBalancesCache accountType coinFilter)
        (walletParameters accountType coinFilter)

/-- The members of an order say what the request says, the amounts by their step-formatted
texts. -/
structure OrderSaid (rounding : DecimalText.NearestRounding) (market : Market)
    (request : PlaceOrderRequest) (members : ParameterMap) : Prop where
  category : members.lookup "category" = some (categoryText request.category)
  symbol : members.lookup "symbol" = some request.symbol
  side : members.lookup "side" = some (sideText request.side)
  orderType : members.lookup "orderType" = some (typeText request.type)
  timeInForce : members.lookup "timeInForce" =
    if request.type = .limit then request.timeInForce.filter (· ≠ "") else none
  orderLinkId : members.lookup "orderLinkId" = request.clientOrderId.filter (· ≠ "")
  triggerPrice : members.lookup "triggerPrice" = request.triggerPrice.filter (· ≠ "")
  orderFilter : members.lookup "orderFilter" = request.orderFilter.filter (· ≠ "")
  marketUnit : members.lookup "marketUnit" = request.marketUnit.filter (· ≠ "")
  amounts : ∃ body, members = createOrderMembers body ∧ OrderSent rounding market request body

/-- What the members say of the call. -/
def Says (context : PlacementContext) (market : Market) : PrivateCall → ParameterMap → Prop
  | placeOrder request, members => OrderSaid context.rounding market request members
  | placeOco request, members =>
      (∃ linkId, OrderSaid context.rounding market (takeProfitRequest request linkId) members) ∨
        ∃ linkId triggerPrice,
          DecimalConverter.formatDecimal context.rounding request.stopPrice = .ok triggerPrice ∧
            OrderSaid context.rounding market (stopLossRequest request linkId triggerPrice) members
  | cancelOrder request, members =>
      members.lookup "category" = some (categoryText request.category) ∧
        members.lookup "symbol" = some request.symbol ∧
        members.lookup "orderId" = request.orderId.filter (· ≠ "") ∧
        members.lookup "orderLinkId" = request.clientOrderId.filter (· ≠ "")
  | getOrder request, members =>
      members.lookup "category" = some (categoryText request.category) ∧
        members.lookup "symbol" = some request.symbol ∧
        members.lookup "orderId" = request.orderId ∧
        members.lookup "orderLinkId" = request.clientOrderId
  | cancelAllOpenOrders symbol category, members =>
      members.lookup "category" = some (categoryText category) ∧
        members.lookup "symbol" = if symbol = "" then none else some symbol
  | refreshBalancesCache accountType coinFilter, members =>
      members.lookup "accountType" = some accountType ∧
        members.lookup "coin" = coinFilter.filter (· ≠ "")

end PrivateCall

section Said

open PrivateCall

variable {rounding : DecimalText.NearestRounding} {fromChars : String → Option Decimal}
  {market : Market} {context : PlacementContext} {call : PrivateCall} {members : ParameterMap}

theorem lookup_filled_member (key other : String) (text : Option String) :
    (filledMember key text).lookup other = if other = key then text.filter (· ≠ "") else none :=
  Binance.lookup_set_parameter key other _

theorem filled_member_keys (key : String) (text : Option String) :
    ((filledMember key text).map Prod.fst).Sublist [key] :=
  Binance.set_parameter_keys key _

theorem create_order_members_distinct (body : CreateOrderRequestDto) :
    ((createOrderMembers body).map Prod.fst).Nodup := by
  have keys : ((createOrderMembers body).map Prod.fst).Sublist
      (["category", "symbol", "side", "orderType", "qty"] ++ ["price"] ++ ["timeInForce"] ++
        ["orderLinkId"] ++ ["triggerPrice"] ++ ["orderFilter"] ++ ["marketUnit"]) := by
    simp only [createOrderMembers, List.map_append]
    exact ((((((List.Sublist.refl _).append (filled_member_keys _ _)).append
      (filled_member_keys _ _)).append (filled_member_keys _ _)).append
      (filled_member_keys _ _)).append (filled_member_keys _ _)).append (filled_member_keys _ _)
  exact keys.nodup (by decide)

/-- A body that `createRequestBody` made of the request. -/
def MadeFrom (rounding : DecimalText.NearestRounding) (market : Market)
    (request : PlaceOrderRequest) (body : CreateOrderRequestDto) : Prop :=
  createRequestBody rounding request market.symbolInfo = .ok body

theorem order_said {request : PlaceOrderRequest} {body : CreateOrderRequestDto}
    (made : MadeFrom rounding market request body)
    (sent : OrderSent rounding market request body) :
    OrderSaid rounding market request (createOrderMembers body) := by
  obtain ⟨qty, _, rest⟩ := except_bind_ok.1 made
  obtain ⟨⟨price, timeInForce⟩, limited, same⟩ := except_bind_ok.1 rest
  cases same
  have force : timeInForce.filter (· ≠ "") =
      if request.type = .limit then request.timeInForce.filter (· ≠ "") else none := by
    cases type : request.type with
    | market =>
        simp only [limitFields, type] at limited
        cases limited
        rfl
    | limit =>
        simp only [limitFields, type] at limited
        obtain ⟨_, _, limited⟩ := except_bind_ok.1 limited
        obtain ⟨_, _, limited⟩ := except_bind_ok.1 limited
        obtain ⟨_, known, same⟩ := except_bind_ok.1 limited
        cases same
        rw [optional_value_ok] at known
        rw [known]
        rfl
  refine ⟨rfl, rfl, rfl, rfl, ?_, ?_, ?_, ?_, ?_, _, rfl, sent⟩
  · simp only [createOrderMembers, List.lookup_append, lookup_filled_member, ← force]
    simp [List.lookup_cons]
  all_goals
    simp only [createOrderMembers, List.lookup_append, lookup_filled_member]
    simp [List.lookup_cons]

section Yields

variable {order : CreateOrderRequestDto → Prop}

theorem yields_order_made (request : PlaceOrderRequest) :
    market.Yields (createsOnly (MadeFrom rounding market request)) (fun _ => True)
      (Bybit.placeOrder rounding fromChars request) := by
  unfold Bybit.placeOrder
  refine Market.yields_except_bind fun _ _ => ?_
  refine (Market.yields_get_symbol_info trivial).bind ?_
  rintro info rfl
  refine Market.yields_except_bind fun _ _ => ?_
  refine (yields_validate_order_price_limit request).bind fun _ _ => ?_
  refine (yields_check_balance request).bind fun _ _ => ?_
  refine Market.yields_except_bind fun body created => ?_
  refine Market.Yields.followed_by
    (Market.yields_request trivial fun _ _ => Market.yields_except fun _ _ => trivial)
    fun _ => ?_
  exact Market.yields_request created fun _ _ => Market.yields_except fun _ _ => trivial

theorem yields_order_said (request : PlaceOrderRequest)
    (permitted : ∀ body, OrderSaid rounding market request (createOrderMembers body) →
      order body) :
    market.Yields (createsOnly order) (fun _ => True)
      (Bybit.placeOrder rounding fromChars request) := by
  intro history
  have sent : market.Yields (createsOnly (OrderSent rounding market request)) (fun _ => True)
      (Bybit.placeOrder rounding fromChars request) := yields_place_order request fun _ sent => sent
  have made : market.Yields (createsOnly (MadeFrom rounding market request)) (fun _ => True)
      (Bybit.placeOrder rounding fromChars request) := yields_order_made request
  refine Interaction.Meets.both ?_ ?_ (made history) (sent history)
  · intro _ effect made sent
    cases effect with
    | createBybitOrder body => exact permitted body (order_said made sent)
    | createBinanceOrder | createBinanceOco => exact made
    | _ => trivial
  · exact fun _ _ _ kept => ⟨kept, kept⟩

/-- The create calls of a leg. -/
abbrev legCalls (context : PlacementContext) (market : Market) (request : PlaceOcoRequest) :
    PlacementEffect → Prop :=
  createsOnly fun body => Says context market (.placeOco request) (createOrderMembers body)

theorem yields_legs_said (request : PlaceOcoRequest) (groupId first second : String) :
    market.Yields (legCalls context market request) (fun _ => True)
      (placeOcoLegs context.rounding fromChars request groupId first second) := by
  have takeProfit : market.Yields (legCalls context market request) (fun _ => True)
      (createTakeProfitOcoRequest context.rounding fromChars request first) :=
    Market.Yields.catch_exception (yields_order_said _ fun body said => .inl ⟨first, said⟩)
      fun what => Market.yields_threw _
  have stopLoss : market.Yields (legCalls context market request) (fun _ => True)
      (createStopLossOcoRequest context.rounding fromChars request second first) := by
    refine Market.yields_except_bind fun triggerPrice written => ?_
    refine Market.Yields.catch_exception
      (yields_order_said _ fun body said => .inr ⟨second, triggerPrice, written, said⟩)
      fun what => ?_
    exact (yields_rollback_oco_requests request first).bind fun _ _ => Market.yields_threw _
  refine takeProfit.bind fun _ _ => stopLoss.bind fun _ _ => ?_
  exact Market.Yields.followed_by
    (Market.yields_request trivial fun _ _ => Market.yields_returned trivial)
    fun _ => Market.yields_returned trivial

theorem yields_place_oco_said (request : PlaceOcoRequest) :
    market.Yields (legCalls context market request) (fun _ => True)
      (Bybit.placeOco context.rounding fromChars request) := by
  unfold Bybit.placeOco
  refine Market.yields_except_bind fun _ _ => ?_
  refine (Market.yields_get_symbol_info trivial).bind fun info _ => ?_
  refine Market.yields_except_bind fun _ _ => Market.yields_except_bind fun _ _ => ?_
  refine Market.yields_except_bind fun _ _ => ?_
  refine Market.Yields.followed_by
    (Market.yields_request trivial fun _ _ => Market.yields_except fun _ _ => trivial)
    fun _ => ?_
  refine (yields_resolve_group_id request).bind fun groupId _ => ?_
  refine Market.yields_except_bind fun _ _ => ?_
  refine Market.Yields.followed_by
    (Market.yields_request trivial fun _ _ => Market.yields_except fun _ _ => trivial)
    fun _ => ?_
  have legs : market.Yields (legCalls context market request) (fun _ => True)
      ((placeOcoLegs context.rounding fromChars request groupId (groupId ++ "_TP")
        (groupId ++ "_SL")).onFailure
          (PlacementProgram.clearOcoPlacementRegistration (groupId ++ "_TP") (groupId ++ "_SL"))) :=
    (yields_legs_said request groupId _ _).handle fun failure =>
      Market.yields_request trivial fun _ _ => Market.yields_threw failure
  refine legs.followed_by fun placed => ?_
  exact (yields_settle_pending_fill groupId _).followed_by fun _ => Market.yields_returned trivial

end Yields

theorem PrivateCall.Sends.said (sends : call.Sends context market members) :
    (members.map Prod.fst).Nodup ∧ members ≠ [] ∧ call.Says context market members := by
  cases sends with
  | @placeOrder request body requested =>
      have said : OrderSaid context.rounding market request (createOrderMembers body) :=
        (yields_order_said request fun _ said => said).requested requested
      exact ⟨create_order_members_distinct body, List.cons_ne_nil _ _, said⟩
  | @placeOco request body requested =>
      have said : Says context market (.placeOco request) (createOrderMembers body) :=
        (yields_place_oco_said request).requested requested
      exact ⟨create_order_members_distinct body, List.cons_ne_nil _ _, said⟩
  | @cancelOrder request _ made =>
      obtain ⟨_, _, same⟩ := except_bind_ok.1 made
      cases same
      have orderId := filled_member_keys "orderId" request.orderId
      have clientOrderId := filled_member_keys "orderLinkId" request.clientOrderId
      refine ⟨?_, List.cons_ne_nil _ _, rfl, rfl, ?_, ?_⟩
      · rw [List.map_append, List.map_append]
        exact (((List.Sublist.refl _).append orderId).append clientOrderId).nodup (by simp)
      all_goals simp [List.lookup_cons, List.lookup_append, lookup_filled_member]
  | @getOrder request _ made =>
      obtain ⟨_, _, same⟩ := except_bind_ok.1 made
      cases same
      have orderId := Binance.set_parameter_keys "orderId" request.orderId
      have clientOrderId := Binance.set_parameter_keys "orderLinkId" request.clientOrderId
      refine ⟨?_, List.cons_ne_nil _ _, rfl, rfl, ?_, ?_⟩
      · rw [List.map_append, List.map_append]
        exact (((List.Sublist.refl _).append orderId).append clientOrderId).nodup (by simp)
      all_goals simp [List.lookup_cons, List.lookup_append, Binance.lookup_set_parameter]
  | cancelAllOpenOrders symbol category =>
      have keys := filled_member_keys "symbol" (some symbol)
      refine ⟨(keys.cons_cons "category").nodup (by simp), List.cons_ne_nil _ _, rfl, ?_⟩
      by_cases empty : symbol = ""
      · simp [cancelAllOpenOrdersMembers, List.lookup_cons, lookup_filled_member, empty]
      · simp [cancelAllOpenOrdersMembers, List.lookup_cons, lookup_filled_member, empty]
  | refreshBalancesCache accountType coinFilter =>
      have keys := filled_member_keys "coin" coinFilter
      refine ⟨(keys.cons_cons "accountType").nodup (by simp), List.cons_ne_nil _ _, rfl, ?_⟩
      simp [walletParameters, List.lookup_cons, lookup_filled_member]

end Said

theorem PrivateCall.path_plain (call : PrivateCall) : questionMark ∉ octets call.path := by
  cases call with
  | placeOrder | placeOco =>
      show questionMark ∉ octets "/v5/order/create"
      decide
  | cancelOrder =>
      show questionMark ∉ octets "/v5/order/cancel"
      decide
  | getOrder =>
      show questionMark ∉ octets "/v5/order/realtime"
      decide
  | cancelAllOpenOrders =>
      show questionMark ∉ octets "/v5/order/cancel-all"
      decide
  | refreshBalancesCache =>
      show questionMark ∉ octets "/v5/account/wallet-balance"
      decide

/-- Each private request is taken by the exchange, which reads the members that the call wrote. -/
theorem authenticated_requests_read (spelling : Spelling) (serialization : Serialization)
    (hmac : Hmac) (credentials : Credentials) (secretKeyOf : Octets → Option Octets)
    (known : secretKeyOf (octets credentials.apiKey) = some (octets credentials.secretKey))
    {context : PlacementContext} {market : Market} {call : PrivateCall} {members : ParameterMap}
    (sends : call.Sends context market members) (timestamp : ℤ) :
    ∃ fields, readAuthenticated spelling serialization hmac secretKeyOf
        (call.request hmac credentials spelling serialization members timestamp) =
          some { verb := call.verb, path := octets call.path, fields } ∧
      fields.length = members.length ∧
      (∀ key, fields.lookup (octets key) = (members.lookup key).map octets) ∧
      call.Says context market members := by
  obtain ⟨distinct, nonempty, said⟩ := sends.said
  cases call with
  | getOrder _ | refreshBalancesCache _ _ =>
      refine ⟨sortedEntries members, ?_, sorted_entries_length members,
        lookup_sorted_entries distinct, said⟩
      exact get_request_read (PrivateCall.path_plain _) nonempty known
  | placeOrder _ | placeOco _ | cancelOrder _ | cancelAllOpenOrders _ _ =>
      obtain ⟨fields, read, same⟩ :=
        post_request_read (PrivateCall.path_plain _) distinct known
      refine ⟨fields, read, ?_, fun key => ?_, said⟩
      · rw [same.length_eq, entryTexts, List.length_map]
      · rw [lookup_perm (entry_texts_distinct distinct) same, lookup_entry_texts]

def marketBuyBody : CreateOrderRequestDto where
  category := "spot"
  symbol := "DOGEUSDT"
  side := "Buy"
  orderType := "Market"
  qty := "25"
  price := none
  timeInForce := none
  orderLinkId := none
  triggerPrice := none
  orderFilter := none
  marketUnit := none

def someCredentials : Credentials where
  apiKey := "key"
  secretKey := "secret"

theorem market_buy_authenticated :
    (createOrderMembers marketBuyBody).lookup "qty" = some "25" ∧
      ∀ hmac : Hmac, ∃ fields, readAuthenticated unreservedSpelling plainSerialization hmac
          (fun apiKey => if apiKey = octets "key" then some (octets "secret") else none)
          ((PrivateCall.placeOrder (marketBuy 25)).request hmac someCredentials unreservedSpelling
            plainSerialization (createOrderMembers marketBuyBody) 0) =
              some { verb := .post, path := octets "/v5/order/create", fields } ∧
        fields.length = 5 ∧
        (∀ key, fields.lookup (octets key) =
          ((createOrderMembers marketBuyBody).lookup key).map octets) ∧
        (PrivateCall.placeOrder (marketBuy 25)).Says halfUpContext wholeUnitMarket
          (createOrderMembers marketBuyBody) := by
  have requested : wholeUnitMarket.Requests
      (Bybit.placeOrder halfUpContext.rounding halfUpContext.fromChars (marketBuy 25))
      (.createBybitOrder marketBuyBody) :=
    Market.requests_of_first_request (by decide +kernel)
  exact ⟨by decide, fun hmac => authenticated_requests_read unreservedSpelling plainSerialization
    hmac someCredentials _ (if_pos rfl) (.placeOrder requested) 0⟩

end CryptoDeal.DealService.Bybit
