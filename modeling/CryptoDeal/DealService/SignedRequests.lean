import CryptoDeal.Library.QueryString
import CryptoDeal.DealService.OrderAmounts
import CryptoDeal.DealService.SingleOrders

/-!
# Signed requests

The private calls of the Binance service as the requests that go out: the parameters
of each, the query that they make, and the signature over the query. The exchange takes
the signature off the query and compares; what it reads are the parameters of the call,
the amounts among them as the step-formatted texts.
-/

namespace CryptoDeal.DealService

open QueryString

/-- HMAC-SHA256 of data under a key. -/
abbrev Hmac := Octets → Octets → Octets

def hmacSha256 (hmac : Hmac) (key data : Octets) : Octets := hexText (hmac key data)

inductive HttpVerb where
  | get
  | post
  | delete
  deriving DecidableEq

abbrev Headers := List (String × Octets)

structure HttpRequest where
  verb : HttpVerb
  target : Octets
  headers : Headers
  body : Octets := []

/-- What an exchange makes of a request that it takes. -/
structure ReceivedCall where
  verb : HttpVerb
  path : Octets
  fields : List Pair

/-- The part of a URL that reaches the exchange. -/
structure RequestUrl where
  path : Octets
  query : Octets := []

def questionMark : UInt8 := 63

def getTarget (url : RequestUrl) : Octets :=
  if url.query.isEmpty then url.path else url.path ++ questionMark :: url.query

def entryTexts (parameterMap : ParameterMap) : List Pair :=
  parameterMap.map fun (key, value) => (octets key, octets value)

/-- The entries of the map, by their keys. -/
def sortedEntries (parameterMap : ParameterMap) : List Pair :=
  entryTexts (parameterMap.mergeSort fun left right => left.1 ≤ right.1)

section Urls

variable (spelling : Spelling)

def setUrlParameters (url : RequestUrl) (parameterMap : ParameterMap) : RequestUrl :=
  { url with query := (sortedEntries parameterMap).foldl (appendPair spelling) url.query }

/-- Of Binance: the signature is the last parameter. -/
def signUrl (hmac : Hmac) (secretKey : String) (url : RequestUrl) : RequestUrl :=
  let signature := hmacSha256 hmac (octets secretKey) url.query
  { url with query := appendPair spelling url.query (octets "signature", signature) }

/-! ## The exchange -/

/-- The path of a request and its query. -/
def splitTarget (target : Octets) : Octets × Octets :=
  (target.takeWhile (· ≠ questionMark), (target.dropWhile (· ≠ questionMark)).drop 1)

/-- The signature is that of all the octets before it. -/
def readSignedQuery (hmac : Hmac) (secretKey query : Octets) : Option (List Pair) := do
  let segments := query.splitOn ampersand
  let (name, text) ← segments.getLast?.bind (readPair spelling)
  let signature ← readHexText text
  let payload := [ampersand].intercalate segments.dropLast
  if name = octets "signature" ∧ signature = hmac secretKey payload then
    segments.dropLast.mapM (readPair spelling)
  else none

/-- The account is the one of the received key. -/
def readSigned (hmac : Hmac) (secretKeyOf : Octets → Option Octets) (request : HttpRequest) :
    Option ReceivedCall := do
  let apiKey ← request.headers.lookup "X-MBX-APIKEY"
  let secretKey ← secretKeyOf apiKey
  let (path, query) := splitTarget request.target
  let fields ← readSignedQuery spelling hmac secretKey query
  return { verb := request.verb, path, fields }

end Urls

variable {spelling : Spelling} {hmac : Hmac} {secretKey : String} {url : RequestUrl}
  {parameterMap : ParameterMap}

theorem split_target (path : questionMark ∉ url.path) (query : url.query ≠ []) :
    splitTarget (getTarget url) = (url.path, url.query) := by
  have plain : ∀ octet ∈ url.path, decide (octet ≠ questionMark) = true := by
    intro octet member
    exact decide_eq_true fun same => path (same ▸ member)
  rw [getTarget, if_neg (by simpa using query), splitTarget, List.takeWhile_append_of_pos plain,
    List.dropWhile_append_of_pos plain]
  simp

theorem sign_url_query (pairs : List Pair) (query : url.query = writeQuery spelling pairs) :
    (signUrl spelling hmac secretKey url).query = writeQuery spelling
      (pairs ++ [(octets "signature",
        hmacSha256 hmac (octets secretKey) (writeQuery spelling pairs))]) := by
  rw [write_query_concat, ← query]
  rfl

theorem read_signed_query (pairs : List Pair) :
    readSignedQuery spelling hmac (octets secretKey) (writeQuery spelling
      (pairs ++ [(octets "signature",
        hmacSha256 hmac (octets secretKey) (writeQuery spelling pairs))])) = some pairs := by
  rw [readSignedQuery, split_query spelling (List.append_ne_nil_of_right_ne_nil _ (by simp)),
    List.map_append, List.map_singleton]
  simp only [List.getLast?_append, List.getLast?_singleton, Option.some_or, Option.bind_some,
    read_pair_write, List.dropLast_concat, read_pairs_write, ← write_query_joins]
  simp [hmacSha256, read_hex_text]

/-- What was signed is read back, and nothing else. -/
theorem read_signed_sent {secretKeyOf : Octets → Option Octets} {request : HttpRequest}
    {apiKey : Octets} (url : RequestUrl) (pairs : List Pair) (path : questionMark ∉ url.path)
    (query : url.query = writeQuery spelling pairs)
    (key : request.headers.lookup "X-MBX-APIKEY" = some apiKey)
    (known : secretKeyOf apiKey = some (octets secretKey))
    (target : request.target = getTarget (signUrl spelling hmac secretKey url)) :
    readSigned spelling hmac secretKeyOf request =
      some { verb := request.verb, path := url.path, fields := pairs } := by
  have signed : (signUrl spelling hmac secretKey url).query = _ :=
    sign_url_query pairs query
  have written : (signUrl spelling hmac secretKey url).query ≠ [] := by
    rw [signed]
    exact write_query_ne_nil spelling (List.append_ne_nil_of_right_ne_nil _ (by simp))
  have signedPath : questionMark ∉ (signUrl spelling hmac secretKey url).path := path
  simp only [readSigned, key, known, target, split_target signedPath written, signed,
    read_signed_query, Option.bind_eq_bind, Option.bind_some]
  rfl

/-! ## Entries -/

theorem octets_injective : Function.Injective octets := by
  intro left right same
  have bytes : left.toByteArray = right.toByteArray :=
    ByteArray.ext (Array.toList_inj.1 same)
  exact String.toByteArray_inj.1 bytes

theorem sorted_entries_perm (parameterMap : ParameterMap) :
    (sortedEntries parameterMap).Perm (entryTexts parameterMap) :=
  (List.mergeSort_perm _ _).map _

theorem sorted_entries_length (parameterMap : ParameterMap) :
    (sortedEntries parameterMap).length = parameterMap.length := by
  rw [(sorted_entries_perm parameterMap).length_eq, entryTexts, List.length_map]

theorem entry_texts_distinct (distinct : (parameterMap.map Prod.fst).Nodup) :
    ((entryTexts parameterMap).map Prod.fst).Nodup := by
  have keys : (entryTexts parameterMap).map Prod.fst = (parameterMap.map Prod.fst).map octets := by
    rw [entryTexts, List.map_map, List.map_map]
    rfl
  exact keys ▸ distinct.map octets_injective

theorem lookup_entry_texts (parameterMap : ParameterMap) (key : String) :
    (entryTexts parameterMap).lookup (octets key) = (parameterMap.lookup key).map octets := by
  induction parameterMap with
  | nil => rfl
  | cons entry entries ih =>
      have compared : (octets key == octets entry.1) = (key == entry.1) := by
        rw [Bool.eq_iff_iff, beq_iff_eq, beq_iff_eq, octets_injective.eq_iff]
      have texts : entryTexts (entry :: entries) =
          (octets entry.1, octets entry.2) :: entryTexts entries := rfl
      rw [texts, List.lookup_cons, List.lookup_cons, ih, compared]
      cases key == entry.1 <;> rfl

/-- The exchange finds under each key what the map has there. -/
theorem lookup_sorted_entries (distinct : (parameterMap.map Prod.fst).Nodup) (key : String) :
    (sortedEntries parameterMap).lookup (octets key) = (parameterMap.lookup key).map octets := by
  rw [← lookup_entry_texts]
  exact lookup_perm (entry_texts_distinct distinct) (sorted_entries_perm parameterMap) _

/-! ## The calls -/

namespace Binance

/-- What every private request states. -/
def recvWindowAndTimestamp (recvWindow timestamp : ℤ) : ParameterMap :=
  [("recvWindow", toString recvWindow), ("timestamp", toString timestamp)]

/-- `setRequestParameters(OrderQuery)`. -/
def orderQueryParameters (recvWindow timestamp : ℤ) (request : OrderQuery) :
    Except ServiceFailure ParameterMap := do
  validateOrderQuery request
  return [("recvWindow", toString recvWindow), ("symbol", request.symbol),
      ("timestamp", toString timestamp)] ++
    setParameterIfPresent "orderId" request.orderId ++
    setParameterIfPresent "origClientOrderId" request.clientOrderId

/-- `setRequestParameters(OrderListQuery)`. -/
def orderListParameters (recvWindow timestamp : ℤ) (request : OrderListQuery) : ParameterMap :=
  [("recvWindow", toString recvWindow), ("symbol", request.symbol),
      ("timestamp", toString timestamp)] ++
    setParameterIfPresent "orderListId" request.orderListId ++
    setParameterIfPresent "listClientOrderId" request.listClientOrderId

/-- `setRequestParameters(symbol, isPrivate)`. -/
def symbolParameters (recvWindow timestamp : ℤ) (symbol : String) (isPrivate : Bool) :
    ParameterMap :=
  ("symbol", symbol) :: if isPrivate then recvWindowAndTimestamp recvWindow timestamp else []

/-- The checks of `cancelOco`. -/
def cancelOcoParameters (recvWindow timestamp : ℤ) (request : OrderListQuery) :
    Except ServiceFailure ParameterMap := do
  throwIf (request.symbol = "") "Symbol cannot be empty"
  throwIf (request.orderListId = none ∧ request.listClientOrderId = none)
    "Either orderListId or listClientOrderId must be provided"
  return orderListParameters recvWindow timestamp request

def cancelAllOpenOrdersParameters (recvWindow timestamp : ℤ) (symbol : String) :
    Except ServiceFailure ParameterMap := do
  throwIf (symbol = "") "Binance cancelAllOpenOrders: symbol cannot be empty"
  return symbolParameters recvWindow timestamp symbol true

/-- A map that the exchange takes for a private request of now. -/
structure Stamped (recvWindow : ℤ) (parameterMap : ParameterMap) : Prop where
  distinct : (parameterMap.map Prod.fst).Nodup
  recvWindow : parameterMap.lookup "recvWindow" = some (toString recvWindow)
  timestamp : ∃ timestamp : ℤ, parameterMap.lookup "timestamp" = some (toString timestamp)

/-- The texts of an order that are no amounts. -/
structure OrderTexts (request : PlaceOrderRequest) (parameterMap : ParameterMap) : Prop where
  symbol : parameterMap.lookup "symbol" = some request.symbol
  side : parameterMap.lookup "side" = some (sideText request.side)
  type : parameterMap.lookup "type" = some (typeText request.type)
  timeInForce : parameterMap.lookup "timeInForce" =
    if request.type = .limit then request.timeInForce else none
  newClientOrderId : parameterMap.lookup "newClientOrderId" =
    request.clientOrderId.filter (· ≠ "")

structure OcoTexts (request : PlaceOcoRequest) (parameterMap : ParameterMap) : Prop where
  symbol : parameterMap.lookup "symbol" = some request.symbol
  side : parameterMap.lookup "side" = some (sideText request.side)
  aboveType : parameterMap.lookup "aboveType" = some "LIMIT_MAKER"
  belowType : parameterMap.lookup "belowType" = some "STOP_LOSS_LIMIT"
  belowTimeInForce : parameterMap.lookup "belowTimeInForce" =
    some (request.stopLimitTimeInForce.getD "GTC")
  listClientOrderId : parameterMap.lookup "listClientOrderId" = request.listClientOrderId
  aboveClientOrderId : parameterMap.lookup "aboveClientOrderId" = request.limitClientOrderId
  belowClientOrderId : parameterMap.lookup "belowClientOrderId" = request.stopClientOrderId

def createHeaders (apiKey : String) : Headers := [("X-MBX-APIKEY", octets apiKey)]

/-- The calls whose requests are signed. -/
inductive PrivateCall where
  | placeOrder (request : PlaceOrderRequest)
  | placeOco (request : PlaceOcoRequest)
  | cancelOrder (request : OrderQuery)
  | getOrder (request : OrderQuery)
  | cancelOco (request : OrderListQuery)
  | cancelAllOpenOrders (symbol : String)
  | getBalancesRest

namespace PrivateCall

def verb : PrivateCall → HttpVerb
  | placeOrder _ | placeOco _ => .post
  | cancelOrder _ | cancelOco _ | cancelAllOpenOrders _ => .delete
  | getOrder _ | getBalancesRest => .get

def path : PrivateCall → String
  | placeOrder _ | cancelOrder _ | getOrder _ => "/api/v3/order"
  | placeOco _ => "/api/v3/orderList/oco"
  | cancelOco _ => "/api/v3/orderList"
  | cancelAllOpenOrders _ => "/api/v3/openOrders"
  | getBalancesRest => "/api/v3/account"

/-- The parameters that a run of the call may send. -/
inductive Sends (context : PlacementContext) (market : Market) :
    PrivateCall → ParameterMap → Prop where
  | placeOrder {request : PlaceOrderRequest} {parameterMap : ParameterMap}
      (requested : market.Requests (Binance.placeOrder context.rounding context.recvWindow request)
        (.createBinanceOrder parameterMap)) :
      Sends context market (.placeOrder request) parameterMap
  | placeOco {request : PlaceOcoRequest} {parameterMap : ParameterMap}
      (requested : market.Requests (Binance.placeOco context.rounding context.recvWindow request)
        (.createBinanceOco parameterMap)) :
      Sends context market (.placeOco request) parameterMap
  | cancelOrder {request : OrderQuery} {parameterMap : ParameterMap} {timestamp : ℤ}
      (made : orderQueryParameters context.recvWindow timestamp request = .ok parameterMap) :
      Sends context market (.cancelOrder request) parameterMap
  | getOrder {request : OrderQuery} {parameterMap : ParameterMap} {timestamp : ℤ}
      (made : orderQueryParameters context.recvWindow timestamp request = .ok parameterMap) :
      Sends context market (.getOrder request) parameterMap
  | cancelOco {request : OrderListQuery} {parameterMap : ParameterMap} {timestamp : ℤ}
      (made : cancelOcoParameters context.recvWindow timestamp request = .ok parameterMap) :
      Sends context market (.cancelOco request) parameterMap
  | cancelAllOpenOrders {symbol : String} {parameterMap : ParameterMap} {timestamp : ℤ}
      (made : cancelAllOpenOrdersParameters context.recvWindow timestamp symbol =
        .ok parameterMap) :
      Sends context market (.cancelAllOpenOrders symbol) parameterMap
  | getBalancesRest (timestamp : ℤ) :
      Sends context market .getBalancesRest (recvWindowAndTimestamp context.recvWindow timestamp)

/-- The request that goes out. -/
def request (spelling : Spelling) (hmac : Hmac) (apiKey secretKey : String) (call : PrivateCall)
    (parameterMap : ParameterMap) : HttpRequest where
  verb := call.verb
  target := getTarget (signUrl spelling hmac secretKey
    (setUrlParameters spelling { path := octets call.path } parameterMap))
  headers := createHeaders apiKey

/-- What the parameters say of the call, the amounts by their step-formatted texts. -/
def Says (context : PlacementContext) (market : Market) :
    PrivateCall → ParameterMap → Prop
  | placeOrder request, parameterMap =>
      OrderTexts request parameterMap ∧ OrderSent context.rounding market request parameterMap
  | placeOco request, parameterMap =>
      OcoTexts request parameterMap ∧ OcoSent context.rounding market request parameterMap
  | cancelOrder request, parameterMap | getOrder request, parameterMap =>
      parameterMap.lookup "symbol" = some request.symbol ∧
        parameterMap.lookup "orderId" = request.orderId ∧
        parameterMap.lookup "origClientOrderId" = request.clientOrderId ∧
        (request.orderId.isSome ∨ request.clientOrderId.isSome)
  | cancelOco request, parameterMap =>
      parameterMap.lookup "symbol" = some request.symbol ∧
        parameterMap.lookup "orderListId" = request.orderListId ∧
        parameterMap.lookup "listClientOrderId" = request.listClientOrderId ∧
        (request.orderListId.isSome ∨ request.listClientOrderId.isSome)
  | cancelAllOpenOrders symbol, parameterMap =>
      parameterMap.lookup "symbol" = some symbol ∧ symbol ≠ ""
  | getBalancesRest, _ => True

end PrivateCall

/-! ## What the parameters say -/

section Says

variable {rounding : DecimalText.NearestRounding} {recvWindow : ℤ} {market : Market}

theorem lookup_set_parameter (key other : String) (value : Option String) :
    (setParameterIfPresent key value).lookup other = if other = key then value else none := by
  cases value with
  | none => simp [setParameterIfPresent]
  | some value =>
      by_cases same : other = key
      · simp [setParameterIfPresent, same]
      · exact (lookup_set_parameter_if_present_ne (by simpa using same) _).trans (if_neg same).symm

theorem set_parameter_keys (key : String) (value : Option String) :
    ((setParameterIfPresent key value).map Prod.fst).Sublist [key] := by
  cases value with
  | none => exact List.nil_sublist _
  | some value => exact .refl _

theorem yields_order_texts (request : PlaceOrderRequest) (info : SymbolInfo)
    {order oco : ParameterMap → Prop} :
    market.Yields (createsOnly order oco)
      (fun parameterMap => Stamped recvWindow parameterMap ∧ OrderTexts request parameterMap)
      (orderParameters rounding recvWindow request info) := by
  unfold orderParameters
  refine Market.yields_except_bind fun quantity _ => ?_
  refine yields_get_server_timestamp.bind fun timestamp _ => ?_
  have optional := set_parameter_keys "newClientOrderId" (request.clientOrderId.filter (· ≠ ""))
  split
  next limit =>
    refine Market.yields_except_bind fun price _ => ?_
    refine Market.yields_except_bind fun priceText _ => ?_
    refine Market.yields_except_bind fun timeInForce known => Market.yields_returned ?_
    rw [optional_value_ok] at known
    constructor
    · refine ⟨?_, rfl, timestamp, rfl⟩
      rw [List.map_append]
      exact ((List.Sublist.refl _).append optional).nodup (by simp)
    · exact ⟨rfl, rfl, rfl, by simp [limit, known, List.lookup_cons],
        by simp [List.lookup_cons, lookup_set_parameter]⟩
  next marketOrder =>
    refine Market.yields_returned ⟨⟨?_, rfl, timestamp, rfl⟩, rfl, rfl, rfl, ?_, ?_⟩
    · rw [List.map_append]
      exact ((List.Sublist.refl _).append optional).nodup (by simp)
    · simp [marketOrder, List.lookup_cons, lookup_set_parameter]
    · simp [List.lookup_cons, lookup_set_parameter]

theorem yields_place_order_texts (request : PlaceOrderRequest) :
    market.Yields (createsOnly (fun parameterMap => Stamped recvWindow parameterMap ∧
        OrderTexts request parameterMap) fun _ => False)
      (fun _ => True) (placeOrder rounding recvWindow request) := by
  unfold placeOrder
  refine Market.yields_except_bind fun _ _ => ?_
  refine (Market.yields_get_symbol_info trivial).bind fun info _ => ?_
  refine Market.yields_except_bind fun _ _ => ?_
  refine (yields_get_validation_price request).bind fun price _ => ?_
  refine Market.yields_except_bind fun _ _ => ?_
  refine (yields_check_order_balance request _ _).bind fun _ _ => ?_
  refine (yields_order_texts request _).bind fun parameterMap said => ?_
  exact Market.yields_request said fun _ _ => Market.yields_except fun _ _ => trivial

theorem yields_oco_texts (request : PlaceOcoRequest) {order oco : ParameterMap → Prop} :
    market.Yields (createsOnly order oco)
      (fun parameterMap => Stamped recvWindow parameterMap ∧ OcoTexts request parameterMap)
      (ocoParameters rounding recvWindow request) := by
  unfold ocoParameters
  refine Market.yields_except_bind fun _ _ => Market.yields_except_bind fun _ _ => ?_
  refine Market.yields_except_bind fun _ _ => Market.yields_except_bind fun _ _ => ?_
  refine (Market.yields_get_symbol_info trivial).bind fun info _ => ?_
  refine Market.yields_except_bind fun _ _ => Market.yields_except_bind fun above _ => ?_
  refine Market.yields_except_bind fun below _ => Market.yields_except_bind fun stop _ => ?_
  refine Market.yields_except_bind fun quantity _ => ?_
  refine yields_get_server_timestamp.bind fun timestamp _ => Market.yields_returned ?_
  have list := set_parameter_keys "listClientOrderId" request.listClientOrderId
  have aboveId := set_parameter_keys "aboveClientOrderId" request.limitClientOrderId
  have belowId := set_parameter_keys "belowClientOrderId" request.stopClientOrderId
  refine ⟨⟨?_, rfl, timestamp, rfl⟩, rfl, rfl, rfl, rfl, rfl, ?_, ?_, ?_⟩
  · rw [List.map_append, List.map_append, List.map_append]
    exact ((((List.Sublist.refl _).append list).append aboveId).append belowId).nodup (by simp)
  all_goals simp [List.lookup_cons, List.lookup_append, lookup_set_parameter]

theorem yields_place_oco_texts (request : PlaceOcoRequest) :
    market.Yields (createsOnly (fun _ => False) fun parameterMap =>
        Stamped recvWindow parameterMap ∧ OcoTexts request parameterMap)
      (fun _ => True) (placeOco rounding recvWindow request) := by
  unfold placeOco
  refine Market.yields_except_bind fun _ _ => ?_
  refine (Market.yields_get_symbol_info trivial).bind fun info _ => ?_
  refine (yields_check_oco_balance request _).bind fun _ _ => ?_
  refine (yields_oco_texts request).bind fun parameterMap said => ?_
  exact Market.yields_request said fun _ _ => Market.yields_except fun _ _ => trivial

theorem order_query_said {timestamp : ℤ} {request : OrderQuery} {parameterMap : ParameterMap}
    (made : orderQueryParameters recvWindow timestamp request = .ok parameterMap) :
    Stamped recvWindow parameterMap ∧ parameterMap.lookup "symbol" = some request.symbol ∧
      parameterMap.lookup "orderId" = request.orderId ∧
      parameterMap.lookup "origClientOrderId" = request.clientOrderId ∧
      (request.orderId.isSome ∨ request.clientOrderId.isSome) := by
  obtain ⟨_, validated, same⟩ := except_bind_ok.1 made
  obtain ⟨_, _, identified⟩ := except_bind_ok.1 validated
  have named := throw_if_ok.1 identified
  cases same
  have orderId := set_parameter_keys "orderId" request.orderId
  have clientOrderId := set_parameter_keys "origClientOrderId" request.clientOrderId
  refine ⟨⟨?_, rfl, timestamp, rfl⟩, rfl, ?_, ?_, ?_⟩
  · rw [List.map_append, List.map_append]
    exact (((List.Sublist.refl _).append orderId).append clientOrderId).nodup (by simp)
  · simp [List.lookup_cons, List.lookup_append, lookup_set_parameter]
  · simp [List.lookup_cons, List.lookup_append, lookup_set_parameter]
  · simp only [Option.isSome_iff_ne_none]
    tauto

theorem cancel_oco_said {timestamp : ℤ} {request : OrderListQuery} {parameterMap : ParameterMap}
    (made : cancelOcoParameters recvWindow timestamp request = .ok parameterMap) :
    Stamped recvWindow parameterMap ∧ parameterMap.lookup "symbol" = some request.symbol ∧
      parameterMap.lookup "orderListId" = request.orderListId ∧
      parameterMap.lookup "listClientOrderId" = request.listClientOrderId ∧
      (request.orderListId.isSome ∨ request.listClientOrderId.isSome) := by
  obtain ⟨_, _, rest⟩ := except_bind_ok.1 made
  obtain ⟨_, identified, same⟩ := except_bind_ok.1 rest
  have named := throw_if_ok.1 identified
  cases same
  have orderListId := set_parameter_keys "orderListId" request.orderListId
  have listClientOrderId := set_parameter_keys "listClientOrderId" request.listClientOrderId
  refine ⟨⟨?_, rfl, timestamp, rfl⟩, rfl, ?_, ?_, ?_⟩
  · rw [orderListParameters, List.map_append, List.map_append]
    exact (((List.Sublist.refl _).append orderListId).append listClientOrderId).nodup (by simp)
  · simp [orderListParameters, List.lookup_cons, List.lookup_append, lookup_set_parameter]
  · simp [orderListParameters, List.lookup_cons, List.lookup_append, lookup_set_parameter]
  · simp only [Option.isSome_iff_ne_none]
    tauto

variable {context : PlacementContext} {call : PrivateCall} {parameterMap : ParameterMap}

theorem PrivateCall.Sends.said (sends : call.Sends context market parameterMap) :
    Stamped context.recvWindow parameterMap ∧ call.Says context market parameterMap := by
  cases sends with
  | @placeOrder request _ requested =>
      have sent := (yields_place_order request).requested requested
      have said := (yields_place_order_texts request).requested requested
      exact ⟨said.1, said.2, sent⟩
  | @placeOco request _ requested =>
      have sent := (yields_place_oco request).requested requested
      have said := (yields_place_oco_texts request).requested requested
      exact ⟨said.1, said.2, sent⟩
  | cancelOrder made => exact order_query_said made
  | getOrder made => exact order_query_said made
  | cancelOco made => exact cancel_oco_said made
  | @cancelAllOpenOrders symbol _ timestamp made =>
      obtain ⟨_, named, same⟩ := except_bind_ok.1 made
      cases same
      exact ⟨⟨by simp [symbolParameters, recvWindowAndTimestamp], rfl, timestamp, rfl⟩, rfl,
        throw_if_ok.1 named⟩
  | getBalancesRest timestamp =>
      exact ⟨⟨by simp [recvWindowAndTimestamp], rfl, timestamp, rfl⟩, trivial⟩

end Says

theorem PrivateCall.path_plain (call : PrivateCall) : questionMark ∉ octets call.path := by
  cases call with
  | placeOrder | cancelOrder | getOrder =>
      show questionMark ∉ octets "/api/v3/order"
      decide
  | placeOco =>
      show questionMark ∉ octets "/api/v3/orderList/oco"
      decide
  | cancelOco =>
      show questionMark ∉ octets "/api/v3/orderList"
      decide
  | cancelAllOpenOrders =>
      show questionMark ∉ octets "/api/v3/openOrders"
      decide
  | getBalancesRest =>
      show questionMark ∉ octets "/api/v3/account"
      decide

/-- Each private request is taken by the exchange: the signature is that of what precedes it, and
the exchange reads the parameters of the call and no others. -/
theorem private_requests_read (spelling : Spelling) (hmac : Hmac) (apiKey secretKey : String)
    (secretKeyOf : Octets → Option Octets)
    (known : secretKeyOf (octets apiKey) = some (octets secretKey))
    {context : PlacementContext} {market : Market} {call : PrivateCall}
    {parameterMap : ParameterMap} (sends : call.Sends context market parameterMap) :
    ∃ fields, readSigned spelling hmac secretKeyOf
        (call.request spelling hmac apiKey secretKey parameterMap) =
          some { verb := call.verb, path := octets call.path, fields } ∧
      fields.length = parameterMap.length ∧
      (∀ key, fields.lookup (octets key) = (parameterMap.lookup key).map octets) ∧
      Stamped context.recvWindow parameterMap ∧ call.Says context market parameterMap := by
  obtain ⟨stamped, said⟩ := sends.said
  refine ⟨sortedEntries parameterMap, ?_, ?_, lookup_sorted_entries stamped.distinct, stamped,
    said⟩
  · exact read_signed_sent (setUrlParameters spelling { path := octets call.path } parameterMap) _
      call.path_plain rfl rfl known rfl
  · exact sorted_entries_length parameterMap

/-- A market order for 25 units. -/
def marketBuyParameters : ParameterMap :=
  [("newOrderRespType", "RESULT"), ("quantity", "25"), ("recvWindow", "5000"), ("side", "BUY"),
    ("symbol", "DOGEUSDT"), ("timestamp", "0"), ("type", "MARKET")]

theorem market_buy_read :
    marketBuyParameters.lookup "quantity" = some "25" ∧
      ∀ hmac : Hmac, ∃ fields, readSigned unreservedSpelling hmac
          (fun apiKey => if apiKey = octets "key" then some (octets "secret") else none)
          ((PrivateCall.placeOrder (marketBuy 25)).request unreservedSpelling hmac "key" "secret"
            marketBuyParameters) =
              some { verb := .post, path := octets "/api/v3/order", fields } ∧
        fields.length = 7 ∧
        (∀ key, fields.lookup (octets key) = (marketBuyParameters.lookup key).map octets) ∧
        Stamped 5000 marketBuyParameters ∧
        (PrivateCall.placeOrder (marketBuy 25)).Says halfUpContext wholeUnitMarket
          marketBuyParameters := by
  have requested : wholeUnitMarket.Requests
      (Binance.placeOrder halfUpContext.rounding halfUpContext.recvWindow (marketBuy 25))
      (.createBinanceOrder marketBuyParameters) :=
    Market.requests_of_first_request (by decide +kernel)
  exact ⟨by decide, fun hmac => private_requests_read unreservedSpelling hmac "key" "secret" _
    (if_pos rfl) (.placeOrder requested)⟩

end Binance

end CryptoDeal.DealService
