import CryptoDeal.DealService.OrderAmounts

/-!
# What an order spends

An order pays with one of its symbol's two assets. A `SELL` pays its quantity; a
`BUY` pays its quantity times a price, unless Bybit takes the quantity itself as
quote units. These are the amounts that the services compare with the free balance.
-/

namespace CryptoDeal.DealService

open CryptoDeal.DecimalText

/-- One order as it trades: an OCO has two, of which at most one fills. -/
structure OrderLeg where
  side : OrderOperation
  quantity : Decimal
  /-- The limit price, or the market's. -/
  price : Decimal
  countsQuote : Bool := false
  deriving DecidableEq

/-- The units of the asset that the order pays with. -/
def OrderLeg.spent (leg : OrderLeg) : Decimal :=
  match leg.side with
  | .sell => leg.quantity
  | .buy => if leg.countsQuote then leg.quantity else leg.quantity * leg.price

def Binance.orderLeg (market : Market) (request : PlaceOrderRequest) : OrderLeg where
  side := request.side
  quantity := request.quantity
  price := market.orderPrice request

def Bybit.orderLeg (market : Market) (request : PlaceOrderRequest) : OrderLeg where
  side := request.side
  quantity := request.quantity
  price := market.orderPrice request
  countsQuote := Bybit.IsQuoteMarketBuy request

def Binance.ocoLeg (request : PlaceOcoRequest) (price : Decimal) : OrderLeg where
  side := request.side
  quantity := request.quantity
  price

namespace Placement

def exchange : Placement → ExchangerType
  | binanceOrder _ | binanceOco _ => .binance
  | bybitOrder _ | bybitOco _ => .bybit

def symbol : Placement → String
  | binanceOrder request | bybitOrder request => request.symbol
  | binanceOco request | bybitOco request => request.symbol

def side : Placement → OrderOperation
  | binanceOrder request | bybitOrder request => request.side
  | binanceOco request | bybitOco request => request.side

def quantity : Placement → Decimal
  | binanceOrder request | bybitOrder request => request.quantity
  | binanceOco request | bybitOco request => request.quantity

/-- The link ids and the trigger price of Bybit's legs do not matter here. -/
def legs (market : Market) : Placement → List OrderLeg
  | binanceOrder request => [Binance.orderLeg market request]
  | binanceOco request =>
      [Binance.ocoLeg request request.price, Binance.ocoLeg request (Binance.belowPrice request)]
  | bybitOrder request => [Bybit.orderLeg market request]
  | bybitOco request =>
      [Bybit.orderLeg market (Bybit.takeProfitRequest request ""),
        Bybit.orderLeg market (Bybit.stopLossRequest request "" "")]

theorem leg_follows {placement : Placement} {market : Market} {leg : OrderLeg}
    (member : leg ∈ placement.legs market) :
    leg.side = placement.side ∧ leg.quantity = placement.quantity := by
  cases placement with
  | binanceOrder request | bybitOrder request =>
      cases List.mem_singleton.1 member
      exact ⟨rfl, rfl⟩
  | binanceOco request | bybitOco request =>
      simp only [legs, List.mem_cons, List.not_mem_nil, or_false] at member
      rcases member with rfl | rfl <;> exact ⟨rfl, rfl⟩

end Placement

/-- The order takes exactly this quantity: of the asset that it pays with where it sells
or counts quote units, and of the asset that it buys elsewhere. -/
structure OrderLeg.Takes (leg : OrderLeg) (quantity : Decimal) : Prop where
  ordered : leg.quantity = quantity
  paid : leg.side = .sell ∨ leg.countsQuote → leg.spent = quantity
  bought : leg.side = .buy → leg.countsQuote = false → leg.spent = quantity * leg.price

theorem OrderLeg.takes_quantity (leg : OrderLeg) : leg.Takes leg.quantity where
  ordered := rfl
  paid := by
    rintro (sell | quote)
    · simp [spent, sell]
    · cases side : leg.side <;> simp [spent, side, quote]
  bought := by
    intro buy base
    simp [spent, buy, base]

/-- Buying a positive quantity at the price spends no more units than are bought, and so for a
negative one. -/
def PriceFits (quantity price : Decimal) : Prop :=
  (0 < quantity → price ≤ 1) ∧ (quantity < 0 → 1 ≤ price)

theorem price_fits_iff {quantity price : Decimal} :
    quantity * price ≤ quantity ↔ PriceFits quantity price := by
  have scaled : quantity * price ≤ quantity ↔ quantity * price ≤ quantity * 1 := by
    rw [mul_one]
  rw [scaled, PriceFits]
  rcases lt_trichotomy quantity 0 with negative | rfl | positive
  · rw [mul_le_mul_left_of_neg negative]
    exact ⟨fun fits => ⟨fun positive => absurd positive negative.asymm, fun _ => fits⟩,
      fun fits => fits.2 negative⟩
  · simp
  · rw [mul_le_mul_iff_right₀ positive]
    exact ⟨fun fits => ⟨fun _ => fits, fun negative => absurd negative positive.asymm⟩,
      fun fits => fits.1 positive⟩

theorem OrderLeg.spent_within_iff (leg : OrderLeg) :
    leg.spent ≤ leg.quantity ↔
      (leg.side = .buy → leg.countsQuote ∨ PriceFits leg.quantity leg.price) := by
  cases side : leg.side with
  | sell => simp [spent, side]
  | buy =>
      cases quote : leg.countsQuote with
      | true => simp [spent, side, quote]
      | false => simp [spent, side, quote, price_fits_iff]

/-! ## The services compare it with the free balance -/

section Checks

variable {rounding : NearestRounding} {market : Market} {request : PlaceOrderRequest}

/-- The free balance of the asset that the order pays with covers what it spends. -/
def checkLeg (rounding : NearestRounding) (info : SymbolInfo) (leg : OrderLeg) :
    PlacementProgram Unit :=
  match leg.side with
  | .buy => do
      let quoteFree ← freeBalance info.quoteAsset
      requireQuoteBalance rounding info quoteFree leg.spent
  | .sell => do
      let baseFree ← freeBalance info.baseAsset
      requireBaseBalance rounding info baseFree leg.spent

theorem Binance.check_order_balance_spent (info : SymbolInfo) :
    Binance.checkOrderBalance rounding request info (market.orderPrice request) =
      checkLeg rounding info (Binance.orderLeg market request) := by
  cases side : request.side <;>
    simp [Binance.checkOrderBalance, checkLeg, Binance.orderLeg, OrderLeg.spent, side]

/-- An OCO is checked once, at the dearer of its two prices. -/
theorem Binance.check_oco_balance_spent (request : PlaceOcoRequest) (info : SymbolInfo) :
    Binance.checkOcoBalance rounding request info =
      checkLeg rounding info
        (Binance.ocoLeg request (max (Binance.belowPrice request) request.price)) := by
  have dearer : (if Binance.belowPrice request < request.price then request.price
      else Binance.belowPrice request) = max (Binance.belowPrice request) request.price := by
    split_ifs with below
    · exact (max_eq_right below.le).symm
    · exact (max_eq_left (not_lt.1 below)).symm
  cases side : request.side <;>
    simp [Binance.checkOcoBalance, checkLeg, Binance.ocoLeg, OrderLeg.spent, side, dearer]

theorem Bybit.required_quote_amount_spent {order : CreateOrderRequestDto → Prop}
    (buy : request.side = .buy) (priced : 0 < market.tickerPrice) :
    market.Yields (Bybit.createsOnly order) (· = (Bybit.orderLeg market request).spent)
      (Bybit.requiredQuoteAmount rounding request market.symbolInfo) := by
  unfold Bybit.requiredQuoteAmount
  split
  next price limit known =>
    have notQuote : ¬ Bybit.IsQuoteMarketBuy request := fun quote => by simp [quote.1] at limit
    refine Market.yields_except_bind fun _ _ => Market.yields_returned ?_
    simp [Bybit.orderLeg, OrderLeg.spent, buy, notQuote, Market.order_price_of_limit limit known]
  next unpriced =>
    have price : market.orderPrice request = market.tickerPrice :=
      Market.order_price_of_unpriced unpriced
    split_ifs with quote
    · refine Market.yields_except_bind fun _ _ => Market.yields_returned ?_
      simp [Bybit.orderLeg, OrderLeg.spent, buy, quote]
    · refine (Market.yields_get_ticker_price trivial).bind ?_
      rintro ticker rfl
      refine Market.yields_except_bind fun _ _ => Market.yields_returned ?_
      simp [Bybit.orderLeg, OrderLeg.spent, buy, quote, price, priced]

end Checks

end CryptoDeal.DealService
