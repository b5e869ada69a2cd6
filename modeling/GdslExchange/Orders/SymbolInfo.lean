/-
This file models how the rules of a symbol are read from the filters that the exchange sends, and
says which of the two lot filters an adjusted quantity keeps.
-/

import GdslExchange.Orders.Lots

namespace GdslExchange.Orders

open Numeric

/-- `BinanceFilter`. The quantities of a lot come together, as the code asks for the first of them
alone. -/
structure BinanceFilter where
  filterType : String
  quantities : Option LotFilter
  minNotional : Option Fixed

structure BinanceSymbolInfo where
  symbol : String
  filters : List BinanceFilter

/-- The first filter of a type. -/
def findFilter (filters : List BinanceFilter) (filterType : String) : Option BinanceFilter :=
  filters.find? fun f => f.filterType = filterType

def pickLotSize (filters : List BinanceFilter) : Except String LotFilter :=
  let market := findFilter filters "MARKET_LOT_SIZE"
  let lot := findFilter filters "LOT_SIZE"
  match (market <|> lot).bind BinanceFilter.quantities with
  | none => .error "Symbol missing LOT_SIZE / MARKET_LOT_SIZE filters"
  | some src => .ok src

def pickMinNotional : List BinanceFilter → ℚ
  | [] => 0
  | f :: filters =>
    if f.filterType = "NOTIONAL" ∨ f.filterType = "MIN_NOTIONAL" then
      match f.minNotional with
      | some minNotional => minNotional.value
      | none => pickMinNotional filters
    else pickMinNotional filters

def parseSymbolRules (raw : BinanceSymbolInfo) : Except String SymbolRules :=
  (pickLotSize raw.filters).map fun lot =>
    { symbol := raw.symbol, lot, minNotional := pickMinNotional raw.filters }

/-- What an order of a symbol is sent with: the quantity, adjusted to the rules that are read. -/
def adjustedTo (raw : BinanceSymbolInfo) (quantity : ℚ) : Except String Fixed :=
  parseSymbolRules raw >>= adjustQuantityToLotSize quantity

/-! ### The filters of a symbol -/

/-- A filter admits a quantity, up to a slack at its limits. A step of zero asks for no whole
steps. -/
structure LotFilter.Admits (filter : LotFilter) (slack lots : ℚ) : Prop where
  least : filter.minQty.value - slack ≤ lots
  greatest : lots ≤ filter.maxQty.value + slack
  whole : filter.stepSize.value ≠ 0 → ∃ steps : ℤ, lots = steps * filter.stepSize.value

/-- A filter is no stricter than another one. -/
structure LotFilter.NoStricter (filter other : LotFilter) : Prop where
  least : filter.minQty.value ≤ other.minQty.value
  greatest : other.maxQty.value ≤ filter.maxQty.value
  whole : filter.stepSize.value ≠ 0 →
    ∃ steps : ℤ, other.stepSize.value = steps * filter.stepSize.value

structure BinanceSymbolInfo.HasFilters (raw : BinanceSymbolInfo) (market lot : LotFilter) :
    Prop where
  market : (findFilter raw.filters "MARKET_LOT_SIZE").bind BinanceFilter.quantities = some market
  lot : (findFilter raw.filters "LOT_SIZE").bind BinanceFilter.quantities = some lot

/-- Both filters are respected: they admit whatever is sent, and something is sent wherever they
admit a part of the quantity. -/
def BothRespected (raw : BinanceSymbolInfo) (market lot : LotFilter) (quantity : ℚ) : Prop :=
  (∀ sent, adjustedTo raw quantity = .ok sent →
    market.Admits 0 sent.value ∧ lot.Admits 0 sent.value) ∧
  ((∃ lots ≤ quantity, market.Admits 0 lots ∧ lot.Admits 0 lots) →
    ∃ sent, adjustedTo raw quantity = .ok sent)

/-- The market filter is respected, up to the tolerance of the sizing code, and with it a lot filter
that is no stricter. Something is sent wherever both admit a part of the quantity, as long as the
market filter has a step, of which the quantity holds no more than the greatest lot. -/
structure MarketRespected (raw : BinanceSymbolInfo) (market lot : LotFilter) (quantity : ℚ) :
    Prop where
  admits : ∀ sent, adjustedTo raw quantity = .ok sent → market.Admits lotTolerance sent.value
  admitsToo : lot.NoStricter market → ∀ sent, adjustedTo raw quantity = .ok sent →
    lot.Admits lotTolerance sent.value
  sends : (∃ lots ≤ quantity, market.Admits 0 lots ∧ lot.Admits 0 lots) →
    0 < market.stepSize.value →
    (∀ steps : ℤ,
      steps * market.stepSize.value ≤ quantity + lotTolerance * market.stepSize.value →
        steps * market.stepSize.value ≤ market.maxQty.value + lotTolerance) →
    ∃ sent, adjustedTo raw quantity = .ok sent

variable {raw : BinanceSymbolInfo} {market lot : LotFilter} {quantity : ℚ}

theorem parseSymbolRules_eq_ok (hasFilters : raw.HasFilters market lot) :
    parseSymbolRules raw =
      .ok { symbol := raw.symbol, lot := market, minNotional := pickMinNotional raw.filters } := by
  obtain ⟨isMarket, -⟩ := hasFilters
  unfold parseSymbolRules pickLotSize
  cases found : findFilter raw.filters "MARKET_LOT_SIZE" with
  | none =>
    rw [found] at isMarket
    cases isMarket
  | some src =>
    rw [found] at isMarket
    show (match src.quantities with
      | none => _
      | some src => Except.ok src).map _ = _
    rw [show src.quantities = some market from isMarket]
    rfl

theorem LotFilter.NoStricter.admits {slack lots : ℚ} (noStricter : lot.NoStricter market)
    (admitted : market.Admits slack lots) (someStep : market.stepSize.value ≠ 0) :
    lot.Admits slack lots := by
  refine ⟨?_, ?_, fun isStep => ?_⟩
  · linarith [noStricter.least, admitted.least]
  · linarith [noStricter.greatest, admitted.greatest]
  · obtain ⟨each, isEach⟩ := noStricter.whole isStep
    obtain ⟨steps, rfl⟩ := admitted.whole someStep
    refine ⟨steps * each, ?_⟩
    rw [isEach]
    push_cast
    ring

theorem positive_of_adjusted {rules : SymbolRules} {sent : Fixed}
    (isSent : adjustQuantityToLotSize quantity rules = .ok sent) :
    0 < rules.lot.stepSize.value := by
  by_contra none
  unfold adjustQuantityToLotSize at isSent
  rw [if_pos (not_lt.mp none)] at isSent
  cases isSent

theorem admits_of_adjusted {rules : SymbolRules} {sent : Fixed}
    (isSent : adjustQuantityToLotSize quantity rules = .ok sent) :
    rules.lot.Admits lotTolerance sent.value := by
  have positive := positive_of_adjusted isSent
  have isGreatest := @SymbolRules.isGreatest_holds rules quantity positive
  have isLeast := @SymbolRules.isLeast_leastLots rules positive
  have isLots := SymbolRules.lots_taken isGreatest isLeast
  obtain ⟨within, rfl⟩ := (SymbolRules.adjusted_iff positive isGreatest isLeast).mp isSent
  rw [SymbolRules.toFixed_lots isLots]
  exact ⟨within.1, within.2, fun _ => isLots⟩

/-- A quantity is adjusted wherever it holds whole steps that reach the smallest lot, and none
beyond the greatest. -/
theorem exists_adjusted {rules : SymbolRules} (positive : 0 < rules.lot.stepSize.value) {lots : ℚ}
    (held : rules.Holds quantity lots) (reaches : rules.Reaches lots)
    (limited : ∀ lots, rules.Holds quantity lots → lots ≤ rules.lot.maxQty.value + lotTolerance) :
    ∃ sent, adjustQuantityToLotSize quantity rules = .ok sent := by
  have isGreatest := @SymbolRules.isGreatest_holds rules quantity positive
  have isLeast := @SymbolRules.isLeast_leastLots rules positive
  refine ⟨_, (SymbolRules.adjusted_iff positive isGreatest isLeast).mpr ⟨?_, rfl⟩⟩
  have reached : rules.Reaches _ := reaches.trans (isGreatest.2 held)
  rw [SymbolRules.taken, if_pos reached]
  exact ⟨reached, limited _ isGreatest.1⟩

def smallLots : LotFilter := ⟨⟨1, 3⟩, ⟨9000000, 3⟩, ⟨1, 3⟩⟩

def largeLots : LotFilter := ⟨⟨1, 2⟩, ⟨900000, 2⟩, ⟨1, 2⟩⟩

def largeSymbol : BinanceSymbolInfo where
  symbol := "ETHUSDT"
  filters := [⟨"LOT_SIZE", some smallLots, none⟩, ⟨"MARKET_LOT_SIZE", some largeLots, none⟩,
    ⟨"NOTIONAL", none, some ⟨5, 0⟩⟩]

def smallSymbol : BinanceSymbolInfo where
  symbol := "ETHUSDT"
  filters := [⟨"LOT_SIZE", some largeLots, none⟩, ⟨"MARKET_LOT_SIZE", some smallLots, none⟩,
    ⟨"NOTIONAL", none, some ⟨5, 0⟩⟩]

end GdslExchange.Orders
